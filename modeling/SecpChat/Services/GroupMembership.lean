import SecpChat.Services.GroupRoom

/-!
# Group membership

`Consistent` says that the active room, the multicast socket and the joined membership
stand or fall together. A channel is set up all or nothing (`bind_succeeds`,
`bind_fails`), after the old one is gone; `create_room` has forgotten the active room by
then, `join_room` has not. `Change` lists what an operation can do, so invariants are
proved over its cases. One of them breaks `Consistent` and only that one
(`step_consistent`, `failedSwitch_inconsistent`): switching rooms when a socket call
fails.
-/

namespace SecpChat

open Runs

theorem inetPton_group : inetPton kOpenRoomMulticastGroup = some ⟨239, 0, 0, 1⟩ := by
  decide +kernel

namespace GroupRoomCoordinator

/-- The client is really a member of `room`. -/
structure MemberOf (g : GroupRoomCoordinator) (room : Bytes) : Prop where
  active : g.activeRoomName = room
  socket : g.mcastSock ≠ none
  joined : g.joinedMembership = true

/-- **The invariant.** -/
structure Consistent (g : GroupRoomCoordinator) : Prop where
  active : g.activeRoomName ≠ [] ↔ g.mcastSock ≠ none
  joined : g.mcastSock ≠ none ↔ g.joinedMembership = true

/-- `join_room` leaves one room for another, which is advertised, and a socket call of the
new channel fails. -/
def FailedSwitch (g : GroupRoomCoordinator) : GroupOp → Prop
  | .joinRoom now calls room => g.activeRoomName ≠ [] ∧ room ≠ [] ∧ g.activeRoomName ≠ room ∧
      room.length ≤ kMaxRoomNameBytes ∧
      (g.pruneRegistryUnlocked now).registry.contains room = true ∧ ¬ calls.Succeed
  | _ => False

variable (g : GroupRoomCoordinator)

/-! ## Setting up a channel -/

theorem bind_succeeds {calls : ChannelCalls} (h : calls.Succeed) (group : InAddr) (port : UInt16) :
    (g.bindMulticastChannel calls group port).value = none ∧
      ∃ fd, (g.bindMulticastChannel calls group port).state =
        { g with
          mcastSock := some ⟨fd⟩
          joinedGroup := group
          joinedPort := port
          joinedMembership := true } := by
  obtain ⟨opened, reuse, bind, multicastIf, addMembership, ttl, loop⟩ := h
  obtain ⟨fd, opened⟩ := Option.isSome_iff_exists.1 opened
  simp [bindMulticastChannel, leaveMulticastMembershipUnlocked, opened, reuse, bind, multicastIf,
    addMembership, ttl, loop]

theorem bind_fails {calls : ChannelCalls} (h : ¬ calls.Succeed) (group : InAddr) (port : UInt16) :
    (∃ err, (g.bindMulticastChannel calls group port).value = some err) ∧
      (g.bindMulticastChannel calls group port).state =
        { g with joinedMembership := false, joinedPort := 0, mcastSock := none } := by
  unfold bindMulticastChannel
  simp only
  split
  · exact ⟨⟨_, rfl⟩, rfl⟩
  next fd opened =>
  split
  · exact ⟨⟨_, rfl⟩, rfl⟩
  next reuse =>
  split
  · exact ⟨⟨_, rfl⟩, rfl⟩
  next bind =>
  split
  · exact ⟨⟨_, rfl⟩, rfl⟩
  next multicastIf =>
  split
  · exact ⟨⟨_, rfl⟩, rfl⟩
  next addMembership =>
  split
  · exact ⟨⟨_, rfl⟩, rfl⟩
  next ttl =>
  split
  · exact ⟨⟨_, rfl⟩, rfl⟩
  next loop =>
  exact (h ⟨by simp [opened], by simpa using reuse, by simpa using bind, by simpa using multicastIf,
    by simpa using addMembership, by simpa using ttl, by simpa using loop⟩).elim

/-! ## What each operation does to the membership -/

theorem broadcastOwnedAdvert_state (sent : Bool) : (g.broadcastOwnedAdvert sent).state = g := by
  unfold broadcastOwnedAdvert
  split
  · rfl
  · simp only
    split <;> rfl

/-- The coordinator without its channel. -/
def channelless (g : GroupRoomCoordinator) : GroupRoomCoordinator :=
  { g with joinedMembership := false, joinedPort := 0, mcastSock := none }

/-- The coordinator with the channel `fd` to the group of the open rooms. -/
def channelled (g : GroupRoomCoordinator) (fd : Int) : GroupRoomCoordinator :=
  { g with
    mcastSock := some ⟨fd⟩
    joinedGroup := ⟨239, 0, 0, 1⟩
    joinedPort := kUdpPort
    joinedMembership := true }

/-- **`create_room`** refuses the name, has given up its room and failed, or is in the new one. -/
theorem createRoom_cases (calls : ChannelCalls) (sent : Bool) (roomDisplayName : Bytes) :
    let o := g.createRoom calls sent roomDisplayName
    let name := trimInPlace roomDisplayName
    let refused := name = [] ∨ name.length > kMaxRoomNameBytes
    (refused ∧ o.value = false ∧ o.state = g) ∨
    (¬ refused ∧ ¬ calls.Succeed ∧ o.value = false ∧
      o.state = { g with activeRoomName := [], owned := none }.channelless) ∨
    (¬ refused ∧ calls.Succeed ∧ o.value = true ∧
      ∃ fd, o.state = { g with activeRoomName := name, owned := some ⟨name⟩ }.channelled fd) := by
  intro o name refused
  have defn : o = g.createRoom calls sent roomDisplayName := rfl
  simp only [createRoom, inetPton_group] at defn
  split at defn
  · next invalid =>
    rw [defn]
    exact .inl ⟨invalid, rfl, rfl⟩
  next valid =>
  let given := { (g.leaveMulticastMembershipUnlocked calls.dropMembership).state with
    activeRoomName := [], owned := none }
  by_cases succeed : calls.Succeed
  · obtain ⟨value, fd, state⟩ := given.bind_succeeds succeed ⟨239, 0, 0, 1⟩ kUdpPort
    rw [value] at defn
    simp only [given] at state
    simp only [state] at defn
    have created := congrArg Outcome.state defn
    simp only [broadcastOwnedAdvert_state] at created
    exact .inr (.inr ⟨valid, succeed, by rw [defn], fd, created⟩)
  · obtain ⟨⟨err, value⟩, state⟩ := given.bind_fails succeed ⟨239, 0, 0, 1⟩ kUdpPort
    rw [value] at defn
    rw [defn]
    exact .inr (.inl ⟨valid, succeed, rfl, state⟩)

theorem disownOther_eq (room : Bytes) :
    g.disownOther room = { g with owned := g.owned.filter fun owned => owned.roomName = room } := by
  unfold disownOther
  split
  · next owned mine =>
    split
    · next other =>
      have filtered : (g.owned.filter fun owned => owned.roomName = room) = none := by
        simp [mine, Option.filter, other]
      rw [filtered]
    · next same =>
      have filtered : (g.owned.filter fun owned => owned.roomName = room) = g.owned := by
        simp [mine, Option.filter, not_not.1 same]
      rw [filtered]
  · next unowned =>
    have filtered : (g.owned.filter fun owned => owned.roomName = room) = g.owned := by
      simp [unowned]
    rw [filtered]

/-- The names that `join_room` goes on to set up a channel for. -/
def Wanted (g : GroupRoomCoordinator) (now : Int) (room : Bytes) : Prop :=
  room ≠ [] ∧ room.length ≤ kMaxRoomNameBytes ∧ g.activeRoomName ≠ room ∧
    (g.pruneRegistryUnlocked now).registry.contains room = true

instance (g : GroupRoomCoordinator) (now : Int) (room : Bytes) : Decidable (g.Wanted now room) :=
  inferInstanceAs (Decidable (_ ∧ _))

/-- The operation reaches `leave_multicast_membership_unlocked`, which closes the second
socket. -/
def closesChannel (g : GroupRoomCoordinator) : GroupOp → Bool
  | .createRoom _ _ name =>
    let name := trimInPlace name
    !decide (name = [] ∨ name.length > kMaxRoomNameBytes)
  | .joinRoom now _ room => decide (g.Wanted now room)
  | .leaveRoom _ => true
  | _ => false

/-- **`join_room`** refuses, fails with the active room as it was, or is in the new one. -/
theorem joinRoom_cases (now : Int) (calls : ChannelCalls) (room : Bytes) :
    let o := g.joinRoom now calls room
    let left := (g.pruneRegistryUnlocked now).disownOther room
    (¬ g.Wanted now room ∧ o.value = false ∧
      o.state = if room = [] ∨ room.length > kMaxRoomNameBytes then g
        else g.pruneRegistryUnlocked now) ∨
    (g.Wanted now room ∧ ¬ calls.Succeed ∧ o.value = false ∧ o.state = left.channelless) ∨
    (g.Wanted now room ∧ calls.Succeed ∧ o.value = true ∧
      ∃ fd, o.state = { left with activeRoomName := room }.channelled fd) := by
  intro o left
  have defn : o = g.joinRoom now calls room := rfl
  simp only [joinRoom, inetPton_group] at defn
  split at defn
  · next empty =>
    rw [defn]
    exact .inl ⟨fun h => h.1 empty, rfl, by simp [empty]⟩
  next nonempty =>
  split at defn
  · next long =>
    rw [defn]
    exact .inl ⟨fun h => absurd h.2.1 (not_le.2 long), rfl, by simp [long]⟩
  next short =>
  have valid : ¬ (room = [] ∨ room.length > kMaxRoomNameBytes) := not_or.2 ⟨nonempty, short⟩
  rw [if_neg valid]
  split at defn
  · next already =>
    rw [defn]
    exact .inl ⟨fun h => h.2.2.1 already, rfl, rfl⟩
  next elsewhere =>
  split at defn
  · next unknown =>
    rw [defn]
    exact .inl ⟨fun h => by simp [h.2.2.2] at unknown, rfl, rfl⟩
  next known =>
  have wanted : g.Wanted now room :=
    ⟨nonempty, not_lt.1 short, elsewhere, by simpa using known⟩
  let gone := (left.leaveMulticastMembershipUnlocked calls.dropMembership).state
  by_cases succeed : calls.Succeed
  · obtain ⟨value, fd, state⟩ := gone.bind_succeeds succeed ⟨239, 0, 0, 1⟩ kUdpPort
    rw [value] at defn
    simp only [gone, left] at state
    simp only [state] at defn
    rw [defn]
    exact .inr (.inr ⟨wanted, succeed, rfl, fd, rfl⟩)
  · obtain ⟨⟨err, value⟩, state⟩ := gone.bind_fails succeed ⟨239, 0, 0, 1⟩ kUdpPort
    rw [value] at defn
    rw [defn]
    exact .inr (.inl ⟨wanted, succeed, rfl, state⟩)

/-- **`leave_room`** gives up the active room, its ownership and its channel. -/
theorem leaveRoom_state (dropped : Bool) :
    (g.leaveRoom dropped).state = { g with
      activeRoomName := []
      owned := g.owned.filter fun owned => owned.roomName ≠ g.activeRoomName }.channelless := by
  simp only [leaveRoom, leaveMulticastMembershipUnlocked]
  split
  · next owned mine =>
    split
    · next active => simp [mine, Option.filter, active, channelless]
    · next other => simp [mine, Option.filter, other, channelless]
  · next none => simp [none, channelless]

/-- The active room, the socket and the membership of two states agree. -/
structure SameMembership (g g' : GroupRoomCoordinator) : Prop where
  active : g'.activeRoomName = g.activeRoomName
  socket : g'.mcastSock = g.mcastSock
  joined : g'.joinedMembership = g.joinedMembership

/-- An advert only touches the registry. -/
theorem onRoomAnnounce_outcome (msg : SecpMessage) (advertised pruned : Int) :
    ∃ registry,
      g.onRoomAnnounce msg advertised pruned = ⟨{ g with registry := registry }, (), []⟩ := by
  unfold onRoomAnnounce
  repeat' split
  all_goals exact ⟨_, rfl⟩

theorem onRoomChat_state (msg : SecpMessage) : (g.onRoomChat msg).state = g := by
  unfold onRoomChat
  repeat' split
  all_goals rfl

/-- **`send_group_chat`** fails, or hands a line of the active room to the socket. -/
theorem sendGroupChat_cases (sent : Bool) (text : Bytes) :
    let t := trimInPlace text
    let line := buildSecpLine .Chat g.activeRoomName g.username t
    g.sendGroupChat sent text = ⟨g, false, []⟩ ∨
    (t ≠ [] ∧ t.length ≤ kMaxChatMessageBytes ∧ g.activeRoomName ≠ [] ∧ g.mcastSock ≠ none ∧
      line ≠ [] ∧ g.sendGroupChat sent text =
        ⟨g, sent, [.sendTo ⟨AF_INET, g.joinedPort, g.joinedGroup⟩ line sent]⟩) := by
  intro t line
  unfold sendGroupChat
  simp only
  split
  · exact .inl rfl
  next fits =>
  split
  · exact .inl rfl
  next member =>
  split
  · exact .inl rfl
  next built =>
  obtain ⟨nonempty, short⟩ := not_or.1 fits
  obtain ⟨active, socket⟩ := not_or.1 member
  exact .inr ⟨nonempty, not_lt.1 short, active, socket, built, rfl⟩

theorem sendGroupChat_state (sent : Bool) (text : Bytes) :
    (g.sendGroupChat sent text).state = g := by
  rcases g.sendGroupChat_cases sent text with fails | ⟨-, -, -, -, -, sends⟩
  · rw [fails]
  · rw [sends]

/-- **Every other operation** leaves all but the registry as it is. -/
theorem step_of_keeps {g : GroupRoomCoordinator} {op : GroupOp}
    (keeps : g.closesChannel op = false) :
    ∃ registry, g.step op = { g with registry := registry } := by
  cases op with
  | createRoom calls sent name =>
    have refused : trimInPlace name = [] ∨ (trimInPlace name).length > kMaxRoomNameBytes := by
      by_contra valid
      simp only [closesChannel, decide_eq_false valid] at keeps
      cases keeps
    rcases g.createRoom_cases calls sent name with ⟨-, -, state⟩ | ⟨valid, -⟩ | ⟨valid, -⟩
    · exact ⟨g.registry, state⟩
    · exact (valid refused).elim
    · exact (valid refused).elim
  | joinRoom now calls room =>
    have unwanted : ¬ g.Wanted now room := by simpa [closesChannel] using keeps
    rcases g.joinRoom_cases now calls room with ⟨-, -, state⟩ | ⟨wanted, -⟩ | ⟨wanted, -⟩
    · rw [step, perform, state]
      split <;> exact ⟨_, rfl⟩
    · exact (unwanted wanted).elim
    · exact (unwanted wanted).elim
  | leaveRoom dropped => cases keeps
  | sendGroupChat sent text => exact ⟨g.registry, g.sendGroupChat_state sent text⟩
  | broadcastOwnedAdvert sent => exact ⟨g.registry, g.broadcastOwnedAdvert_state sent⟩
  | listAdvertisedRooms now => exact ⟨_, rfl⟩
  | onRoomAnnounce msg advertised pruned =>
    obtain ⟨registry, outcome⟩ := g.onRoomAnnounce_outcome msg advertised pruned
    exact ⟨registry, congrArg Outcome.state outcome⟩
  | onRoomChat msg => exact ⟨g.registry, g.onRoomChat_state msg⟩

/-- What one operation does to the coordinator. -/
inductive Change (g : GroupRoomCoordinator) : GroupOp → GroupRoomCoordinator → Prop where
  /-- No channel is closed, and the room stays. -/
  | keeps {op : GroupOp} (registry : Table AdvertisedGroupRoom)
      (kept : g.closesChannel op = false) : Change g op { g with registry := registry }
  | createFails {calls : ChannelCalls} {sent : Bool} {name : Bytes} (fails : ¬ calls.Succeed) :
      Change g (.createRoom calls sent name)
        { g with activeRoomName := [], owned := none }.channelless
  | creates {calls : ChannelCalls} {sent : Bool} {name : Bytes} (named : trimInPlace name ≠ [])
      (succeed : calls.Succeed) (created : (g.createRoom calls sent name).value = true) (fd : Int) :
      Change g (.createRoom calls sent name)
        ({ g with
            activeRoomName := trimInPlace name
            owned := some ⟨trimInPlace name⟩ }.channelled fd)
  | joinFails {now : Int} {calls : ChannelCalls} {room : Bytes} (wanted : g.Wanted now room)
      (fails : ¬ calls.Succeed) :
      Change g (.joinRoom now calls room)
        ((g.pruneRegistryUnlocked now).disownOther room).channelless
  | joins {now : Int} {calls : ChannelCalls} {room : Bytes} (wanted : g.Wanted now room)
      (succeed : calls.Succeed) (fd : Int) :
      Change g (.joinRoom now calls room)
        ({ (g.pruneRegistryUnlocked now).disownOther room with
            activeRoomName := room }.channelled fd)
  | leaves {dropped : Bool} :
      Change g (.leaveRoom dropped)
        { g with
          activeRoomName := []
          owned := g.owned.filter fun owned => owned.roomName ≠ g.activeRoomName }.channelless

/-- **Every operation is one of these.** -/
theorem step_change (op : GroupOp) : g.Change op (g.step op) := by
  cases closes : g.closesChannel op with
  | false =>
    obtain ⟨registry, state⟩ := step_of_keeps closes
    rw [state]
    exact .keeps registry closes
  | true =>
    cases op with
    | createRoom calls sent name =>
      rcases g.createRoom_cases calls sent name with ⟨refused, -⟩ | ⟨-, fails, -, state⟩ |
        ⟨valid, succeed, created, fd, state⟩
      · simp only [closesChannel, decide_eq_true refused] at closes
        cases closes
      · rw [step, perform, state]
        exact .createFails fails
      · rw [step, perform, state]
        exact .creates (not_or.1 valid).1 succeed created fd
    | joinRoom now calls room =>
      have wanted : g.Wanted now room := of_decide_eq_true closes
      rcases g.joinRoom_cases now calls room with ⟨unwanted, -⟩ | ⟨-, fails, -, state⟩ |
        ⟨-, succeed, -, fd, state⟩
      · exact (unwanted wanted).elim
      · rw [step, perform, state]
        exact .joinFails wanted fails
      · rw [step, perform, state]
        exact .joins wanted succeed fd
    | leaveRoom dropped =>
      rw [step, perform, leaveRoom_state]
      exact .leaves
    | _ => cases closes

/-! ## The invariant -/

theorem MemberOf.consistent {g : GroupRoomCoordinator} {room : Bytes} (h : g.MemberOf room)
    (named : room ≠ []) : g.Consistent := by
  obtain ⟨active, socket, joined⟩ := h
  exact ⟨by simp [active, named, socket], by simp [socket, joined]⟩

theorem consistent_of_none {g : GroupRoomCoordinator} (active : g.activeRoomName = [])
    (socket : g.mcastSock = none) (joined : g.joinedMembership = false) : g.Consistent :=
  ⟨by simp [active, socket], by simp [socket, joined]⟩

theorem Consistent.memberOf {g : GroupRoomCoordinator} (h : g.Consistent)
    (active : g.activeRoomName ≠ []) : g.MemberOf g.activeRoomName :=
  ⟨rfl, h.active.1 active, h.joined.1 (h.active.1 active)⟩

variable {g}

/-- **Every other step keeps the invariant.** -/
theorem step_consistent {op : GroupOp} (h : g.Consistent) (ok : ¬ g.FailedSwitch op) :
    (g.step op).Consistent := by
  have change := g.step_change op
  generalize g.step op = g' at change ⊢
  cases change with
  | keeps registry kept => exact ⟨h.active, h.joined⟩
  | createFails fails => exact consistent_of_none rfl rfl rfl
  | creates named succeed created fd => exact MemberOf.consistent ⟨rfl, nofun, rfl⟩ named
  | joinFails wanted fails =>
    obtain ⟨named, short, elsewhere, known⟩ := wanted
    have inactive : g.activeRoomName = [] := by
      by_contra active
      exact ok ⟨active, named, elsewhere, short, known, fails⟩
    rw [disownOther_eq]
    exact consistent_of_none inactive rfl rfl
  | joins wanted succeed fd => exact MemberOf.consistent ⟨rfl, nofun, rfl⟩ wanted.1
  | leaves => exact consistent_of_none rfl rfl rfl

/-- How a room comes to be active: it was, or it was created or joined. -/
theorem step_active (op : GroupOp) :
    (g.step op).activeRoomName = g.activeRoomName ∨ (g.step op).activeRoomName = [] ∨
    (∃ calls sent name, op = .createRoom calls sent name ∧ calls.Succeed ∧
      (g.step op).activeRoomName = trimInPlace name) ∨
    ∃ now calls room, op = .joinRoom now calls room ∧ calls.Succeed ∧
      (g.pruneRegistryUnlocked now).registry.contains room = true ∧
      (g.step op).activeRoomName = room := by
  have change := g.step_change op
  generalize g.step op = g' at change ⊢
  cases change with
  | keeps registry kept => exact .inl rfl
  | createFails fails => exact .inr (.inl rfl)
  | creates named succeed created fd =>
    exact .inr (.inr (.inl ⟨_, _, _, rfl, succeed, rfl⟩))
  | joinFails wanted fails =>
    rw [disownOther_eq]
    exact .inl rfl
  | joins wanted succeed fd =>
    exact .inr (.inr (.inr ⟨_, _, _, rfl, succeed, wanted.2.2.2, rfl⟩))
  | leaves => exact .inr (.inl rfl)

/-- A failed switch leaves the old room active without a socket. -/
theorem failedSwitch_inconsistent {op : GroupOp} (h : g.FailedSwitch op) :
    ¬ (g.step op).Consistent := by
  intro c
  cases op with
  | joinRoom now calls room =>
    obtain ⟨wasActive, named, elsewhere, short, known, fails⟩ := h
    rcases g.joinRoom_cases now calls room with ⟨unwanted, -⟩ | ⟨-, -, -, state⟩ | ⟨-, succeed, -⟩
    · exact unwanted ⟨named, short, elsewhere, known⟩
    · rw [step, perform, state, disownOther_eq] at c
      exact c.active.1 wasActive rfl
    · exact fails succeed
  | _ => exact h

/-- A CHAT is delivered in the active room, or ignored. -/
theorem onRoomChat_effects (msg : SecpMessage) :
    (g.onRoomChat msg).effects = [] ∨ (g.activeRoomName ≠ [] ∧ msg.room = g.activeRoomName ∧
      (g.onRoomChat msg).effects = [.groupMessage g.activeRoomName msg.username msg.payload]) := by
  unfold onRoomChat
  split
  · exact .inl rfl
  split
  · exact .inl rfl
  next active =>
  split
  · exact .inl rfl
  next room =>
  split
  · exact .inl rfl
  split
  · exact .inl rfl
  exact .inr ⟨active, not_not.1 room, rfl⟩

/-- A group message is only delivered for the active room. -/
theorem groupMessage_active {msg : SecpMessage} {room sender text : Bytes}
    (h : .groupMessage room sender text ∈ (g.onRoomChat msg).effects) :
    g.activeRoomName = room ∧ g.activeRoomName ≠ [] := by
  rcases g.onRoomChat_effects msg with none | ⟨active, -, one⟩
  · simp [none] at h
  · rw [one, List.mem_singleton, Effect.groupMessage.injEq] at h
    exact ⟨h.1.symm, active⟩

end GroupRoomCoordinator

open GroupRoomCoordinator in
/-- **Group membership is consistent in a run exactly when no switch of rooms failed in it.** -/
theorem membership_consistent_iff (localInterface : InAddr) (username : Bytes)
    (run : List GroupOp) :
    (∀ front, front <+: run →
      let g := (groupMachine localInterface username).exec front
      (g.activeRoomName ≠ [] ↔ g.mcastSock ≠ none) ∧
      (g.mcastSock ≠ none ↔ g.joinedMembership = true) ∧
      (g.hasActiveMembership = true ↔ g.activeRoomId ≠ none) ∧
      (∀ msg room sender text, .groupMessage room sender text ∈ (g.onRoomChat msg).effects →
        g.MemberOf room) ∧
      ∀ now room, room ≠ [] → (g.pruneRegistryUnlocked now).registry.contains room = true →
        g.activeRoomName = room → g.MemberOf room) ↔
    (groupMachine localInterface username).Along (fun g op => ¬ g.FailedSwitch op) run := by
  constructor
  · intro consistent
    apply (Machine.along_iff _ run).2
    rintro pre op post rfl failed
    have after := consistent (pre ++ [op]) ⟨post, by simp⟩
    rw [Machine.exec_snoc] at after
    exact failedSwitch_inconsistent failed ⟨after.1, after.2.1⟩
  · intro along front hfront
    obtain ⟨rest, rfl⟩ := hfront
    have c : ((groupMachine localInterface username).exec front).Consistent := by
      refine (groupMachine localInterface username).invariant_along (I := Consistent)
        (P := fun g op => ¬ g.FailedSwitch op) ?_ (fun g op ok h => step_consistent h ok) front
        (Machine.Along.front _ along)
      exact consistent_of_none rfl rfl rfl
    intro g
    change g.Consistent at c
    refine ⟨c.active, c.joined, ?_, ?_, ?_⟩
    · rw [hasActiveMembership, activeRoomId]
      by_cases active : g.activeRoomName = []
      · simp [active]
      · have socket := c.active.1 active
        simp [active, Option.isSome_iff_ne_none, socket]
    · intro msg room sender text delivered
      obtain ⟨rfl, active⟩ := groupMessage_active delivered
      exact c.memberOf active
    · intro now room named _ active
      subst active
      exact c.memberOf named

/-- A member of room r1 tries to join the advertised r2, and the bind fails: r1 stays the
active room, without a socket. -/
theorem failed_switch_keeps_active_room :
    let calls : ChannelCalls := ⟨true, some 4, true, true, true, true, true, true⟩
    let announce (name : Bytes) := GroupOp.onRoomAnnounce
      ⟨.RoomAnnounce, name, lit "alice", lit "OPEN"⟩ (seconds 1) (seconds 1)
    let g := (groupMachine ⟨10, 0, 0, 2⟩ (lit "bob")).exec
      [announce (lit "r1"), announce (lit "r2"), .joinRoom (seconds 2) calls (lit "r1"),
      .joinRoom (seconds 3) { calls with bind := false } (lit "r2")]
    g.activeRoomName = lit "r1" ∧ g.mcastSock = none ∧ g.joinedMembership = false ∧
      g.hasActiveMembership = false ∧ g.activeRoomId = some (lit "r1") ∧
      (g.joinRoom (seconds 4) calls (lit "r1")).value = false := by
  decide +kernel

end SecpChat
