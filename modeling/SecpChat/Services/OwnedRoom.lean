import SecpChat.Services.GroupReach
import SecpChat.Services.RoomSwitch

/-!
# Whose room is announced

Ownership and the active room are two fields, changed under different conditions. An
owned room is the active one (`OwnsActive`), and it was created by the latest operation
that closed a channel: every other way to close one gives up ownership
(`owned_of_closes`), and what does not close a channel leaves both fields as they are.
So an advert names the room that the client is active in.
-/

namespace SecpChat

open Runs

namespace GroupRoomCoordinator

/-- The latest operation of the run that gave up a channel is a successful `create_room`, and
it created `room`. -/
def CreatedLast (M : Machine GroupRoomCoordinator GroupOp) (run : List GroupOp) (room : Bytes) :
    Prop :=
  ∃ pre calls sent name post, run = pre ++ .createRoom calls sent name :: post ∧
    ((M.exec pre).createRoom calls sent name).value = true ∧ trimInPlace name = room ∧
    M.AlongFrom (fun g op => g.closesChannel op = false)
      (M.exec (pre ++ [.createRoom calls sent name])) post

variable {g : GroupRoomCoordinator}

/-! ## Where ownership comes from -/

/-- Of the operations that close a channel, only a successful `create_room` leaves a room
owned. -/
theorem owned_of_closes {op : GroupOp} {owned : OwnedRoom} (inv : g.OwnsActive)
    (closes : g.closesChannel op = true) (mine : (g.step op).owned = some owned) :
    ∃ calls sent name, op = .createRoom calls sent name ∧
      (g.createRoom calls sent name).value = true ∧ trimInPlace name = owned.roomName := by
  have change := g.step_change op
  generalize g.step op = g' at change mine
  cases change with
  | keeps registry kept =>
    rw [kept] at closes
    cases closes
  | createFails fails => cases mine
  | creates named succeed created fd =>
    cases mine
    exact ⟨_, _, _, rfl, created, rfl⟩
  | joinFails wanted fails => cases (unowned_of_wanted inv wanted).symm.trans mine
  | joins wanted succeed fd => cases (unowned_of_wanted inv wanted).symm.trans mine
  | leaves => cases (unowned_of_left inv).symm.trans mine

/-- What is owned was given by the latest creation. -/
theorem exec_createdLast (localInterface : InAddr) (username : Bytes) (run : List GroupOp)
    {owned : OwnedRoom}
    (mine : ((groupMachine localInterface username).exec run).owned = some owned) :
    CreatedLast (groupMachine localInterface username) run owned.roomName := by
  induction run using List.reverseRecOn with
  | nil => cases mine
  | append_singleton run op ih =>
    have inv := exec_ownsActive localInterface username run
    rw [Machine.exec_snoc] at mine
    cases closes : ((groupMachine localInterface username).exec run).closesChannel op with
    | true =>
      obtain ⟨calls, sent, name, rfl, created, named⟩ := owned_of_closes inv closes mine
      exact ⟨run, calls, sent, name, [], rfl, created, named, trivial⟩
    | false =>
      obtain ⟨registry, state⟩ := step_of_keeps closes
      have before : ((groupMachine localInterface username).exec run).owned = some owned := by
        have same := congrArg GroupRoomCoordinator.owned state
        exact same.symm.trans mine
      obtain ⟨pre, calls, sent, name, post, rfl, created, named, along⟩ := ih before
      refine ⟨pre, calls, sent, name, post ++ [op], by simp, created, named, ?_⟩
      refine (Machine.alongFrom_append _ _ post [op]).2 ⟨along, ?_, trivial⟩
      rw [← Machine.exec_append, List.append_assoc]
      exact closes

/-! ## The adverts -/

/-- **An advert** names the active room. -/
theorem broadcastOwnedAdvert_cases (inv : g.OwnsActive) (sent : Bool) :
    (g.broadcastOwnedAdvert sent).effects = [] ∨
    ∃ line, (g.broadcastOwnedAdvert sent).effects = [.sendTo broadcastDest line sent] ∧
      parseSecpLine line = some ⟨.RoomAnnounce, g.activeRoomName, g.username, lit "OPEN"⟩ ∧
      g.activeRoomName ≠ [] := by
  unfold broadcastOwnedAdvert
  split
  · exact .inl rfl
  next owned mine =>
  obtain ⟨active, named⟩ := inv owned mine
  simp only
  split
  · exact .inl rfl
  next built =>
  refine .inr ⟨_, rfl, ?_, ?_⟩
  · rw [active]
    exact parse_build built
  · rw [active]
    exact named

/-- Leaving a channel hands no datagram to a socket. -/
theorem leaveMulticastMembershipUnlocked_sends (dropped : Bool) {dest : SockaddrIn}
    {line : Bytes} {ok : Bool} :
    .sendTo dest line ok ∉ (g.leaveMulticastMembershipUnlocked dropped).effects := by
  unfold leaveMulticastMembershipUnlocked
  intro h
  split at h
  · split at h
    · simp at h
    · simp at h
  · simp at h

theorem bindMulticastChannel_effects (calls : ChannelCalls) (group : InAddr) (port : UInt16) :
    (g.bindMulticastChannel calls group port).effects =
      (g.leaveMulticastMembershipUnlocked calls.dropMembership).effects := by
  unfold bindMulticastChannel
  simp only
  repeat' split
  all_goals rfl

/-- Nor does setting one up after that. -/
theorem switch_sends {g' : GroupRoomCoordinator} {dropped : Bool} {calls : ChannelCalls}
    {group : InAddr} {port : UInt16} {dest : SockaddrIn} {line : Bytes} {ok : Bool} :
    .sendTo dest line ok ∉ (g.leaveMulticastMembershipUnlocked dropped).effects ++
      (g'.bindMulticastChannel calls group port).effects := by
  rw [bindMulticastChannel_effects, List.mem_append]
  rintro (left | left)
  · exact leaveMulticastMembershipUnlocked_sends _ left
  · exact leaveMulticastMembershipUnlocked_sends _ left

/-- All that `create_room` sends is the advert of the room it has created. -/
theorem createRoom_sends {calls : ChannelCalls} {sent : Bool} {name : Bytes} {dest : SockaddrIn}
    {line : Bytes} {ok : Bool} (h : .sendTo dest line ok ∈ (g.createRoom calls sent name).effects) :
    .sendTo dest line ok ∈
      ((g.createRoom calls sent name).state.broadcastOwnedAdvert sent).effects := by
  simp only [createRoom, inetPton_group] at h ⊢
  split at h
  · cases h
  next valid =>
  rw [if_neg valid]
  split at h
  · exact (switch_sends h).elim
  · rcases List.mem_append.1 h with switch | advert
    · exact (switch_sends switch).elim
    · simp only [broadcastOwnedAdvert_state]
      exact advert

theorem joinRoom_sends {now : Int} {calls : ChannelCalls} {room : Bytes} {dest : SockaddrIn}
    {line : Bytes} {ok : Bool} : .sendTo dest line ok ∉ (g.joinRoom now calls room).effects := by
  intro h
  simp only [joinRoom, inetPton_group] at h
  split at h
  · cases h
  split at h
  · cases h
  split at h
  · cases h
  split at h
  · cases h
  split at h
  · exact switch_sends h
  · exact switch_sends h

/-- **Every ROOM_ANNOUNCE**, whichever operation sends it, names the room that is active then. -/
theorem announces_active {op : GroupOp} (inv : g.OwnsActive) {dest : SockaddrIn} {line : Bytes}
    {ok : Bool} {msg : SecpMessage} (sends : .sendTo dest line ok ∈ g.effects op)
    (parsed : parseSecpLine line = some msg) (type : msg.type = .RoomAnnounce) :
    msg.room = (g.step op).activeRoomName ∧ msg.room ≠ [] := by
  -- the advert of a state that keeps the invariant
  have advert {g' : GroupRoomCoordinator} {sent : Bool} (inv' : g'.OwnsActive)
      (sends : .sendTo dest line ok ∈ (g'.broadcastOwnedAdvert sent).effects) :
      msg.room = g'.activeRoomName ∧ msg.room ≠ [] := by
    rcases broadcastOwnedAdvert_cases inv' sent with none | ⟨line', one, parsed', named⟩
    · rw [none] at sends
      cases sends
    · rw [one, List.mem_singleton, Effect.sendTo.injEq] at sends
      rw [sends.2.1, parsed'] at parsed
      cases parsed
      exact ⟨rfl, named⟩
  have inv' : (g.step op).OwnsActive := step_ownsActive inv
  cases op with
  | createRoom calls sent name => exact advert inv' (createRoom_sends sends)
  | joinRoom now calls room => exact (joinRoom_sends sends).elim
  | leaveRoom dropped =>
    have left : .sendTo dest line ok ∈ (g.leaveMulticastMembershipUnlocked dropped).effects := by
      simp only [effects, perform, leaveRoom] at sends
      split at sends <;> exact sends
    exact (leaveMulticastMembershipUnlocked_sends dropped left).elim
  | sendGroupChat sent text =>
    rcases g.sendGroupChat_cases sent text with fails | ⟨-, -, -, -, built, chat⟩
    · simp [effects, perform, fails] at sends
    · simp only [effects, perform, chat, List.mem_singleton, Effect.sendTo.injEq] at sends
      rw [sends.2.1, parse_build built] at parsed
      cases parsed
      cases type
  | broadcastOwnedAdvert sent =>
    have same := g.broadcastOwnedAdvert_state sent
    rw [step, perform, same]
    exact advert inv sends
  | listAdvertisedRooms now => cases sends
  | onRoomAnnounce msg advertised pruned =>
    obtain ⟨registry, outcome⟩ := g.onRoomAnnounce_outcome msg advertised pruned
    simp [effects, perform, outcome] at sends
  | onRoomChat chat =>
    rcases g.onRoomChat_effects chat with none | ⟨-, -, one⟩
    · simp [effects, perform, none] at sends
    · simp [effects, perform, one] at sends

theorem leaveRoom_empties (inv : g.OwnsActive) (dropped : Bool) :
    (g.leaveRoom dropped).state.owned = none ∧
      (g.leaveRoom dropped).state.activeRoomName = [] := by
  rw [leaveRoom_state]
  exact ⟨unowned_of_left inv, rfl⟩

end GroupRoomCoordinator

open GroupRoomCoordinator in
/-- **Only the own, active room is announced.** -/
theorem only_active_room_announced (localInterface : InAddr) (username : Bytes)
    (run : List GroupOp) :
    let M := groupMachine localInterface username
    let g := M.exec run
    (∀ owned, g.owned = some owned →
      owned.roomName = g.activeRoomName ∧ CreatedLast M run owned.roomName) ∧
    (∀ sent, (g.broadcastOwnedAdvert sent).effects = [] ∨
      ∃ line, (g.broadcastOwnedAdvert sent).effects = [.sendTo broadcastDest line sent] ∧
        parseSecpLine line = some ⟨.RoomAnnounce, g.activeRoomName, username, lit "OPEN"⟩ ∧
        g.activeRoomName ≠ []) ∧
    (∀ op dest line ok msg, .sendTo dest line ok ∈ g.effects op →
      parseSecpLine line = some msg → msg.type = .RoomAnnounce →
      msg.room = (g.step op).activeRoomName ∧ msg.room ≠ []) ∧
    ∀ dropped, (g.leaveRoom dropped).state.owned = none ∧
      (g.leaveRoom dropped).state.activeRoomName = [] := by
  intro M g
  have inv : g.OwnsActive := exec_ownsActive localInterface username run
  have self : g.username = username := run_username run
  refine ⟨fun owned mine => ?_, fun sent => ?_, fun op dest line ok msg sends parsed type => ?_,
    leaveRoom_empties inv⟩
  · exact ⟨(inv owned mine).1.symm, exec_createdLast localInterface username run mine⟩
  · rw [← self]
    exact broadcastOwnedAdvert_cases inv sent
  · exact announces_active inv sends parsed type

end SecpChat
