import SecpChat.App.Fidelity

/-!
# Selecting what is listed

The lists print identifiers as they came from the network, every lookup trims what is
typed. Under an identifier with a blank at an edge the lookup goes elsewhere
(`answers_iff` and its siblings), and every identifier on a list was drawn by
`make_session_id` or received, so it is one that SECP carries (`Listable`).
-/

namespace SecpChat

open Runs Expiry DirectMessageService

/-! ## What selecting means -/

/-- `accept_invite` makes the listed session active, `decline_invite` removes it. -/
structure DirectMessageService.Answers (d : DirectMessageService) (e : PendingInviteInfo)
    (now : Int)
    (reason : Bytes) : Prop where
  accepted : (d.acceptInvite now e.sessionId).value = true
  activated : ((d.acceptInvite now e.sessionId).state.sessions[e.sessionId]?).map Session.state =
    some .Active
  declined : (d.declineInvite e.sessionId reason).value = true
  removed : (d.declineInvite e.sessionId reason).state.sessions[e.sessionId]? = none

/-- Every valid text is sent to the listed peer as a CHAT of the listed session. -/
def DirectMessageService.Sends (d : DirectMessageService) (e : ActiveDirectSessionInfo) : Prop :=
  ∀ text, trimInPlace text ≠ [] → isPayloadOk (trimInPlace text) = true →
    (d.sendPrivateChat true e.sessionId text).value = true ∧ ∃ dest line,
      (d.sendPrivateChat true e.sessionId text).effects = [.sendTo dest line true] ∧
      inetNtop dest.sinAddr = e.peerIp ∧
      parseSecpLine line = some ⟨.Chat, e.sessionId, d.selfUsername, trimInPlace text⟩

/-- `invite_user` opens a session with the listed user at the user's address. -/
def Client.Invites (c : Client) (e : PeerListEntry) (draw : Fin 0x1000000) (now : Int)
    (sent : Bool) : Prop :=
  ∃ s addr, c.users.findAddress e.username = some addr ∧
    (c.direct.inviteUser c.users draw now sent e.username).state.sessions[makeSessionId draw]? =
      some s ∧
    s.peerUsername = e.username ∧ s.peerAddr = makeUnicastDest addr kUdpPort

/-- Menu choice 5 makes the client a member of the listed room. -/
def Client.Joins (c : Client) (e : AdvertisedGroupRoom) (now : Int) (calls : ChannelCalls) : Prop :=
  let after := (c.promptJoinGroup now calls [e.roomName]).client.groups
  after.activeRoomId = some e.roomName ∧ after.hasActiveMembership = true

/-! ## Only what is its own trim is found -/

section Sessions

variable {d : DirectMessageService} {k : Bytes} {s : Session}

theorem answers_iff {e : PendingInviteInfo} (listed : e ∈ d.snapshotPendingInvites)
    (valid : isRoomOk e.sessionId = true) (now : Int) (reason : Bytes) :
    d.Answers e now reason ↔ trimInPlace e.sessionId = e.sessionId := by
  obtain ⟨s, found, incoming, -⟩ := mem_snapshotPendingInvites.1 listed
  constructor
  · rintro ⟨-, activated, -, -⟩
    obtain ⟨s', after, active⟩ := Option.map_eq_some_iff.1 activated
    have m := d.acceptInvite_move now e.sessionId e.sessionId
    rw [found, after] at m
    cases m with
    | keep => simp [incoming] at active
    | accept key pending => exact key
  · intro own
    have nonempty := ne_nil_of_isRoomOk valid
    have fits : ¬ e.sessionId.length > kMaxRoomNameBytes := not_lt.2 (isRoomOk_iff.1 valid).2.2
    constructor <;>
      simp [acceptInvite, declineInvite, own, nonempty, fits, found, incoming]

theorem sends_iff {e : ActiveDirectSessionInfo} (listed : e ∈ d.snapshotActiveSessions)
    (valid : isRoomOk e.sessionId = true) (own : trimInPlace e.sessionId = e.sessionId) :
    d.Sends e ↔ isUsernameOk d.selfUsername = true := by
  obtain ⟨s, found, active, same⟩ := mem_snapshotActiveSessions.1 listed
  constructor
  · intro sends
    obtain ⟨-, dest, line, -, -, parsed⟩ :=
      sends (lit "hei") (by decide +kernel) (by decide +kernel)
    exact (fieldsOk_of_parse parsed).username
  · intro username text nonempty payload
    have built : buildSecpLine .Chat e.sessionId d.selfUsername (trimInPlace text) ≠ [] :=
      buildSecpLine_ne_nil_iff.2 ⟨nofun, valid, username, payload⟩
    have short : ¬ (trimInPlace text).length > kMaxChatMessageBytes :=
      not_lt.2 (isPayloadOk_iff.1 payload).2
    have fits : ¬ e.sessionId.length > 32 := not_lt.2 (isRoomOk_iff.1 valid).2.2
    have sent : d.sendPrivateChat true e.sessionId text = ⟨d, true, [.sendTo s.peerAddr
        (buildSecpLine .Chat e.sessionId d.selfUsername (trimInPlace text)) true]⟩ := by
      simp [sendPrivateChat, own, fits, ne_nil_of_isRoomOk valid, nonempty, short, found, active,
        built]
    rw [sent]
    exact ⟨rfl, _, _, rfl, by rw [same], parse_build built⟩

end Sessions

theorem invites_iff {c : Client} {e : PeerListEntry} {addr : SockaddrIn}
    (known : c.users.findAddress e.username = some addr) (valid : isUsernameOk e.username = true)
    (other : e.username ≠ c.direct.selfUsername) {draw : Fin 0x1000000}
    (free : c.direct.sessions[makeSessionId draw]? = none) (now : Int) (sent : Bool) :
    c.Invites e draw now sent ↔ trimInPlace e.username = e.username := by
  constructor
  · rintro ⟨s, -, -, opened, peer, -⟩
    have m := c.direct.inviteUser_move c.users draw now sent e.username (makeSessionId draw)
    rw [free, opened] at m
    cases m with
    | invite => exact peer
  · intro own
    have admits : c.direct.Admits c.users draw e.username addr := by
      constructor
      · rw [own]
        exact ne_nil_of_isUsernameOk valid
      · rw [own]
        exact (isUsernameOk_iff.1 valid).2.2
      · rw [own]
        exact other
      · rw [own]
        exact known
      · exact free
    refine ⟨invited draw now e.username addr, addr, known, ?_, own, rfl⟩
    rw [(c.direct.inviteUser_admitted c.users draw now sent e.username admits).1,
      Std.ExtTreeMap.getElem?_insert_self]

theorem activeRoomId_eq_some {g : GroupRoomCoordinator} {room : Bytes} :
    g.activeRoomId = some room ↔ room ≠ [] ∧ g.activeRoomName = room := by
  unfold GroupRoomCoordinator.activeRoomId
  split
  · next idle => simp [idle, eq_comm]
  · next active =>
    rw [Option.some.injEq]
    exact ⟨fun same => ⟨same ▸ active, same⟩, And.right⟩

theorem promptJoinGroup_groups {c : Client} {now : Int} {calls : ChannelCalls} {line : Bytes}
    (named : trimInPlace line ≠ []) (fits : ¬ (trimInPlace line).length > kMaxRoomNameBytes) :
    (c.promptJoinGroup now calls [line]).client.groups =
      (c.groups.joinRoom now calls (trimInPlace line)).state := by
  show (c.reply (c.onJoinGroup now calls (trimInPlace line)) []).client.groups = _
  rw [Client.onJoinGroup, if_neg named, if_neg fits]
  rfl

theorem joins_iff {c : Client} {e : AdvertisedGroupRoom} (valid : isRoomOk e.roomName = true)
    (elsewhere : e.roomName ≠ c.groups.activeRoomName) {now : Int}
    (fresh : (c.groups.pruneRegistryUnlocked now).registry[e.roomName]? = some e)
    {calls : ChannelCalls} (succeed : calls.Succeed) :
    c.Joins e now calls ↔ trimInPlace e.roomName = e.roomName := by
  have named := ne_nil_of_isRoomOk valid
  have cases_ := c.groups.joinRoom_cases now calls (trimInPlace e.roomName)
  constructor
  · rintro ⟨active, -⟩
    have now_active : (c.promptJoinGroup now calls [e.roomName]).client.groups.activeRoomName =
        e.roomName := activeRoomId_eq_some.1 active |>.2
    change (c.reply (c.onJoinGroup now calls (trimInPlace e.roomName)) []).client.groups.activeRoomName
      = e.roomName at now_active
    unfold Client.onJoinGroup at now_active
    split at now_active
    · exact (elsewhere now_active.symm).elim
    split at now_active
    · exact (elsewhere now_active.symm).elim
    change (c.groups.joinRoom now calls (trimInPlace e.roomName)).state.activeRoomName = _
      at now_active
    rcases cases_ with ⟨-, -, state⟩ | ⟨-, -, -, state⟩ | ⟨-, -, -, fd, state⟩
    · rw [state] at now_active
      split at now_active
      · exact (elsewhere now_active.symm).elim
      · exact (elsewhere now_active.symm).elim
    · rw [state, GroupRoomCoordinator.disownOther_eq] at now_active
      exact (elsewhere now_active.symm).elim
    · rw [state] at now_active
      exact now_active
  · intro own
    rw [own] at cases_
    have fits : ¬ e.roomName.length > kMaxRoomNameBytes := not_lt.2 (isRoomOk_iff.1 valid).2.2
    have listed : (c.groups.pruneRegistryUnlocked now).registry.contains e.roomName = true := by
      rw [Std.ExtTreeMap.contains_eq_isSome_getElem?, fresh]
      rfl
    rcases cases_ with ⟨unwanted, -⟩ | ⟨-, fails, -⟩ | ⟨-, -, -, fd, state⟩
    · exact (unwanted ⟨named, not_lt.1 fits, elsewhere.symm, listed⟩).elim
    · exact (fails succeed).elim
    · unfold Client.Joins
      rw [promptJoinGroup_groups (own.symm ▸ named) (own.symm ▸ fits), own, state]
      refine ⟨activeRoomId_eq_some.2 ⟨named, rfl⟩, ?_⟩
      simp [GroupRoomCoordinator.hasActiveMembership, GroupRoomCoordinator.channelled, named]

/-! ## What is listed -/

theorem hexDigit_not_blank : ∀ n < 16, isTrailingBlank (hexDigit n) = false ∧
    isLeadingBlank (hexDigit n) = false := by
  decide

/-- A drawn session id is its own trim. -/
theorem trimInPlace_makeSessionId (draw : Fin 0x1000000) :
    trimInPlace (makeSessionId draw) = makeSessionId draw := by
  have bound := draw.isLt
  refine Delimited.trim_eq_self_iff.2 ⟨fun a last => ?_, fun a first => ?_⟩
  · simp only [makeSessionId, List.getLast?_cons_cons, List.getLast?_singleton,
      Option.some.injEq] at last
    rw [← last]
    exact (hexDigit_not_blank _ (by omega)).1
  · simp only [makeSessionId, List.head?_cons, Option.some.injEq] at first
    rw [← first]
    exact (hexDigit_not_blank _ (by omega)).2

/-- So is the id of every open session: `accept_invite` has found it by its trim. -/
theorem exec_open_trimmed (self : Bytes) (run : List DirectOp) (k : Bytes) (s : Session)
    (found : ((directMachine self).exec run).sessions[k]? = some s)
    (open_ : s.state ≠ .IncomingPending) : trimInPlace k = k := by
  refine (directMachine self).invariant (I := fun d => ∀ s, d.sessions[k]? = some s →
    s.state ≠ .IncomingPending → trimInPlace k = k) ?_ ?_ run s found open_
  · intro s found
    simp [directMachine, DirectMessageService.init] at found
  · intro d op ih s' found open_
    have m := d.step_move op k
    rw [show (d.step op).sessions[k]? = some s' from found] at m
    rcases m.opened open_ with ⟨s, before, was, -⟩ | ⟨-, draw, -, -, -, -, -, -, key, -⟩ |
      ⟨-, room, -, -, key, -⟩
    · exact ih s before was
    · rw [← key]
      exact trimInPlace_makeSessionId draw
    · rw [← key]
      exact trimInPlace_trimInPlace room

/-- The identifier that a received datagram may put on a list. -/
def ClientOp.identifier : ClientOp → Option Bytes
  | .received bytes _ _ _ => (parseSecpLine bytes).bind fun msg =>
    match msg.type with
    | .Presence => some msg.username
    | .RoomAnnounce => some msg.room
    | .Invite => some msg.room
    | _ => none
  | _ => none

/-- Every identifier that the run receives is its own trim. -/
def ReceivesTrimmed (run : List ClientOp) : Prop :=
  ∀ op ∈ run, ∀ name, op.identifier = some name → trimInPlace name = name

/-- SECP can carry `name`, and it is its own trim if what the run receives is. -/
structure Listable (run : List ClientOp) (name : Bytes) : Prop where
  valid : isRoomOk name = true
  own : ReceivesTrimmed run → trimInPlace name = name

theorem listable_of_identifier {run : List ClientOp} {op : ClientOp} {name : Bytes} (h : op ∈ run)
    (identified : op.identifier = some name) : Listable run name := by
  refine ⟨?_, fun trimmed => trimmed op h name identified⟩
  cases op with
  | received bytes src t₁ t₂ =>
    obtain ⟨msg, parsed, identified⟩ := Option.bind_eq_some_iff.1 identified
    have ok := fieldsOk_of_parse parsed
    split at identified
    · obtain rfl := Option.some.inj identified
      exact isRoomOk_iff.2 (isUsernameOk_iff.1 ok.username)
    · obtain rfl := Option.some.inj identified
      exact ok.room
    · obtain rfl := Option.some.inj identified
      exact ok.room
    · cases identified
  | _ => cases identified

section Listed

variable {username k : Bytes} {localIp : InAddr} {run : List ClientOp}

theorem listable_session {s : Session}
    (found : ((clientMachine username localIp).exec run).direct.sessions[k]? = some s) :
    Listable run k := by
  rcases (session_origin username localIp run k s found).named with ⟨draw, rfl⟩ |
    ⟨bytes, src, t₁, t₂, msg, got, parsed, type, rfl⟩
  · exact ⟨isRoomOk_makeSessionId draw, fun _ => trimInPlace_makeSessionId draw⟩
  · exact listable_of_identifier got (by simp [ClientOp.identifier, parsed, type])

theorem listable_user {a : SockaddrIn}
    (known : ((clientMachine username localIp).exec run).users.findAddress k = some a) :
    Listable run k := by
  obtain ⟨bytes, t₁, t₂, msg, got, parsed, type, rfl, -⟩ := findAddress_received known
  exact listable_of_identifier got (by simp [ClientOp.identifier, parsed, type])

theorem listable_room {room : AdvertisedGroupRoom}
    (found : ((clientMachine username localIp).exec run).groups.registry[k]? = some room) :
    Listable run k := by
  obtain ⟨bytes, src, t₁, t₂, msg, got, parsed, type, rfl⟩ := registry_received found
  exact listable_of_identifier got (by simp [ClientOp.identifier, parsed, type])

/-- A listed room is registered under its name. -/
theorem listed_room {now : Int} {e : AdvertisedGroupRoom}
    (listed : e ∈ (((clientMachine username localIp).exec run).groups.listAdvertisedRooms now).value) :
    (((clientMachine username localIp).exec run).groups.pruneRegistryUnlocked now).registry[
      e.roomName]? = some e ∧ Listable run e.roomName := by
  obtain ⟨k, held⟩ := GroupRoomCoordinator.mem_listAdvertisedRooms.1 listed
  have named : e.roomName = k := by
    rw [GroupRoomCoordinator.advertised_pruned now (advertised_exec username localIp run) k e held]
  have found := held
  simp only [GroupRoomCoordinator.pruneRegistryUnlocked, Std.ExtTreeMap.getElem?_filter',
    Option.filter_eq_some_iff] at found
  rw [named]
  exact ⟨held, listable_room found.1⟩

end Listed

/-- Everything on the lists can be selected. -/
structure Client.Selectable (c : Client) : Prop where
  answers : ∀ e ∈ c.direct.snapshotPendingInvites, ∀ now reason, c.direct.Answers e now reason
  sends : ∀ e ∈ c.direct.snapshotActiveSessions, c.direct.Sends e
  invites : ∀ e ∈ c.users.snapshotPeers, ∀ draw now sent,
    c.direct.sessions[makeSessionId draw]? = none → c.Invites e draw now sent
  joins : ∀ now, ∀ e ∈ (c.groups.listAdvertisedRooms now).value,
    e.roomName ≠ c.groups.activeRoomName → ∀ now' calls,
    now' - e.lastAdvert ≤ kGroupRegistryStaleAge → calls.Succeed →
    (c.step (.listAdvertisedRooms now)).Joins e now' calls

/-- **What is listed can be selected exactly when its identifier is its own trim.** -/
theorem listed_selectable_iff (u : Bytes) (ip : InAddr) (run : List ClientOp) :
    let c := (clientMachine u ip).exec run
    (∀ e ∈ c.direct.snapshotPendingInvites, ∀ now reason,
      (c.direct.Answers e now reason ↔ trimInPlace e.sessionId = e.sessionId)) ∧
    (∀ e ∈ c.direct.snapshotActiveSessions,
      trimInPlace e.sessionId = e.sessionId ∧ (c.direct.Sends e ↔ isUsernameOk u = true)) ∧
    (∀ e ∈ c.users.snapshotPeers, ∀ draw now sent,
      c.direct.sessions[makeSessionId draw]? = none →
      (c.Invites e draw now sent ↔ trimInPlace e.username = e.username)) ∧
    (∀ now, ∀ e ∈ (c.groups.listAdvertisedRooms now).value,
      e.roomName ≠ c.groups.activeRoomName → ∀ now' calls,
      now' - e.lastAdvert ≤ kGroupRegistryStaleAge → calls.Succeed →
      ((c.step (.listAdvertisedRooms now)).Joins e now' calls ↔
        trimInPlace e.roomName = e.roomName)) ∧
    (ReceivesTrimmed run → isUsernameOk u = true → c.Selectable) := by
  intro c
  have self : c.direct.selfUsername = u := exec_direct_username u ip run
  have answers : ∀ e ∈ c.direct.snapshotPendingInvites, ∀ now reason,
      (c.direct.Answers e now reason ↔ trimInPlace e.sessionId = e.sessionId) ∧
        Listable run e.sessionId := by
    intro e listed now reason
    obtain ⟨s, found, -⟩ := mem_snapshotPendingInvites.1 listed
    have listable : Listable run e.sessionId := listable_session found
    exact ⟨answers_iff listed listable.valid now reason, listable⟩
  have sends : ∀ e ∈ c.direct.snapshotActiveSessions,
      trimInPlace e.sessionId = e.sessionId ∧ (c.direct.Sends e ↔ isUsernameOk u = true) := by
    intro e listed
    obtain ⟨s, found, active, -⟩ := mem_snapshotActiveSessions.1 listed
    have listable : Listable run e.sessionId := listable_session found
    obtain ⟨ops, direct⟩ := exec_direct u ip run
    have own := exec_open_trimmed u ops e.sessionId s (direct ▸ found) (by simp [active])
    exact ⟨own, self ▸ sends_iff listed listable.valid own⟩
  have invites : ∀ e ∈ c.users.snapshotPeers, ∀ draw now sent,
      c.direct.sessions[makeSessionId draw]? = none →
      (c.Invites e draw now sent ↔ trimInPlace e.username = e.username) ∧
        Listable run e.username := by
    intro e listed draw now sent free
    obtain ⟨addr, known⟩ := (c.users.mem_snapshotPeers e.username).1 (List.mem_map_of_mem listed)
    obtain ⟨-, -, -, -, -, -, -, -, other⟩ := findAddress_received known
    have listable : Listable run e.username := listable_user known
    have valid := isUsernameOk_iff.2 (isRoomOk_iff.1 listable.valid)
    exact ⟨invites_iff known valid (self ▸ other) free now sent, listable⟩
  have joins : ∀ now, ∀ e ∈ (c.groups.listAdvertisedRooms now).value,
      e.roomName ≠ c.groups.activeRoomName → ∀ now' calls,
      now' - e.lastAdvert ≤ kGroupRegistryStaleAge → calls.Succeed →
      ((c.step (.listAdvertisedRooms now)).Joins e now' calls ↔
        trimInPlace e.roomName = e.roomName) ∧ Listable run e.roomName := by
    intro now e listed elsewhere now' calls fresh succeed
    obtain ⟨held, listable⟩ := listed_room listed
    let c' := c.step (.listAdvertisedRooms now)
    have held' : c'.groups.registry[e.roomName]? = some e := held
    have elsewhere' : e.roomName ≠ c'.groups.activeRoomName := elsewhere
    have kept := GroupRoomCoordinator.pruned_keeps held' fresh
    exact ⟨joins_iff listable.valid elsewhere' kept succeed,
      listable⟩
  refine ⟨fun e listed now reason => (answers e listed now reason).1,
    sends,
    fun e listed draw now sent free => (invites e listed draw now sent free).1,
    fun now e listed elsewhere now' calls fresh succeed =>
      (joins now e listed elsewhere now' calls fresh succeed).1,
    fun trimmed username => ⟨fun e listed now reason => ?_, fun e listed => ?_,
      fun e listed draw now sent free => ?_,
      fun now e listed elsewhere now' calls fresh succeed => ?_⟩⟩
  · obtain ⟨iff, listable⟩ := answers e listed now reason
    exact iff.2 (listable.own trimmed)
  · exact (sends e listed).2.2 username
  · obtain ⟨iff, listable⟩ := invites e listed draw now sent free
    exact iff.2 (listable.own trimmed)
  · obtain ⟨iff, listable⟩ := joins now e listed elsewhere now' calls fresh succeed
    exact iff.2 (listable.own trimmed)

/-- bob has received one invitation: he can answer it. -/
theorem listed_selectable_iff_bob :
    let src : SockaddrIn := ⟨AF_INET, kUdpPort, ⟨10, 0, 0, 1⟩⟩
    let run := [.received (lit "INVITE|00002a|alice|CLOSED;to=bob\n") src 1 1]
    let bob := (clientMachine (lit "bob") ⟨10, 0, 0, 2⟩).exec run
    bob.direct.snapshotPendingInvites = [⟨lit "00002a", lit "alice", lit "bob"⟩] ∧
      bob.Selectable := by
  intro src run bob
  refine ⟨by decide +kernel, ?_⟩
  have trimmed : ReceivesTrimmed run := by
    intro op received name identified
    rw [List.mem_singleton.1 received,
      (by decide +kernel : ClientOp.identifier (.received
        (lit "INVITE|00002a|alice|CLOSED;to=bob\n") src 1 1) = some (lit "00002a"))] at identified
    rw [← Option.some.inj identified]
    decide +kernel
  obtain ⟨-, -, -, -, selectable⟩ := listed_selectable_iff (lit "bob") ⟨10, 0, 0, 2⟩ run
  exact selectable trimmed (by decide +kernel)

/-- An invitation, a user and a room with a blank at an edge of their identifiers are listed,
and cannot be selected. -/
theorem blank_edges_not_selectable :
    let src : SockaddrIn := ⟨AF_INET, kUdpPort, ⟨10, 0, 0, 1⟩⟩
    let calls : ChannelCalls := ⟨true, some 4, true, true, true, true, true, true⟩
    let run := [.received (lit "INVITE| 00002a|alice|CLOSED;to=bob\n") src 1 1,
      .received (lit "PRESENCE|-|carol |-\n") src 2 2,
      .received (lit "ROOM_ANNOUNCE|\tr1|alice|OPEN\n") src 3 3]
    let bob := (clientMachine (lit "bob") ⟨10, 0, 0, 2⟩).exec run
    bob.direct.snapshotPendingInvites = [⟨lit " 00002a", lit "alice", lit "bob"⟩] ∧
      (bob.direct.acceptInvite 4 (lit " 00002a")).value = false ∧
      (bob.direct.declineInvite (lit " 00002a") []).value = false ∧
      bob.users.snapshotPeers.map PeerListEntry.username = [lit "carol "] ∧
      (bob.direct.inviteUser bob.users 42 4 true (lit "carol ")).effects =
        [.status (lit "Fant ikke bruker \"carol\" i aktiv bruker-liste.")] ∧
      (bob.groups.listAdvertisedRooms 4).value.map AdvertisedGroupRoom.roomName = [lit "\tr1"] ∧
      (bob.promptJoinGroup 4 calls [lit "\tr1"]).client.groups.activeRoomId = none := by
  decide +kernel

end SecpChat
