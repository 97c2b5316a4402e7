import SecpChat.App.Client
import SecpChat.Services.DirectAuthenticity
import SecpChat.Services.DirectoryHistory
import SecpChat.Services.GroupReach

/-!
# What a client's step does to its services

A client's operation contains at most one operation on its private sessions
(`step_direct`), one on its coordinator (`step_groups`), and a few on its directory
(`step_users`); a run of the client is a run of each of them. `handleDatagram_chat` is the
dispatch of a CHAT, and `session_opened`, `room_activated` say how a session comes to be
open and a room active.
-/

namespace SecpChat

open Runs

/-- The runs of one client. -/
def clientMachine (username : Bytes) (localIp : InAddr) : Machine Client ClientOp :=
  ⟨.init username localIp, Client.step⟩

/-- The operations on the directory. -/
def ClientOp.directory : ClientOp → List DirectoryOp
  | .received bytes src t₁ t₂ => (parseSecpLine bytes).elim [] fun msg =>
    if msg.type = .Presence then [.presence bytes src t₁, .prune t₂] else []
  | .pruneStalePeers now => [.prune now]
  | _ => []

/-- The operation on the private sessions. -/
def ClientOp.direct (users : UserDirectory) : ClientOp → Option DirectOp
  | .received bytes src t₁ t₂ => some (.received bytes src t₁ t₂)
  | .inviteUser draw now sent target => some (.inviteUser users draw now sent target)
  | .acceptInvite now room => some (.acceptInvite now room)
  | .declineInvite room reason => some (.declineInvite room reason)
  | .sendPrivateChat sent sid text => some (.sendPrivateChat sent sid text)
  | .prunePending maxAge now => some (.prunePending maxAge now)
  | .resendOutgoingPending minInterval maxAge now sent =>
    some (.resendOutgoingPending minInterval maxAge now sent)
  | _ => none

/-- The operation on the coordinator. -/
def ClientOp.groups : ClientOp → Option GroupOp
  | .received bytes _ t₁ t₂ => (parseSecpLine bytes).bind fun msg =>
    match msg.type with
    | .RoomAnnounce => some (.onRoomAnnounce msg t₁ t₂)
    | .Chat => some (.onRoomChat msg)
    | _ => none
  | .createRoom calls sent name => some (.createRoom calls sent name)
  | .listAdvertisedRooms now => some (.listAdvertisedRooms now)
  | .joinRoom now calls name => some (.joinRoom now calls name)
  | .leaveRoom dropped => some (.leaveRoom dropped)
  | .sendGroupChat sent text => some (.sendGroupChat sent text)
  | .broadcastOwnedAdvert sent => some (.broadcastOwnedAdvert sent)
  | _ => none

theorem ClientOp.groups_createRoom (op : ClientOp) {calls : ChannelCalls} {sent : Bool}
    {name : Bytes} (h : op.groups = some (.createRoom calls sent name)) :
    op = .createRoom calls sent name := by
  cases op with
  | received bytes src t₁ t₂ =>
    obtain ⟨msg, -, h⟩ := Option.bind_eq_some_iff.1 h
    split at h <;> cases h
  | createRoom => cases h; rfl
  | _ => cases h

theorem ClientOp.groups_joinRoom (op : ClientOp) {now : Int} {calls : ChannelCalls} {room : Bytes}
    (h : op.groups = some (.joinRoom now calls room)) : op = .joinRoom now calls room := by
  cases op with
  | received bytes src t₁ t₂ =>
    obtain ⟨msg, -, h⟩ := Option.bind_eq_some_iff.1 h
    split at h <;> cases h
  | joinRoom => cases h; rfl
  | _ => cases h

theorem parse_length {bytes : Bytes} {msg : SecpMessage} (h : parseSecpLine bytes = some msg) :
    ¬ (bytes = [] ∨ bytes.length > kMaxPacketBytes) := by
  obtain ⟨lower, upper, -⟩ := parseSecpLine_fields.1 h
  intro outside
  rcases outside with rfl | long
  · simp at lower
  · exact absurd upper (not_le.2 long)

namespace Client

variable (c : Client)

theorem handleDatagram_none {bytes : Bytes} (h : parseSecpLine bytes = none) (src : SockaddrIn)
    (t₁ t₂ : Int) : c.handleDatagram bytes src t₁ t₂ = (c, []) := by
  simp [handleDatagram, h]

/-- **The dispatch of a CHAT.** -/
theorem handleDatagram_chat {bytes : Bytes} {msg : SecpMessage}
    (parsed : parseSecpLine bytes = some msg) (type : msg.type = .Chat) (src : SockaddrIn)
    (t₁ t₂ : Int) :
    c.handleDatagram bytes src t₁ t₂ =
      ({ c with direct := (c.direct.onRoomChat msg src t₁).state },
        (if msg.room = usnChat then LobbyService.onLobbyChat msg.username msg.payload else []) ++
          (c.groups.onRoomChat msg).effects ++ (c.direct.onRoomChat msg src t₁).effects) := by
  simp [handleDatagram, parse_length parsed, parsed, type, c.groups.onRoomChat_state]

/-- **The dispatch of an INVITE.** -/
theorem handleDatagram_invite {bytes : Bytes} {msg : SecpMessage}
    (parsed : parseSecpLine bytes = some msg) (type : msg.type = .Invite) (src : SockaddrIn)
    (t₁ t₂ : Int) :
    c.handleDatagram bytes src t₁ t₂ =
      ({ c with direct := (c.direct.onInvite msg src t₁ t₂).state },
        (c.direct.onInvite msg src t₁ t₂).effects) := by
  simp [handleDatagram, parse_length parsed, parsed, type]

theorem step_direct (op : ClientOp) :
    (c.step op).direct = ((op.direct c.users).elim c.direct c.direct.step) := by
  cases op with
  | received bytes src t₁ t₂ =>
    simp only [ClientOp.direct, Option.elim_some, step, perform, DirectMessageService.step,
      DirectMessageService.perform, DirectMessageService.receive]
    cases parsed : parseSecpLine bytes with
    | none => rw [c.handleDatagram_none parsed]
    | some msg =>
      simp only [handleDatagram, parse_length parsed, if_false, parsed]
      cases msg.type <;> rfl
  | _ => rfl

theorem step_groups (op : ClientOp) :
    (c.step op).groups = (op.groups.elim c.groups c.groups.step) := by
  cases op with
  | received bytes src t₁ t₂ =>
    simp only [ClientOp.groups, step, perform]
    cases parsed : parseSecpLine bytes with
    | none =>
      rw [c.handleDatagram_none parsed]
      rfl
    | some msg =>
      simp only [handleDatagram, parse_length parsed, if_false, parsed, Option.bind_some]
      cases msg.type <;> rfl
  | _ => rfl

theorem step_users (op : ClientOp) :
    (c.step op).users = op.directory.foldl UserDirectory.step c.users := by
  cases op with
  | received bytes src t₁ t₂ =>
    simp only [ClientOp.directory, step, perform]
    cases parsed : parseSecpLine bytes with
    | none =>
      rw [c.handleDatagram_none parsed]
      rfl
    | some msg =>
      simp only [handleDatagram, parse_length parsed, if_false, parsed, Option.elim_some]
      cases type : msg.type <;> simp [onGroups, UserDirectory.step, parsed, type]
  | _ => rfl

/-- How a session of a client comes to be open. -/
theorem session_opened {op : ClientOp} {k : Bytes} {s' : Session}
    (after : (c.step op).direct.sessions[k]? = some s') (h : s'.state ≠ .IncomingPending) :
    (∃ s, c.direct.sessions[k]? = some s ∧ s.state ≠ .IncomingPending ∧ SameBinding s s') ∨
    (∃ draw now sent target addr, op = .inviteUser draw now sent target ∧
      c.direct.sessions[k]? = none ∧ makeSessionId draw = k ∧
      c.users.findAddress (trimInPlace target) = some addr ∧
      s'.peerUsername = trimInPlace target ∧ s'.peerAddr.sinAddr = addr.sinAddr) ∨
    ∃ now room s, op = .acceptInvite now room ∧ trimInPlace room = k ∧
      c.direct.sessions[k]? = some s ∧ s.state = .IncomingPending ∧ SameBinding s s' := by
  rw [step_direct] at after
  cases contained : op.direct c.users with
  | none =>
    rw [contained] at after
    exact .inl ⟨s', after, h, .refl s'⟩
  | some dop =>
    have m := c.direct.step_move dop k
    rw [contained] at after
    rw [show (c.direct.step dop).sessions[k]? = some s' from after] at m
    rcases m.opened h with ⟨s, before, rest⟩ | ⟨users, draw, now, sent, target, addr, rfl, rest⟩ |
      ⟨now, room, s, rfl, rest⟩
    · exact .inl ⟨s, before, rest⟩
    · cases op <;> cases contained
      exact .inr (.inl ⟨draw, now, sent, target, addr, rfl, rest⟩)
    · cases op <;> cases contained
      exact .inr (.inr ⟨now, room, s, rfl, rest⟩)

/-- How a room of a client comes to be active. -/
theorem room_activated (op : ClientOp) :
    (c.step op).groups.activeRoomName = c.groups.activeRoomName ∨
    (c.step op).groups.activeRoomName = [] ∨
    (∃ calls sent name, op = .createRoom calls sent name ∧ calls.Succeed ∧
      (c.step op).groups.activeRoomName = trimInPlace name) ∨
    ∃ now calls room, op = .joinRoom now calls room ∧ calls.Succeed ∧
      (c.groups.pruneRegistryUnlocked now).registry.contains room = true ∧
      (c.step op).groups.activeRoomName = room := by
  rw [step_groups]
  cases contained : op.groups with
  | none => exact .inl rfl
  | some gop =>
    rcases c.groups.step_active gop with same | none | ⟨calls, sent, name, rfl, rest⟩ |
      ⟨now, calls, room, rfl, rest⟩
    · exact .inl same
    · exact .inr (.inl none)
    · refine .inr (.inr (.inl ⟨calls, sent, name, ?_, rest⟩))
      exact op.groups_createRoom contained
    · refine .inr (.inr (.inr ⟨now, calls, room, ?_, rest⟩))
      exact op.groups_joinRoom contained

end Client

section Runs

variable (username : Bytes) (localIp : InAddr)

/-- **The directory of a client has a run of its own.** -/
theorem exec_users (run : List ClientOp) :
    ((clientMachine username localIp).exec run).users =
      (directoryMachine username).exec (run.flatMap ClientOp.directory) := by
  induction run using List.reverseRecOn with
  | nil => rfl
  | append_singleton run op ih =>
    rw [Machine.exec_snoc]
    show (Client.step _ op).users = _
    rw [Client.step_users, ih, List.flatMap_append, Machine.exec_append]
    simp [directoryMachine]

/-- **So has its coordinator.** -/
theorem exec_groups (run : List ClientOp) :
    ((clientMachine username localIp).exec run).groups =
      (groupMachine localIp username).exec (run.filterMap ClientOp.groups) := by
  induction run using List.reverseRecOn with
  | nil => rfl
  | append_singleton run op ih =>
    rw [Machine.exec_snoc]
    show (Client.step _ op).groups = _
    rw [Client.step_groups, ih]
    cases contained : op.groups with
    | none => simp [contained]
    | some gop => simp [contained, groupMachine]

/-- **And its private sessions.** -/
theorem exec_direct (run : List ClientOp) :
    ∃ ops, ((clientMachine username localIp).exec run).direct =
      (directMachine username).exec ops := by
  induction run using List.reverseRecOn with
  | nil => exact ⟨[], rfl⟩
  | append_singleton run op ih =>
    obtain ⟨ops, same⟩ := ih
    rw [Machine.exec_snoc]
    show ∃ ops, (Client.step _ op).direct = _
    rw [Client.step_direct, same]
    cases op.direct _ with
    | none => exact ⟨ops, rfl⟩
    | some dop => exact ⟨ops ++ [dop], by simp [directMachine]⟩

end Runs

end SecpChat
