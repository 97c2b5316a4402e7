import SecpChat.App.Dispatch
import SecpChat.Lib.Network

/-!
# Channel separation

Lobby, group rooms and private sessions share one name space. `NamesApart` is what each
step that admits a name would have to respect; `Separate` is the invariant it then keeps,
over any number of clients: at each of them the lobby, the active room and the open
sessions have different names, and no lobby or group CHAT in flight can enter an open
session. `create_room` and `join_room`, `invite_user` and `accept_invite` check none of
it.
-/

namespace SecpChat

open Runs

/-- The three sinks of a CHAT. -/
def Effect.isSink : Effect → Bool
  | .lobbyMessage _ _ => true
  | .groupMessage _ _ _ => true
  | .privateMessage _ _ _ => true
  | _ => false

/-- A CHAT that `send_chat` or `send_group_chat` of a client has emitted. -/
structure PublicChat (ι : Type*) where
  origin : ι
  bytes : Bytes
  deriving DecidableEq

/-- Clients by name and address. -/
structure ChatNet (ι : Type*) where
  username : ι → Bytes
  ip : ι → InAddr

namespace ChatNet

variable {ι : Type*}

def publicChats (i : ι) (op : ClientOp) (effects : List Effect) : List (PublicChat ι) :=
  match op with
  | .lobbyChat _ _ | .sendGroupChat _ _ => effects.filterMap fun
    | .sendTo _ bytes true => some ⟨i, bytes⟩
    | _ => none
  | _ => []

/-- The clients, fed with any datagrams; in flight are the public CHATs. -/
def network (N : ChatNet ι) : Network ι Client ClientOp (PublicChat ι) where
  party i := ⟨Client.init (N.username i) (N.ip i), Client.step⟩
  posts i c op := publicChats i op (c.effects op)
  fits _ _ _ := True

/-- The session `s` is with client `j`. -/
def With (N : ChatNet ι) (s : Session) (j : ι) : Prop :=
  s.peerUsername = N.username j ∧ s.peerAddr.sinAddr = N.ip j

theorem With.of_sameBinding {N : ChatNet ι} {s s' : Session} {j : ι} (b : SameBinding s s')
    (h : N.With s' j) : N.With s j :=
  ⟨b.peerUsername ▸ h.1, b.peerAddr ▸ h.2⟩

def InRoom (p : PublicChat ι) (room : Bytes) : Prop :=
  ∃ msg, parseSecpLine p.bytes = some msg ∧ msg.room = room

/-- What `send_group_chat` needs, apart from the socket's success, to emit the text. -/
def CanSpeak (g : GroupRoomCoordinator) (text : Bytes) : Prop :=
  g.activeRoomName ≠ [] ∧ g.mcastSock ≠ none ∧ trimInPlace text ≠ [] ∧
    buildSecpLine .Chat g.activeRoomName g.username (trimInPlace text) ≠ []

/-- The step admits no name that another channel uses: a room is neither the lobby nor an
open session of the client, a session is opened neither under the name of the lobby or of
the active room nor where its peer has spoken in a room of that name, and a client does
not speak in a room whose name is an open session with it. -/
def NamesApart (N : ChatNet ι) (g : Global ι Client (PublicChat ι)) (a : Act ι ClientOp) : Prop :=
  let c := g.node a.party
  match a.act with
  | .createRoom calls _ name => calls.Succeed →
    trimInPlace name ≠ usnChat ∧ ¬ Answered (trimInPlace name) c.direct
  | .joinRoom now calls room => calls.Succeed →
    (c.groups.pruneRegistryUnlocked now).registry.contains room = true →
    room ≠ usnChat ∧ ¬ Answered room c.direct
  | .inviteUser draw _ _ target => ∀ addr, c.users.findAddress (trimInPlace target) = some addr →
    c.direct.sessions[makeSessionId draw]? = none →
    makeSessionId draw ≠ c.groups.activeRoomName ∧
      ∀ p ∈ g.flight, InRoom p (makeSessionId draw) →
        ¬ (trimInPlace target = N.username p.origin ∧ addr.sinAddr = N.ip p.origin)
  | .acceptInvite _ room => ∀ s, c.direct.sessions[trimInPlace room]? = some s →
    s.state = .IncomingPending → trimInPlace room ≠ usnChat ∧
      trimInPlace room ≠ c.groups.activeRoomName ∧
      ∀ p ∈ g.flight, InRoom p (trimInPlace room) → ¬ N.With s p.origin
  | .sendGroupChat sent text => sent = true → CanSpeak c.groups text → ∀ j s,
    (g.node j).direct.sessions[c.groups.activeRoomName]? = some s → s.state ≠ .IncomingPending →
    ¬ N.With s a.party
  | _ => True

/-- What is known of a public CHAT in flight. -/
structure Harmless (N : ChatNet ι) (g : Global ι Client (PublicChat ι)) (p : PublicChat ι)
    (msg : SecpMessage) : Prop where
  parsed : parseSecpLine p.bytes = some msg
  type : msg.type = .Chat
  sender : msg.room = usnChat ∨ msg.username = N.username p.origin
  closed : ∀ i s, (g.node i).direct.sessions[msg.room]? = some s → s.state ≠ .IncomingPending →
    ¬ N.With s p.origin

/-- **The invariant.** -/
structure Separate (N : ChatNet ι) (g : Global ι Client (PublicChat ι)) : Prop where
  username : ∀ i, (g.node i).groups.username = N.username i
  bound : ∀ i k s, (g.node i).direct.sessions[k]? = some s → Bound k s
  lobby : ∀ i, (g.node i).groups.activeRoomName ≠ usnChat
  sessions : ∀ i k, Answered k (g.node i).direct → k ≠ usnChat ∧
    ((g.node i).groups.activeRoomName ≠ [] → k ≠ (g.node i).groups.activeRoomName)
  chats : ∀ p ∈ g.flight, ∃ msg, N.Harmless g p msg

/-! ## What the invariant gives -/

theorem onLobbyChat_length (sender text : Bytes) :
    (LobbyService.onLobbyChat sender text).length ≤ 1 := by
  unfold LobbyService.onLobbyChat
  repeat' split
  all_goals simp

section State

variable {N : ChatNet ι} {g : Global ι Client (PublicChat ι)} (separate : N.Separate g)
include separate

/-- A CHAT reaches at most one sink. -/
theorem Separate.at_most_one (i : ι) {bytes : Bytes} {msg : SecpMessage}
    (parsed : parseSecpLine bytes = some msg) (type : msg.type = .Chat) (src : SockaddrIn)
    (t₁ t₂ : Int) : ((g.node i).handleDatagram bytes src t₁ t₂).2.length ≤ 1 := by
  rw [(g.node i).handleDatagram_chat parsed type]
  have session : (((g.node i).direct.onRoomChat msg src t₁).effects = []) ∨
      Answered msg.room (g.node i).direct ∧
        ((g.node i).direct.onRoomChat msg src t₁).effects.length = 1 := by
    rcases (g.node i).direct.onRoomChat_cases msg src t₁ with
      ⟨s, s', found, takes, -, -, delivers⟩ | ⟨-, ignored⟩
    · exact .inr ⟨⟨s, found, takes.open_⟩, by rw [delivers]; rfl⟩
    · exact .inl (by rw [ignored])
  have lobby := onLobbyChat_length msg.username msg.payload
  rcases (g.node i).groups.onRoomChat_effects msg with group | ⟨active, room, group⟩ <;>
    rcases session with direct | ⟨open_, direct⟩ <;> by_cases h : msg.room = usnChat
  · simpa [group, direct, h] using lobby
  · simp [group, direct, h]
  · exact ((separate.sessions i _ open_).1 h).elim
  · simp [group, direct, h]
  · exact (separate.lobby i (room.symm.trans h)).elim
  · simp [group, direct, h]
  · exact (separate.lobby i (room.symm.trans h)).elim
  · exact ((separate.sessions i _ open_).2 active room).elim

/-- A public CHAT leaves the private sessions alone. -/
theorem Separate.public_ignored {p : PublicChat ι} (inFlight : p ∈ g.flight) (i : ι)
    {src : SockaddrIn} (source : src.sinAddr = N.ip p.origin) (t₁ t₂ : Int) :
    (∀ k : Bytes, ((g.node i).handleDatagram p.bytes src t₁ t₂).1.direct.sessions[k]? =
      (g.node i).direct.sessions[k]?) ∧
    ∀ sid sender text, .privateMessage sid sender text ∉
      ((g.node i).handleDatagram p.bytes src t₁ t₂).2 := by
  obtain ⟨msg, parsed, type, sender, closed⟩ := separate.chats p inFlight
  rw [(g.node i).handleDatagram_chat parsed type]
  rcases (g.node i).direct.onRoomChat_cases msg src t₁ with ⟨s, -, found, takes, -⟩ |
    ⟨-, ignored⟩
  · exfalso
    rcases sender with room | username
    · exact (separate.sessions i _ ⟨s, found, takes.open_⟩).1 room
    · refine closed i s found takes.open_ ⟨?_, ?_⟩
      · rw [← takes.named (separate.bound i _ s found).named, username]
      · rw [takes.endpoint]
        exact source
  · rw [ignored]
    refine ⟨fun k => rfl, fun sid sender' text h => ?_⟩
    rw [List.append_nil, List.mem_append] at h
    rcases h with h | h
    · split at h
      · unfold LobbyService.onLobbyChat at h
        repeat' split at h
        all_goals simp at h
      · simp at h
    · rcases (g.node i).groups.onRoomChat_effects msg with none | ⟨-, -, one⟩
      · simp [none] at h
      · simp [one] at h

end State

/-! ## Every step that keeps names apart keeps it -/

theorem sendChat_line {sent ok : Bool} {username text line : Bytes} {dest : SockaddrIn}
    (h : .sendTo dest line ok ∈ (LobbyService.sendChat sent username text).2) :
    ∃ u t, parseSecpLine line = some ⟨.Chat, usnChat, u, t⟩ := by
  rcases LobbyService.sendChat_cases sent username text with fails | ⟨-, -, -, built, sends⟩
  · rw [fails] at h
    cases h
  · rw [sends, List.mem_singleton, Effect.sendTo.injEq] at h
    obtain ⟨-, rfl, -⟩ := h
    exact ⟨_, _, parse_build built⟩

theorem sendGroupChat_line {g : GroupRoomCoordinator} {sent ok : Bool} {text line : Bytes}
    {dest : SockaddrIn} (h : .sendTo dest line ok ∈ (g.sendGroupChat sent text).effects) :
    ok = sent ∧ CanSpeak g text ∧
      ∃ t, parseSecpLine line = some ⟨.Chat, g.activeRoomName, g.username, t⟩ := by
  rcases g.sendGroupChat_cases sent text with
    fails | ⟨nonempty, -, active, socket, built, sends⟩
  · rw [fails] at h
    cases h
  · rw [sends, List.mem_singleton, Effect.sendTo.injEq] at h
    obtain ⟨-, rfl, rfl⟩ := h
    exact ⟨rfl, ⟨active, socket, nonempty, built⟩, _, parse_build built⟩

theorem usnChat_ne_nil : usnChat ≠ [] := by decide +kernel

theorem makeSessionId_ne_usnChat (draw : Fin 0x1000000) : makeSessionId draw ≠ usnChat := by
  intro h
  have length : usnChat.length = 8 := by decide +kernel
  rw [← h] at length
  simp [makeSessionId] at length

section Step

variable [DecidableEq ι] {N : ChatNet ι} {g : Global ι Client (PublicChat ι)} {a : Act ι ClientOp}

theorem next_self : (N.network.machine.next g a).node a.party = (g.node a.party).step a.act := by
  simp [Network.machine, network]

theorem next_other {i : ι} (h : i ≠ a.party) : (N.network.machine.next g a).node i = g.node i := by
  simp [Network.machine, h]

/-- How a client comes to be in its room, as a step of the network. -/
theorem entered_next (N : ChatNet ι) (g : Global ι Client (PublicChat ι)) (j : ι) (op : ClientOp)
    (n : Nat) (i : ι) :
    let active := ((N.network.machine.next g ⟨j, op, n⟩).node i).groups.activeRoomName
    active = (g.node i).groups.activeRoomName ∨ active = [] ∨
    (∃ calls sent name, j = i ∧ op = .createRoom calls sent name ∧ calls.Succeed ∧
      active = trimInPlace name) ∨
    ∃ now calls room, j = i ∧ op = .joinRoom now calls room ∧ calls.Succeed ∧
      ((g.node i).groups.pruneRegistryUnlocked now).registry.contains room = true ∧
      active = room := by
  intro active
  by_cases mine : i = j
  · subst mine
    have own : active = ((g.node i).step op).groups.activeRoomName :=
      congrArg (fun c : Client => c.groups.activeRoomName) next_self
    rw [own]
    rcases (g.node i).room_activated op with same | none | ⟨calls, sent, name, rest⟩ |
      ⟨now, calls, room, rest⟩
    · exact .inl same
    · exact .inr (.inl none)
    · exact .inr (.inr (.inl ⟨calls, sent, name, rfl, rest⟩))
    · exact .inr (.inr (.inr ⟨now, calls, room, rfl, rest⟩))
  · have other : active = (g.node i).groups.activeRoomName :=
      congrArg (fun c : Client => c.groups.activeRoomName) (next_other mine)
    exact .inl other

/-- How a session comes to be open, as a step of the network. -/
theorem opened_next {j : ι} {op : ClientOp} {n : Nat} {i : ι} {k : Bytes} {s' : Session}
    (after : ((N.network.machine.next g ⟨j, op, n⟩).node i).direct.sessions[k]? = some s')
    (open_ : s'.state ≠ .IncomingPending) :
    (∃ s, (g.node i).direct.sessions[k]? = some s ∧ s.state ≠ .IncomingPending ∧
      SameBinding s s') ∨
    (∃ draw now sent target addr, j = i ∧ op = .inviteUser draw now sent target ∧
      makeSessionId draw = k ∧ (g.node i).direct.sessions[makeSessionId draw]? = none ∧
      (g.node i).users.findAddress (trimInPlace target) = some addr ∧
      s'.peerUsername = trimInPlace target ∧ s'.peerAddr.sinAddr = addr.sinAddr) ∨
    ∃ now room s, j = i ∧ op = .acceptInvite now room ∧ trimInPlace room = k ∧
      (g.node i).direct.sessions[trimInPlace room]? = some s ∧ s.state = .IncomingPending ∧
      SameBinding s s' := by
  by_cases mine : i = j
  · subst mine
    rw [next_self] at after
    rcases (g.node i).session_opened after open_ with before |
      ⟨draw, now, sent, target, addr, rfl, fresh, key, rest⟩ |
      ⟨now, room, s, rfl, key, before, rest⟩
    · exact .inl before
    · rw [← key] at fresh
      exact .inr (.inl ⟨draw, now, sent, target, addr, rfl, rfl, key, fresh, rest⟩)
    · rw [← key] at before
      exact .inr (.inr ⟨now, room, s, rfl, rfl, key, before, rest⟩)
  · rw [next_other mine] at after
    exact .inl ⟨s', after, open_, .refl s'⟩

/-- A room that becomes active is apart from the lobby and the open sessions. -/
theorem lobby_next (apart : N.NamesApart g a) (h : N.Separate g) (i : ι) :
    ((N.network.machine.next g a).node i).groups.activeRoomName ≠ usnChat := by
  obtain ⟨j, op, n⟩ := a
  rcases entered_next N g j op n i with same | none |
    ⟨calls, sent, name, rfl, rfl, succeed, active⟩ |
    ⟨now, calls, room, rfl, rfl, succeed, listed, active⟩
  · rw [same]
    exact h.lobby i
  · rw [none]
    exact usnChat_ne_nil.symm
  · rw [active]
    exact (apart succeed).1
  · rw [active]
    exact (apart succeed listed).1

/-- A session that opens is apart from the lobby and the active room. -/
theorem sessions_next (apart : N.NamesApart g a) (h : N.Separate g) (i : ι) (k : Bytes)
    (answered : Answered k ((N.network.machine.next g a).node i).direct) :
    k ≠ usnChat ∧ (((N.network.machine.next g a).node i).groups.activeRoomName ≠ [] →
      k ≠ ((N.network.machine.next g a).node i).groups.activeRoomName) := by
  obtain ⟨j, op, n⟩ := a
  obtain ⟨s', after, open_⟩ := answered
  rcases opened_next after open_ with ⟨s, before, was, -⟩ |
    ⟨draw, now, sent, target, addr, rfl, rfl, rfl, fresh, known, -⟩ |
    ⟨now, room, s, rfl, rfl, rfl, before, pending, -⟩
  · have wasOpen : Answered k (g.node i).direct := ⟨s, before, was⟩
    obtain ⟨lobby, room⟩ := h.sessions i k wasOpen
    refine ⟨lobby, fun active => ?_⟩
    rcases entered_next N g j op n i with same | none |
      ⟨calls, sent, name, rfl, rfl, succeed, named⟩ |
      ⟨now, calls, joined, rfl, rfl, succeed, listed, named⟩
    · rw [same] at active ⊢
      exact room active
    · exact (active none).elim
    · intro clash
      exact (apart succeed).2 (by rw [← named, ← clash]; exact wasOpen)
    · intro clash
      exact (apart succeed listed).2 (by rw [← named, ← clash]; exact wasOpen)
  · refine ⟨makeSessionId_ne_usnChat draw, fun _ => ?_⟩
    rw [next_self]
    exact (apart addr known fresh).1
  · obtain ⟨lobby, room, -⟩ := apart s before pending
    refine ⟨lobby, fun _ => ?_⟩
    rw [next_self]
    exact room

/-- A public CHAT in flight stays harmless. -/
theorem harmless_next (apart : N.NamesApart g a) {p : PublicChat ι} (inFlight : p ∈ g.flight)
    {msg : SecpMessage} (h : N.Harmless g p msg) :
    N.Harmless (N.network.machine.next g a) p msg := by
  obtain ⟨parsed, type, sender, closed⟩ := h
  refine ⟨parsed, type, sender, fun i s' after open_ met => ?_⟩
  obtain ⟨j, op, n⟩ := a
  rcases opened_next after open_ with ⟨s, before, was, binding⟩ |
    ⟨draw, now, sent, target, addr, rfl, rfl, key, fresh, known, name, ip⟩ |
    ⟨now, room, s, rfl, rfl, key, before, pending, binding⟩
  · exact closed i s before was (met.of_sameBinding binding)
  · refine (apart addr known fresh).2 p inFlight ⟨msg, parsed, key.symm⟩ ⟨?_, ?_⟩
    · rw [← name]
      exact met.1
    · rw [← ip]
      exact met.2
  · exact (apart s before pending).2.2 p inFlight ⟨msg, parsed, key.symm⟩
      (met.of_sameBinding binding)

/-- A public CHAT is harmless when it is emitted. -/
theorem harmless_posted (apart : N.NamesApart g a) (h : N.Separate g) {p : PublicChat ι}
    (posted : p ∈ publicChats a.party a.act ((g.node a.party).effects a.act)) :
    ∃ msg, N.Harmless (N.network.machine.next g a) p msg := by
  have sessions := sessions_next apart h
  obtain ⟨i, op, n⟩ := a
  cases op with
  | lobbyChat sent text =>
    simp only [publicChats, List.mem_filterMap] at posted
    obtain ⟨e, he, hp⟩ := posted
    split at hp
    · cases hp
      obtain ⟨u, t, parsed⟩ := sendChat_line he
      exact ⟨_, parsed, rfl, .inl rfl, fun j s found open_ _ =>
        (sessions j _ ⟨s, found, open_⟩).1 rfl⟩
    · cases hp
  | sendGroupChat sent text =>
    simp only [publicChats, List.mem_filterMap] at posted
    obtain ⟨e, he, hp⟩ := posted
    split at hp
    · cases hp
      obtain ⟨rfl, speaks, t, parsed⟩ := sendGroupChat_line he
      refine ⟨_, parsed, rfl, .inr (h.username i), fun j s found open_ => ?_⟩
      have same : ((N.network.machine.next g ⟨i, .sendGroupChat true text, n⟩).node j).direct =
          (g.node j).direct := by
        by_cases mine : j = i
        · subst mine
          rw [next_self]
          rfl
        · rw [next_other mine]
      rw [same] at found
      exact apart rfl speaks j s found open_
    · cases hp
  | _ => simp [publicChats] at posted

theorem separate_next (apart : N.NamesApart g a) (h : N.Separate g) :
    N.Separate (N.network.machine.next g a) := by
  refine ⟨fun i => ?_, fun i k s found => ?_, lobby_next apart h, sessions_next apart h,
    fun p inFlight => ?_⟩
  · by_cases mine : i = a.party
    · subst mine
      rw [next_self, Client.step_groups]
      cases a.act.groups with
      | none => exact h.username a.party
      | some op => exact (GroupRoomCoordinator.step_username op).trans (h.username a.party)
    · rw [next_other mine]
      exact h.username i
  · by_cases mine : i = a.party
    · subst mine
      rw [next_self, Client.step_direct] at found
      cases contained : a.act.direct (g.node a.party).users with
      | none =>
        rw [contained] at found
        exact h.bound a.party k s found
      | some op =>
        rw [contained] at found
        exact ((g.node a.party).direct.step_move op k).bound (h.bound a.party k) found
    · rw [next_other mine] at found
      exact h.bound i k s found
  · rcases List.mem_append.1 inFlight with old | new
    · obtain ⟨msg, harmless⟩ := h.chats p old
      exact ⟨msg, harmless_next apart old harmless⟩
    · exact harmless_posted apart h new

theorem separate_start : N.Separate N.network.machine.start := by
  refine ⟨fun _ => rfl, fun i k s found => ?_, fun i => usnChat_ne_nil.symm, fun i k answered => ?_,
    fun p inFlight => ?_⟩
  · simp [Network.machine, network, Client.init, DirectMessageService.init] at found
  · obtain ⟨s, found, -⟩ := answered
    simp [Network.machine, network, Client.init, DirectMessageService.init] at found
  · simp [Network.machine] at inFlight

end Step

/-! ## The admission points alone -/

/-- Nobody has an open session `k` with client `i`. -/
def NoSessionWith (N : ChatNet ι) (g : Global ι Client (PublicChat ι)) (k : Bytes) (i : ι) : Prop :=
  ∀ j s, (g.node j).direct.sessions[k]? = some s → s.state ≠ .IncomingPending → ¬ N.With s i

/-- A client does not enter a room called like an open session with it, and no session is opened
with a client that is in a room of the session's name. -/
def EntersApart (N : ChatNet ι) (g : Global ι Client (PublicChat ι)) (a : Act ι ClientOp) : Prop :=
  let c := g.node a.party
  match a.act with
  | .createRoom calls _ name => calls.Succeed → N.NoSessionWith g (trimInPlace name) a.party
  | .joinRoom now calls room => calls.Succeed →
    (c.groups.pruneRegistryUnlocked now).registry.contains room = true →
    N.NoSessionWith g room a.party
  | .inviteUser draw _ _ target => ∀ addr, c.users.findAddress (trimInPlace target) = some addr →
    c.direct.sessions[makeSessionId draw]? = none →
    ∀ i, (g.node i).groups.activeRoomName = makeSessionId draw →
      ¬ (trimInPlace target = N.username i ∧ addr.sinAddr = N.ip i)
  | .acceptInvite _ room => ∀ s, c.direct.sessions[trimInPlace room]? = some s →
    s.state = .IncomingPending →
    ∀ i, (g.node i).groups.activeRoomName = trimInPlace room → ¬ N.With s i
  | _ => True

/-- Names are kept apart where they are admitted; what is said in a room is free. -/
def AdmitsApart (N : ChatNet ι) (g : Global ι Client (PublicChat ι)) (a : Act ι ClientOp) : Prop :=
  ((∀ sent text, a.act ≠ .sendGroupChat sent text) → N.NamesApart g a) ∧ N.EntersApart g a

section Admissions

variable [DecidableEq ι] {N : ChatNet ι} {g : Global ι Client (PublicChat ι)} {a : Act ι ClientOp}

/-- **A client in a room has no session of that name with anybody**, if admissions see to it. -/
theorem noSessionWith_next (enters : N.EntersApart g a)
    (h : ∀ i, (g.node i).groups.activeRoomName ≠ [] →
      N.NoSessionWith g (g.node i).groups.activeRoomName i) (i : ι)
    (active : ((N.network.machine.next g a).node i).groups.activeRoomName ≠ []) :
    N.NoSessionWith (N.network.machine.next g a)
      ((N.network.machine.next g a).node i).groups.activeRoomName i := by
  obtain ⟨j, op, n⟩ := a
  intro i' s' after open_ met
  rcases entered_next N g j op n i with same | none |
    ⟨calls, sent, name, rfl, rfl, succeed, named⟩ | ⟨now, calls, room, rfl, rfl, succeed, listed, named⟩
  · rw [same] at active after
    rcases opened_next after open_ with ⟨s, before, was, binding⟩ |
      ⟨draw, now, sent, target, addr, rfl, rfl, key, fresh, known, name, ip⟩ |
      ⟨now, room, s, rfl, rfl, key, before, pending, binding⟩
    · exact h i active i' s before was (met.of_sameBinding binding)
    · refine enters addr known fresh i key.symm ⟨?_, ?_⟩
      · rw [← name]
        exact met.1
      · rw [← ip]
        exact met.2
    · exact enters s before pending i key.symm (met.of_sameBinding binding)
  · exact (active none).elim
  · -- no session is opened where a room is entered
    rw [named] at after
    rcases opened_next after open_ with ⟨s, before, was, binding⟩ |
      ⟨_, _, _, _, _, _, other, _⟩ | ⟨_, _, _, _, other, _⟩
    · exact enters succeed i' s before was (met.of_sameBinding binding)
    · cases other
    · cases other
  · rw [named] at after
    rcases opened_next after open_ with ⟨s, before, was, binding⟩ |
      ⟨_, _, _, _, _, _, other, _⟩ | ⟨_, _, _, _, other, _⟩
    · exact enters succeed listed i' s before was (met.of_sameBinding binding)
    · cases other
    · cases other

/-- **It is enough to keep names apart where they are admitted.** -/
theorem namesApart_of_admitsApart {run : List (Act ι ClientOp)}
    (admits : N.network.machine.Along N.AdmitsApart run) :
    N.network.machine.Along N.NamesApart run := by
  refine Machine.Along.of_invariant N.network.machine admits
    (I := fun g => ∀ i, (g.node i).groups.activeRoomName ≠ [] →
      N.NoSessionWith g (g.node i).groups.activeRoomName i)
    (fun i active => (active rfl).elim) (fun g a step h => noSessionWith_next step.2 h)
    fun g a h step => ?_
  obtain ⟨i, op, n⟩ := a
  cases op with
  | sendGroupChat sent text => exact fun _ speaks => h i speaks.1
  | _ => exact step.1 (by simp)

end Admissions

/-- **Channels are separate in every run that keeps their names apart.** -/
theorem channels_separate [DecidableEq ι] (N : ChatNet ι) (run : List (Act ι ClientOp))
    (apart : N.network.machine.Along N.NamesApart run) (i : ι) :
    let g := N.network.machine.exec run
    let c := g.node i
    (∀ bytes src t₁ t₂ msg, parseSecpLine bytes = some msg → msg.type = .Chat →
      ((c.handleDatagram bytes src t₁ t₂).2.filter Effect.isSink).length ≤ 1) ∧
    ∀ p ∈ g.flight, ∀ src t₁ t₂, src.sinAddr = N.ip p.origin →
      (∀ k : Bytes, (c.handleDatagram p.bytes src t₁ t₂).1.direct.sessions[k]? =
        c.direct.sessions[k]?) ∧
      ∀ sid sender text, .privateMessage sid sender text ∉
        (c.handleDatagram p.bytes src t₁ t₂).2 := by
  intro g c
  have separate : N.Separate g :=
    N.network.machine.invariant_along (P := N.NamesApart) (I := N.Separate) separate_start
      (fun g a apart h => separate_next apart h) run apart
  refine ⟨fun bytes src t₁ t₂ msg parsed type => ?_, fun p inFlight src t₁ t₂ source => ?_⟩
  · exact (List.length_filter_le _ _).trans (separate.at_most_one i parsed type src t₁ t₂)
  · exact separate.public_ignored inFlight i source t₁ t₂

def aliceAndBob : ChatNet Bool where
  username i := if i then lit "bob" else lit "alice"
  ip i := if i then ⟨10, 0, 0, 2⟩ else ⟨10, 0, 0, 1⟩

/-- alice and bob meet in the room gruppe1. -/
theorem channels_separate_gruppe1 :
    let N := aliceAndBob
    let calls : ChannelCalls := ⟨true, some 4, true, true, true, true, true, true⟩
    let run : List (Act Bool ClientOp) :=
      [⟨true, .createRoom calls true (lit "gruppe1"), 0⟩,
        ⟨false, .createRoom calls true (lit "gruppe1"), 0⟩,
        ⟨false, .sendGroupChat true (lit "hei"), 0⟩]
    let chat := lit "CHAT|gruppe1|alice|hei\n"
    let c := (N.network.machine.exec run).node true
    let o := c.handleDatagram chat ⟨AF_INET, kUdpPort, N.ip false⟩ 0 0
    N.network.machine.Along N.NamesApart run ∧
      ⟨false, chat⟩ ∈ (N.network.machine.exec run).flight ∧
      o.2 = [.groupMessage (lit "gruppe1") (lit "alice") (lit "hei")] ∧
      (o.2.filter Effect.isSink).length ≤ 1 ∧
      ∀ sid sender text, .privateMessage sid sender text ∉ o.2 := by
  intro N calls run chat c o
  have none_open (k username : Bytes) : ¬ Answered k (.init username) := by
    rintro ⟨s, found, -⟩
    simp [DirectMessageService.init] at found
  have apart : N.network.machine.Along N.NamesApart run := by
    refine ⟨fun _ => ⟨by decide +kernel, none_open _ _⟩,
      fun _ => ⟨by decide +kernel, none_open _ _⟩, fun _ _ j s found => ?_, trivial⟩
    have empty : ((N.network.machine.exec (run.take 2)).node j).direct.sessions = ∅ := by
      cases j <;> rfl
    replace found : ((N.network.machine.exec (run.take 2)).node j).direct.sessions[_]? = some s :=
      found
    simp [empty] at found
  have flight : ⟨false, chat⟩ ∈ (N.network.machine.exec run).flight := by decide +kernel
  have separate := channels_separate N run apart true
  refine ⟨apart, flight, by decide +kernel, ?_, ?_⟩
  · have parsed : parseSecpLine chat =
        some ⟨.Chat, lit "gruppe1", lit "alice", lit "hei"⟩ := by decide +kernel
    exact separate.1 chat _ 0 0 _ parsed rfl
  · exact (separate.2 ⟨false, chat⟩ flight ⟨AF_INET, kUdpPort, N.ip false⟩ 0 0 rfl).2

/-- A room called `USN Chat` hears the lobby; a room called like a session is heard in it. -/
theorem channels_clash :
    let N := aliceAndBob
    let calls : ChannelCalls := ⟨true, some 4, true, true, true, true, true, true⟩
    let src : SockaddrIn := ⟨AF_INET, kUdpPort, N.ip false⟩
    let lobby : List (Act Bool ClientOp) := [⟨true, .createRoom calls true (lit "USN Chat"), 0⟩]
    let session : List (Act Bool ClientOp) :=
      [⟨true, .received (lit "INVITE|00002a|alice|CLOSED;to=bob\n") src 0 0, 0⟩,
        ⟨true, .acceptInvite 0 (lit "00002a"), 0⟩,
        ⟨false, .createRoom calls true (lit "00002a"), 0⟩,
        ⟨false, .sendGroupChat true (lit "hei"), 0⟩]
    let chat := lit "CHAT|00002a|alice|hei\n"
    (((N.network.machine.exec lobby).node true).handleDatagram
        (lit "CHAT|USN Chat|alice|hei\n") src 0 0).2 =
        [.lobbyMessage (lit "alice") (lit "hei"),
          .groupMessage (lit "USN Chat") (lit "alice") (lit "hei")] ∧
      (N.network.machine.exec session).flight = [⟨false, chat⟩] ∧
      (((N.network.machine.exec session).node true).handleDatagram chat src 0 0).2 =
        [.privateMessage (lit "00002a") (lit "alice") (lit "hei")] := by
  decide +kernel

end ChatNet

end SecpChat
