import SecpChat.App.Dispatch

/-!
# Limits of remote authority

What a datagram can do to a client, whatever its bytes and source. Each type of message
touches the state of one service (`WithinLimits`), and what one of them leaves alone
(`Untouched`) a sequence of them does: the user's choices, his identity and the sessions he
has not answered are out of reach of the network.
-/

namespace SecpChat

/-- A datagram with the clock readings of its handler. -/
structure Arrival where
  bytes : Bytes
  src : SockaddrIn
  t₁ : Int
  t₂ : Int

/-- A call on a socket. -/
def Effect.isSocketCall : Effect → Bool
  | .sendTo _ _ _ => true
  | .dropMembership _ _ _ => true
  | _ => false

namespace Client

/-- A sequence of datagrams: the client after it and everything it did. -/
def receive (c : Client) : List Arrival → Client × List Effect
  | [] => (c, [])
  | a :: rest =>
    let handled := c.handleDatagram a.bytes a.src a.t₁ a.t₂
    let later := handled.1.receive rest
    (later.1, handled.2 ++ later.2)

/-- What a message from `src` may change. -/
def WithinLimits (c : Client) (msg : SecpMessage) (src : SockaddrIn) (c' : Client) : Prop :=
  match msg.type with
  | .Presence => c' = { c with users := { c.users with peers := c'.users.peers } }
  | .RoomAnnounce => c' = { c with groups := { c.groups with registry := c'.groups.registry } }
  | .Invite => c' = { c with direct := { c.direct with sessions := c'.direct.sessions } } ∧
    ∀ k : Bytes, c'.direct.sessions[k]? = c.direct.sessions[k]? ∨
      (k = msg.room ∧ c.direct.sessions[k]? = none ∧
        ∃ s, c'.direct.sessions[k]? = some s ∧ s.state = .IncomingPending)
  | .Chat => c' = { c with direct := { c.direct with sessions := c'.direct.sessions } } ∧
    ∀ k : Bytes, c'.direct.sessions[k]? = c.direct.sessions[k]? ∨
      (k = msg.room ∧ ∃ s now, c.direct.sessions[k]? = some s ∧ s.state = .OutgoingPending ∧
        s.peerAddr = makeUnicastDest src kUdpPort ∧
        c'.direct.sessions[k]? = some { s with state := .Active, lastUpdate := now })
  | .Unknown => c' = c

/-- A session entry before and after any number of datagrams. -/
structure Kept (e e' : Option Session) : Prop where
  stays : ∀ s, e = some s →
    ∃ s', e' = some s' ∧ (s' = s ∨ s.state = .OutgoingPending ∧ s'.state = .Active)
  opens : e = none → e' = none ∨ ∃ s', e' = some s' ∧ s'.state = .IncomingPending

theorem Kept.refl (e : Option Session) : Kept e e :=
  ⟨fun s h => ⟨s, h, .inl rfl⟩, .inl⟩

theorem Kept.trans {e e' e'' : Option Session} (h : Kept e e') (h' : Kept e' e'') : Kept e e'' := by
  constructor
  · intro s found
    obtain ⟨s', found', same | ⟨pending, active⟩⟩ := h.stays s found
    · subst same
      exact h'.stays s' found'
    · obtain ⟨s'', found'', same | ⟨pending', -⟩⟩ := h'.stays s' found'
      · subst same
        exact ⟨s'', found'', .inr ⟨pending, active⟩⟩
      · rw [active] at pending'
        cases pending'
  · intro absent
    rcases h.opens absent with absent' | ⟨s', found', incoming⟩
    · exact h'.opens absent'
    · obtain ⟨s'', found'', same | ⟨pending, -⟩⟩ := h'.stays s' found'
      · subst same
        exact .inr ⟨s'', found'', incoming⟩
      · rw [incoming] at pending
        cases pending

theorem Kept.of_move {self k : Bytes} {bytes : Bytes} {src : SockaddrIn} {t₁ t₂ : Int}
    {e e' : Option Session} (m : Move self k (.received bytes src t₁ t₂) e e') : Kept e e' := by
  cases m with
  | keep => exact .refl e
  | invited parsed type key named payload => exact ⟨nofun, fun _ => .inr ⟨_, rfl, rfl⟩⟩
  | activate parsed type key endpoint named pending =>
    refine ⟨fun s found => ?_, nofun⟩
    cases found
    exact ⟨_, rfl, .inr ⟨pending, rfl⟩⟩

/-- What no datagram reaches. -/
structure Untouched (c c' : Client) : Prop where
  username : c'.username = c.username
  discovery : c'.discovery = c.discovery
  users : c'.users.selfUsername = c.users.selfUsername
  groups : c'.groups = { c.groups with registry := c'.groups.registry }
  direct : c'.direct.selfUsername = c.direct.selfUsername
  sessions : ∀ k : Bytes, Kept c.direct.sessions[k]? c'.direct.sessions[k]?

theorem Untouched.refl (c : Client) : Untouched c c :=
  ⟨rfl, rfl, rfl, rfl, rfl, fun _ => .refl _⟩

theorem Untouched.trans {c c' c'' : Client} (h : Untouched c c') (h' : Untouched c' c'') :
    Untouched c c'' where
  username := h'.username.trans h.username
  discovery := h'.discovery.trans h.discovery
  users := h'.users.trans h.users
  groups := by
    rw [h'.groups, h.groups]
  direct := h'.direct.trans h.direct
  sessions k := (h.sessions k).trans (h'.sessions k)

/-! ## The parts of the state that a handler writes -/

theorem onPresence_writes (users : UserDirectory) (username payload : Bytes) (src : SockaddrIn)
    (now : Int) : (DiscoveryService.onPresence users username payload src now).selfUsername =
      users.selfUsername := by
  unfold DiscoveryService.onPresence UserDirectory.upsert
  repeat' split
  all_goals rfl

theorem onRoomAnnounce_writes (g : GroupRoomCoordinator) (msg : SecpMessage) (t₁ t₂ : Int) :
    (g.onRoomAnnounce msg t₁ t₂).state =
      { g with registry := (g.onRoomAnnounce msg t₁ t₂).state.registry } ∧
    (g.onRoomAnnounce msg t₁ t₂).effects = [] := by
  obtain ⟨registry, outcome⟩ := g.onRoomAnnounce_outcome msg t₁ t₂
  rw [outcome]
  exact ⟨rfl, rfl⟩

theorem onInvite_writes (d : DirectMessageService) (msg : SecpMessage) (src : SockaddrIn)
    (t₁ t₂ : Int) : (d.onInvite msg src t₁ t₂).state =
      { d with sessions := (d.onInvite msg src t₁ t₂).state.sessions } := by
  rcases d.onInvite_cases msg src t₁ t₂ with ⟨-, opens⟩ | ⟨-, ignored⟩
  · rw [opens]
  · rw [ignored]

theorem onRoomChat_writes (d : DirectMessageService) (msg : SecpMessage) (src : SockaddrIn)
    (now : Int) : (d.onRoomChat msg src now).state =
      { d with sessions := (d.onRoomChat msg src now).state.sessions } := by
  rcases d.onRoomChat_cases msg src now with ⟨s, s', -, -, -, -, delivers⟩ | ⟨-, ignored⟩
  · rw [delivers]
  · rw [ignored]

/-! ## One datagram -/

variable (c : Client)

/-- **Each type of message touches one service.** -/
theorem handleDatagram_within {bytes : Bytes} {msg : SecpMessage}
    (parsed : parseSecpLine bytes = some msg) (src : SockaddrIn) (t₁ t₂ : Int) :
    c.WithinLimits msg src (c.handleDatagram bytes src t₁ t₂).1 := by
  simp only [WithinLimits, handleDatagram, parse_length parsed, if_false, parsed]
  cases type : msg.type with
  | Presence =>
    simp only [DiscoveryService.pruneStalePeers, UserDirectory.pruneStale, onPresence_writes]
  | RoomAnnounce =>
    simp only [onGroups, GroupRoomCoordinator.perform]
    rw [← (onRoomAnnounce_writes c.groups msg t₁ t₂).1]
  | Invite =>
    simp only
    rw [← onInvite_writes]
    refine ⟨rfl, fun k => ?_⟩
    have m := c.direct.onInvite_move parsed src t₁ t₂ k
    generalize (c.direct.onInvite msg src t₁ t₂).state.sessions[k]? = e' at m ⊢
    generalize c.direct.sessions[k]? = e at m ⊢
    cases m with
    | keep => exact .inl rfl
    | invited parsed' type' key named payload =>
      rw [parsed] at parsed'
      cases parsed'
      exact .inr ⟨key.symm, rfl, _, rfl, rfl⟩
    | activate parsed' type' key endpoint named pending =>
      rw [parsed] at parsed'
      cases parsed'
      rw [type] at type'
      cases type'
  | Chat =>
    simp only [c.groups.onRoomChat_state]
    rw [← onRoomChat_writes]
    refine ⟨rfl, fun k => ?_⟩
    have m := c.direct.onRoomChat_move parsed src t₁ t₂ k
    generalize (c.direct.onRoomChat msg src t₁).state.sessions[k]? = e' at m ⊢
    generalize c.direct.sessions[k]? = e at m ⊢
    cases m with
    | keep => exact .inl rfl
    | invited parsed' type' key named payload =>
      rw [parsed] at parsed'
      cases parsed'
      rw [type] at type'
      cases type'
    | activate parsed' type' key endpoint named pending =>
      rw [parsed] at parsed'
      cases parsed'
      exact .inr ⟨key.symm, _, t₁, rfl, pending, sameEndpoint_iff.1 endpoint, rfl⟩
  | Unknown => rfl

theorem handleDatagram_untouched (a : Arrival) :
    c.Untouched (c.handleDatagram a.bytes a.src a.t₁ a.t₂).1 := by
  cases parsed : parseSecpLine a.bytes with
  | none =>
    rw [c.handleDatagram_none parsed]
    exact .refl c
  | some msg =>
    have within := c.handleDatagram_within parsed a.src a.t₁ a.t₂
    have session (k : Bytes) : Kept c.direct.sessions[k]?
        (c.handleDatagram a.bytes a.src a.t₁ a.t₂).1.direct.sessions[k]? := by
      have step := c.step_direct (.received a.bytes a.src a.t₁ a.t₂)
      have direct : (c.handleDatagram a.bytes a.src a.t₁ a.t₂).1.direct =
          c.direct.step (.received a.bytes a.src a.t₁ a.t₂) := step
      rw [direct]
      exact .of_move (c.direct.step_move _ k)
    generalize (c.handleDatagram a.bytes a.src a.t₁ a.t₂).1 = c' at within session ⊢
    unfold WithinLimits at within
    cases type : msg.type with
    | Presence =>
      simp only [type] at within
      rw [within] at session ⊢
      exact ⟨rfl, rfl, rfl, rfl, rfl, session⟩
    | RoomAnnounce =>
      simp only [type] at within
      rw [within] at session ⊢
      exact ⟨rfl, rfl, rfl, rfl, rfl, session⟩
    | Invite =>
      simp only [type] at within
      rw [within.1] at session ⊢
      exact ⟨rfl, rfl, rfl, rfl, rfl, session⟩
    | Chat =>
      simp only [type] at within
      rw [within.1] at session ⊢
      exact ⟨rfl, rfl, rfl, rfl, rfl, session⟩
    | Unknown => exact (fieldsOk_of_parse parsed).known type |>.elim

/-- A datagram makes the client send nothing. -/
theorem handleDatagram_silent (a : Arrival) :
    ∀ e ∈ (c.handleDatagram a.bytes a.src a.t₁ a.t₂).2, e.isSocketCall = false := by
  intro e he
  cases parsed : parseSecpLine a.bytes with
  | none =>
    rw [c.handleDatagram_none parsed] at he
    simp at he
  | some msg =>
    simp only [handleDatagram, parse_length parsed, if_false, parsed] at he
    cases type : msg.type with
    | Presence => simp [type] at he
    | RoomAnnounce =>
      simp only [type, onGroups, GroupRoomCoordinator.perform,
        (onRoomAnnounce_writes c.groups msg a.t₁ a.t₂).2] at he
      simp at he
    | Invite =>
      simp only [type] at he
      obtain ⟨m, rfl⟩ := DirectMessageService.onInvite_quiet _ msg a.src a.t₁ a.t₂ e he
      rfl
    | Chat =>
      simp only [type, List.mem_append] at he
      rcases he with (lobby | group) | direct
      · split at lobby
        · unfold LobbyService.onLobbyChat at lobby
          repeat' split at lobby
          all_goals simp at lobby
          rw [lobby]
          rfl
        · simp at lobby
      · rcases c.groups.onRoomChat_effects msg with none | ⟨-, -, one⟩
        · simp [none] at group
        · rw [one, List.mem_singleton] at group
          rw [group]
          rfl
      · obtain ⟨s, -, -, rfl⟩ := c.direct.mem_onRoomChat.1 direct
        rfl
    | Unknown => simp [type] at he

/-! ## Any number of them -/

theorem receive_untouched (arrivals : List Arrival) :
    c.Untouched (c.receive arrivals).1 ∧ ∀ e ∈ (c.receive arrivals).2, e.isSocketCall = false := by
  induction arrivals generalizing c with
  | nil => exact ⟨.refl c, by simp [receive]⟩
  | cons a rest ih =>
    obtain ⟨later, silent⟩ := ih (c.handleDatagram a.bytes a.src a.t₁ a.t₂).1
    refine ⟨(c.handleDatagram_untouched a).trans later, fun e he => ?_⟩
    rcases List.mem_append.1 he with now | after
    · exact c.handleDatagram_silent a e now
    · exact silent e after

end Client

/-- **Limits of remote authority.** -/
theorem remote_authority_limited (c : Client) :
    (∀ bytes src t₁ t₂, parseSecpLine bytes = none →
      c.handleDatagram bytes src t₁ t₂ = (c, [])) ∧
    (∀ bytes src t₁ t₂ msg, parseSecpLine bytes = some msg →
      c.WithinLimits msg src (c.handleDatagram bytes src t₁ t₂).1) ∧
    ∀ arrivals, let c' := (c.receive arrivals).1
      (c'.groups.activeRoomName = c.groups.activeRoomName ∧ c'.groups.owned = c.groups.owned ∧
        c'.groups.mcastSock = c.groups.mcastSock ∧ c'.groups.joinedGroup = c.groups.joinedGroup ∧
        c'.groups.joinedPort = c.groups.joinedPort ∧
        c'.groups.joinedMembership = c.groups.joinedMembership) ∧
      (c'.username = c.username ∧ c'.discovery = c.discovery ∧
        c'.users.selfUsername = c.users.selfUsername ∧ c'.groups.username = c.groups.username ∧
        c'.groups.localIf = c.groups.localIf ∧ c'.direct.selfUsername = c.direct.selfUsername) ∧
      (∀ (k : Bytes) s, c.direct.sessions[k]? = some s → s.state = .IncomingPending →
        c'.direct.sessions[k]? = some s) ∧
      (∀ (k : Bytes) s', c'.direct.sessions[k]? = some s' → s'.state = .Active →
        ∃ s, c.direct.sessions[k]? = some s ∧ s.state ≠ .IncomingPending) ∧
      (∀ k : Bytes, c.direct.sessions[k]? ≠ none → c'.direct.sessions[k]? ≠ none) ∧
      ∀ e ∈ (c.receive arrivals).2, e.isSocketCall = false := by
  refine ⟨fun bytes src t₁ t₂ rejected => c.handleDatagram_none rejected src t₁ t₂,
    fun bytes src t₁ t₂ msg parsed => c.handleDatagram_within parsed src t₁ t₂,
    fun arrivals => ?_⟩
  intro c'
  obtain ⟨untouched, silent⟩ := c.receive_untouched arrivals
  have groups : c'.groups = { c.groups with registry := c'.groups.registry } := untouched.groups
  refine ⟨?_, ?_, fun k s found incoming => ?_, fun k s' found active => ?_,
    fun k present gone => ?_, silent⟩
  · rw [groups]
    exact ⟨rfl, rfl, rfl, rfl, rfl, rfl⟩
  · rw [groups]
    exact ⟨untouched.username, untouched.discovery, untouched.users, rfl, rfl, untouched.direct⟩
  · obtain ⟨s', found', same | ⟨pending, -⟩⟩ := (untouched.sessions k).stays s found
    · rw [← same]
      exact found'
    · rw [incoming] at pending
      cases pending
  · have kept := untouched.sessions k
    rw [show (c.receive arrivals).1.direct.sessions[k]? = some s' from found] at kept
    cases before : c.direct.sessions[k]? with
    | none =>
      rcases kept.opens before with none | ⟨s, same, incoming⟩
      · cases none
      · cases same
        rw [incoming] at active
        cases active
    | some s =>
      refine ⟨s, rfl, fun incoming => ?_⟩
      obtain ⟨s'', found', same | ⟨pending, -⟩⟩ := kept.stays s before
      · cases found'
        rw [same, incoming] at active
        cases active
      · rw [incoming] at pending
        cases pending
  · obtain ⟨s, before⟩ := Option.ne_none_iff_exists'.1 present
    obtain ⟨s', found', -⟩ := (untouched.sessions k).stays s before
    have gone' : (c.receive arrivals).1.direct.sessions[k]? = none := gone
    rw [gone'] at found'
    cases found'

end SecpChat
