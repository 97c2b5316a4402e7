import SecpChat.System.PrivateNet

/-!
# Agreement on private sessions

Two invariants of the runs that the network and the directories allow. Every session is
bound to a client, by name and by address (`session_boundTo`). An active session was
accepted by its owner, or its peer accepted it and holds it bound back
(`active_accepted`): a CHAT in flight was sent in an active session, which stays active,
so two clients that only activated each other would both have been pending before.
-/

namespace SecpChat.Clients

open Runs

variable {ι : Type*}

variable [DecidableEq ι] {C : Clients ι} {i j : ι} {s s' : Session} {sid : Bytes}
  {run : List (Act ι DirectOp)}

/-- **Every session is with a client.** -/
theorem session_boundTo (legal : C.network.machine.Along C.Legal run) :
    ∀ i k s, C.session run i k = some s → ∃ j, C.BoundTo s j := by
  refine C.network.machine.history_induct
    (I := fun run => ∀ i k s, C.session run i k = some s → ∃ j, C.BoundTo s j)
    ?_ (fun run a _ step ih i k s after => ?_) run legal
  · intro i k s h
    simp [session, service, network, Network.machine, directMachine,
      DirectMessageService.init] at h
  obtain ⟨party, op, n⟩ := a
  by_cases mine : party = i
  · subst mine
    obtain ⟨arrival, faithful⟩ := step
    have m := session_move C run ⟨party, op, n⟩ k
    simp only at m
    cases before : C.session run party k with
    | some s₀ =>
      obtain ⟨j, bound⟩ := ih party k s₀ before
      exact ⟨j, bound.trans (m.sameBinding before after)⟩
    | none =>
      rw [before, after] at m
      cases m with
      | invite valid other known key =>
        obtain ⟨j, name, family, addr⟩ := faithful _ _ known
        refine ⟨j, name.symm, ?_⟩
        simp [endpoint, makeUnicastDest, family, addr]
      | invited parsed type key named payload =>
        obtain ⟨p, inFlight, rfl, reaches⟩ := exists_datagram arrival parsed (.inr type)
        obtain ⟨_, _, _, _, _, _, _, _, _, parsed', carries⟩ := flight_carries inFlight
        rw [parsed'] at parsed
        cases parsed
        refine ⟨p.origin, carries.sender.trans (service_selfUsername _ _), ?_⟩
        simp [endpoint, makeUnicastDest, reaches.srcFamily, reaches.src]
  · rw [session_snoc_ne mine] at after
    exact ih i k s after

/-- A CHAT in flight was sent in a session that is still active. -/
theorem chat_active {n : Nat} {p : Datagram ι} {msg : SecpMessage}
    (inFlight : (C.flight run)[n]? = some p) (parsed : parseSecpLine p.bytes = some msg)
    (chat : msg.type = .Chat) :
    ∃ s, C.session run p.origin msg.room = some s ∧ s.state = .Active ∧ s.peerAddr = p.dest := by
  obtain ⟨pre, a, post, msg', s, rfl, origin, -, -, parsed', carries⟩ := flight_carries inFlight
  rw [parsed'] at parsed
  cases parsed
  rcases carries.kind with ⟨-, invite, -⟩ | ⟨active, -⟩
  · rw [invite] at chat
    exact SecpType.noConfusion chat
  · have still : C.session ((pre ++ [a]) ++ post) p.origin msg.room = some s :=
      session_active carries.found active post
    rw [List.append_assoc, List.singleton_append] at still
    exact ⟨s, still, active, carries.dest.symm⟩

/-- The peer `j` of the session `s` of client `i` accepted it and holds it bound back. -/
def AnsweredBy (C : Clients ι) (run : List (Act ι DirectOp)) (i : ι) (sid : Bytes) (s : Session)
    (j : ι) : Prop :=
  C.BoundTo s j ∧ C.Accepted run j sid ∧
    ∃ s', C.session run j sid = some s' ∧ s'.state = .Active ∧ C.BoundTo s' i

theorem AnsweredBy.extend (h : C.AnsweredBy run i sid s j) (more : List (Act ι DirectOp)) :
    C.AnsweredBy (run ++ more) i sid s j := by
  obtain ⟨bound, accepted, s', found, active, back⟩ := h
  exact ⟨bound, accepted.extend more, s', session_active found active more, active, back⟩

/-- An active session was accepted by its owner or by its peer. -/
def ActiveAccepted (C : Clients ι) (run : List (Act ι DirectOp)) : Prop :=
  ∀ i sid s, C.session run i sid = some s → s.state = .Active →
    C.Accepted run i sid ∨ ∃ j, C.AnsweredBy run i sid s j

theorem ActiveAccepted.extend (h : C.ActiveAccepted run) (found : C.session run i sid = some s)
    (active : s.state = .Active) (more : List (Act ι DirectOp)) :
    C.Accepted (run ++ more) i sid ∨ ∃ j, C.AnsweredBy (run ++ more) i sid s j := by
  rcases h i sid s found active with accepted | ⟨j, answered⟩
  · exact .inl (accepted.extend more)
  · exact .inr ⟨j, answered.extend more⟩

/-- A CHAT that activates a session was sent by a client that accepted it. -/
theorem activated_by_peer (legal : C.network.machine.Along C.Legal run)
    (ih : C.ActiveAccepted run) {bytes : Bytes} {src : SockaddrIn} {t₁ t₂ : Int} {n : Nat}
    {msg : SecpMessage} (step : C.network.Legal (C.network.machine.exec run)
      ⟨i, .received bytes src t₁ t₂, n⟩)
    (before : C.session run i msg.room = some s) (pending : s.state = .OutgoingPending)
    (parsed : parseSecpLine bytes = some msg) (type : msg.type = .Chat)
    (endpoint : sameEndpoint s.peerAddr (makeUnicastDest src kUdpPort) = true) :
    ∃ j s', C.BoundTo s j ∧ C.Accepted run j msg.room ∧ C.session run j msg.room = some s' ∧
      s'.state = .Active ∧ C.BoundTo s' i := by
  obtain ⟨p, inFlight, rfl, reaches⟩ := exists_datagram step parsed (.inl type)
  obtain ⟨s', found, active, dest⟩ := chat_active inFlight parsed type
  obtain ⟨j, bound⟩ := session_boundTo legal i _ s before
  obtain ⟨l, bound'⟩ := session_boundTo legal p.origin _ s' found
  -- the datagram came from the client this session is with, and its session is with us
  have ours : j = p.origin := bound.eq_of_ip (by
    rw [sameEndpoint_iff.1 endpoint]
    exact reaches.src)
  have theirs : l = i := bound'.eq_of_ip (by rw [dest, reaches.dest])
  subst ours theirs
  refine ⟨p.origin, s', bound, ?_, found, active, bound'⟩
  rcases ih p.origin _ s' found active with accepted | ⟨l', back⟩
  · exact accepted
  · -- our own session would have to be active already
    obtain ⟨bound'', -, s'', found'', active'', -⟩ := back
    have same : l' = l := bound''.eq_of_ip (by rw [bound'.peerAddr]; rfl)
    subst same
    rw [before] at found''
    cases found''
    rw [pending] at active''
    exact DirectSessionState.noConfusion active''

/-- **An active session was accepted**, by its owner or by its peer. -/
theorem active_accepted (legal : C.network.machine.Along C.Legal run) : C.ActiveAccepted run := by
  refine C.network.machine.history_induct (I := C.ActiveAccepted)
    ?_ (fun run a legal step ih i sid s after active => ?_) run legal
  · intro i sid s h
    simp [session, service, network, Network.machine, directMachine,
      DirectMessageService.init] at h
  obtain ⟨party, op, n⟩ := a
  by_cases mine : party = i
  swap
  · rw [session_snoc_ne mine] at after
    exact ih.extend after active _
  subst mine
  have m := session_move C run ⟨party, op, n⟩ sid
  simp only at m
  cases before : C.session run party sid with
  | none =>
    rw [before, after] at m
    cases m <;> simp at active
  | some s₀ =>
    cases state : s₀.state with
    | Active =>
      have same := session_active before state [⟨party, op, n⟩]
      rw [after] at same
      cases same
      exact ih.extend before active _
    | IncomingPending =>
      have stepped : ((C.service run party).step op).sessions[sid]? = some s := by
        rw [← service_snoc run ⟨party, op, n⟩]
        exact after
      obtain ⟨now, room, rfl, key, accepted⟩ := DirectMessageService.accepted_of_answered
        before state stepped (by simp [active])
      exact .inl ⟨run, now, room, n, [], rfl, key, accepted⟩
    | OutgoingPending =>
      rw [before, after] at m
      cases m with
      | keep => simp [state] at active
      | resend => simp [state] at active
      | accept _ pending => simp [state] at pending
      | activate parsed type key endpoint named _ =>
        subst key
        obtain ⟨j, s', bound, accepted, found, active', back⟩ :=
          activated_by_peer legal ih step.1 before state parsed type endpoint
        exact .inr ⟨j, bound.trans ⟨rfl, rfl, rfl⟩, accepted.extend _, s',
          session_active found active' _, active', back⟩

/-- A client does not accept a session of its own making, as long as that exists. -/
theorem not_accepted {pre post : List (Act ι DirectOp)} {c : Act ι DirectOp}
    (outgoing : ∀ now room, c.act ≠ .acceptInvite now room)
    (fresh : C.session pre i sid = none) (start : Answered sid (C.service (pre ++ [c]) i))
    (since : C.network.machine.Since (fun g => HasSession sid (g.node i)) (pre ++ [c]) post) :
    ¬ C.Accepted (pre ++ c :: post) i sid := by
  intro h
  obtain ⟨p, now, room, n, q, split, key, accepted⟩ := h
  obtain ⟨s, found, pending, active⟩ := DirectMessageService.acceptInvite_accepted _ accepted
  rw [key] at found active
  rcases split_two split with ⟨-, event, -⟩ | ⟨mid, rfl, rfl⟩ | ⟨mid, rfl, -⟩
  · exact outgoing now room (by rw [← event])
  · -- accepted later: the session was not waiting for an answer
    obtain ⟨s', found', answered⟩ := inState_since Move.answered start since.front
    rw [List.append_assoc, List.singleton_append] at found'
    rw [found] at found'
    cases found'
    exact answered pending
  · -- accepted before: the session would still be there
    have stepped : C.session (p ++ [⟨i, .acceptInvite now room, n⟩]) i sid =
        some { s with state := .Active, lastUpdate := now } := by
      rw [session, service_snoc p ⟨i, .acceptInvite now room, n⟩]
      exact active
    have still := session_active stepped rfl mid
    rw [List.append_assoc, List.singleton_append, fresh] at still
    cases still

/-- **Agreement on private sessions.** -/
theorem private_sessions_agree (C : Clients ι) (A B : ι) (users : UserDirectory)
    (draw : Fin 0x1000000) (now : Int) (sent : Bool) (target : Bytes) (n : Nat)
    (pre post : List (Act ι DirectOp)) (s : Session)
    (legal : C.network.machine.Along C.Legal
      (pre ++ ⟨A, .inviteUser users draw now sent target, n⟩ :: post))
    (invited : trimInPlace target = C.username B)
    (fresh : C.session pre A (makeSessionId draw) = none)
    (since : C.network.machine.Since (fun g => HasSession (makeSessionId draw) (g.node A))
      (pre ++ [⟨A, .inviteUser users draw now sent target, n⟩]) post)
    (found : C.session (pre ++ ⟨A, .inviteUser users draw now sent target, n⟩ :: post) A
      (makeSessionId draw) = some s)
    (active : s.state = .Active) :
    let run := pre ++ ⟨A, .inviteUser users draw now sent target, n⟩ :: post
    (∃ p t room m q, run = p ++ ⟨B, .acceptInvite t room, m⟩ :: q ∧
      trimInPlace room = makeSessionId draw ∧ ((C.service p B).acceptInvite t room).value = true) ∧
    s.peerUsername = C.username B ∧ s.peerAddr = ⟨AF_INET, 50000, C.ip B⟩ ∧
    ∃ s', C.session run B (makeSessionId draw) = some s' ∧ s'.state = .Active ∧
      s'.peerUsername = C.username A ∧ s'.peerAddr = ⟨AF_INET, 50000, C.ip A⟩ ∧
      ∀ more, C.session (run ++ more) A (makeSessionId draw) = some s ∧
        C.session (run ++ more) B (makeSessionId draw) = some s' := by
  intro run
  obtain ⟨s₀, created⟩ := since.start.exists
  have m := session_move C pre ⟨A, .inviteUser users draw now sent target, n⟩ (makeSessionId draw)
  rw [fresh, session, show (C.service _ A).sessions[makeSessionId draw]? = some s₀ from created] at m
  have outgoing : s₀.state = .OutgoingPending ∧ s₀.peerUsername = C.username B := by
    cases m with
    | invite => exact ⟨rfl, invited⟩
  have start : Answered (makeSessionId draw)
      (C.service (pre ++ [⟨A, .inviteUser users draw now sent target, n⟩]) A) :=
    ⟨s₀, created, by simp [outgoing.1]⟩
  have binding : s.peerUsername = C.username B := by
    obtain ⟨s', last, binding⟩ := session_since created since
    rw [List.append_assoc, List.singleton_append, found] at last
    cases last
    exact binding.peerUsername.trans outgoing.2
  have unaccepted : ¬ C.Accepted run A (makeSessionId draw) :=
    not_accepted (by simp) fresh start since
  rcases active_accepted legal A _ s found active with accepted | ⟨j, bound, accepted, s', back⟩
  · exact (unaccepted accepted).elim
  · have peer : j = B := C.username_injective (bound.peerUsername.symm.trans binding)
    subst peer
    obtain ⟨found', active', bound'⟩ := back
    exact ⟨accepted, binding, bound.peerAddr, s', found', active', bound'.peerUsername,
      bound'.peerAddr, fun more => ⟨session_active found active more,
        session_active found' active' more⟩⟩

/-- alice invites bob, who accepts and writes: bob has accepted. -/
theorem private_sessions_agree_alice_bob :
    let post : List (Act Bool DirectOp) :=
      [⟨true, .received (lit "INVITE|00002a|alice|CLOSED;to=bob\n") (aliceAndBob.endpoint false) 2 3,
          0⟩,
        ⟨true, .acceptInvite 4 (lit "00002a"), 0⟩,
        ⟨true, .sendPrivateChat true (lit "00002a") (lit "hei"), 0⟩,
        ⟨false, .received (lit "CHAT|00002a|bob|hei\n") (aliceAndBob.endpoint true) 5 6, 1⟩]
    let run := ⟨false, .inviteUser bobKnown 42 1 true (lit "bob"), 0⟩ :: post
    aliceAndBob.network.machine.Along aliceAndBob.Legal run ∧
      ∃ s', aliceAndBob.session run true (makeSessionId 42) = some s' ∧ s'.state = .Active := by
  intro post run
  have legal : aliceAndBob.network.machine.Along aliceAndBob.Legal run := by
    refine ⟨⟨trivial, bobKnown_faithful _ _ _ _⟩, ⟨.inr ?_, trivial⟩, ⟨trivial, trivial⟩,
      ⟨trivial, trivial⟩, ⟨.inr ?_, trivial⟩, trivial⟩
    · exact ⟨⟨false, aliceAndBob.endpoint true, lit "INVITE|00002a|alice|CLOSED;to=bob\n"⟩,
        by decide +kernel, rfl, ⟨rfl, rfl, rfl, rfl⟩⟩
    · exact ⟨⟨true, aliceAndBob.endpoint false, lit "CHAT|00002a|bob|hei\n"⟩,
        by decide +kernel, rfl, ⟨rfl, rfl, rfl, rfl⟩⟩
  let s : Session := ⟨.Active, makeSessionId 42, lit "bob", aliceAndBob.endpoint true, 1, 1, 5⟩
  have found : aliceAndBob.session ([] ++ run) false (makeSessionId 42) = some s := by
    decide +kernel
  have agree := private_sessions_agree aliceAndBob false true bobKnown 42 1 true (lit "bob") 0 []
    post s legal (by decide +kernel) (by decide +kernel) (by decide +kernel) found rfl
  obtain ⟨-, -, -, s', found', active', -⟩ := agree
  exact ⟨legal, s', found', active'⟩

end SecpChat.Clients
