import SecpChat.System.Invitations

/-!
# Delivery after acceptance

There is no ACCEPT datagram: the inviter learns of an acceptance from the first CHAT,
while its own heartbeat ages the pending session. A CHAT of the invitee that arrives is
delivered as long as the session the call opened still exists, and only the heartbeat
removes that.
-/

namespace SecpChat.Clients

open Runs

variable {ι : Type*} [DecidableEq ι]

/-- The heartbeat thread: `prune_pending(30s)`, `resend_outgoing_pending(6s, 45s)`. -/
def Heartbeat : DirectOp → Prop
  | .prunePending maxAge _ => maxAge = seconds 30
  | .resendOutgoingPending minInterval maxAge _ _ => minInterval = seconds 6 ∧ maxAge = seconds 45
  | _ => True

/-- A step allowed by the network, in which heartbeats have the parameters of `main`. -/
def Timed (C : Clients ι) (g : Global ι DirectMessageService (Datagram ι)) (a : Act ι DirectOp) :
    Prop :=
  C.network.Legal g a ∧ Heartbeat a.act

/-- In the step `x` after `p`, a heartbeat of `A` removes its pending session `sid`: it was
last sent more than 30 s ago, or opened more than 45 s ago. -/
def Expires (C : Clients ι) (p : List (Act ι DirectOp)) (x : Act ι DirectOp) (A : ι) (sid : Bytes) :
    Prop :=
  ∃ s, x.party = A ∧ C.session p A sid = some s ∧ s.state = .OutgoingPending ∧
    C.session (p ++ [x]) A sid = none ∧
    ((∃ now, x.act = .prunePending (seconds 30) now ∧ now - s.lastUpdate > seconds 30) ∨
      ∃ now sent, x.act = .resendOutgoingPending (seconds 6) (seconds 45) now sent ∧
        now - s.createdAt > seconds 45)

variable {C : Clients ι} {A B : ι} {sid : Bytes} {s₀ : Session}
  {r₀ r₁ p : List (Act ι DirectOp)} {c a : Act ι DirectOp}

/-- A call that reached `B` opened a session with `B`. -/
theorem presents_boundTo (opened : C.session (r₀ ++ [c]) c.party sid = some s₀)
    (room : sid ≠ []) (dash : sid ≠ lit "-") (legal : C.network.Legal (C.network.machine.exec p) a)
    (h : C.Presents r₀ c r₁ p a B sid) : C.BoundTo s₀ B := by
  obtain ⟨target, -⟩ := (presents_iff opened room dash h.2).1 h
  obtain ⟨-, d, takes, ofCall⟩ := h
  obtain ⟨parsed, dest⟩ := ofCall_invite opened ofCall
  obtain ⟨src, t₁, t₂, received⟩ := takes.received
  obtain ⟨party, act, n⟩ := a
  simp only at received
  subst received
  obtain ⟨d', inFlight, -, reaches⟩ := exists_datagram legal parsed (.inr rfl)
  obtain rfl : d' = d := Option.some.inj (inFlight.symm.trans takes.carried)
  refine ⟨target, ?_⟩
  have port := (session_bound opened).port
  have addr := reaches.dest
  have family := reaches.family
  have party : party = B := takes.party
  rw [dest] at addr family
  rw [party] at addr
  rw [endpoint, ← addr, ← family, ← port]

/-- A pending session that is removed was removed by a heartbeat that found it too old. -/
theorem expires_of_move {s : Session} {op : DirectOp} {k self : Bytes} (heartbeat : Heartbeat op)
    (m : Move self k op (some s) none) (outgoing : s.state ≠ .IncomingPending) :
    s.state = .OutgoingPending ∧
      ((∃ now, op = .prunePending (seconds 30) now ∧ now - s.lastUpdate > seconds 30) ∨
        ∃ now sent, op = .resendOutgoingPending (seconds 6) (seconds 45) now sent ∧
          now - s.createdAt > seconds 45) := by
  cases m with
  | decline key pending => exact (outgoing pending).elim
  | @prune maxAge now s pending stale =>
    obtain rfl : maxAge = seconds 30 := heartbeat
    refine ⟨?_, .inl ⟨now, rfl, stale⟩⟩
    cases state : s.state with
    | OutgoingPending => rfl
    | IncomingPending => exact (outgoing state).elim
    | Active => exact (pending state).elim
  | @expire minInterval maxAge now sent s pending old =>
    obtain ⟨rfl, rfl⟩ : minInterval = seconds 6 ∧ maxAge = seconds 45 := heartbeat
    exact ⟨pending, .inr ⟨now, sent, rfl, old⟩⟩

/-- A CHAT of the peer is delivered while the session that an invitation opened exists. -/
theorem chat_delivered {text line : Bytes} {src : SockaddrIn} {t₁ t₂ : Int}
    (opened : C.session (r₀ ++ [c]) A sid = some s₀) (outgoing : s₀.state = .OutgoingPending)
    (bound : C.BoundTo s₀ B)
    (since : C.network.machine.Since (fun g => HasSession sid (g.node A)) (r₀ ++ [c]) r₁)
    (room : sid ≠ [] ∧ sid ≠ lit "-") (nonempty : text ≠ [])
    (parsed : parseSecpLine line = some ⟨.Chat, sid, C.username B, text⟩)
    (source : makeUnicastDest src kUdpPort = C.endpoint B) :
    .privateMessage sid (C.username B) text ∈
      (C.service (r₀ ++ c :: r₁) A).effects (.received line src t₁ t₂) := by
  have pending : Answered sid (C.service (r₀ ++ [c]) A) := ⟨s₀, opened, by simp [outgoing]⟩
  obtain ⟨s, found, binding⟩ := session_since opened since
  obtain ⟨s', found', answered⟩ := inState_since Move.answered pending since
  obtain rfl : s' = s := Option.some.inj (found'.symm.trans found)
  rw [List.append_assoc, List.singleton_append] at found
  have still : C.BoundTo s' B := bound.trans binding
  have nameless : C.username B ≠ [] := by
    rw [← bound.peerUsername]
    exact (session_bound opened).named
  rw [DirectMessageService.effects, DirectMessageService.received_chat _ parsed rfl,
    DirectMessageService.mem_onRoomChat]
  refine ⟨s', found, ⟨rfl, ?_, ?_, fun _ => still.peerUsername.symm, answered⟩, ?_⟩
  · simp [room, nameless, nonempty]
  · rw [still.peerAddr, source]
  · simp [still.peerUsername, nameless]

/-- The session that an invitation opened is lost only to a heartbeat of its client. -/
theorem expired (opened : C.session (r₀ ++ [c]) A sid = some s₀)
    (outgoing : s₀.state = .OutgoingPending)
    (timed : C.network.machine.Along C.Timed (r₀ ++ c :: r₁))
    (lost : ¬ C.network.machine.Since (fun g => HasSession sid (g.node A)) (r₀ ++ [c]) r₁) :
    ∃ mid x rest, r₁ = mid ++ x :: rest ∧ C.Expires (r₀ ++ c :: mid) x A sid := by
  have pending : Answered sid (C.service (r₀ ++ [c]) A) := ⟨s₀, opened, by simp [outgoing]⟩
  obtain ⟨mid, x, rest, s, rfl, party, since, found, gone, move⟩ :=
    exists_fall (by simp [opened]) lost
  obtain ⟨s', found', answered⟩ := inState_since Move.answered pending since
  obtain rfl : s' = s := Option.some.inj (found'.symm.trans found)
  have heartbeat : Heartbeat x.act := by
    have split : r₀ ++ c :: (mid ++ x :: rest) = (r₀ ++ c :: mid) ++ x :: rest := by simp
    rw [split] at timed
    exact (Machine.Along.at _ timed).2
  obtain ⟨waiting, old⟩ := expires_of_move heartbeat move answered
  simp only [List.append_assoc, List.cons_append, List.nil_append] at found gone
  exact ⟨mid, x, rest, rfl, s', party, found, waiting, by simpa using gone, old⟩

/-- **A CHAT of the invitee is delivered unless the inviter's heartbeat was faster.** That
the invitee accepted is implied by its having sent the CHAT. -/
theorem chat_delivered_unless_expired (C : Clients ι) (A B : ι) (users : UserDirectory)
    (draw : Fin 0x1000000) (now t₁ t₂ : Int) (sent : Bool) (target sid sid' text line : Bytes)
    (src dest : SockaddrIn) (n m l : Nat) (r₀ r₁ p q u v : List (Act ι DirectOp))
    (a : Act ι DirectOp)
    (legal : C.network.machine.Along C.Timed
      (r₀ ++ ⟨A, .inviteUser users draw now sent target, n⟩ :: r₁ ++
        [⟨A, .received line src t₁ t₂, l⟩]))
    (called : ((C.service r₀ A).inviteUser users draw now sent target).value = some sid)
    (reached : r₀ ++ ⟨A, .inviteUser users draw now sent target, n⟩ :: r₁ = p ++ a :: q)
    (presented : C.Presents r₀ ⟨A, .inviteUser users draw now sent target, n⟩ r₁ p a B sid)
    (_wrote : r₀ ++ ⟨A, .inviteUser users draw now sent target, n⟩ :: r₁ =
      u ++ ⟨B, .sendPrivateChat true sid' text, m⟩ :: v)
    (session : trimInPlace sid' = sid)
    (posted : .sendTo dest line true ∈ (C.service u B).effects (.sendPrivateChat true sid' text)) :
    .privateMessage sid (C.username B) (trimInPlace text) ∈
        (C.service (r₀ ++ ⟨A, .inviteUser users draw now sent target, n⟩ :: r₁) A).effects
          (.received line src t₁ t₂) ∨
      ∃ mid x rest, r₁ = mid ++ x :: rest ∧
        C.Expires (r₀ ++ ⟨A, .inviteUser users draw now sent target, n⟩ :: mid) x A sid := by
  obtain ⟨key, -, s₀, opened, outgoing, -⟩ := session_opened (n := n) called
  obtain ⟨before, arrival, -⟩ := (C.network.machine.along_snoc _ _).1 legal
  have reception : C.network.Legal (C.network.machine.exec p) a := by
    rw [reached] at before
    exact (Machine.Along.at _ before).1
  have room : sid ≠ [] := by
    rw [key]
    simp [makeSessionId]
  have dash : sid ≠ lit "-" := key ▸ makeSessionId_ne_dash draw
  have bound := presents_boundTo opened room dash reception presented
  obtain ⟨nonempty, parsed, -⟩ := DirectMessageService.sendPrivateChat_sends posted
  rw [session, service_selfUsername] at parsed
  -- the datagram that arrives was sent by `B`
  obtain ⟨d, inFlight, rfl, reaches⟩ := exists_datagram arrival parsed (.inl rfl)
  obtain ⟨_, _, _, msg, _, _, _, _, _, parsed', carries⟩ := flight_carries inFlight
  obtain rfl := Option.some.inj (parsed.symm.trans parsed')
  have origin : B = d.origin :=
    C.username_injective (carries.sender.trans (service_selfUsername _ _))
  by_cases since : C.network.machine.Since (fun g => HasSession sid (g.node A))
    (r₀ ++ [⟨A, .inviteUser users draw now sent target, n⟩]) r₁
  · left
    refine chat_delivered opened outgoing bound since ⟨room, dash⟩ nonempty parsed ?_
    rw [endpoint, makeUnicastDest, reaches.srcFamily, reaches.src, origin]
  · exact .inr (expired opened outgoing before since)

/-- alice invites bob, who accepts and writes at once. -/
theorem chat_delivered_unless_expired_alice_bob :
    let invite := lit "INVITE|00002a|alice|CLOSED;to=bob\n"
    let chat := lit "CHAT|00002a|bob|hei\n"
    let c : Act Bool DirectOp := ⟨false, .inviteUser bobKnown 42 (seconds 1) true (lit "bob"), 0⟩
    let asked : Act Bool DirectOp :=
      ⟨true, .received invite (aliceAndBob.endpoint false) (seconds 2) (seconds 2), 0⟩
    let r₁ := [asked, ⟨true, .acceptInvite (seconds 3) (lit "00002a"), 0⟩,
      ⟨true, .sendPrivateChat true (lit "00002a") (lit "hei "), 0⟩]
    let arrives : Act Bool DirectOp :=
      ⟨false, .received chat (aliceAndBob.endpoint true) (seconds 4) (seconds 4), 1⟩
    aliceAndBob.network.machine.Along aliceAndBob.Timed (c :: r₁ ++ [arrives]) ∧
      (.privateMessage (lit "00002a") (lit "bob") (lit "hei") ∈
          (aliceAndBob.service (c :: r₁) false).effects arrives.act ∨
        ∃ mid x rest, r₁ = mid ++ x :: rest ∧
          aliceAndBob.Expires ([] ++ c :: mid) x false (lit "00002a")) := by
  intro invite chat c asked r₁ arrives
  have asks : aliceAndBob.Reaches ⟨false, aliceAndBob.endpoint true, invite⟩ true
      (aliceAndBob.endpoint false) := ⟨rfl, rfl, rfl, rfl⟩
  have answers : aliceAndBob.Reaches ⟨true, aliceAndBob.endpoint false, chat⟩ false
      (aliceAndBob.endpoint true) := ⟨rfl, rfl, rfl, rfl⟩
  have legal : aliceAndBob.network.machine.Along aliceAndBob.Timed (c :: r₁ ++ [arrives]) := by
    refine ⟨⟨trivial, trivial⟩, ⟨.inr ⟨_, ?_, rfl, asks⟩, trivial⟩, ⟨trivial, trivial⟩,
      ⟨trivial, trivial⟩, ⟨.inr ⟨_, ?_, rfl, answers⟩, trivial⟩, trivial⟩
    · decide +kernel
    · decide +kernel
  have parsed : parseSecpLine invite =
      some ⟨.Invite, lit "00002a", lit "alice", lit "CLOSED;to=bob"⟩ := by decide +kernel
  have presented : aliceAndBob.Presents [] c r₁ [c] asked true (lit "00002a") :=
    ⟨.inl ⟨by decide +kernel, by decide +kernel⟩, ⟨false, aliceAndBob.endpoint true, invite⟩,
      ⟨rfl, ⟨_, _, _, rfl⟩, by decide +kernel⟩,
      [], List.nil_prefix, by decide +kernel, by decide +kernel, by decide +kernel, rfl, _, parsed,
      rfl, rfl⟩
  have trimmed : trimInPlace (lit "hei ") = lit "hei" := by decide +kernel
  refine ⟨legal, ?_⟩
  rw [← trimmed]
  exact chat_delivered_unless_expired aliceAndBob false true bobKnown 42 (seconds 1) (seconds 4)
    (seconds 4) true (lit "bob") (lit "00002a") (lit "00002a") (lit "hei ") chat
    (aliceAndBob.endpoint true) (aliceAndBob.endpoint false) 0 0 1 [] r₁ [c] _
    [c, asked, ⟨true, .acceptInvite (seconds 3) (lit "00002a"), 0⟩] [] asked legal
    (by decide +kernel) rfl presented rfl (by decide +kernel) (by decide +kernel)

/-- bob accepts after three seconds and writes after fifty; alice's heartbeat has by then
resent the invitation four times and dropped her session, and with it bob's message. -/
theorem accepted_chat_lost :
    let invite := lit "INVITE|00002a|alice|CLOSED;to=bob\n"
    let chat := lit "CHAT|00002a|bob|hei\n"
    let beat (t : Int) : List (Act Bool DirectOp) :=
      [⟨false, .prunePending (seconds 30) (seconds t), 0⟩,
        ⟨false, .resendOutgoingPending (seconds 6) (seconds 45) (seconds t) fun _ => true, 0⟩]
    let asked : List (Act Bool DirectOp) :=
      [⟨false, .inviteUser bobKnown 42 (seconds 1) true (lit "bob"), 0⟩,
        ⟨true, .received invite (aliceAndBob.endpoint false) (seconds 2) (seconds 2), 0⟩]
    let waited := asked ++ ⟨true, .acceptInvite (seconds 3) (lit "00002a"), 0⟩ ::
      (beat 10 ++ beat 20 ++ beat 30 ++ beat 40 ++ beat 50)
    let wrote := waited ++ [⟨true, .sendPrivateChat true (lit "00002a") (lit "hei"), 0⟩]
    let arrives : Act Bool DirectOp :=
      ⟨false, .received chat (aliceAndBob.endpoint true) (seconds 51) (seconds 51), 5⟩
    aliceAndBob.network.machine.Along (fun g a => aliceAndBob.Legal g a ∧ Heartbeat a.act)
        (wrote ++ [arrives]) ∧
      ((aliceAndBob.service [] false).inviteUser bobKnown 42 (seconds 1) true (lit "bob")).value =
        some (lit "00002a") ∧
      ((aliceAndBob.service asked true).acceptInvite (seconds 3) (lit "00002a")).value = true ∧
      ((aliceAndBob.service waited true).sendPrivateChat true (lit "00002a") (lit "hei")).value =
        true ∧
      (aliceAndBob.flight wrote)[5]? = some ⟨true, aliceAndBob.endpoint false, chat⟩ ∧
      (aliceAndBob.service wrote false).effects arrives.act = [] := by
  intro invite chat beat asked waited wrote arrives
  have asks : aliceAndBob.Reaches ⟨false, aliceAndBob.endpoint true, invite⟩ true
      (aliceAndBob.endpoint false) := ⟨rfl, rfl, rfl, rfl⟩
  have answers : aliceAndBob.Reaches ⟨true, aliceAndBob.endpoint false, chat⟩ false
      (aliceAndBob.endpoint true) := ⟨rfl, rfl, rfl, rfl⟩
  refine ⟨?_, by decide +kernel, by decide +kernel, by decide +kernel, by decide +kernel,
    by decide +kernel⟩
  have free : ∀ {g : Global Bool DirectMessageService (Datagram Bool)} {i : Bool} {t : Int}
      {n : Nat}, aliceAndBob.Legal g ⟨i, .prunePending (seconds 30) t, n⟩ ∧
        Heartbeat (.prunePending (seconds 30) t) :=
    ⟨⟨trivial, trivial⟩, rfl⟩
  have resent : ∀ {g : Global Bool DirectMessageService (Datagram Bool)} {i : Bool} {t : Int}
      {n : Nat} {sent : Bytes → Bool},
      aliceAndBob.Legal g ⟨i, .resendOutgoingPending (seconds 6) (seconds 45) t sent, n⟩ ∧
        Heartbeat (.resendOutgoingPending (seconds 6) (seconds 45) t sent) :=
    ⟨⟨trivial, trivial⟩, rfl, rfl⟩
  refine ⟨⟨⟨trivial, bobKnown_faithful _ _ _ _⟩, trivial⟩,
    ⟨⟨.inr ⟨_, ?_, rfl, asks⟩, trivial⟩, trivial⟩, ⟨⟨trivial, trivial⟩, trivial⟩,
    free, resent, free, resent, free, resent, free, resent, free, resent,
    ⟨⟨trivial, trivial⟩, trivial⟩, ⟨⟨.inr ⟨_, ?_, rfl, answers⟩, trivial⟩, trivial⟩, trivial⟩
  · decide +kernel
  · decide +kernel

end SecpChat.Clients
