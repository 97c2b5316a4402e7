import SecpChat.System.PrivateNet

/-!
# The datagrams of one invitation

`OfCall` attributes INVITE datagrams to a call of `invite_user`: those sent by the call
and by the retransmissions made while the session it opened has existed. `ofCall_invite`
says what they are, and `presented_at_most_once_iff` when the invitee opens a session
for them a second time: the only record of an invitation is the session itself, so a
session that is declined or pruned away no longer keeps a later copy out.
-/

namespace SecpChat.Clients

open Runs

variable {ι : Type*} [DecidableEq ι]

section Definitions

variable (C : Clients ι)

/-- Datagram number `m` is `d`, an INVITE of the call `c` made after `r₀` and before `r₁`. -/
def OfCall (r₀ : List (Act ι DirectOp)) (c : Act ι DirectOp) (r₁ : List (Act ι DirectOp))
    (sid : Bytes) (m : Nat) (d : Datagram ι) : Prop :=
  ∃ mid, mid <+: r₁ ∧
    C.network.machine.Since (fun g => HasSession sid (g.node c.party)) (r₀ ++ [c]) mid ∧
    (C.flight r₀).length ≤ m ∧ (C.flight (r₀ ++ c :: mid))[m]? = some d ∧ d.origin = c.party ∧
    ∃ msg, parseSecpLine d.bytes = some msg ∧ msg.type = .Invite ∧ msg.room = sid

/-- Client `B`, in the step `a` after the run `p`, receives the datagram `d`. -/
structure TakesIn (p : List (Act ι DirectOp)) (a : Act ι DirectOp) (B : ι) (d : Datagram ι) :
    Prop where
  party : a.party = B
  received : ∃ src t₁ t₂, a.act = .received d.bytes src t₁ t₂
  carried : (C.flight p)[a.packet]? = some d

/-- An INVITE of the call comes in at `B` in that step. -/
def Arrives (r₀ : List (Act ι DirectOp)) (c : Act ι DirectOp) (r₁ : List (Act ι DirectOp))
    (p : List (Act ι DirectOp)) (a : Act ι DirectOp) (B : ι) (sid : Bytes) : Prop :=
  ∃ d, C.TakesIn p a B d ∧ C.OfCall r₀ c r₁ sid a.packet d

/-- In that step a pending incoming session is created. -/
structure Creates (p : List (Act ι DirectOp)) (a : Act ι DirectOp) (B : ι) (sid : Bytes) :
    Prop where
  absent : C.session p B sid = none
  pending : (C.session (p ++ [a]) B sid).map Session.state = some .IncomingPending

/-- In that step `B` is told of an invitation of `user`. -/
def Announces (p : List (Act ι DirectOp)) (a : Act ι DirectOp) (B : ι) (user sid : Bytes) : Prop :=
  .status (invitationNotice user sid) ∈ (C.service p B).effects a.act

/-- `B` creates the session or announces the invitation, on receiving an INVITE of the call. -/
def Presents (r₀ : List (Act ι DirectOp)) (c : Act ι DirectOp) (r₁ : List (Act ι DirectOp))
    (p : List (Act ι DirectOp)) (a : Act ι DirectOp) (B : ι) (sid : Bytes) : Prop :=
  (C.Creates p a B sid ∨ C.Announces p a B (C.username c.party) sid) ∧ C.Arrives r₀ c r₁ p a B sid

/-- The call is presented at most once. -/
def PresentedAtMostOnce (r₀ : List (Act ι DirectOp)) (c : Act ι DirectOp)
    (r₁ : List (Act ι DirectOp)) (B : ι) (sid : Bytes) : Prop :=
  ∀ p a q p' a' q', r₀ ++ c :: r₁ = p ++ a :: q → r₀ ++ c :: r₁ = p' ++ a' :: q' →
    C.Presents r₀ c r₁ p a B sid → C.Presents r₀ c r₁ p' a' B sid → p = p'

/-- The operations that take the session `s` away from its invitee: `decline_invite` of it, and
`prune_pending` when it is too old. -/
def Dismisses (sid : Bytes) (s : Session) : DirectOp → Prop
  | .declineInvite room _ => trimInPlace room = sid ∧ s.state = .IncomingPending
  | .prunePending maxAge now => DirectMessageService.isStale maxAge now s = true
  | _ => False

/-- Once `B` has received an INVITE of the call without a session `sid`, and has later declined or
pruned the session, no other INVITE of the call comes in while it has no session `sid`. -/
def NoneAfterDismissal (r₀ : List (Act ι DirectOp)) (c : Act ι DirectOp)
    (r₁ : List (Act ι DirectOp)) (B : ι) (sid : Bytes) : Prop :=
  ∀ p a q x t b u s, r₀ ++ c :: r₁ = p ++ a :: (q ++ x :: (t ++ b :: u)) →
    C.Arrives r₀ c r₁ p a B sid → C.session p B sid = none →
    x.party = B → C.session (p ++ a :: q) B sid = some s → Dismisses sid s x.act →
    C.Arrives r₀ c r₁ (p ++ a :: (q ++ x :: t)) b B sid →
    C.session (p ++ a :: (q ++ x :: t)) B sid ≠ none

end Definitions

variable {C : Clients ι} {B : ι} {sid : Bytes} {s₀ : Session} {m : Nat} {d : Datagram ι}
  {r₀ r₁ p : List (Act ι DirectOp)} {c a : Act ι DirectOp}

/-- **The INVITEs of a call** carry its session, to the address that session is bound to. -/
theorem ofCall_invite (opened : C.session (r₀ ++ [c]) c.party sid = some s₀)
    (h : C.OfCall r₀ c r₁ sid m d) :
    parseSecpLine d.bytes = some ⟨.Invite, sid, C.username c.party, closedTo ++ s₀.peerUsername⟩ ∧
      d.dest = s₀.peerAddr := by
  obtain ⟨mid, -, since, lower, found, origin, msg, parsed, type, room⟩ := h
  obtain ⟨pre, x, post, msg', s, split, party, lower', upper, parsed', carries⟩ :=
    flight_carries found
  obtain rfl : msg' = msg := Option.some.inj (parsed'.symm.trans parsed)
  have binding : SameBinding s₀ s := by
    have atPost := carries.found
    rw [room] at atPost
    rcases split_two split with ⟨rfl, rfl, -⟩ | ⟨mid', rfl, rfl⟩ | ⟨mid', rfl, -⟩
    · rw [origin] at atPost
      rw [session, atPost] at opened
      cases opened
      exact .refl _
    · have front : C.network.machine.Since (fun g => HasSession sid (g.node c.party)) (r₀ ++ [c])
          (mid' ++ [x]) := by
        rw [List.append_cons mid'] at since
        exact since.front
      obtain ⟨s', found', binding⟩ := session_since opened front
      rw [session, ← origin] at found'
      simp only [List.append_assoc, List.cons_append, List.nil_append] at found' atPost
      rw [atPost] at found'
      cases found'
      exact binding
    · -- posted before the call: its number would be smaller
      have early : (C.flight (pre ++ [x])).length ≤ (C.flight (pre ++ x :: mid')).length := by
        have kept := C.network.flight_prefix (pre ++ [x]) mid'
        rw [List.append_assoc, List.singleton_append] at kept
        exact kept.length_le
      omega
  obtain ⟨mtype, mroom, muser, mpayload⟩ := msg'
  have username := carries.sender
  simp only at type room username
  rcases carries.kind with ⟨-, -, payload⟩ | ⟨-, chat⟩
  · rw [service_selfUsername, origin] at username
    simp only at payload
    refine ⟨?_, by rw [carries.dest, binding.peerAddr]⟩
    rw [parsed', type, room, username, payload, binding.peerUsername]
  · simp [type] at chat

/-- A successful call has opened its session. -/
theorem session_opened {A : ι} {users : UserDirectory} {draw : Fin 0x1000000} {now : Int}
    {sent : Bool} {target : Bytes} {n : Nat}
    (called : ((C.service r₀ A).inviteUser users draw now sent target).value = some sid) :
    sid = makeSessionId draw ∧ C.session r₀ A sid = none ∧
      ∃ s, C.session (r₀ ++ [⟨A, .inviteUser users draw now sent target, n⟩]) A sid = some s ∧
        s.state = .OutgoingPending ∧ s.peerUsername = trimInPlace target := by
  rw [session, session, service_snoc r₀ ⟨A, .inviteUser users draw now sent target, n⟩]
  exact DirectMessageService.inviteUser_opened _ called

/-- A session that is lost was taken away by an operation of its client. -/
theorem exists_fall {mid : List (Act ι DirectOp)} (start : C.session p B sid ≠ none)
    (gone : ¬ C.network.machine.Since (fun g => HasSession sid (g.node B)) p mid) :
    ∃ q x t s, mid = q ++ x :: t ∧ x.party = B ∧
      C.network.machine.Since (fun g => HasSession sid (g.node B)) p q ∧
      C.session (p ++ q) B sid = some s ∧ C.session (p ++ q ++ [x]) B sid = none ∧
      Move (C.username B) sid x.act (some s) none := by
  rcases Machine.since_or_fall (M := C.network.machine)
    (Q := fun g => HasSession sid (g.node B)) mid start with since | ⟨q, x, t, rfl, since, lost⟩
  · exact (gone since).elim
  have lost : C.session (p ++ q ++ [x]) B sid = none := not_hasSession.1 lost
  obtain ⟨s, found : C.session (p ++ q) B sid = some s⟩ := since.last.exists
  have party : x.party = B := by
    by_contra other
    rw [session_snoc_ne other, found] at lost
    cases lost
  have m := session_move C (p ++ q) x sid
  rw [party, found, lost] at m
  exact ⟨q, x, t, s, rfl, party, since, found, lost, m⟩

/-- **An INVITE of the call that arrives is taken exactly by the invitee, while it has no session
`sid`**. It then creates the session and says so, once. -/
theorem arrival_outcome (opened : C.session (r₀ ++ [c]) c.party sid = some s₀) (room : sid ≠ [])
    (dash : sid ≠ lit "-") (arrives : C.Arrives r₀ c r₁ p a B sid) :
    (s₀.peerUsername = C.username B ∧ C.session p B sid = none ∧ C.Creates p a B sid ∧
      (C.service p B).effects a.act = [.status (invitationNotice (C.username c.party) sid)]) ∨
    (¬ (s₀.peerUsername = C.username B ∧ C.session p B sid = none) ∧ ¬ C.Creates p a B sid ∧
      (C.service p B).effects a.act = []) := by
  obtain ⟨d, takes, ofCall⟩ := arrives
  obtain ⟨parsed, -⟩ := ofCall_invite opened ofCall
  obtain ⟨src, t₁, t₂, received⟩ := takes.received
  have named : C.username c.party ≠ [] := ne_nil_of_isUsernameOk (fieldsOk_of_parse parsed).username
  have performed := (C.service p B).received_invite parsed rfl src t₁ t₂
  have stepped : C.session (p ++ [a]) B sid =
      ((C.service p B).perform a.act).1.sessions[sid]? := by
    rw [session, ← takes.party, service_snoc]
    rfl
  rw [received, performed] at stepped
  rw [received, DirectMessageService.effects, performed]
  by_cases taken : s₀.peerUsername = C.username B ∧ C.session p B sid = none
  · obtain ⟨target, absent⟩ := taken
    have invite : (C.service p B).TakesInvite
        ⟨.Invite, sid, C.username c.party, closedTo ++ s₀.peerUsername⟩ :=
      ⟨rfl, room, dash, named, by rw [target, service_selfUsername], absent⟩
    rw [(C.service p B).onInvite_taken invite] at stepped ⊢
    rw [Std.ExtTreeMap.getElem?_insert_self] at stepped
    exact .inl ⟨target, absent, ⟨absent, by rw [stepped]; rfl⟩, rfl⟩
  · have untaken : ¬ (C.service p B).TakesInvite
        ⟨.Invite, sid, C.username c.party, closedTo ++ s₀.peerUsername⟩ := fun invite =>
      taken ⟨by simpa using List.append_cancel_left invite.payload, invite.free⟩
    rw [(C.service p B).onInvite_untaken untaken] at stepped ⊢
    refine .inr ⟨taken, fun creates => ?_, rfl⟩
    have absent := creates.absent
    rw [session] at absent
    have pending := creates.pending
    rw [stepped, absent] at pending
    cases pending

/-- It is presented exactly then. -/
theorem presents_iff (opened : C.session (r₀ ++ [c]) c.party sid = some s₀) (room : sid ≠ [])
    (dash : sid ≠ lit "-") (arrives : C.Arrives r₀ c r₁ p a B sid) :
    C.Presents r₀ c r₁ p a B sid ↔ s₀.peerUsername = C.username B ∧ C.session p B sid = none := by
  rcases arrival_outcome opened room dash arrives with
    ⟨target, absent, creates, -⟩ | ⟨untaken, nothing, quiet⟩
  · exact iff_of_true ⟨.inl creates, arrives⟩ ⟨target, absent⟩
  · refine iff_of_false (fun presents => ?_) untaken
    rcases presents.1 with creates | announces
    · exact nothing creates
    · rw [Announces, quiet] at announces
      cases announces

/-- Between two presentations the session was dismissed. -/
theorem no_second {q q' : List (Act ι DirectOp)} {a' : Act ι DirectOp}
    (none_after : C.NoneAfterDismissal r₀ c r₁ B sid)
    (split : r₀ ++ c :: r₁ = p ++ a :: (q ++ a' :: q'))
    (first : C.Arrives r₀ c r₁ p a B sid) (creates : C.Creates p a B sid)
    (second : C.Arrives r₀ c r₁ (p ++ a :: q) a' B sid)
    (absent : C.session (p ++ a :: q) B sid = none) : False := by
  obtain ⟨s, presented, pending⟩ := Option.map_eq_some_iff.1 creates.pending
  have gone : C.session (p ++ [a] ++ q) B sid = none := by
    rw [List.append_assoc, List.singleton_append]
    exact absent
  obtain ⟨mid, x, t, s', rfl, party, since, found, lost, m⟩ :=
    exists_fall (by simp [presented]) fun since => since.last gone
  have incoming : InState (· ≠ .OutgoingPending) sid (C.service (p ++ [a]) B) :=
    ⟨s, presented, by simp [pending]⟩
  obtain ⟨s'', found', notOutgoing⟩ := inState_since Move.not_outgoing incoming since
  obtain rfl : s'' = s' := Option.some.inj (found'.symm.trans found)
  have dismisses : Dismisses sid s'' x.act := by
    generalize x.act = op at m
    cases m with
    | decline key pending => exact ⟨key, pending⟩
    | prune notActive stale => exact DirectMessageService.isStale_iff.2 ⟨notActive, stale⟩
    | expire outgoing => exact (notOutgoing outgoing).elim
  simp only [List.append_assoc, List.cons_append, List.nil_append] at found split second absent
  exact none_after p a mid x t a' q' s'' split first creates.absent party found dismisses second
    absent

/-- **An invitation is presented at most once exactly when no copy of it reaches the invitee after
its dismissal.** The session is created and announced in one step, and no other INVITE of the call
announces anything. -/
theorem presented_at_most_once_iff (C : Clients ι) (A B : ι) (users : UserDirectory)
    (draw : Fin 0x1000000) (now : Int) (sent : Bool) (target sid : Bytes) (n : Nat)
    (r₀ r₁ : List (Act ι DirectOp))
    (called : ((C.service r₀ A).inviteUser users draw now sent target).value = some sid) :
    let c : Act ι DirectOp := ⟨A, .inviteUser users draw now sent target, n⟩
    (C.PresentedAtMostOnce r₀ c r₁ B sid ↔
      (trimInPlace target = C.username B → C.NoneAfterDismissal r₀ c r₁ B sid)) ∧
    ∀ p a, C.Arrives r₀ c r₁ p a B sid →
      (C.Creates p a B sid ∧
        (C.service p B).effects a.act = [.status (invitationNotice (C.username A) sid)]) ∨
      (¬ C.Creates p a B sid ∧ (C.service p B).effects a.act = []) := by
  intro c
  obtain ⟨rfl, -, s₀, opened, -, peer⟩ := session_opened (n := n) called
  have room : makeSessionId draw ≠ [] := by simp [makeSessionId]
  have dash := makeSessionId_ne_dash draw
  refine ⟨⟨fun once invited p a q x t b u s split first absent _ _ _ second gone => ?_,
    fun none_after p a q p' a' q' split split' first second => ?_⟩, fun p a arrives => ?_⟩
  · have firstPresents := (presents_iff opened room dash first).2 ⟨peer.trans invited, absent⟩
    have secondPresents := (presents_iff opened room dash second).2 ⟨peer.trans invited, gone⟩
    have same := once p a _ (p ++ a :: (q ++ x :: t)) b u split (by simpa using split) firstPresents
      secondPresents
    have lengths := congrArg List.length same
    simp at lengths
  · obtain ⟨invited, absent⟩ := (presents_iff opened room dash first.2).1 first
    obtain ⟨-, absent'⟩ := (presents_iff opened room dash second.2).1 second
    have none_after := none_after (peer.symm.trans invited)
    have created : ∀ {p a}, C.Arrives r₀ c r₁ p a B (makeSessionId draw) →
        C.session p B (makeSessionId draw) = none → C.Creates p a B (makeSessionId draw) := by
      intro p a arrives absent
      rcases arrival_outcome opened room dash arrives with ⟨-, -, creates, -⟩ | ⟨untaken, -⟩
      · exact creates
      · exact (untaken ⟨invited, absent⟩).elim
    rcases split_two (split.symm.trans split') with ⟨same, -, -⟩ | ⟨mid, rfl, rfl⟩ | ⟨mid, rfl, rfl⟩
    · exact same.symm
    · exact (no_second none_after split first.2 (created first.2 absent) second.2 absent').elim
    · exact (no_second none_after split' second.2 (created second.2 absent') first.2 absent).elim
  · rcases arrival_outcome opened room dash arrives with ⟨-, -, taken⟩ | ⟨-, untaken⟩
    · exact .inl taken
    · exact .inr untaken

/-- bob declines alice's invitation; the copy that her next heartbeat sends is lost. -/
theorem presented_at_most_once_iff_alice_bob :
    let invite := lit "INVITE|00002a|alice|CLOSED;to=bob\n"
    let c : Act Bool DirectOp := ⟨false, .inviteUser bobKnown 42 (seconds 1) true (lit "bob"), 0⟩
    let asked : Act Bool DirectOp :=
      ⟨true, .received invite (aliceAndBob.endpoint false) (seconds 2) (seconds 2), 0⟩
    let declined : Act Bool DirectOp := ⟨true, .declineInvite (lit "00002a") [], 0⟩
    let heartbeat : Act Bool DirectOp :=
      ⟨false, .resendOutgoingPending (seconds 6) (seconds 45) (seconds 10) fun _ => true, 0⟩
    let r₁ := [asked, declined, heartbeat]
    aliceAndBob.Presents [] c r₁ [c] asked true (lit "00002a") ∧
      ((aliceAndBob.service [c, asked] true).declineInvite (lit "00002a") []).value = true ∧
      aliceAndBob.flight (c :: r₁) = [⟨false, aliceAndBob.endpoint true, invite⟩,
        ⟨false, aliceAndBob.endpoint true, invite⟩] ∧
      aliceAndBob.PresentedAtMostOnce [] c r₁ true (lit "00002a") ∧
      (aliceAndBob.service [c] true).effects asked.act =
        [.status (invitationNotice (lit "alice") (lit "00002a"))] := by
  intro invite c asked declined heartbeat r₁
  have called : ((aliceAndBob.service [] false).inviteUser bobKnown 42 (seconds 1) true
      (lit "bob")).value = some (lit "00002a") := by decide +kernel
  have parsed : parseSecpLine invite =
      some ⟨.Invite, lit "00002a", lit "alice", lit "CLOSED;to=bob"⟩ := by decide +kernel
  have arrives : aliceAndBob.Arrives [] c r₁ [c] asked true (lit "00002a") :=
    ⟨⟨false, aliceAndBob.endpoint true, invite⟩, ⟨rfl, ⟨_, _, _, rfl⟩, by decide +kernel⟩,
      [], List.nil_prefix, by decide +kernel, by decide +kernel, by decide +kernel, rfl, _, parsed,
      rfl, rfl⟩
  have creates : aliceAndBob.Creates [c] asked true (lit "00002a") :=
    ⟨by decide +kernel, by decide +kernel⟩
  obtain ⟨once_iff, announced⟩ := presented_at_most_once_iff aliceAndBob false true bobKnown 42
    (seconds 1) true (lit "bob") (lit "00002a") 0 [] r₁ called
  -- only the second of the four steps receives anything
  have none_after : aliceAndBob.NoneAfterDismissal [] c r₁ true (lit "00002a") := by
    intro p a q x t b u s split first absent party found dismisses second
    obtain ⟨d, ⟨-, ⟨src, t₁, t₂, received⟩, -⟩, -⟩ := second
    have others : ∀ y ∈ [c, declined, heartbeat], y.act ≠ b.act := by
      rw [received]
      simp [c, declined, heartbeat]
    rcases p with - | ⟨y, p⟩
    · obtain ⟨rfl, -⟩ := List.cons.inj split
      obtain ⟨d', ⟨-, ⟨src, t₁, t₂, received⟩, -⟩, -⟩ := first
      simp [c] at received
    · have later : b ∈ [declined, heartbeat] := by
        obtain ⟨-, rest⟩ := List.cons.inj split
        rcases p with - | ⟨y', p⟩
        · obtain ⟨-, rest⟩ := List.cons.inj rest
          rw [show [declined, heartbeat] = q ++ x :: (t ++ b :: u) from rest]
          simp
        · obtain ⟨-, rest⟩ := List.cons.inj rest
          rw [show [declined, heartbeat] = p ++ a :: (q ++ x :: (t ++ b :: u)) from rest]
          simp
      exact (others b (List.mem_cons_of_mem _ later) rfl).elim
  refine ⟨⟨.inl creates, arrives⟩, by decide +kernel, by decide +kernel,
    once_iff.2 fun _ => none_after, ?_⟩
  rcases announced [c] asked arrives with ⟨-, told⟩ | ⟨nothing, -⟩
  · exact told
  · exact (nothing creates).elim

/-- bob declines alice's invitation; her next heartbeat sends it again and bob is asked
a second time. -/
theorem declined_invitation_presented_again :
    let invite := lit "INVITE|00002a|alice|CLOSED;to=bob\n"
    let c : Act Bool DirectOp := ⟨false, .inviteUser bobKnown 42 (seconds 1) true (lit "bob"), 0⟩
    let asked : Act Bool DirectOp :=
      ⟨true, .received invite (aliceAndBob.endpoint false) (seconds 2) (seconds 2), 0⟩
    let declined : Act Bool DirectOp := ⟨true, .declineInvite (lit "00002a") [], 0⟩
    let heartbeat : Act Bool DirectOp :=
      ⟨false, .resendOutgoingPending (seconds 6) (seconds 45) (seconds 10) fun _ => true, 0⟩
    let again : Act Bool DirectOp :=
      ⟨true, .received invite (aliceAndBob.endpoint false) (seconds 11) (seconds 11), 1⟩
    let r₁ := [asked, declined, heartbeat, again]
    aliceAndBob.network.machine.Along aliceAndBob.Legal (c :: r₁) ∧
      ((aliceAndBob.service [] false).inviteUser bobKnown 42 (seconds 1) true (lit "bob")).value =
        some (lit "00002a") ∧
      ((aliceAndBob.service [c, asked] true).declineInvite (lit "00002a") []).value = true ∧
      ¬ aliceAndBob.PresentedAtMostOnce [] c r₁ true (lit "00002a") := by
  intro invite c asked declined heartbeat again r₁
  have parsed : parseSecpLine invite =
      some ⟨.Invite, lit "00002a", lit "alice", lit "CLOSED;to=bob"⟩ := by decide +kernel
  have arrives : aliceAndBob.Reaches ⟨false, aliceAndBob.endpoint true, invite⟩ true
      (aliceAndBob.endpoint false) := ⟨rfl, rfl, rfl, rfl⟩
  refine ⟨⟨⟨trivial, bobKnown_faithful _ _ _ _⟩, ⟨.inr ⟨_, ?_, rfl, arrives⟩, trivial⟩,
    ⟨trivial, trivial⟩, ⟨trivial, trivial⟩, ⟨.inr ⟨_, ?_, rfl, arrives⟩, trivial⟩, trivial⟩,
    by decide +kernel, by decide +kernel, fun once => ?_⟩
  · decide +kernel
  · decide +kernel
  have first : aliceAndBob.Presents [] c r₁ [c] asked true (lit "00002a") :=
    ⟨.inl ⟨by decide +kernel, by decide +kernel⟩, ⟨false, aliceAndBob.endpoint true, invite⟩,
      ⟨rfl, ⟨_, _, _, rfl⟩, by decide +kernel⟩,
      [], List.nil_prefix, by decide +kernel, by decide +kernel, by decide +kernel, rfl, _, parsed,
      rfl, rfl⟩
  have second : aliceAndBob.Presents [] c r₁ [c, asked, declined, heartbeat] again true
      (lit "00002a") :=
    ⟨.inl ⟨by decide +kernel, by decide +kernel⟩, ⟨false, aliceAndBob.endpoint true, invite⟩,
      ⟨rfl, ⟨_, _, _, rfl⟩, by decide +kernel⟩,
      [asked, declined, heartbeat], ⟨[again], rfl⟩, by decide +kernel, by decide +kernel,
      by decide +kernel, rfl, _, parsed, rfl, rfl⟩
  have same := once [c] asked _ _ again [] rfl rfl first second
  cases congrArg List.length same

end SecpChat.Clients
