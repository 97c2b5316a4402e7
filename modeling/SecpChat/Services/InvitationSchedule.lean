import SecpChat.Services.DirectLifecycle

/-!
# The retransmission schedule of an invitation

Two expiry rules act on a pending outgoing session: `prune_pending` looks at
`last_update`, `resend_outgoing_pending` at `created_at`, and resending, throttled by
`last_sent`, refreshes the former. `Schedule` is what one heartbeat thread adds to the
runs of the service: the order of its calls and the readings of the clock. That the
entry's last update trails the last resend by less than the throttle (`Fresh`) is what
keeps `prune_pending` from removing it.
-/

namespace SecpChat

open Runs

/-- The clock and the heartbeat thread. -/
structure Schedule where
  /-- The latest reading. -/
  now : Int
  /-- The reading of the last `resend_outgoing_pending`, at first the start of the program. -/
  since : Int
  /-- The heartbeat has called `prune_pending` and is about to resend. -/
  pruned : Bool

namespace Schedule

def after (c : Schedule) : DirectOp → Schedule
  | .inviteUser _ _ now _ _ => { c with now }
  | .acceptInvite now _ => { c with now }
  | .prunePending _ now => { c with now, pruned := true }
  | .resendOutgoingPending _ _ now _ => ⟨now, now, false⟩
  | .received _ _ _ t₂ => { c with now := t₂ }
  | _ => c

/-- Readings do not decrease, and the heartbeat calls `prune_pending(30s)` and
`resend_outgoing_pending(6s, 45s)` in turn. -/
def Allows (c : Schedule) : DirectOp → Prop
  | .inviteUser _ _ now _ _ => c.now ≤ now
  | .acceptInvite now _ => c.now ≤ now
  | .prunePending maxAge now => c.now ≤ now ∧ c.pruned = false ∧ maxAge = seconds 30
  | .resendOutgoingPending minInterval maxAge now _ =>
    c.now ≤ now ∧ c.pruned = true ∧ minInterval = seconds 6 ∧ maxAge = seconds 45
  | .received _ _ t₁ t₂ => c.now ≤ t₁ ∧ t₁ ≤ t₂
  | _ => True

/-- `prune_pending` comes within 24 s of the last resend, or of the start. -/
def Prompt (c : Schedule) : DirectOp → Prop
  | .prunePending _ now => now - c.since ≤ seconds 24
  | _ => True

instance (c : Schedule) : ∀ op, Decidable (c.Allows op)
  | .inviteUser _ _ now _ _ => inferInstanceAs (Decidable (c.now ≤ now))
  | .acceptInvite now _ => inferInstanceAs (Decidable (c.now ≤ now))
  | .prunePending _ _ => inferInstanceAs (Decidable (_ ∧ _))
  | .resendOutgoingPending _ _ _ _ => inferInstanceAs (Decidable (_ ∧ _))
  | .received _ _ _ _ => inferInstanceAs (Decidable (_ ∧ _))
  | .declineInvite _ _ => inferInstanceAs (Decidable True)
  | .sendPrivateChat _ _ _ => inferInstanceAs (Decidable True)

instance (c : Schedule) : ∀ op, Decidable (c.Prompt op)
  | .prunePending _ now => inferInstanceAs (Decidable (now - c.since ≤ seconds 24))
  | .inviteUser _ _ _ _ _ | .acceptInvite _ _ | .declineInvite _ _ | .sendPrivateChat _ _ _
  | .resendOutgoingPending _ _ _ _ | .received _ _ _ _ => inferInstanceAs (Decidable True)

end Schedule

/-- The service with its schedule, from a program started at `start`. -/
def scheduledMachine (self : Bytes) (start : Int) :
    Machine (DirectMessageService × Schedule) DirectOp :=
  ⟨(.init self, ⟨start, start, false⟩), fun s op => (s.1.step op, s.2.after op)⟩

/-- A resend whose reading is exactly zero, the value that stands for "never" in a session. -/
def DirectOp.resendsAtEpoch : DirectOp → Bool
  | .resendOutgoingPending _ _ now _ => now == 0
  | _ => false

namespace DirectMessageService

/-- The resend of the session under `k` that the operation records. -/
def resendAt (d : DirectMessageService) (k : Bytes) : DirectOp → Option Int
  | .resendOutgoingPending minInterval maxAge now _ => d.sessions[k]?.bind fun s =>
    if resendVisit minInterval maxAge now s = .resend then some now else none
  | _ => none

/-- The resends recorded for the session under `k` until it is gone. -/
def resends (d : DirectMessageService) (k : Bytes) : List DirectOp → List Int
  | [] => []
  | op :: rest =>
    if d.sessions[k]? = none then []
    else (d.resendAt k op).toList ++ (d.step op).resends k rest

variable {d : DirectMessageService} {k : Bytes} {s : Session}

/-- **A resend is recorded, or the session keeps its times or goes.** -/
theorem resendAt_cases (found : d.sessions[k]? = some s) (op : DirectOp) :
    (∃ minInterval maxAge now sent, op = .resendOutgoingPending minInterval maxAge now sent ∧
      d.resendAt k op = some now ∧ s.state = .OutgoingPending ∧
      (s.lastSent = 0 ∨ minInterval ≤ now - s.lastSent) ∧
      (s.createdAt = 0 ∨ now - s.createdAt ≤ maxAge) ∧
      (d.step op).sessions[k]? = some { s with lastSent := now, lastUpdate := now }) ∨
    (d.resendAt k op = none ∧ ((d.step op).sessions[k]? = none ∨
      ∃ s', (d.step op).sessions[k]? = some s' ∧ s'.createdAt = s.createdAt ∧
        s'.lastSent = s.lastSent)) := by
  have m := d.step_move op k
  rw [found] at m
  cases op with
  | resendOutgoingPending minInterval maxAge now sent =>
    have after : (d.step (.resendOutgoingPending minInterval maxAge now sent)).sessions[k]? = _ :=
      d.resendOutgoingPending_lookup minInterval maxAge now sent k
    rw [found, Option.bind_some] at after
    cases visit : resendVisit minInterval maxAge now s with
    | resend =>
      obtain ⟨pending, due, young⟩ := resendVisit_resend_iff.1 visit
      simp only [visit] at after
      exact .inl ⟨minInterval, maxAge, now, sent, rfl, by simp [resendAt, found, visit], pending, due,
        young, after⟩
    | expire =>
      simp only [visit] at after
      exact .inr ⟨by simp [resendAt, found, visit], .inl after⟩
    | skip =>
      simp only [visit] at after
      exact .inr ⟨by simp [resendAt, found, visit], .inr ⟨s, after, rfl, rfl⟩⟩
  | _ =>
    refine .inr ⟨rfl, ?_⟩
    generalize (d.step _).sessions[k]? = e' at m ⊢
    cases m
    all_goals first | exact .inl rfl | exact .inr ⟨_, rfl, rfl, rfl⟩

/-- An invitation that opens a session stamps it with its clock reading. -/
theorem invited_times {users : UserDirectory} {draw : Fin 0x1000000} {now : Int} {sent : Bool}
    {target : Bytes} (fresh : d.sessions[k]? = none)
    (opened : (d.step (.inviteUser users draw now sent target)).sessions[k]? ≠ none) :
    ∃ s, (d.step (.inviteUser users draw now sent target)).sessions[k]? = some s ∧
      s.createdAt = now ∧ s.lastSent = now := by
  have m := d.step_move (.inviteUser users draw now sent target) k
  rw [fresh] at m
  generalize (d.step (.inviteUser users draw now sent target)).sessions[k]? = e' at m opened ⊢
  cases m with
  | keep => exact (opened rfl).elim
  | invite valid other known key => exact ⟨_, rfl, rfl, rfl⟩

/-- **Recorded sends are 6 s apart and end 45 s after the creation.** -/
theorem resends_spaced (found : d.sessions[k]? = some s) (created : s.createdAt ≠ 0)
    (sent : s.lastSent ≠ 0) (post : List DirectOp)
    (beats : ∀ op ∈ post, ∀ minInterval maxAge now sent,
      op = .resendOutgoingPending minInterval maxAge now sent →
        minInterval = seconds 6 ∧ maxAge = seconds 45 ∧ now ≠ 0) :
    (s.lastSent :: d.resends k post).Pairwise (fun a b => a + seconds 6 ≤ b) ∧
      ∀ t ∈ d.resends k post, t ≤ s.createdAt + seconds 45 := by
  induction post generalizing d s with
  | nil => simp [resends]
  | cons op post ih =>
    have beats' := fun op h => beats op (List.mem_cons_of_mem _ h)
    simp only [resends, found, reduceCtorEq, if_false]
    rcases resendAt_cases found op with
      ⟨minInterval, maxAge, now, sent', rfl, recorded, -, due, young, after⟩ | ⟨unrecorded, after⟩
    · obtain ⟨rfl, rfl, nonzero⟩ := beats _ List.mem_cons_self minInterval maxAge now sent' rfl
      obtain ⟨spaced, bounded⟩ := ih after created nonzero beats'
      have apart : s.lastSent + seconds 6 ≤ now := by omega
      have inTime : now ≤ s.createdAt + seconds 45 := by omega
      rw [recorded]
      show (s.lastSent :: now :: _).Pairwise _ ∧ ∀ t ∈ now :: _, _
      refine ⟨List.pairwise_cons.2 ⟨fun t ht => ?_, spaced⟩, fun t ht => ?_⟩
      · rcases List.mem_cons.1 ht with rfl | later
        · exact apart
        · have after_now : now + seconds 6 ≤ t := (List.pairwise_cons.1 spaced).1 t later
          simp only [seconds] at apart after_now ⊢
          omega
      · rcases List.mem_cons.1 ht with rfl | later
        · exact inTime
        · exact bounded t later
    · rw [unrecorded]
      rcases after with gone | ⟨s', kept, creation, sending⟩
      · have none_left : (d.step op).resends k post = [] := by cases post <;> simp [resends, gone]
        simp [none_left]
      · obtain ⟨spaced, bounded⟩ := ih kept (by rwa [creation]) (by rwa [sending]) beats'
        rw [sending] at spaced
        rw [creation] at bounded
        exact ⟨spaced, bounded⟩

/-- At most eight sends fit. -/
theorem spaced_length {a b : Int} {sends : List Int}
    (spaced : (a :: sends).Pairwise (fun a b => a + seconds 6 ≤ b))
    (bounded : ∀ t ∈ a :: sends, t ≤ b) :
    a + seconds 6 * sends.length ≤ b := by
  induction sends generalizing a with
  | nil =>
    have last := bounded a List.mem_cons_self
    simpa using last
  | cons t sends ih =>
    obtain ⟨first, rest⟩ := List.pairwise_cons.1 spaced
    have tail := ih rest fun t' h => bounded t' (List.mem_cons_of_mem _ h)
    have apart := first t List.mem_cons_self
    simp only [seconds, List.length_cons] at apart tail ⊢
    push_cast
    omega

/-- **A resend is recorded while the session is pending**, and has been all along. -/
theorem resends_pending {t : Int} {post : List DirectOp} (recorded : t ∈ d.resends k post) :
    ∃ mid op rest, post = mid ++ op :: rest ∧ (mid.foldl step d).resendAt k op = some t ∧
      ∀ mid', mid' <+: mid →
        ((mid'.foldl step d).sessions[k]?).map Session.state = some .OutgoingPending := by
  induction post generalizing d with
  | nil => simp [resends] at recorded
  | cons op post ih =>
    cases found : d.sessions[k]? with
    | none => simp [resends, found] at recorded
    | some s =>
      simp only [resends, found, reduceCtorEq, if_false, List.mem_append, Option.mem_toList]
        at recorded
      rcases recorded with now | later
      · rcases resendAt_cases found op with ⟨-, -, -, -, -, -, pending, -⟩ | ⟨unrecorded, -⟩
        · refine ⟨[], op, post, rfl, now, fun mid' h => ?_⟩
          obtain rfl := List.prefix_nil.1 h
          simp [found, pending]
        · rw [unrecorded] at now
          cases now
      · obtain ⟨mid, op', rest, rfl, then_, all⟩ := ih later
        refine ⟨op :: mid, op', rest, rfl, then_, fun mid' h => ?_⟩
        cases mid' with
        | nil =>
          -- what is pending after a step was pending before it
          have m := d.step_move op k
          have pending : ((d.step op).sessions[k]?).map Session.state = some .OutgoingPending :=
            all [] List.nil_prefix
          rw [found] at m
          show (d.sessions[k]?).map Session.state = _
          rw [found]
          generalize (d.step op).sessions[k]? = e' at m pending
          cases m <;> simp_all
        | cons first mid' =>
          obtain ⟨rfl, h'⟩ := List.cons_prefix_cons.1 h
          exact all mid' h'

end DirectMessageService

/-! ## The expiry by `prune_pending` -/

/-- A pending session was last updated when it was last sent, less than 6 s before the
last resend. -/
structure Fresh (x : DirectMessageService × Schedule) : Prop where
  clock : x.2.since ≤ x.2.now
  pending : ∀ (k : Bytes) s, x.1.sessions[k]? = some s → s.state = .OutgoingPending →
    s.lastUpdate = s.lastSent ∧ x.2.since - s.lastUpdate < seconds 6

/-- How an entry comes to be pending: it was, or it is invited or resent. -/
theorem Move.pending {self k : Bytes} {op : DirectOp} {e : Option Session} {s' : Session}
    (m : Move self k op e (some s')) (pending : s'.state = .OutgoingPending) :
    e = some s' ∨
    (∃ users draw now sent target, op = .inviteUser users draw now sent target ∧
      s'.lastUpdate = now ∧ s'.lastSent = now) ∨
    ∃ minInterval maxAge now sent, op = .resendOutgoingPending minInterval maxAge now sent := by
  cases m with
  | keep => exact .inl rfl
  | invite valid other known key => exact .inr (.inl ⟨_, _, _, _, _, rfl, rfl, rfl⟩)
  | resend pending due young => exact .inr (.inr ⟨_, _, _, _, rfl⟩)
  | _ => cases pending

theorem Fresh.next {x : DirectMessageService × Schedule} {op : DirectOp} (h : Fresh x)
    (allowed : x.2.Allows op) : Fresh (x.1.step op, x.2.after op) := by
  obtain ⟨clock, pending⟩ := h
  refine ⟨?_, fun k s' after pending' => ?_⟩
  · cases op <;> simp only [Schedule.Allows] at allowed <;> simp only [Schedule.after] <;> omega
  by_cases beat : ∃ minInterval maxAge now sent,
    op = .resendOutgoingPending minInterval maxAge now sent
  · obtain ⟨minInterval, maxAge, now, sent, rfl⟩ := beat
    obtain ⟨-, -, rfl, -⟩ := allowed
    have lookup : (x.1.step (.resendOutgoingPending (seconds 6) maxAge now sent)).sessions[k]? = _ :=
      x.1.resendOutgoingPending_lookup (seconds 6) maxAge now sent k
    change (x.1.step _).sessions[k]? = some s' at after
    rw [lookup, Option.bind_eq_some_iff] at after
    obtain ⟨s, found, visited⟩ := after
    simp only [Schedule.after]
    cases visit : DirectMessageService.resendVisit (seconds 6) maxAge now s with
    | skip =>
      simp only [visit, Option.some.injEq] at visited
      subst visited
      obtain ⟨same, -⟩ := pending k s found pending'
      obtain ⟨-, recent⟩ := DirectMessageService.resendVisit_skip visit pending'
      exact ⟨same, by omega⟩
    | expire =>
      simp only [visit] at visited
      cases visited
    | resend =>
      simp only [visit, Option.some.injEq] at visited
      subst visited
      exact ⟨rfl, by simp [seconds]⟩
  · have m := x.1.step_move op k
    rw [show (x.1.step op).sessions[k]? = some s' from after] at m
    have since : (x.2.after op).since = x.2.since := by
      cases op <;> first | rfl | exact (beat ⟨_, _, _, _, rfl⟩).elim
    rcases m.pending pending' with before | ⟨users, draw, now, sent, target, rfl, update, sending⟩ |
      resend
    · rw [since]
      exact pending k s' before pending'
    · have later : x.2.now ≤ now := allowed
      have small : (0 : Int) < seconds 6 := by simp [seconds]
      rw [since]
      exact ⟨update.trans sending.symm, by omega⟩
    · exact (beat resend).elim

theorem exec_fresh {self : Bytes} {start : Int} {run : List DirectOp}
    (allowed : (scheduledMachine self start).Along (fun x op => x.2.Allows op) run) :
    Fresh ((scheduledMachine self start).exec run) := by
  apply (scheduledMachine self start).invariant_along (I := Fresh)
    (P := fun x op => x.2.Allows op) ?_ (fun x op ok h => h.next ok) run allowed
  refine ⟨le_rfl, fun k s found => ?_⟩
  simp [scheduledMachine, DirectMessageService.init] at found

/-- The service of the scheduled machine does what the operations do. -/
theorem scheduled_foldl {self : Bytes} {start : Int} (x : DirectMessageService × Schedule)
    (ops : List DirectOp) :
    (ops.foldl (scheduledMachine self start).next x).1 =
      ops.foldl DirectMessageService.step x.1 := by
  induction ops generalizing x with
  | nil => rfl
  | cons op ops ih => exact ih _

theorem scheduled_append {self : Bytes} {start : Int} (pre mid : List DirectOp) :
    ((scheduledMachine self start).exec (pre ++ mid)).1 =
      mid.foldl DirectMessageService.step ((scheduledMachine self start).exec pre).1 := by
  rw [Machine.exec_append, scheduled_foldl]

/-- **The retransmission schedule of an invitation.** -/
theorem invitation_schedule (self : Bytes) (start : Int) (run : List DirectOp)
    (allowed : (scheduledMachine self start).Along (fun x op => x.2.Allows op) run) :
    let M := scheduledMachine self start
    let pending (k : Bytes) (x : DirectMessageService × Schedule) :=
      (x.1.sessions[k]?).map Session.state = some .OutgoingPending
    (∀ pre users draw now sent target post (k : Bytes),
      let invite := DirectOp.inviteUser users draw now sent target
      run = pre ++ invite :: post →
      (M.exec pre).1.sessions[k]? = none → (M.exec (pre ++ [invite])).1.sessions[k]? ≠ none →
      now ≠ 0 → (∀ op ∈ post, op.resendsAtEpoch = false) →
      let resends := (M.exec (pre ++ [invite])).1.resends k post
      (now :: resends).Pairwise (fun a b => a + seconds 6 ≤ b) ∧
      (∀ t ∈ now :: resends, t ≤ now + seconds 45) ∧ (now :: resends).length ≤ 8 ∧
      ∀ t ∈ resends, ∃ mid op rest, post = mid ++ op :: rest ∧
        (M.exec (pre ++ [invite] ++ mid)).1.resendAt k op = some t ∧
        M.Since (pending k) (pre ++ [invite]) mid) ∧
    (M.Along (fun x op => x.2.Prompt op) run →
      ∀ pre op post (k : Bytes) (s : Session), run = pre ++ op :: post →
      (M.exec pre).1.sessions[k]? = some s → s.state = .OutgoingPending →
      (M.exec (pre ++ [op])).1.sessions[k]? = none →
      ∃ minInterval maxAge now sent, op = .resendOutgoingPending minInterval maxAge now sent ∧
        now - s.createdAt > seconds 45) := by
  intro M pending
  refine ⟨?_, ?_⟩
  · intro pre users draw now sent target post k invite split fresh opened nonzero clear resends
    obtain ⟨s, found, creation, sending⟩ : ∃ s, (M.exec (pre ++ [invite])).1.sessions[k]? = some s ∧
        s.createdAt = now ∧ s.lastSent = now := by
      rw [show (M.exec (pre ++ [invite])).1 = (M.exec pre).1.step invite from
        scheduled_append pre [invite]] at opened ⊢
      exact DirectMessageService.invited_times fresh opened
    have beats : ∀ op ∈ post, ∀ minInterval maxAge now sent,
        op = .resendOutgoingPending minInterval maxAge now sent →
        minInterval = seconds 6 ∧ maxAge = seconds 45 ∧ now ≠ 0 := by
      rintro op hop minInterval maxAge now' sent' rfl
      obtain ⟨front, back, rfl⟩ := List.append_of_mem hop
      have split' : run = (pre ++ invite :: front) ++
          .resendOutgoingPending minInterval maxAge now' sent' :: back := by simp [split]
      rw [split'] at allowed
      obtain ⟨-, -, interval, age⟩ := Machine.Along.at M allowed
      have := clear _ hop
      exact ⟨interval, age, by simpa [DirectOp.resendsAtEpoch] using this⟩
    obtain ⟨spaced, bounded⟩ := DirectMessageService.resends_spaced found
      (by rwa [creation]) (by rwa [sending]) post beats
    rw [sending] at spaced
    rw [creation] at bounded
    have bounded' : ∀ t ∈ now :: resends, t ≤ now + seconds 45 := by
      intro t ht
      rcases List.mem_cons.1 ht with rfl | later
      · simp [seconds]
      · exact bounded t later
    refine ⟨spaced, bounded', ?_, fun t recorded => ?_⟩
    · have total : now + seconds 6 * resends.length ≤ now + seconds 45 :=
        DirectMessageService.spaced_length spaced bounded'
      simp only [seconds, List.length_cons] at total ⊢
      omega
    · obtain ⟨mid, op, rest, same, at_op, all⟩ := DirectMessageService.resends_pending recorded
      refine ⟨mid, op, rest, same, ?_, fun mid' h => ?_⟩
      · rw [scheduled_append]
        exact at_op
      · show ((M.exec (pre ++ [invite] ++ mid')).1.sessions[k]?).map Session.state = _
        rw [scheduled_append]
        exact all mid' h
  · intro prompt pre op post k s split found pending' gone
    subst split
    have fresh : Fresh (M.exec pre) := exec_fresh (Machine.Along.front M allowed)
    have allows := Machine.Along.at M allowed
    have inTime := Machine.Along.at M prompt
    have m := (M.exec pre).1.step_move op k
    rw [scheduled_append pre [op]] at gone
    rw [show ((M.exec pre).1.step op).sessions[k]? = none from gone, found] at m
    cases m with
    | decline key incoming =>
      rw [incoming] at pending'
      cases pending'
    | prune notActive stale =>
      obtain ⟨-, recent⟩ := fresh.pending k s found pending'
      obtain ⟨-, -, rfl⟩ := allows
      change _ - (M.exec pre).2.since ≤ seconds 24 at inTime
      simp only [seconds] at recent inTime stale
      omega
    | expire pending'' old =>
      obtain ⟨-, -, -, rfl⟩ := allows
      exact ⟨_, _, _, _, rfl, old⟩

/-- alice's directory, with bob in it. -/
def directoryOfAlice : UserDirectory :=
  (UserDirectory.empty.setSelfUsername (lit "alice")).upsert (lit "bob")
    ⟨AF_INET, kUdpPort, ⟨10, 0, 0, 2⟩⟩ 0

/-- alice invites bob at 1 s; the heartbeat at 5 s is too early to resend, the one at 15 s is
not, and the one at 50 s lets the session expire. -/
theorem invitation_schedule_alice_bob :
    let M := scheduledMachine (lit "alice") 0
    let invite := DirectOp.inviteUser directoryOfAlice 42 (seconds 1) true (lit "bob")
    let prune (now : Int) := DirectOp.prunePending (seconds 30) now
    let resend (now : Int) := DirectOp.resendOutgoingPending (seconds 6) (seconds 45) now fun _ => true
    let waiting := [prune (seconds 5), resend (seconds 5), prune (seconds 15), resend (seconds 15),
      prune (seconds 35), resend (seconds 35), prune (seconds 50)]
    let post := waiting ++ [resend (seconds 50)]
    let resends := (M.exec [invite]).1.resends (lit "00002a") post
    M.Along (fun x op => x.2.Allows op) (invite :: post) ∧ resends = [seconds 15, seconds 35] ∧
      (seconds 1 :: resends).Pairwise (fun a b => a + seconds 6 ≤ b) ∧
      (seconds 1 :: resends).length ≤ 8 ∧
      ∃ s, (M.exec (invite :: waiting)).1.sessions[lit "00002a"]? = some s ∧
        (M.exec (invite :: waiting ++ [resend (seconds 50)])).1.sessions[lit "00002a"]? = none ∧
        seconds 50 - s.createdAt > seconds 45 := by
  intro M invite prune resend waiting post resends
  have allowed : M.Along (fun x op => x.2.Allows op) (invite :: post) := by decide +kernel
  obtain ⟨schedule, expiry⟩ := invitation_schedule (lit "alice") 0 (invite :: post) allowed
  obtain ⟨spaced, -, few, -⟩ := schedule [] _ _ _ _ _ _ (lit "00002a") rfl (by decide +kernel)
    (by decide +kernel) (by decide +kernel) (by decide +kernel)
  have prompt : M.Along (fun x op => x.2.Prompt op) (invite :: post) := by decide +kernel
  have present : ((M.exec (invite :: waiting)).1.sessions[lit "00002a"]?).map Session.state =
      some .OutgoingPending := by
    decide +kernel
  obtain ⟨s, found, pending⟩ := Option.map_eq_some_iff.1 present
  have gone : (M.exec (invite :: waiting ++ [resend (seconds 50)])).1.sessions[lit "00002a"]? =
      none := by
    decide +kernel
  obtain ⟨_, _, _, _, same, old⟩ :=
    expiry prompt (invite :: waiting) (resend (seconds 50)) [] (lit "00002a") s rfl found pending gone
  cases same
  exact ⟨allowed, by decide +kernel, spaced, few, s, found, gone, old⟩

/-- An invitation sent when the clock reads zero is sent again after 1 s. -/
theorem invitation_at_epoch_unthrottled :
    let M := scheduledMachine (lit "alice") 0
    let invite := DirectOp.inviteUser directoryOfAlice 42 0 true (lit "bob")
    let heartbeat := [DirectOp.prunePending (seconds 30) (seconds 1),
      .resendOutgoingPending (seconds 6) (seconds 45) (seconds 1) fun _ => true]
    M.Along (fun x op => x.2.Allows op) (invite :: heartbeat) ∧
      (M.exec [invite]).1.resends (lit "00002a") heartbeat = [seconds 1] ∧
      ¬ 0 + seconds 6 ≤ seconds 1 := by
  decide +kernel

end SecpChat
