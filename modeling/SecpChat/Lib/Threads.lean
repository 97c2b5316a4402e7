import SecpChat.Lib.Network

/-!
# Parties with several threads

A party of a `Network` acts on its state and posts packets in one step. With threads it
acts under a lock and sends after it has let go of it, a packet at a time, while its other
threads act and send. What is in flight then is part of what would be if every step posted
at once, and a network may deliver late, so a run with threads is a run without
(`exists_atomic`): what holds in every run of the atomic parties holds with threads.
-/

namespace SecpChat.Runs

variable {ι σ α π θ : Type*}

/-- The state of a party, and what each of its threads has still to send. -/
structure Threaded (σ π θ : Type*) where
  state : σ
  outbox : θ → List π

inductive ThreadAct (α θ : Type*) where
  /-- The thread acts; what that posts it has still to send. -/
  | perform (t : θ) (a : α)
  /-- It sends the next of it. -/
  | send (t : θ)

namespace ThreadAct

/-- The action on the state of the party. -/
def performed : ThreadAct α θ → Option α
  | perform _ a => some a
  | send _ => none

end ThreadAct

namespace Threaded

variable [DecidableEq θ]

/-- A step of a party with the machine `M`, whose actions post `posts`. A thread that acts again
before it has sent everything sends it later. -/
def next (M : Machine σ α) (posts : σ → α → List π) (s : Threaded σ π θ) :
    ThreadAct α θ → Threaded σ π θ
  | .perform t a =>
    ⟨M.next s.state a, Function.update s.outbox t (s.outbox t ++ posts s.state a)⟩
  | .send t => { s with outbox := Function.update s.outbox t (s.outbox t).tail }

end Threaded

namespace Network

variable (N : Network ι σ α π)

/-- The parties with the threads `θ`. -/
def threaded (θ : Type*) [DecidableEq θ] : Network ι (Threaded σ π θ) (ThreadAct α θ) π where
  party i := ⟨⟨(N.party i).start, fun _ => []⟩, Threaded.next (N.party i) (N.posts i)⟩
  posts _ s
    | .perform _ _ => []
    | .send t => (s.outbox t).head?.toList
  fits i
    | .perform _ a, p => N.fits i a p
    | .send _, _ => True

variable [DecidableEq ι]

/-- What a party has done. -/
def performed (i : ι) (run : List (Act ι (ThreadAct α θ))) : List α :=
  run.filterMap fun a => if a.party = i then a.act.performed else none

@[simp] theorem performed_append (i : ι) (pre post : List (Act ι (ThreadAct α θ))) :
    performed i (pre ++ post) = performed i pre ++ performed i post := by
  simp [performed]

/-- What a party has done, a thread of it did at some time. -/
theorem exists_perform {i : ι} {run : List (Act ι (ThreadAct α θ))} {before after : List α} {a : α}
    (h : performed i run = before ++ a :: after) :
    ∃ pre t n post, run = pre ++ ⟨i, .perform t a, n⟩ :: post ∧ performed i pre = before := by
  obtain ⟨pre, rest, rfl, early, late⟩ := List.filterMap_eq_append_iff.1 h
  obtain ⟨skipped, ⟨party, act, n⟩, post, rfl, silent, now, -⟩ := List.filterMap_eq_cons_iff.1 late
  by_cases mine : party = i
  · subst mine
    cases act with
    | send t => simp [ThreadAct.performed] at now
    | perform t b =>
      obtain rfl : b = a := by simpa [ThreadAct.performed] using now
      refine ⟨pre ++ skipped, t, n, post, by simp, ?_⟩
      have nothing : performed party skipped = [] := List.filterMap_eq_nil_iff.2 silent
      rw [performed_append, nothing, List.append_nil]
      exact early
  · simp [mine] at now

variable [DecidableEq θ] {N} {i : ι}

section Steps

variable (run : List (Act ι (ThreadAct α θ))) (t : θ) (n : Nat)

theorem node_perform (a : α) :
    ((N.threaded θ).machine.exec (run ++ [⟨i, .perform t a, n⟩])).node i =
      (((N.threaded θ).machine.exec run).node i).next (N.party i) (N.posts i) (.perform t a) :=
  node_snoc run ⟨i, .perform t a, n⟩

theorem node_send :
    ((N.threaded θ).machine.exec (run ++ [⟨i, .send t, n⟩])).node i =
      (((N.threaded θ).machine.exec run).node i).next (N.party i) (N.posts i) (.send t) :=
  node_snoc run ⟨i, .send t, n⟩

end Steps

/-- **The state of a party is that of an atomic one** that has done the same. -/
theorem threaded_state (run : List (Act ι (ThreadAct α θ))) (i : ι) :
    (((N.threaded θ).machine.exec run).node i).state =
      (N.party i).exec (performed i run) := by
  induction run using List.reverseRecOn with
  | nil => rfl
  | append_singleton run a ih =>
    obtain ⟨party, act, n⟩ := a
    by_cases mine : party = i
    · subst mine
      cases act with
      | perform t a =>
        have now : performed party [(⟨party, .perform t a, n⟩ : Act ι (ThreadAct α θ))] = [a] := by
          simp [performed, ThreadAct.performed]
        rw [node_perform, performed_append, now, Machine.exec_snoc, ← ih]
        rfl
      | send t =>
        have nothing : performed party [(⟨party, .send t, n⟩ : Act ι (ThreadAct α θ))] = [] := by
          simp [performed, ThreadAct.performed]
        rw [node_send, performed_append, nothing, List.append_nil, ← ih]
        rfl
    · rw [node_snoc_ne (a := ⟨party, act, n⟩) mine, ih]
      simp [performed, mine]

/-- `ops` is `run` with everything posted at once. -/
structure Atomic (N : Network ι σ α π) (run : List (Act ι (ThreadAct α θ)))
    (ops : List (Act ι α)) : Prop where
  acts : ∀ i, acts i ops = performed i run
  /-- What is in flight, or about to be, is in flight. -/
  flight : ∀ p, (p ∈ ((N.threaded θ).machine.exec run).flight ∨
    ∃ i t, p ∈ (((N.threaded θ).machine.exec run).node i).outbox t) →
      p ∈ (N.machine.exec ops).flight

namespace Atomic

variable {run : List (Act ι (ThreadAct α θ))} {ops : List (Act ι α)}

theorem node (h : N.Atomic run ops) (i : ι) :
    (N.machine.exec ops).node i = (((N.threaded θ).machine.exec run).node i).state := by
  rw [threaded_state, node_exec, h.acts]

theorem start : N.Atomic ([] : List (Act ι (ThreadAct α θ))) [] := by
  refine ⟨fun i => rfl, fun p inFlight => ?_⟩
  rcases inFlight with sent | ⟨i, t, waits⟩
  · cases sent
  · cases waits

theorem send {t : θ} {n : Nat} (h : N.Atomic run ops) :
    N.Atomic (run ++ [⟨i, .send t, n⟩]) ops := by
  refine ⟨fun j => ?_, fun p inFlight => h.flight p ?_⟩
  · rw [h.acts, performed_append]
    by_cases mine : i = j <;> simp [performed, mine, ThreadAct.performed]
  · rw [flight_snoc] at inFlight
    rcases inFlight with sent | ⟨j, t', waits⟩
    · rcases List.mem_append.1 sent with before | now
      · exact .inl before
      · have first : p ∈ ((((N.threaded θ).machine.exec run).node i).outbox t).head?.toList := now
        exact .inr ⟨i, t, List.mem_of_mem_head? (Option.mem_toList.1 first)⟩
    · refine .inr ⟨j, t', ?_⟩
      by_cases mine : i = j
      · subst mine
        rw [node_send] at waits
        by_cases same : t' = t
        · subst same
          have rest : p ∈ ((((N.threaded θ).machine.exec run).node i).outbox t').tail := by
            simpa [Threaded.next] using waits
          exact List.mem_of_mem_tail rest
        · simpa [Threaded.next, same] using waits
      · have other : (⟨i, .send t, n⟩ : Act ι (ThreadAct α θ)).party ≠ j := mine
        rw [node_snoc_ne other] at waits
        exact waits

theorem perform {t : θ} {a : α} {n m : Nat} (h : N.Atomic run ops) :
    N.Atomic (run ++ [⟨i, .perform t a, n⟩]) (ops ++ [⟨i, a, m⟩]) := by
  refine ⟨fun j => ?_, fun p inFlight => ?_⟩
  · rw [performed_append, ← h.acts]
    by_cases mine : i = j <;> simp [performed, Network.acts, mine, ThreadAct.performed]
  rw [flight_snoc, List.mem_append]
  rw [flight_snoc] at inFlight
  rcases inFlight with sent | ⟨j, t', waits⟩
  · rcases List.mem_append.1 sent with before | none
    · exact .inl (h.flight p (.inl before))
    · cases none
  · by_cases mine : i = j
    · subst mine
      rw [node_perform] at waits
      by_cases same : t' = t
      · subst same
        have both : p ∈ (((N.threaded θ).machine.exec run).node i).outbox t' ++
            N.posts i (((N.threaded θ).machine.exec run).node i).state a := by
          simpa [Threaded.next] using waits
        rcases List.mem_append.1 both with before | posted
        · exact .inl (h.flight p (.inr ⟨i, t', before⟩))
        · right
          rw [h.node]
          exact posted
      · have before : p ∈ (((N.threaded θ).machine.exec run).node i).outbox t' := by
          simpa [Threaded.next, same] using waits
        exact .inl (h.flight p (.inr ⟨i, t', before⟩))
    · have other : (⟨i, .perform t a, n⟩ : Act ι (ThreadAct α θ)).party ≠ j := mine
      rw [node_snoc_ne other] at waits
      exact .inl (h.flight p (.inr ⟨j, t', waits⟩))

end Atomic

/-- A condition on the actions of the parties, with threads. -/
def OnPerform (P : ι → σ → α → Prop) (g : Global ι (Threaded σ π θ) π)
    (a : Act ι (ThreadAct α θ)) : Prop :=
  ∀ t op, a.act = .perform t op → P a.party (g.node a.party).state op

/-- **A run with threads is a run without**, of the same actions of each party. -/
theorem exists_atomic {P : ι → σ → α → Prop} {run : List (Act ι (ThreadAct α θ))}
    (legal : (N.threaded θ).machine.Along
      (fun g a => (N.threaded θ).Legal g a ∧ OnPerform P g a) run) :
    ∃ ops, N.machine.Along (fun g a => N.Legal g a ∧ P a.party (g.node a.party) a.act) ops ∧
      N.Atomic run ops := by
  induction run using List.reverseRecOn with
  | nil => exact ⟨[], trivial, .start⟩
  | append_singleton run a ih =>
    obtain ⟨before, step⟩ := (Machine.along_snoc _ run a).1 legal
    obtain ⟨ops, along, h⟩ := ih before
    obtain ⟨i, act, n⟩ := a
    cases act with
    | send t => exact ⟨ops, along, h.send⟩
    | perform t op =>
      obtain ⟨fits, holds⟩ := step
      have here : P i ((N.machine.exec ops).node i) op := by
        rw [h.node]
        exact holds t op rfl
      -- the packet it takes is in flight there, under a number of its own
      have supplied : ∃ m : Nat, N.fits i op (N.machine.exec ops).flight[m]? := by
        change N.fits i op (((N.threaded θ).machine.exec run).flight[n]?) at fits
        cases packet : ((N.threaded θ).machine.exec run).flight[n]? with
        | none =>
          rw [packet] at fits
          refine ⟨(N.machine.exec ops).flight.length, ?_⟩
          rw [List.getElem?_eq_none le_rfl]
          exact fits
        | some p =>
          rw [packet] at fits
          obtain ⟨m, carried⟩ := List.mem_iff_getElem?.1
            (h.flight p (.inl (List.mem_of_getElem? packet)))
          exact ⟨m, by rw [carried]; exact fits⟩
      obtain ⟨m, supplied⟩ := supplied
      have step : N.Legal (N.machine.exec ops) ⟨i, op, m⟩ := supplied
      exact ⟨ops ++ [⟨i, op, m⟩], (Machine.along_snoc _ ops _).2 ⟨along, step, here⟩, h.perform⟩

end Network

end SecpChat.Runs
