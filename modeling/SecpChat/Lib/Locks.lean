import Mathlib.Logic.Function.Basic
import SecpChat.Lib.Runs

/-!
# Threads and their mutexes

What a piece of code does with mutexes is a `Routine`: the scopes of its locks, its calls,
of which some may wait for something else, its branches and loops. Threads that run
routines share the mutexes; which branch is taken, and who goes on, is in the actions.
Where each routine takes a mutex only when it ranks above all it holds, and waits for
nothing else while it holds one (`Ordered`), the threads keep that (`exec_disciplined`),
and a thread that waits for a mutex waits for one that goes on (`exists_goes`).
-/

namespace SecpChat.Runs

/-- The use that code makes of the mutexes `μ`; `β` are its calls. -/
inductive Routine (μ β : Type*) where
  | skip
  /-- A call that may wait. -/
  | waits (b : β)
  /-- A call that returns by itself. -/
  | does (b : β)
  /-- The scope of a `lock_guard`. -/
  | guarded (m : μ) (body : Routine μ β)
  | seq (p q : Routine μ β)
  | alt (p q : Routine μ β)
  | star (p : Routine μ β)

namespace Routine

variable {μ β : Type*}

/-- A `lock_guard` whose scope does nothing with mutexes. -/
def lock (m : μ) : Routine μ β := .guarded m .skip

/-- It may return before. -/
def maybe (p : Routine μ β) : Routine μ β := .alt .skip p

def steps (ps : List (Routine μ β)) : Routine μ β := ps.foldr .seq .skip

/-- A `switch`, none of whose cases may apply. -/
def oneOf (ps : List (Routine μ β)) : Routine μ β := ps.foldr .alt .skip

/-- By a thread that holds `held`, mutexes are taken in the order of `rank`, and nothing else is
waited for while one is held. -/
def Ordered (rank : μ → Nat) : List μ → Routine μ β → Prop
  | _, .skip => True
  | held, .waits _ => held = []
  | _, .does _ => True
  | held, .guarded m body => (∀ h ∈ held, rank h < rank m) ∧ body.Ordered rank (m :: held)
  | held, .seq p q => p.Ordered rank held ∧ q.Ordered rank held
  | held, .alt p q => p.Ordered rank held ∧ q.Ordered rank held
  | held, .star p => p.Ordered rank held

instance decOrdered (rank : μ → Nat) :
    ∀ (held : List μ) (p : Routine μ β), Decidable (p.Ordered rank held)
  | _, .skip => inferInstanceAs (Decidable True)
  | held, .waits _ => decidable_of_iff (held.isEmpty = true) List.isEmpty_iff
  | _, .does _ => inferInstanceAs (Decidable True)
  | held, .guarded m body =>
    @instDecidableAnd _ _ inferInstance (decOrdered rank (m :: held) body)
  | held, .seq p q => @instDecidableAnd _ _ (decOrdered rank held p) (decOrdered rank held q)
  | held, .alt p q => @instDecidableAnd _ _ (decOrdered rank held p) (decOrdered rank held q)
  | held, .star p => decOrdered rank held p

end Routine

/-- What a thread has still to do: a routine to run, or the end of the scope of a lock. -/
inductive Frame (μ β : Type*) where
  | run (p : Routine μ β)
  | unlock (m : μ)

namespace Frame

variable {μ β : Type*}

/-- The mutexes that are held. -/
def held : List (Frame μ β) → List μ
  | [] => []
  | .run _ :: stack => held stack
  | .unlock m :: stack => m :: held stack

/-- All of the stack is ordered. -/
def Disciplined (rank : μ → Nat) : List (Frame μ β) → Prop
  | [] => True
  | .run p :: stack => p.Ordered rank (held stack) ∧ Disciplined rank stack
  | .unlock m :: stack => (∀ h ∈ held stack, rank h < rank m) ∧ Disciplined rank stack

end Frame

/-- The threads `θ` and who holds what. -/
structure Locking (θ μ β : Type*) where
  stack : θ → List (Frame μ β)
  owner : μ → Option θ

/-- A thread goes on; `again` takes the first of two branches and a loop once more. -/
structure LockAct (θ : Type*) where
  thread : θ
  again : Bool

namespace Locking

variable {θ μ β : Type*}

/-- All the mutexes are free. -/
def start (routine : θ → Routine μ β) : Locking θ μ β := ⟨fun t => [.run (routine t)], fun _ => none⟩

section Steps

variable [DecidableEq θ]

def goto (s : Locking θ μ β) (t : θ) (stack : List (Frame μ β)) : Locking θ μ β :=
  { s with stack := Function.update s.stack t stack }

@[simp] theorem goto_owner (s : Locking θ μ β) (t : θ) (stack : List (Frame μ β)) :
    (s.goto t stack).owner = s.owner := rfl

@[simp] theorem goto_stack_self (s : Locking θ μ β) (t : θ) (stack : List (Frame μ β)) :
    (s.goto t stack).stack t = stack := by
  simp [goto]

theorem goto_stack_other (s : Locking θ μ β) {t u : θ} (other : u ≠ t)
    (stack : List (Frame μ β)) : (s.goto t stack).stack u = s.stack u := by
  simp [goto, other]

variable [DecidableEq μ]

def setOwner (s : Locking θ μ β) (m : μ) (o : Option θ) : Locking θ μ β :=
  { s with owner := Function.update s.owner m o }

/-- A step of a thread; one that waits for a mutex stays where it is. -/
def next (s : Locking θ μ β) (a : LockAct θ) : Locking θ μ β :=
  match s.stack a.thread with
  | [] => s
  | .run .skip :: stack => s.goto a.thread stack
  | .run (.waits _) :: stack | .run (.does _) :: stack => s.goto a.thread stack
  | .run (.guarded m body) :: stack =>
    if s.owner m = none then
      (s.setOwner m (some a.thread)).goto a.thread (.run body :: .unlock m :: stack)
    else s
  | .run (.seq p q) :: stack => s.goto a.thread (.run p :: .run q :: stack)
  | .run (.alt p q) :: stack => s.goto a.thread (.run (if a.again then p else q) :: stack)
  | .run (.star p) :: stack =>
    s.goto a.thread (if a.again then .run p :: .run (.star p) :: stack else stack)
  | .unlock m :: stack => (s.setOwner m none).goto a.thread stack

end Steps

/-- The thread is at a lock that another thread holds, or it itself. -/
def WaitsFor (s : Locking θ μ β) (t : θ) (m : μ) : Prop :=
  (∃ body stack, s.stack t = .run (.guarded m body) :: stack) ∧ s.owner m ≠ none

/-- The thread is in a call that may wait. -/
def InCall (s : Locking θ μ β) (t : θ) : Prop := ∃ b stack, s.stack t = .run (.waits b) :: stack

/-- The thread goes on by itself: it is in no call, and any step of it takes it further. -/
def Goes [DecidableEq θ] [DecidableEq μ] (s : Locking θ μ β) (t : θ) : Prop :=
  ¬ s.InCall t ∧ ∀ again, (s.next ⟨t, again⟩).stack t ≠ s.stack t

theorem goes_of_free [DecidableEq θ] [DecidableEq μ] {s : Locking θ μ β} {t : θ}
    (more : s.stack t ≠ []) (call : ¬ s.InCall t) (free : ∀ m, ¬ s.WaitsFor t m) : s.Goes t := by
  refine ⟨call, fun again same => ?_⟩
  -- no step leaves as many frames, but that of a branch
  have length := congrArg List.length same
  unfold next at same length
  split at length
  next done => exact more done
  next stack at_ => simp [at_] at length
  next b stack at_ => exact call ⟨b, stack, at_⟩
  next b stack at_ => simp [at_] at length
  next m body stack at_ =>
    split at length
    · simp [at_] at length
    next taken => exact free m ⟨⟨body, stack, at_⟩, taken⟩
  next p q stack at_ => simp [at_] at length
  next p q stack at_ =>
    simp only [at_, goto_stack_self, List.cons.injEq, Frame.run.injEq] at same
    have smaller := congrArg sizeOf same.1
    rw [Routine.alt.sizeOf_spec] at smaller
    split at smaller
    · omega
    · omega
  next p stack at_ =>
    rw [goto_stack_self, at_] at length
    cases again <;> simp at length
  next m stack at_ => simp [at_] at length

end Locking

/-- The runs of threads with these routines. -/
def lockMachine {θ μ β : Type*} [DecidableEq θ] [DecidableEq μ] (routine : θ → Routine μ β) :
    Machine (Locking θ μ β) (LockAct θ) :=
  ⟨.start routine, Locking.next⟩

namespace Locking

open Runs.Frame

variable {θ μ β : Type*} {rank : μ → Nat}

/-- **The invariant of the threads**: they are ordered, and a mutex is owned by who holds it. -/
structure Disciplined (rank : μ → Nat) (s : Locking θ μ β) : Prop where
  frames : ∀ t, Frame.Disciplined rank (s.stack t)
  owner : ∀ t m, m ∈ held (s.stack t) ↔ s.owner m = some t

theorem start_disciplined {routine : θ → Routine μ β} (ordered : ∀ t, (routine t).Ordered rank []) :
    (start routine).Disciplined rank := by
  refine ⟨fun t => ⟨ordered t, trivial⟩, fun t m => ?_⟩
  simp [start, held]

variable {s : Locking θ μ β}

namespace Disciplined

/-- **In a call that may wait a thread holds nothing.** -/
theorem inCall (h : s.Disciplined rank) {t : θ} (call : s.InCall t) (m : μ) :
    s.owner m ≠ some t := by
  obtain ⟨b, stack, at_⟩ := call
  have here := h.frames t
  rw [at_] at here
  have nothing : held stack = [] := here.1
  rw [ne_eq, ← h.owner, at_]
  simp [held, nothing]

section Steps

variable [DecidableEq θ]

/-- The thread holds what it held. -/
theorem goto (h : s.Disciplined rank) {t : θ} {stack : List (Frame μ β)}
    (ordered : Frame.Disciplined rank stack) (same : held stack = held (s.stack t)) :
    (s.goto t stack).Disciplined rank := by
  constructor
  · intro u
    by_cases mine : u = t
    · subst mine
      rw [goto_stack_self]
      exact ordered
    · rw [goto_stack_other s mine]
      exact h.frames u
  · intro u m
    by_cases mine : u = t
    · subst mine
      rw [goto_stack_self, same]
      exact h.owner u m
    · rw [goto_stack_other s mine]
      exact h.owner u m

variable [DecidableEq μ]

/-- A free mutex is taken. -/
theorem acquire (h : s.Disciplined rank) {t : θ} {m : μ} {stack : List (Frame μ β)}
    (ordered : Frame.Disciplined rank stack) (free : s.owner m = none)
    (more : held stack = m :: held (s.stack t)) :
    ((s.setOwner m (some t)).goto t stack).Disciplined rank := by
  constructor
  · intro u
    by_cases mine : u = t
    · subst mine
      rw [goto_stack_self]
      exact ordered
    · rw [goto_stack_other _ mine]
      exact h.frames u
  · intro u k
    by_cases mine : u = t
    · subst mine
      rw [goto_stack_self, more, List.mem_cons, h.owner]
      by_cases this : k = m
      · simp [setOwner, this]
      · simp [setOwner, this]
    · rw [goto_stack_other _ mine]
      by_cases this : k = m
      · subst this
        have before : ¬ k ∈ held (s.stack u) := by
          rw [h.owner, free]
          simp
        simpa [setOwner, before] using Ne.symm mine
      · simpa [setOwner, this] using h.owner u k

/-- The mutex of the innermost scope is let go of. -/
theorem release (h : s.Disciplined rank) {t : θ} {m : μ} {stack : List (Frame μ β)}
    (at_ : s.stack t = .unlock m :: stack) : ((s.setOwner m none).goto t stack).Disciplined rank := by
  have here := h.frames t
  rw [at_] at here
  obtain ⟨below, ordered⟩ := here
  have mine : s.owner m = some t := by
    rw [← h.owner, at_]
    exact List.mem_cons_self
  constructor
  · intro u
    by_cases same : u = t
    · subst same
      rw [goto_stack_self]
      exact ordered
    · rw [goto_stack_other _ same]
      exact h.frames u
  · intro u k
    by_cases this : k = m
    · subst this
      -- it was held once, and by this thread
      have gone : k ∉ held ((((s.setOwner k none).goto t stack).stack) u) := by
        by_cases same : u = t
        · subst same
          rw [goto_stack_self]
          intro again
          exact lt_irrefl _ (below k again)
        · rw [goto_stack_other _ same]
          show k ∉ held (s.stack u)
          rw [h.owner, mine]
          simpa using Ne.symm same
      simpa [setOwner] using gone
    · have before : k ∈ held ((((s.setOwner m none).goto t stack).stack) u) ↔
          k ∈ held (s.stack u) := by
        by_cases same : u = t
        · subst same
          rw [goto_stack_self, at_]
          simp [held, this]
        · rw [goto_stack_other _ same]
          rfl
      rw [before, h.owner]
      simp [setOwner, this]

theorem next (h : s.Disciplined rank) (a : LockAct θ) : (s.next a).Disciplined rank := by
  have here := h.frames a.thread
  unfold Locking.next
  split
  · exact h
  next stack at_ =>
    rw [at_] at here
    exact h.goto here.2 (by rw [at_]; rfl)
  next b stack at_ =>
    rw [at_] at here
    exact h.goto here.2 (by rw [at_]; rfl)
  next b stack at_ =>
    rw [at_] at here
    exact h.goto here.2 (by rw [at_]; rfl)
  next m body stack at_ =>
    rw [at_] at here
    obtain ⟨⟨higher, inner⟩, rest⟩ := here
    split
    next free => exact h.acquire ⟨inner, higher, rest⟩ free (by rw [at_]; rfl)
    · exact h
  next p q stack at_ =>
    rw [at_] at here
    obtain ⟨⟨first, second⟩, rest⟩ := here
    exact h.goto ⟨first, second, rest⟩ (by rw [at_]; rfl)
  next p q stack at_ =>
    rw [at_] at here
    obtain ⟨⟨first, second⟩, rest⟩ := here
    refine h.goto ⟨?_, rest⟩ (by rw [at_]; rfl)
    split
    · exact first
    · exact second
  next p stack at_ =>
    rw [at_] at here
    obtain ⟨once, rest⟩ := here
    split
    · exact h.goto ⟨once, once, rest⟩ (by rw [at_]; rfl)
    · exact h.goto rest (by rw [at_]; rfl)
  next m stack at_ => exact h.release at_

/-- **Who holds a mutex goes on, or waits for a higher one.** -/
theorem holder (h : s.Disciplined rank) {t : θ} {m : μ} (holds : s.owner m = some t) :
    s.Goes t ∨ ∃ m', rank m < rank m' ∧ s.WaitsFor t m' := by
  by_cases waiting : ∃ m', s.WaitsFor t m'
  · obtain ⟨m', ⟨body, stack, at_⟩, taken⟩ := waiting
    refine .inr ⟨m', ?_, ⟨body, stack, at_⟩, taken⟩
    have here := h.frames t
    rw [at_] at here
    apply here.1.1
    rw [← h.owner, at_] at holds
    exact holds
  · left
    apply goes_of_free
    · intro done
      rw [← h.owner, done] at holds
      cases holds
    · exact fun call => h.inCall call m holds
    · exact fun m' waits => waiting ⟨m', waits⟩

/-- **No deadlock**: while a mutex is waited for, a thread that holds one goes on. -/
theorem exists_goes (h : s.Disciplined rank) {top : Nat} (le_top : ∀ m, rank m ≤ top)
    {t : θ} {m : μ} (waits : s.WaitsFor t m) :
    ∃ u m', rank m ≤ rank m' ∧ s.owner m' = some u ∧ s.Goes u := by
  -- the ranks that are waited for rise, up to the top
  induction left : top - rank m using Nat.strong_induction_on generalizing t m with
  | _ n ih =>
    obtain ⟨u, holds⟩ := Option.ne_none_iff_exists'.1 waits.2
    rcases h.holder holds with goes | ⟨m', higher, waits'⟩
    · exact ⟨u, m, le_rfl, holds, goes⟩
    · have bounded := le_top m'
      obtain ⟨v, m'', above, holds', goes⟩ := ih (top - rank m') (by omega) waits' rfl
      exact ⟨v, m'', by omega, holds', goes⟩

end Steps

end Disciplined

theorem exec_disciplined [DecidableEq θ] [DecidableEq μ] {routine : θ → Routine μ β}
    (ordered : ∀ t, (routine t).Ordered rank []) (run : List (LockAct θ)) :
    ((lockMachine routine).exec run).Disciplined rank :=
  (lockMachine routine).invariant (I := fun s => s.Disciplined rank) (start_disciplined ordered)
    (fun _ a h => h.next a) run

end Locking

end SecpChat.Runs
