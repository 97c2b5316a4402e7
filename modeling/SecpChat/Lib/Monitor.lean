import Mathlib.Logic.Function.Basic
import Mathlib.Tactic.TypeStar

/-!
# A mutex and a condition variable

A `Monitor` records who holds the mutex and who is blocked on the condition variable
without having been notified. Blocking releases the mutex in the same step; a notified
thread, like one whose time is up, has the mutex still to acquire. Of threads whose places
say whether they are inside, `Exclusive` says that inside is who holds the mutex, and there
is a rule for each operation that a thread can take.
-/

namespace SecpChat

/-- The mutex and the condition variable of the threads `ι`. -/
structure Monitor (ι : Type*) where
  owner : Option ι
  /-- Blocked, and not notified since. -/
  waiting : ι → Bool

namespace Monitor

variable {ι π : Type*}

def free : Monitor ι := ⟨none, fun _ => false⟩

/-- `lock`, for which the mutex must be free. -/
def acquire (m : Monitor ι) (i : ι) : Option (Monitor ι) :=
  if m.owner.isNone then some { m with owner := some i } else none

def release (m : Monitor ι) : Monitor ι := { m with owner := none }

/-- Everyone who is blocked is notified. -/
def notifyAll (m : Monitor ι) : Monitor ι := { m with waiting := fun _ => false }

theorem acquire_eq_some {m m' : Monitor ι} {i : ι} :
    m.acquire i = some m' ↔ m.owner = none ∧ m' = { m with owner := some i } := by
  unfold acquire
  cases m.owner with
  | none => simp [@eq_comm _ m']
  | some j => simp

section

variable [DecidableEq ι]

/-- The wait of a condition variable: the mutex is released and the thread blocked at once. -/
def block (m : Monitor ι) (i : ι) : Monitor ι := ⟨none, Function.update m.waiting i true⟩

/-- The thread stops waiting without being notified. -/
def wake (m : Monitor ι) (i : ι) : Monitor ι :=
  { m with waiting := Function.update m.waiting i false }

@[simp] theorem waiting_block_self (m : Monitor ι) (i : ι) : (m.block i).waiting i = true := by
  simp [block]

/-- Waking one thread blocks no other. -/
theorem waiting_wake {m : Monitor ι} {i j : ι} (h : m.waiting j = false) :
    (m.wake i).waiting j = false := by
  by_cases same : j = i
  · simp [wake, same]
  · simp [wake, same, h]

theorem waiting_wake_other {m : Monitor ι} {i j : ι} (other : j ≠ i) :
    (m.wake i).waiting j = m.waiting j := by
  simp [wake, other]

end

/-! ## Mutual exclusion -/

/-- The threads inside are who holds the mutex. -/
def Exclusive (inside : π → Prop) (m : Monitor ι) (pc : ι → π) : Prop :=
  ∀ i, inside (pc i) ↔ m.owner = some i

section

variable {inside : π → Prop} {m m' : Monitor ι} {pc : ι → π} {i j : ι} {p : π}

/-- **At most one thread is inside.** -/
theorem Exclusive.unique (h : Exclusive inside m pc) (hi : inside (pc i)) (hj : inside (pc j)) :
    i = j :=
  Option.some.inj (((h i).1 hi).symm.trans ((h j).1 hj))

theorem Exclusive.of_owner (h : Exclusive inside m pc) (same : m'.owner = m.owner) :
    Exclusive inside m' pc := by
  unfold Exclusive
  rw [same]
  exact h

variable [DecidableEq ι]

/-- A step that neither enters nor leaves. -/
theorem Exclusive.move (h : Exclusive inside m pc) (same : inside p ↔ inside (pc i)) :
    Exclusive inside m (Function.update pc i p) := by
  intro j
  by_cases own : j = i
  · subst own
    rw [Function.update_self, same]
    exact h j
  · rw [Function.update_of_ne own]
    exact h j

theorem Exclusive.acquire (h : Exclusive inside m pc) (taken : m.acquire i = some m')
    (enters : inside p) : Exclusive inside m' (Function.update pc i p) := by
  obtain ⟨free, rfl⟩ := acquire_eq_some.1 taken
  intro j
  by_cases own : j = i
  · subst own
    simp [enters]
  · have outside : ¬ inside (pc j) := by simp [h j, free]
    simp [own, outside, Ne.symm own]

/-- Whoever was inside leaves, and the mutex is free. -/
theorem Exclusive.leave (h : Exclusive inside m pc) (leaver : inside (pc i)) (free : m'.owner = none)
    (leaves : ¬ inside p) : Exclusive inside m' (Function.update pc i p) := by
  intro j
  by_cases own : j = i
  · subst own
    simp [leaves, free]
  · have outside : ¬ inside (pc j) := fun inside => own (h.unique inside leaver)
    simp [own, outside, free]

end

end Monitor

end SecpChat
