import Mathlib.Tactic.TypeStar

/-!
# Loops that may fault

The body of a loop goes on to the next head, returns, or faults. `Heads` are the states the
loop is in when its body starts; a loop with an invariant and a measure that every
iteration decreases (`Variant`) faults at no head and returns.
-/

namespace SecpChat.Loop

variable {ε σ ρ : Type*}

/-- The loop with a bound on its iterations; `none` is a loop still running. -/
def run (body : σ → Except ε (σ ⊕ ρ)) : Nat → σ → Except ε (Option ρ)
  | 0, _ => .ok none
  | fuel + 1, s =>
    match body s with
    | .error fault => .error fault
    | .ok (.inl s') => run body fuel s'
    | .ok (.inr result) => .ok (some result)

/-- The states at the head of a loop that starts in `start`. -/
inductive Heads (body : σ → Except ε (σ ⊕ ρ)) (start : σ) : σ → Prop
  | start : Heads body start start
  | next {s s' : σ} : Heads body start s → body s = .ok (.inl s') → Heads body start s'

/-- From a state with `I` the body goes on to one, decreases the measure and leaves the result
as it will be, or returns the result. -/
structure Variant (body : σ → Except ε (σ ⊕ ρ)) (I : σ → Prop) (measure : σ → Nat)
    (result : σ → ρ) : Prop where
  iterate : ∀ s, I s →
    (∃ s', body s = .ok (.inl s') ∧ I s' ∧ measure s' < measure s ∧ result s' = result s) ∨
      body s = .ok (.inr (result s))

variable {body : σ → Except ε (σ ⊕ ρ)} {I : σ → Prop} {measure : σ → Nat} {result : σ → ρ}
  {start s : σ}

/-- **The invariant holds at every head.** -/
theorem Variant.heads (v : Variant body I measure result) (h : I start) (head : Heads body start s) :
    I s := by
  induction head with
  | start => exact h
  | next _ goes inv =>
    rcases v.iterate _ inv with ⟨s', goes', inv', -, -⟩ | returns
    · rw [goes'] at goes
      cases goes
      exact inv'
    · rw [returns] at goes
      cases goes

/-- The body does not fault. -/
theorem Variant.safe (v : Variant body I measure result) (inv : I s) : ∃ o, body s = .ok o := by
  rcases v.iterate s inv with ⟨s', goes, -⟩ | returns
  · exact ⟨_, goes⟩
  · exact ⟨_, returns⟩

/-- Each iteration decreases the measure. -/
theorem Variant.less {s' : σ} (v : Variant body I measure result) (inv : I s)
    (goes : body s = .ok (.inl s')) : measure s' < measure s := by
  rcases v.iterate s inv with ⟨s'', goes', -, less, -⟩ | returns
  · rw [goes'] at goes
    cases goes
    exact less
  · rw [returns] at goes
    cases goes

/-- **The loop ends with its result.** -/
theorem Variant.run_eq (v : Variant body I measure result) {fuel : Nat} (h : I s)
    (enough : measure s < fuel) : run body fuel s = .ok (some (result s)) := by
  induction fuel generalizing s with
  | zero => exact absurd enough (Nat.not_lt_zero _)
  | succ fuel ih =>
    rcases v.iterate s h with ⟨s', goes, inv', less, same⟩ | returns
    · have rest := ih inv' (Nat.lt_of_lt_of_le less (Nat.le_of_lt_succ enough))
      simp only [run, goes, rest, same]
    · simp only [run, returns]

end SecpChat.Loop
