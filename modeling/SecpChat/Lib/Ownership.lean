import Mathlib.Logic.Function.Basic
import Mathlib.Tactic.TypeStar

/-!
# Handles with one owner

Owners hold handles of a table. `Owns` says that a held handle is in use, that no two
owners hold the same, and that what nobody holds is as it was before. Acquiring a free
handle, giving one back, changing its entry and handing it over keep it; when nobody holds
one any more, the table is what it was.
-/

namespace SecpChat

variable {ι η ν : Type*}

structure Owns (before : η → Option ν) (held : ι → Option η) (table : η → Option ν) : Prop where
  inUse : ∀ {i h}, held i = some h → (table h).isSome
  own : ∀ {i h}, held i = some h → before h = none
  apart : ∀ {i j h}, held i = some h → held j = some h → i = j
  rest : ∀ {h}, (∀ i, held i ≠ some h) → table h = before h

namespace Owns

variable {before table : η → Option ν} {held : ι → Option η} {i j : ι} {h : η}

theorem start (table : η → Option ν) : Owns table (fun _ : ι => none) table :=
  ⟨nofun, nofun, nofun, fun _ => rfl⟩

/-- **Nothing is left behind.** -/
theorem empty (o : Owns before held table) (nothing : ∀ i, held i = none) : table = before :=
  funext fun h => o.rest fun i => by simp [nothing i]

/-- A handle that is free is nobody's, and was free before. -/
theorem not_held (o : Owns before held table) (free : table h = none) (i : ι) :
    held i ≠ some h := by
  intro mine
  have used := o.inUse mine
  rw [free] at used
  cases used

theorem before_free (o : Owns before held table) (free : table h = none) : before h = none :=
  (o.rest (o.not_held free)).symm.trans free

section Handles

variable [DecidableEq η]

/-- What is done to a handle that somebody holds is nobody else's. -/
theorem change (o : Owns before held table) (mine : held i = some h) (v : ν) :
    Owns before held (Function.update table h (some v)) := by
  refine ⟨fun {j h'} still => ?_, o.own, o.apart, fun {h'} nobody => ?_⟩
  · by_cases same : h' = h
    · simp [same]
    · rw [Function.update_of_ne same]
      exact o.inUse still
  · have other : h' ≠ h := by
      rintro rfl
      exact nobody i mine
    rw [Function.update_of_ne other]
    exact o.rest nobody

variable [DecidableEq ι]

theorem acquire (o : Owns before held table) (idle : held i = none) (free : table h = none)
    (v : ν) : Owns before (Function.update held i (some h)) (Function.update table h (some v)) := by
  have others {j : ι} {h' : η} (mine : Function.update held i (some h) j = some h') :
      j = i ∧ h' = h ∨ j ≠ i ∧ held j = some h' := by
    by_cases own : j = i
    · subst own
      rw [Function.update_self] at mine
      exact .inl ⟨rfl, (Option.some.inj mine).symm⟩
    · rw [Function.update_of_ne own] at mine
      exact .inr ⟨own, mine⟩
  refine ⟨fun {j h'} mine => ?_, fun {j h'} mine => ?_, fun {j k h'} mine mine' => ?_,
    fun {h'} nobody => ?_⟩
  · rcases others mine with ⟨-, rfl⟩ | ⟨-, mine⟩
    · simp
    · have other : h' ≠ h := fun same => o.not_held free j (same ▸ mine)
      rw [Function.update_of_ne other]
      exact o.inUse mine
  · rcases others mine with ⟨-, rfl⟩ | ⟨-, mine⟩
    · exact o.before_free free
    · exact o.own mine
  · rcases others mine with ⟨first, same⟩ | ⟨-, old⟩
    · rcases others mine' with ⟨second, -⟩ | ⟨-, old⟩
      · exact first.trans second.symm
      · exact (o.not_held free k (same ▸ old)).elim
    · rcases others mine' with ⟨-, same⟩ | ⟨-, old'⟩
      · exact (o.not_held free j (same ▸ old)).elim
      · exact o.apart old old'
  · have other : h' ≠ h := by
      rintro rfl
      exact nobody i (Function.update_self ..)
    rw [Function.update_of_ne other]
    apply o.rest
    intro j mine
    have apart : j ≠ i := by
      rintro rfl
      rw [idle] at mine
      cases mine
    exact nobody j (by rw [Function.update_of_ne apart, mine])

theorem release (o : Owns before held table) (mine : held i = some h) :
    Owns before (Function.update held i none) (Function.update table h none) := by
  have others {j : ι} {h' : η} (still : Function.update held i none j = some h') :
      held j = some h' ∧ h' ≠ h := by
    by_cases own : j = i
    · subst own
      rw [Function.update_self] at still
      cases still
    · rw [Function.update_of_ne own] at still
      exact ⟨still, fun same => own (o.apart (same ▸ still) mine)⟩
  refine ⟨fun {j h'} still => ?_, fun {j h'} still => o.own (others still).1,
    fun {j k h'} still still' => o.apart (others still).1 (others still').1, fun {h'} nobody => ?_⟩
  · rw [Function.update_of_ne (others still).2]
    exact o.inUse (others still).1
  · by_cases same : h' = h
    · subst same
      rw [Function.update_self]
      exact (o.own mine).symm
    · rw [Function.update_of_ne same]
      apply o.rest
      intro j still
      have apart : j ≠ i := by
        rintro rfl
        exact same (Option.some.inj (still.symm.trans mine))
      exact nobody j (by rw [Function.update_of_ne apart, still])

end Handles

variable [DecidableEq ι]

/-- A handle changes hands. -/
theorem transfer (o : Owns before held table) (idle : held i = none) :
    Owns before (Function.update (Function.update held i (held j)) j none) table := by
  have others {k : ι} {h : η}
      (mine : Function.update (Function.update held i (held j)) j none k = some h) :
      k = i ∧ held j = some h ∨ k ≠ j ∧ held k = some h := by
    by_cases giver : k = j
    · subst giver
      rw [Function.update_self] at mine
      cases mine
    rw [Function.update_of_ne giver] at mine
    by_cases taker : k = i
    · subst taker
      rw [Function.update_self] at mine
      exact .inl ⟨rfl, mine⟩
    · rw [Function.update_of_ne taker] at mine
      exact .inr ⟨giver, mine⟩
  refine ⟨fun mine => ?_, fun mine => ?_, fun {k l h} mine mine' => ?_, fun {h} nobody => ?_⟩
  · rcases others mine with ⟨-, taken⟩ | ⟨-, kept⟩
    · exact o.inUse taken
    · exact o.inUse kept
  · rcases others mine with ⟨-, taken⟩ | ⟨-, kept⟩
    · exact o.own taken
    · exact o.own kept
  · rcases others mine with ⟨first, taken⟩ | ⟨kept, old⟩
    · rcases others mine' with ⟨second, -⟩ | ⟨kept, old⟩
      · exact first.trans second.symm
      · exact (kept (o.apart old taken)).elim
    · rcases others mine' with ⟨-, taken⟩ | ⟨-, old'⟩
      · exact (kept (o.apart old taken)).elim
      · exact o.apart old old'
  · apply o.rest
    intro k mine
    by_cases giver : k = j
    · -- what the giver held, the taker holds now
      subst giver
      by_cases same : i = k
      · subst same
        rw [idle] at mine
        cases mine
      · exact nobody i (by rw [Function.update_of_ne same, Function.update_self, mine])
    · have apart : k ≠ i := by
        rintro rfl
        rw [idle] at mine
        cases mine
      exact nobody k (by rw [Function.update_of_ne giver, Function.update_of_ne apart, mine])

end Owns

end SecpChat
