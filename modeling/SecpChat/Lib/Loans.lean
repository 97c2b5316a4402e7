import SecpChat.Lib.Runs

/-!
# Loans

A resource is replaced now and then, and a user holds on to the one that was there when it
took it. `Loans` says what a step may do to the two: it replaces the resource under the
user, or it leaves the resource and the user takes it, keeps what it has, or gives it back. The user is
then left with a resource that is gone exactly where a step replaced what it held and it has held on
to it since (`Loans.stale_iff`).
-/

namespace SecpChat.Runs

variable {σ α : Type}

/-- `version` counts how often the resource was replaced, and `loan` is the version that the
user holds. -/
structure Loans (M : Machine σ α) where
  version : σ → Nat
  loan : σ → Option Nat
  start : loan M.start = none
  step : ∀ s a,
    version (M.next s a) = version s + 1 ∧ loan (M.next s a) = loan s ∨
    version (M.next s a) = version s ∧ (loan (M.next s a) = loan s ∨ loan (M.next s a) = none ∨
      loan (M.next s a) = some (version s))

namespace Loans

variable {M : Machine σ α} (L : Loans M)

/-- The user holds a version that has been replaced. -/
def Stale (s : σ) : Prop := ∃ v, L.loan s = some v ∧ v < L.version s

/-- The user holds the version that is there. -/
def Current (s : σ) : Prop := L.loan s = some (L.version s)

/-- The step replaces the resource. -/
def Replaces (s : σ) (a : α) : Prop := L.version (M.next s a) = L.version s + 1

variable {L}

theorem version_mono (s : σ) (a : α) : L.version s ≤ L.version (M.next s a) := by
  rcases L.step s a with ⟨more, -⟩ | ⟨same, -⟩ <;> omega

/-- Replacing what the user holds makes it stale. -/
theorem Current.stale {s : σ} {a : α} (h : L.Current s) (replaces : L.Replaces s a) :
    L.loan (M.next s a) = some (L.version s) ∧ L.version s < L.version (M.next s a) := by
  unfold Replaces at replaces
  rcases L.step s a with ⟨-, kept⟩ | ⟨same, -⟩
  · exact ⟨kept.trans h, by omega⟩
  · omega

/-- Nothing else does. -/
theorem current_of_stale {s : σ} {a : α} (before : ¬ L.Stale s) (after : L.Stale (M.next s a)) :
    L.Current s ∧ L.Replaces s a := by
  obtain ⟨v, held, less⟩ := after
  rcases L.step s a with ⟨more, kept⟩ | ⟨same, kept | back | taken⟩
  · refine ⟨?_, more⟩
    have there : L.loan s = some v := kept.symm.trans held
    have least : ¬ v < L.version s := fun less => before ⟨v, there, less⟩
    have same : v = L.version s := by omega
    rw [Current, there, same]
  · exact (before ⟨v, kept.symm.trans held, by omega⟩).elim
  · rw [back] at held
    cases held
  · rw [taken, Option.some.injEq] at held
    omega

/-- A step to a stale loan keeps it. -/
theorem Stale.kept {s : σ} {a : α} (after : L.Stale (M.next s a)) :
    L.loan (M.next s a) = L.loan s := by
  obtain ⟨v, held, less⟩ := after
  rcases L.step s a with ⟨-, kept⟩ | ⟨same, kept | back | taken⟩
  · exact kept
  · exact kept
  · rw [back] at held
    cases held
  · rw [taken, Option.some.injEq] at held
    omega

/-- **The user is left with what is gone** exactly where a step of the run replaced what it held,
and it has held on to it since. -/
theorem stale_iff (run : List α) :
    L.Stale (M.exec run) ↔ ∃ pre a post, run = pre ++ a :: post ∧ L.Current (M.exec pre) ∧
      L.Replaces (M.exec pre) a ∧
      M.Since (fun s => L.loan s = some (L.version (M.exec pre))) (pre ++ [a]) post := by
  constructor
  · intro stale
    have fresh : ¬ L.Stale (M.exec []) := by
      rintro ⟨v, held, -⟩
      rw [Machine.exec_nil, L.start] at held
      cases held
    obtain ⟨pre, a, post, rfl, before, since⟩ :=
      Machine.exists_rise (Q := L.Stale) run fresh stale
    simp only [List.nil_append] at before since
    have first := since.start
    rw [Machine.exec_snoc] at first
    obtain ⟨current, replaces⟩ := current_of_stale before first
    refine ⟨pre, a, post, rfl, current, replaces, fun mid front => ?_⟩
    -- on the way every state is stale, so that the loan is kept
    obtain ⟨rest, rfl⟩ := front
    refine since.front.induct (I := fun s => L.loan s = some (L.version (M.exec pre))) ?_ ?_
    · rw [Machine.exec_snoc]
      exact (current.stale replaces).1
    · intro s b _ after held
      exact after.kept.trans held
  · rintro ⟨pre, a, post, rfl, current, replaces, since⟩
    obtain ⟨held, less⟩ := current.stale replaces
    have gone : L.version (M.exec pre) < L.version (M.exec (pre ++ [a] ++ post)) := by
      refine since.induct (I := fun s => L.version (M.exec pre) < L.version s) ?_ ?_
      · rw [Machine.exec_snoc]
        exact less
      · intro s b _ _ less
        exact lt_of_lt_of_le less (version_mono s b)
    rw [List.append_cons]
    exact ⟨_, since.last, gone⟩

end Loans

end SecpChat.Runs
