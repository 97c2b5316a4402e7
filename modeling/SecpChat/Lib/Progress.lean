import SecpChat.Lib.Runs

/-!
# Parts of a machine, and how far it can go

A component of the state that every step leaves alone or takes a step of its own in runs
as a machine of its own (`Part`), so what holds of every run of the component holds of it
in the whole. A rank that no step raises and that the steps of a kind lower bounds how many
steps of that kind a run can still make (`count_le`).
-/

namespace SecpChat.Runs.Machine

variable {σ τ α β : Type*}

/-- `f` of the machine `M` is at rest or takes a step of `N`. -/
structure Part (M : Machine σ α) (N : Machine τ β) (f : σ → τ) : Prop where
  start : f M.start = N.start
  step : ∀ s a, f (M.next s a) = f s ∨ ∃ b, f (M.next s a) = N.next (f s) b

variable {M : Machine σ α}

/-- **A part runs on its own.** -/
theorem Part.exec {N : Machine τ β} {f : σ → τ} (h : M.Part N f) (run : List α) :
    ∃ own, f (M.exec run) = N.exec own := by
  induction run using List.reverseRecOn with
  | nil => exact ⟨[], h.start⟩
  | append_singleton run a ih =>
    obtain ⟨own, same⟩ := ih
    rw [exec_snoc]
    rcases h.step (M.exec run) a with rest | ⟨b, stepped⟩
    · exact ⟨own, rest.trans same⟩
    · refine ⟨own ++ [b], ?_⟩
      rw [exec_snoc, stepped, same]

variable (M) in
/-- How many steps of the run meet `P`. -/
def count (P : σ → α → Prop) [∀ s a, Decidable (P s a)] : σ → List α → Nat
  | _, [] => 0
  | s, a :: rest => (if P s a then 1 else 0) + count P (M.next s a) rest

section

variable {P : σ → α → Prop} [∀ s a, Decidable (P s a)] {I : σ → Prop} {rank : σ → Nat}

/-- **A rank bounds the steps still to come**, whatever other steps come between them. -/
theorem count_le (inv : ∀ s a, I s → I (M.next s a))
    (lower : ∀ s a, I s → (if P s a then 1 else 0) + rank (M.next s a) ≤ rank s) (more : List α)
    {s : σ} (h : I s) : M.count P s more + rank (more.foldl M.next s) ≤ rank s := by
  induction more generalizing s with
  | nil => simp [count]
  | cons a more ih =>
    have first := lower s a h
    have rest := ih (inv s a h)
    simp only [count, List.foldl_cons]
    omega

end

end SecpChat.Runs.Machine
