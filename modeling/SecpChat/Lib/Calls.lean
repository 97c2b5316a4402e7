import Mathlib.Data.List.Induction
import Mathlib.Tactic.TypeStar

/-!
# Programs that make calls

A `Prog` either returns or makes a call and goes on with what comes back. Who answers is a
`World`: a call may be made in some states only, and what it returns and what it does to
the state the world decides within `allows`. `wp` asks that every call may be made and that
every way to return meets the postcondition. A component is a state with operations that are
programs, and an invariant of it is what every operation keeps in every world state it may
meet (`Runs.induct`). A handler that keeps to the world runs a program (`run_ends`).
-/

namespace SecpChat.Calls

universe u

variable {κ : Type u} {ρ : κ → Type u} {σ : Type*} {α β : Type u}

/-- `κ` are the calls, `ρ c` what the call `c` returns. -/
inductive Prog (κ : Type u) (ρ : κ → Type u) (α : Type u) where
  | ret (a : α)
  | call (c : κ) (next : ρ c → Prog κ ρ α)

namespace Prog

protected def bind : Prog κ ρ α → (α → Prog κ ρ β) → Prog κ ρ β
  | ret a, f => f a
  | call c next, f => call c fun r => (next r).bind f

instance : Monad (Prog κ ρ) where
  pure := ret
  bind := Prog.bind

/-- One call. -/
def perform (c : κ) : Prog κ ρ (ρ c) := call c ret

/-- The program with its calls answered by a handler. -/
def run (handle : σ → (c : κ) → ρ c × σ) : Prog κ ρ α → σ → α × σ
  | ret a, s => (a, s)
  | call c next, s => (next (handle s c).1).run handle (handle s c).2

theorem run_bind (handle : σ → (c : κ) → ρ c × σ) (p : Prog κ ρ α) (f : α → Prog κ ρ β) (s : σ) :
    (p >>= f).run handle s = (f (p.run handle s).1).run handle (p.run handle s).2 := by
  induction p generalizing s with
  | ret a => rfl
  | call c next ih => exact ih _ _

end Prog

/-- Who answers the calls. -/
structure World (σ : Type*) (κ : Type u) (ρ : κ → Type u) where
  requires : σ → κ → Prop
  allows : σ → (c : κ) → ρ c → σ → Prop

namespace World

variable (W : World σ κ ρ)

/-- All calls may be made, and however they are answered `Q` holds at the end. -/
def wp : Prog κ ρ α → (α → σ → Prop) → σ → Prop
  | .ret a, Q, s => Q a s
  | .call c next, Q, s => W.requires s c ∧ ∀ r t, W.allows s c r t → wp (next r) Q t

/-- The program can return `a` in the state `t`. -/
def Ends : Prog κ ρ α → σ → α → σ → Prop
  | .ret b, s, a, t => a = b ∧ t = s
  | .call c next, s, a, t => ∃ r u, W.allows s c r u ∧ Ends (next r) u a t

variable {W} {Q R : α → σ → Prop} {s : σ}

@[simp] theorem wp_pure (a : α) : W.wp (pure a : Prog κ ρ α) Q s ↔ Q a s := Iff.rfl

@[simp] theorem wp_perform (c : κ) {Q : ρ c → σ → Prop} :
    W.wp (.perform c) Q s ↔ W.requires s c ∧ ∀ r t, W.allows s c r t → Q r t := Iff.rfl

/-- **The rule of sequences.** -/
theorem wp_bind (p : Prog κ ρ α) (f : α → Prog κ ρ β) {Q : β → σ → Prop} :
    W.wp (p >>= f) Q s ↔ W.wp p (fun a => W.wp (f a) Q) s := by
  induction p generalizing s with
  | ret a => exact Iff.rfl
  | call c next ih =>
    show (W.requires s c ∧ ∀ r t, W.allows s c r t → W.wp (next r >>= f) Q t) ↔
      (W.requires s c ∧ ∀ r t, W.allows s c r t → W.wp (next r) (fun a => W.wp (f a) Q) t)
    simp only [ih]

/-- **The rule of consequence.** -/
theorem wp_mono {p : Prog κ ρ α} (h : W.wp p Q s) (weaker : ∀ a t, Q a t → R a t) :
    W.wp p R s := by
  induction p generalizing s with
  | ret a => exact weaker a s h
  | call c next ih => exact ⟨h.1, fun r t allowed => ih r (h.2 r t allowed)⟩

/-- A program in a sequence is as good as its specification. -/
theorem wp_seq {p : Prog κ ρ α} {f : α → Prog κ ρ β} {Q' : β → σ → Prop} (first : W.wp p Q s)
    (rest : ∀ a t, Q a t → W.wp (f a) Q' t) : W.wp (p >>= f) Q' s :=
  (wp_bind p f).2 (wp_mono first rest)

/-- What `wp` promises holds of every way to end. -/
theorem wp_ends {p : Prog κ ρ α} (h : W.wp p Q s) {a : α} {t : σ} (ends : W.Ends p s a t) :
    Q a t := by
  induction p generalizing s with
  | ret b =>
    obtain ⟨rfl, rfl⟩ := ends
    exact h
  | call c next ih =>
    obtain ⟨r, u, allowed, ends⟩ := ends
    exact ih r (h.2 r u allowed) ends

/-! ## Components -/

section Components

variable {ι τ : Type u} (W)

/-- The operations `ops` have been called one after the other on the component, which started in
`t₀`, in a world that started in `s₀`. -/
inductive Runs (ops : ι → τ → Prog κ ρ τ) (t₀ : τ) (s₀ : σ) : List ι → τ → σ → Prop
  | start : Runs ops t₀ s₀ [] t₀ s₀
  | step {run : List ι} {t t' : τ} {s s' : σ} (i : ι) (before : Runs ops t₀ s₀ run t s)
      (ends : W.Ends (ops i t) s t' s') : Runs ops t₀ s₀ (run ++ [i]) t' s'

variable {W} {ops : ι → τ → Prog κ ρ τ} {t₀ : τ} {s₀ : σ}

/-- **Invariants of a component**, which may speak of the run. -/
theorem Runs.induct {I : List ι → τ → σ → Prop} (start : I [] t₀ s₀)
    (step : ∀ run i t s, I run t s → W.wp (ops i t) (fun t' s' => I (run ++ [i]) t' s') s)
    {run : List ι} {t : τ} {s : σ} (h : W.Runs ops t₀ s₀ run t s) : I run t s := by
  induction h with
  | start => exact start
  | step i before ends ih => exact wp_ends (step _ i _ _ ih) ends

end Components

/-- A handler answers within the world. -/
def Keeps (W : World σ κ ρ) (handle : σ → (c : κ) → ρ c × σ) : Prop :=
  ∀ s c, W.allows s c (handle s c).1 (handle s c).2

/-- **A handler that keeps to the world** ends the program. -/
theorem run_ends {handle : σ → (c : κ) → ρ c × σ} (keeps : W.Keeps handle) (p : Prog κ ρ α)
    (s : σ) : W.Ends p s (p.run handle s).1 (p.run handle s).2 := by
  induction p generalizing s with
  | ret a => exact ⟨rfl, rfl⟩
  | call c next ih => exact ⟨_, _, keeps s c, ih _ _⟩

/-- The operations one after the other, their calls answered by a handler. -/
def runAll {ι τ : Type u} (ops : ι → τ → Prog κ ρ τ) (handle : σ → (c : κ) → ρ c × σ)
    (run : List ι) (s : τ × σ) : τ × σ :=
  run.foldl (fun s i => (ops i s.1).run handle s.2) s

theorem runAll_runs {ι τ : Type u} (ops : ι → τ → Prog κ ρ τ)
    {handle : σ → (c : κ) → ρ c × σ} (keeps : W.Keeps handle) (run : List ι) (t : τ) (s : σ) :
    W.Runs ops t s run (runAll ops handle run (t, s)).1 (runAll ops handle run (t, s)).2 := by
  induction run using List.reverseRecOn with
  | nil => exact .start
  | append_singleton run i ih =>
    unfold runAll at ih ⊢
    rw [List.foldl_append]
    exact ih.step i (run_ends keeps _ _)

end World

end SecpChat.Calls
