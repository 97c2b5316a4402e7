import Mathlib.Data.List.Induction
import Mathlib.Data.List.Infix
import Mathlib.Tactic.TypeStar

/-!
# Runs of a machine whose choices are all in its actions

A `Machine` is a start state and a total step; whatever the environment decides
(a clock reading, a random draw, the outcome of a call) is a component of the
action, so a run is a list of actions and the state after it is a fold. Histories
are prefixes of that list: "since then" is `Since`, and the last moment at which a
property became true is `exists_rise`. The rules below carry an invariant along a
run, along a run whose steps all meet a side condition (`Along`), and along a
stretch on which some property holds throughout.
-/

namespace SecpChat.Runs

variable {σ α : Type*}

/-- Two events of one run: the same, or the second after the first, or before it. -/
theorem split_two {pre post p q : List α} {a b : α} (h : pre ++ a :: post = p ++ b :: q) :
    (p = pre ∧ b = a ∧ q = post) ∨ (∃ mid, p = pre ++ a :: mid ∧ post = mid ++ b :: q) ∨
      ∃ mid, pre = p ++ b :: mid ∧ q = mid ++ a :: post := by
  rcases List.append_eq_append_iff.1 h with ⟨mid, rfl, h'⟩ | ⟨mid, rfl, h'⟩
  · cases mid with
    | nil =>
      simp only [List.nil_append, List.cons.injEq] at h'
      exact .inl ⟨by simp, h'.1.symm, h'.2.symm⟩
    | cons x mid =>
      obtain ⟨rfl, rfl⟩ := List.cons.inj h'
      exact .inr (.inl ⟨mid, rfl, rfl⟩)
  · cases mid with
    | nil =>
      simp only [List.nil_append, List.cons.injEq] at h'
      exact .inl ⟨by simp, h'.1, h'.2⟩
    | cons x mid =>
      obtain ⟨rfl, rfl⟩ := List.cons.inj h'
      exact .inr (.inr ⟨mid, rfl, rfl⟩)

/-- An event of a run and one more action: it is that action, or it was there before. -/
theorem split_snoc {run pre post : List α} {a b : α} (h : run ++ [a] = pre ++ b :: post) :
    (pre = run ∧ b = a ∧ post = []) ∨ ∃ mid, post = mid ++ [a] ∧ run = pre ++ b :: mid := by
  rcases List.eq_nil_or_concat post with rfl | ⟨mid, c, rfl⟩
  · obtain ⟨rfl, last⟩ := List.append_inj' h rfl
    exact .inl ⟨rfl, (List.singleton_inj.1 last).symm, rfl⟩
  · have h' : run ++ [a] = (pre ++ b :: mid) ++ [c] := by simpa using h
    obtain ⟨rfl, last⟩ := List.append_inj' h' rfl
    exact .inr ⟨mid, by simp [List.singleton_inj.1 last], rfl⟩

/-- A start state and the effect of each action. -/
structure Machine (σ α : Type*) where
  start : σ
  next : σ → α → σ

namespace Machine

variable (M : Machine σ α)

/-- The state after a run. -/
def exec (run : List α) : σ := run.foldl M.next M.start

@[simp] theorem exec_nil : M.exec [] = M.start := rfl

theorem exec_append (run more : List α) : M.exec (run ++ more) = more.foldl M.next (M.exec run) :=
  List.foldl_append

@[simp] theorem exec_snoc (run : List α) (a : α) :
    M.exec (run ++ [a]) = M.next (M.exec run) a := by
  simp [exec]

/-- Every action of the run, in the state it was taken in, satisfies `P`. -/
def AlongFrom (P : σ → α → Prop) : σ → List α → Prop
  | _, [] => True
  | s, a :: rest => P s a ∧ AlongFrom P (M.next s a) rest

/-- `AlongFrom` the start state. -/
def Along (P : σ → α → Prop) (run : List α) : Prop := M.AlongFrom P M.start run

instance decAlongFrom (P : σ → α → Prop) [∀ s a, Decidable (P s a)] :
    ∀ (s : σ) (run : List α), Decidable (M.AlongFrom P s run)
  | _, [] => inferInstanceAs (Decidable True)
  | s, a :: rest => @instDecidableAnd _ _ _ (decAlongFrom P (M.next s a) rest)

instance (P : σ → α → Prop) [∀ s a, Decidable (P s a)] (run : List α) :
    Decidable (M.Along P run) := M.decAlongFrom P M.start run

theorem alongFrom_append {P : σ → α → Prop} (s : σ) (pre post : List α) :
    M.AlongFrom P s (pre ++ post) ↔
      M.AlongFrom P s pre ∧ M.AlongFrom P (pre.foldl M.next s) post := by
  induction pre generalizing s with
  | nil => simp [AlongFrom]
  | cons a pre ih => simp [AlongFrom, ih, and_assoc]

/-- An invariant of the steps that meet `P`, from any state. -/
theorem AlongFrom.invariant {P : σ → α → Prop} {I : σ → Prop}
    (step : ∀ s a, P s a → I s → I (M.next s a)) :
    ∀ {s : σ} {run : List α}, M.AlongFrom P s run → I s → I (run.foldl M.next s) := by
  intro s run
  induction run generalizing s with
  | nil => exact fun _ inv => inv
  | cons a run ih => exact fun h inv => ih h.2 (step s a h.1 inv)

@[simp] theorem along_nil {P : σ → α → Prop} : M.Along P [] := trivial

@[simp] theorem along_snoc {P : σ → α → Prop} (run : List α) (a : α) :
    M.Along P (run ++ [a]) ↔ M.Along P run ∧ P (M.exec run) a := by
  simp [Along, alongFrom_append, AlongFrom, exec]

theorem Along.front {P : σ → α → Prop} {pre post : List α} (h : M.Along P (pre ++ post)) :
    M.Along P pre :=
  ((M.alongFrom_append _ pre post).1 h).1

theorem Along.at {P : σ → α → Prop} {pre post : List α} {a : α}
    (h : M.Along P (pre ++ a :: post)) : P (M.exec pre) a :=
  ((M.alongFrom_append _ pre (a :: post)).1 h).2.1

/-- A run meets `P` at every step exactly when it does so at each of its splittings. -/
theorem along_iff {P : σ → α → Prop} (run : List α) :
    M.Along P run ↔ ∀ pre a post, run = pre ++ a :: post → P (M.exec pre) a := by
  constructor
  · rintro h pre a post rfl
    exact Along.at M h
  · intro h
    induction run using List.reverseRecOn with
    | nil => exact M.along_nil
    | append_singleton run a ih =>
      refine (M.along_snoc run a).2 ⟨ih fun pre b post e => ?_, h run a [] rfl⟩
      exact h pre b (post ++ [a]) (by simp [e])

/-- **Invariants over histories.** `I` may speak of the run itself. -/
theorem history_induct {P : σ → α → Prop} {I : List α → Prop} (start : I [])
    (step : ∀ run a, M.Along P run → P (M.exec run) a → I run → I (run ++ [a])) :
    ∀ run, M.Along P run → I run := by
  intro run
  induction run using List.reverseRecOn with
  | nil => exact fun _ => start
  | append_singleton run a ih =>
    intro h
    obtain ⟨hrun, ha⟩ := (M.along_snoc run a).1 h
    exact step run a hrun ha (ih hrun)

/-- **Invariants over states.** -/
theorem invariant {I : σ → Prop} (start : I M.start) (step : ∀ s a, I s → I (M.next s a)) :
    ∀ run, I (M.exec run) := by
  intro run
  induction run using List.reverseRecOn with
  | nil => exact start
  | append_singleton run a ih => rw [exec_snoc]; exact step _ a ih

/-- An invariant of the steps that meet `P`, along a run of such steps. -/
theorem invariant_along {P : σ → α → Prop} {I : σ → Prop} (start : I M.start)
    (step : ∀ s a, P s a → I s → I (M.next s a)) :
    ∀ run, M.Along P run → I (M.exec run) :=
  M.history_induct (I := fun run => I (M.exec run)) start fun run a _ ha ih => by
    rw [exec_snoc]; exact step _ a ha ih

/-- What an invariant of the steps entails of them holds along the run. -/
theorem Along.of_invariant {P Q : σ → α → Prop} {I : σ → Prop} {run : List α}
    (h : M.Along P run) (start : I M.start) (step : ∀ s a, P s a → I s → I (M.next s a))
    (entails : ∀ s a, I s → P s a → Q s a) : M.Along Q run := by
  refine (M.along_iff run).2 fun pre a post split => ?_
  subst split
  exact entails _ a (M.invariant_along start step pre (h.front M)) (h.at M)

/-- A stable property, once true, stays true. -/
theorem stable {I : σ → Prop} (step : ∀ s a, I s → I (M.next s a)) {pre : List α}
    (h : I (M.exec pre)) : ∀ post, I (M.exec (pre ++ post)) := by
  intro post
  induction post using List.reverseRecOn with
  | nil => simpa using h
  | append_singleton post a ih => rw [← List.append_assoc, exec_snoc]; exact step _ a ih

/-- `Q` holds after `pre` and after each further action of `post`. -/
def Since (Q : σ → Prop) (pre post : List α) : Prop :=
  ∀ mid, mid <+: post → Q (M.exec (pre ++ mid))

instance (Q : σ → Prop) [DecidablePred Q] (pre post : List α) : Decidable (M.Since Q pre post) :=
  decidable_of_iff (∀ mid ∈ post.inits, Q (M.exec (pre ++ mid)))
    (by simp only [List.mem_inits, Since])

variable {M}

theorem Since.start {Q : σ → Prop} {pre post : List α} (h : M.Since Q pre post) :
    Q (M.exec pre) := by
  simpa using h [] (List.nil_prefix)

theorem Since.last {Q : σ → Prop} {pre post : List α} (h : M.Since Q pre post) :
    Q (M.exec (pre ++ post)) := h post (List.prefix_refl post)

theorem Since.front {Q : σ → Prop} {pre mid post : List α} (h : M.Since Q pre (mid ++ post)) :
    M.Since Q pre mid :=
  fun m hm => h m (hm.trans (List.prefix_append mid post))

theorem Since.back {Q : σ → Prop} {pre mid post : List α} (h : M.Since Q pre (mid ++ post)) :
    M.Since Q (pre ++ mid) post := by
  intro m hm
  rw [List.append_assoc]
  exact h (mid ++ m) ((List.prefix_append_right_inj mid).2 hm)

@[simp] theorem since_nil {Q : σ → Prop} {pre : List α} :
    M.Since Q pre [] ↔ Q (M.exec pre) := by
  simp [Since]

theorem since_snoc {Q : σ → Prop} {pre post : List α} {a : α} :
    M.Since Q pre (post ++ [a]) ↔ M.Since Q pre post ∧ Q (M.exec (pre ++ post ++ [a])) := by
  constructor
  · intro h
    exact ⟨h.front, by simpa using h.last⟩
  · rintro ⟨h, hl⟩ mid hmid
    rcases List.prefix_concat_iff.1 hmid with rfl | hmid
    · simpa using hl
    · exact h mid hmid

/-- **Invariants of a stretch**: preserved by the steps that keep `Q`. -/
theorem Since.induct {Q I : σ → Prop} {pre post : List α} (h : M.Since Q pre post)
    (start : I (M.exec pre))
    (step : ∀ s a, Q s → Q (M.next s a) → I s → I (M.next s a)) : I (M.exec (pre ++ post)) := by
  induction post using List.reverseRecOn with
  | nil => simpa using start
  | append_singleton post a ih =>
    obtain ⟨hpost, hlast⟩ := since_snoc.1 h
    rw [exec_snoc] at hlast
    rw [← List.append_assoc, exec_snoc]
    exact step _ a hpost.last hlast (ih hpost)

/-- **The last rise.** If `Q` fails after `pre` and holds after `pre ++ post`, some
action of `post` made it true, and it has held since. -/
theorem exists_rise {Q : σ → Prop} {pre : List α} (post : List α) (hpre : ¬ Q (M.exec pre))
    (hpost : Q (M.exec (pre ++ post))) :
    ∃ mid a rest, post = mid ++ a :: rest ∧ ¬ Q (M.exec (pre ++ mid)) ∧
      M.Since Q (pre ++ mid ++ [a]) rest := by
  induction post using List.reverseRecOn with
  | nil => exact (hpre (by simpa using hpost)).elim
  | append_singleton post a ih =>
    by_cases h : Q (M.exec (pre ++ post))
    · obtain ⟨mid, b, rest, rfl, hmid, since⟩ := ih h
      refine ⟨mid, b, rest ++ [a], by simp, hmid, since_snoc.2 ⟨since, ?_⟩⟩
      simpa using hpost
    · exact ⟨post, a, [], rfl, h, since_nil.2 (by simpa using hpost)⟩

/-- Either `Q` held all along `post`, or it was lost at some step of it. -/
theorem since_or_fall {Q : σ → Prop} {pre : List α} (post : List α) (hpre : Q (M.exec pre)) :
    M.Since Q pre post ∨ ∃ mid a rest, post = mid ++ a :: rest ∧ M.Since Q pre mid ∧
      ¬ Q (M.exec (pre ++ mid ++ [a])) := by
  induction post using List.reverseRecOn with
  | nil => exact .inl (since_nil.2 hpre)
  | append_singleton post a ih =>
    rcases ih with h | ⟨mid, b, rest, rfl, hmid, hb⟩
    · by_cases hl : Q (M.exec (pre ++ post ++ [a]))
      · exact .inl (since_snoc.2 ⟨h, hl⟩)
      · exact .inr ⟨post, a, [], rfl, h, hl⟩
    · exact .inr ⟨mid, b, rest ++ [a], by simp, hmid, hb⟩

end Machine

end SecpChat.Runs
