import Mathlib.Data.List.DropRight

/-!
# Separated fields, terminators and trimming

A line of fields is their intercalation by a separator none of them contains; a
terminator is a maximal run of some class of symbols at the end. Both decompositions
are unique, over any alphabet. What is trimmed at both ends has nothing left to trim. A
separator that the parts may contain leaves more than one way to cut a line
(`append_pair_eq_iff`).
-/

namespace SecpChat.Delimited

variable {α : Type*}

/-! ## Terminators -/

/-- The body of a string: what is left without the trailing run of `p`. -/
theorem rdropWhile_append_of_all {p : α → Bool} (body : List α) {run : List α}
    (h : ∀ a ∈ run, p a = true) : (body ++ run).rdropWhile p = body.rdropWhile p := by
  induction run using List.reverseRecOn with
  | nil => simp
  | append_singleton run a ih =>
    have ha : p a = true := h a (by simp)
    rw [← List.append_assoc, List.rdropWhile_concat_pos _ _ _ ha]
    exact ih fun b hb => h b (by simp [hb])

theorem rdropWhile_self_of_last {p : α → Bool} {body : List α}
    (h : ∀ a, body.getLast? = some a → p a = false) : body.rdropWhile p = body := by
  rw [List.rdropWhile_eq_self_iff]
  intro hb
  simp [h _ (List.getLast?_eq_some_getLast hb)]

/-- The body is the one decomposition whose last symbol is no terminator. -/
theorem rdropWhile_eq_iff {p : α → Bool} {line body : List α} :
    line.rdropWhile p = body ↔
      ∃ run, line = body ++ run ∧ (∀ a ∈ run, p a = true) ∧
        ∀ a, body.getLast? = some a → p a = false := by
  constructor
  · rintro rfl
    refine ⟨line.rtakeWhile p, (List.rdropWhile_append_rtakeWhile).symm,
      fun a ha => List.mem_rtakeWhile_imp ha, fun a ha => ?_⟩
    have hne : line.rdropWhile p ≠ [] := by
      intro e
      simp [e] at ha
    have hlast := List.rdropWhile_last_not p line hne
    rw [List.getLast?_eq_some_getLast hne] at ha
    simpa [Option.some.inj ha] using hlast
  · rintro ⟨run, rfl, hrun, hbody⟩
    rw [rdropWhile_append_of_all body hrun, rdropWhile_self_of_last hbody]

/-! ## Runs at the front -/

/-- A maximal run at the front is what `takeWhile` takes and `dropWhile` drops. -/
theorem while_append {p : α → Bool} {run rest : List α} (all : ∀ a ∈ run, p a = true)
    (stop : ∀ a, rest.head? = some a → p a = false) :
    (run ++ rest).takeWhile p = run ∧ (run ++ rest).dropWhile p = rest := by
  induction run with
  | nil =>
    cases rest with
    | nil => exact ⟨rfl, rfl⟩
    | cons a rest => simp [stop a rfl]
  | cons a run ih =>
    obtain ⟨first, others⟩ := List.forall_mem_cons.1 all
    simp [first, ih others]

/-! ## Trimming -/

/-- Trimmed of `p` at the end and of `q` at the front. -/
structure Trimmed (p q : α → Bool) (s : List α) : Prop where
  last : ∀ a, s.getLast? = some a → p a = false
  first : ∀ a, s.head? = some a → q a = false

theorem trimmed_trim (p q : α → Bool) (s : List α) :
    Trimmed p q ((s.rdropWhile p).dropWhile q) := by
  constructor
  · intro a ha
    obtain ⟨run, -, -, last⟩ := rdropWhile_eq_iff.1 (rfl : s.rdropWhile p = s.rdropWhile p)
    obtain ⟨front, split⟩ := List.dropWhile_suffix (l := s.rdropWhile p) q
    apply last
    rw [← split, List.getLast?_append, ha]
    rfl
  · intro a ha
    have first := List.head?_dropWhile_not q (s.rdropWhile p)
    rw [ha] at first
    exact first

/-- A string is its own trim exactly when it is trimmed. -/
theorem trim_eq_self_iff {p q : α → Bool} {s : List α} :
    (s.rdropWhile p).dropWhile q = s ↔ Trimmed p q s := by
  constructor
  · intro h
    rw [← h]
    exact trimmed_trim p q s
  · rintro ⟨last, first⟩
    rw [rdropWhile_self_of_last last]
    cases s with
    | nil => rfl
    | cons a s => simp [first a rfl]

/-- **Trimming twice is trimming once.** -/
theorem trim_trim (p q : α → Bool) (s : List α) :
    (((s.rdropWhile p).dropWhile q).rdropWhile p).dropWhile q = (s.rdropWhile p).dropWhile q :=
  trim_eq_self_iff.2 (trimmed_trim p q s)

/-! ## A separator of two symbols -/

theorem append_pair_eq {a b : α} (ne : a ≠ b) {s t s' t' : List α}
    (h : s ++ a :: b :: t = s' ++ a :: b :: t') :
    s = s' ∧ t = t' ∨ (∃ r, s' = s ++ a :: b :: r ∧ t = r ++ a :: b :: t') ∨
      ∃ r, s = s' ++ a :: b :: r ∧ t' = r ++ a :: b :: t := by
  have longer {u v m : List α} (h : a :: b :: u = m ++ a :: b :: v) :
      (m = [] ∧ u = v) ∨ ∃ r, m = a :: b :: r ∧ u = r ++ a :: b :: v := by
    match m, h with
    | [], h =>
      simp only [List.nil_append, List.cons.injEq, true_and] at h
      exact .inl ⟨rfl, h⟩
    | [x], h =>
      simp only [List.cons_append, List.nil_append, List.cons.injEq] at h
      exact (ne h.2.1.symm).elim
    | x :: y :: r, h =>
      simp only [List.cons_append, List.cons.injEq] at h
      obtain ⟨rfl, rfl, rest⟩ := h
      exact .inr ⟨r, rfl, rest⟩
  rcases List.append_eq_append_iff.1 h with ⟨m, rfl, h'⟩ | ⟨m, rfl, h'⟩
  · rcases longer h' with ⟨rfl, same⟩ | ⟨r, rfl, rest⟩
    · exact .inl ⟨(List.append_nil s).symm, same⟩
    · exact .inr (.inl ⟨r, rfl, rest⟩)
  · rcases longer h' with ⟨rfl, same⟩ | ⟨r, rfl, rest⟩
    · exact .inl ⟨List.append_nil s', same.symm⟩
    · exact .inr (.inr ⟨r, rfl, rest⟩)

/-- **Two ways to cut a line at a separator** are the same, or the first part of the one goes on
past the separator of the other. -/
theorem append_pair_eq_iff {a b : α} (ne : a ≠ b) {s t s' t' : List α} :
    s ++ a :: b :: t = s' ++ a :: b :: t' ↔
      s = s' ∧ t = t' ∨ (∃ r, s' = s ++ a :: b :: r ∧ t = r ++ a :: b :: t') ∨
        ∃ r, s = s' ++ a :: b :: r ∧ t' = r ++ a :: b :: t := by
  refine ⟨append_pair_eq ne, ?_⟩
  rintro (⟨rfl, rfl⟩ | ⟨r, rfl, rfl⟩ | ⟨r, rfl, rfl⟩)
  · rfl
  · simp
  · simp

/-! ## Fields -/

/-- Four fields. -/
theorem intercalate_four (sep : α) (a b c d : List α) :
    [sep].intercalate [a, b, c, d] = a ++ sep :: (b ++ sep :: (c ++ sep :: d)) := by
  simp [List.intercalate]

variable [DecidableEq α]

/-- Splitting at a separator is the inverse of intercalation, on fields without it. -/
theorem splitOn_eq_iff {sep : α} {line : List α} {fields : List (List α)} (ne : fields ≠ [])
    (h : ∀ f ∈ fields, sep ∉ f) :
    line.splitOn sep = fields ↔ line = [sep].intercalate fields := by
  constructor
  · rintro rfl
    exact (List.intercalate_splitOn sep).symm
  · rintro rfl
    exact List.splitOn_intercalate sep h ne

end SecpChat.Delimited
