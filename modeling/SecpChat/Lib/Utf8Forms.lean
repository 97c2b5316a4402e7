import SecpChat.Lib.Utf8
import Mathlib.Tactic.IntervalCases

/-!
# The forms of a number in UTF-8

A form spreads a number over a lead byte and up to five continuation bytes, six bits in
each. Of all forms of all numbers only the shortest one of a scalar value is an encoding
(`isChar_form_iff`), and a longer text does not change that
(`wellFormed_form_append_iff`): this rules out overlong forms, surrogates and numbers
above U+10FFFF at once. What no form begins with is a continuation byte, and no encoding
can be cut short.
-/

namespace SecpChat.Utf8

/-- A Unicode scalar value. -/
def IsScalar (n : Nat) : Prop := n ≤ 0xD7FF ∨ 0xE000 ≤ n ∧ n ≤ 0x10FFFF

instance (n : Nat) : Decidable (IsScalar n) := inferInstanceAs (Decidable (_ ∨ _))

/-- The high bits of the lead byte before `k` continuation bytes. -/
def mark : Nat → Nat
  | 0 => 0x00
  | 1 => 0xC0
  | 2 => 0xE0
  | 3 => 0xF0
  | 4 => 0xF8
  | _ => 0xFC

/-- How many values the other bits of that lead byte can take. -/
def room : Nat → Nat
  | 0 => 0x80
  | 1 => 0x20
  | 2 => 0x10
  | 3 => 0x08
  | 4 => 0x04
  | _ => 0x02

/-- The low bits of `n`, six in each of `k` continuation bytes. -/
def tails : Nat → Nat → List UInt8
  | 0, _ => []
  | k + 1, n => tails k (n / 64) ++ [UInt8.ofNat (0x80 + n % 64)]

/-- The form of `n` with `k` continuation bytes. -/
def form (k n : Nat) : List UInt8 := UInt8.ofNat (mark k + n / 64 ^ k) :: tails k n

/-- The number fits in the form with `k` continuation bytes. -/
def Fits (k n : Nat) : Prop := k ≤ 5 ∧ n / 64 ^ k < room k

instance (k n : Nat) : Decidable (Fits k n) := inferInstanceAs (Decidable (_ ∧ _))

/-- A shorter form would do. -/
def Overlong (k n : Nat) : Prop := ∃ j < k, Fits j n

/-- The number of continuation bytes that a code point needs. -/
def needed (n : Nat) : Nat :=
  if n < 0x80 then 0 else if n < 0x800 then 1 else if n < 0x10000 then 2 else 3

/-- The shortest form of a code point. -/
def shortest (n : Nat) : List UInt8 := form (needed n) n

theorem length_tails (k n : Nat) : (tails k n).length = k := by
  induction k generalizing n with
  | zero => rfl
  | succ k ih => simp [tails, ih]

/-- The shortest form is one, and no form is shorter. -/
theorem needed_least {n : Nat} (h : n ≤ 0x10FFFF) :
    Fits (needed n) n ∧ ∀ k, Fits k n → needed n ≤ k := by
  unfold needed Fits
  constructor
  · split_ifs <;> simp only [room] <;> omega
  · rintro k ⟨hk, fits⟩
    interval_cases k <;> simp only [room] at fits <;> split_ifs <;> omega

/-! ## Forms and encodings -/

theorem isScalar_iff {n : Nat} : IsScalar n ↔ n < 0xD800 ∨ 0xDFFF < n ∧ n < 0x110000 := by
  unfold IsScalar
  omega

/-- The encoding of a scalar value is its shortest form. -/
theorem encodeChar_eq_shortest (c : Char) :
    String.utf8EncodeChar c = shortest c.val.toNat := by
  have hc := valid c
  rw [encodeChar_eq, shortest, needed]
  split_ifs <;> first | omega | skip
  all_goals
    simp only [form, tails, mark, List.cons_append, List.nil_append, List.cons.injEq, byte_eq,
      UInt8.toNat_ofNat', and_true]
    omega

theorem isChar_iff_shortest {x : List UInt8} : IsChar x ↔ ∃ n, IsScalar n ∧ x = shortest n := by
  constructor
  · rintro ⟨c, rfl⟩
    exact ⟨c.val.toNat, isScalar_iff.2 (valid c), encodeChar_eq_shortest c⟩
  · rintro ⟨n, scalar_n, rfl⟩
    refine ⟨scalar n (isScalar_iff.1 scalar_n), ?_⟩
    rw [encodeChar_eq_shortest, scalar_toNat]

/-- **Well-formed text**: the shortest forms of scalar values, one after the other. -/
theorem wellFormed_iff_shortest {s : List UInt8} :
    WellFormed s ↔ ∃ ns : List Nat, (∀ n ∈ ns, IsScalar n) ∧ s = ns.flatMap shortest := by
  constructor
  · rintro ⟨cs, rfl⟩
    refine ⟨cs.map fun c => c.val.toNat, ?_, ?_⟩
    · simp only [List.mem_map, forall_exists_index, and_imp, forall_apply_eq_imp_iff₂]
      exact fun c _ => isScalar_iff.2 (valid c)
    · rw [encode, List.flatMap_map, funext encodeChar_eq_shortest]
  · rintro ⟨ns, scalars, rfl⟩
    induction ns with
    | nil => exact wellFormed_nil
    | cons n ns ih =>
      have char : IsChar (shortest n) :=
        isChar_iff_shortest.2 ⟨n, scalars n List.mem_cons_self, rfl⟩
      rw [List.flatMap_cons, wellFormed_append_iff char]
      exact ih fun m hm => scalars m (List.mem_cons_of_mem n hm)

/-- **Of all forms** only the shortest one of a scalar value is an encoding. -/
theorem isChar_form_iff {k n : Nat} (fits : Fits k n) :
    IsChar (form k n) ↔ IsScalar n ∧ k = needed n := by
  constructor
  · intro char
    obtain ⟨hk, fits⟩ := fits
    have shape := char.shape
    unfold IsScalar needed
    interval_cases k <;> simp only [form, tails, mark, room, List.cons_append, List.nil_append]
      at char fits shape
    · have lead := isChar_one.1 char
      simp only [UInt8.toNat_ofNat'] at lead
      split_ifs <;> omega
    · have lead := isChar_two.1 char
      simp only [UInt8.toNat_ofNat', Tail] at lead
      split_ifs <;> omega
    · have lead := isChar_three.1 char
      simp only [UInt8.toNat_ofNat', Tail] at lead
      split_ifs <;> omega
    · have lead := isChar_four.1 char
      simp only [UInt8.toNat_ofNat', Tail] at lead
      split_ifs <;> omega
    · simp at shape
    · simp at shape
  · rintro ⟨scalar_n, rfl⟩
    exact isChar_iff_shortest.2 ⟨n, scalar_n, rfl⟩

/-! ## Forms within a text -/

theorem wellFormed_append_iff_of_wellFormed {s r : List UInt8} (hs : WellFormed s) :
    WellFormed (s ++ r) ↔ WellFormed r := by
  obtain ⟨cs, rfl⟩ := hs
  induction cs with
  | nil => rfl
  | cons c cs ih =>
    have char : IsChar (String.utf8EncodeChar c) := ⟨c, rfl⟩
    have split : encode (c :: cs) ++ r = String.utf8EncodeChar c ++ (encode cs ++ r) := by
      simp [encode]
    rw [split, wellFormed_append_iff char, ih]

/-- The bytes that begin an encoding. -/
theorem IsChar.lead {a : UInt8} {t : List UInt8} (h : IsChar (a :: t)) :
    a.toNat ≤ 0x7F ∨ 0xC2 ≤ a.toNat ∧ a.toNat ≤ 0xF4 := by
  rcases h.shape with ⟨_, e⟩ | ⟨_, b, e⟩ | ⟨_, b, d, e⟩ | ⟨_, b, d, f, e⟩ <;>
    obtain ⟨rfl, rfl⟩ := List.cons.inj e
  · exact .inl (isChar_one.1 h)
  · have two := isChar_two.1 h
    omega
  · have three := isChar_three.1 h
    omega
  · have four := isChar_four.1 h
    omega

/-- An encoding at the front of a form and more is the form: their lead bytes are the same. -/
theorem IsChar.eq_form {k n : Nat} {x r post : List UInt8} (hx : IsChar x) (fits : Fits k n)
    (h : x ++ r = form k n ++ post) : x = form k n := by
  obtain ⟨a, t, ha, len⟩ := hx.length_eq (r := r)
  obtain ⟨rfl, -⟩ : a = UInt8.ofNat (mark k + n / 64 ^ k) ∧ t = tails k n ++ post :=
    List.cons.inj (ha.symm.trans h)
  have lead : (mark k + n / 64 ^ k) % 256 ≤ 0x7F ∨
      0xC2 ≤ (mark k + n / 64 ^ k) % 256 ∧ (mark k + n / 64 ^ k) % 256 ≤ 0xF4 := by
    cases x with
    | nil => exact (hx.ne_nil rfl).elim
    | cons b x =>
      obtain ⟨rfl, -⟩ := List.cons.inj ha
      simpa using hx.lead
  have length : x.length = (form k n).length := by
    obtain ⟨hk, fits⟩ := fits
    rw [len, form, List.length_cons, length_tails, leadLength, UInt8.toNat_ofNat']
    interval_cases k <;> simp only [mark, room] at fits lead ⊢ <;> split_ifs <;> omega
  exact (List.append_inj h length).1

/-- **In a well-formed text** a form is the shortest one of a scalar value. -/
theorem wellFormed_form_append_iff {k n : Nat} {post : List UInt8} (fits : Fits k n) :
    WellFormed (form k n ++ post) ↔ IsScalar n ∧ k = needed n ∧ WellFormed post := by
  constructor
  · intro h
    obtain ⟨x, r, hx, split, hr⟩ := (wellFormed_cons_iff (by simp [form])).1 h
    have same : x = form k n := hx.eq_form fits split.symm
    rw [same] at hx split
    rw [List.append_cancel_left split]
    obtain ⟨scalar_n, least⟩ := (isChar_form_iff fits).1 hx
    exact ⟨scalar_n, least, hr⟩
  · rintro ⟨scalar_n, least, hpost⟩
    exact (wellFormed_append_iff ((isChar_form_iff fits).2 ⟨scalar_n, least⟩)).2 hpost

/-- A text does not begin with a continuation byte. -/
theorem not_wellFormed_tail {b : UInt8} (hb : Tail b) (post : List UInt8) :
    ¬ WellFormed (b :: post) := by
  intro h
  obtain ⟨x, r, hx, split, -⟩ := (wellFormed_cons_iff (by simp)).1 h
  cases x with
  | nil => exact hx.ne_nil rfl
  | cons a x =>
    obtain ⟨rfl, -⟩ := List.cons.inj split
    have lead := hx.lead
    unfold Tail at hb
    omega

/-- A text does not end within an encoding. -/
theorem not_wellFormed_cut {x y : List UInt8} (char : IsChar (x ++ y)) (hx : x ≠ [])
    (hy : y ≠ []) : ¬ WellFormed x := by
  intro h
  obtain ⟨z, r, hz, rfl, -⟩ := (wellFormed_cons_iff hx).1 h
  -- the encoding at the front of `x` would be the whole of `x ++ y`
  obtain ⟨-, rest⟩ := hz.prefix_free char (r := r ++ y) (t := []) (by simp)
  exact hy (List.append_eq_nil_iff.1 rest).2

end SecpChat.Utf8
