import Mathlib.Data.List.Basic
import Mathlib.Tactic.SplitIfs

/-!
# Well-formed UTF-8

A byte string is well-formed when it is the concatenation of the encodings of a list
of scalar values; Lean's `Char` is exactly the type of Unicode scalar values and
`String.utf8EncodeChar` its shortest encoding. `isChar_one` to `isChar_four` are the
table of well-formed byte sequences (lead byte, then the admissible continuation
bytes), proved from the encoding's arithmetic; `IsChar.prefix_free` makes the
decomposition unique, so a scanner may be checked one character at a time.
-/

namespace SecpChat.Utf8

/-- The encoding of a list of scalar values. -/
def encode (cs : List Char) : List UInt8 := cs.flatMap String.utf8EncodeChar

/-- A concatenation of encodings of scalar values. -/
def WellFormed (s : List UInt8) : Prop := ∃ cs : List Char, s = encode cs

/-- The bytes of one scalar value. -/
def IsChar (bs : List UInt8) : Prop := ∃ c : Char, String.utf8EncodeChar c = bs

/-- A continuation byte. -/
def Tail (b : UInt8) : Prop := 0x80 ≤ b.toNat ∧ b.toNat ≤ 0xBF

instance (b : UInt8) : Decidable (Tail b) := inferInstanceAs (Decidable (_ ∧ _))

/-- The scalar value with number `n`. -/
def scalar (n : Nat) (h : n < 0xD800 ∨ 0xDFFF < n ∧ n < 0x110000) : Char :=
  ⟨UInt32.ofNatLT n (by simp [UInt32.size]; omega), by
    simpa [UInt32.isValidChar, Nat.isValidChar] using h⟩

theorem scalar_toNat (n : Nat) (h) : (scalar n h).val.toNat = n := by
  simp [scalar]

theorem valid (c : Char) :
    c.val.toNat < 0xD800 ∨ 0xDFFF < c.val.toNat ∧ c.val.toNat < 0x110000 := by
  simpa [UInt32.isValidChar, Nat.isValidChar] using c.valid

/-- The encoding as nested conditionals on the scalar value's number. -/
theorem encodeChar_eq (c : Char) : String.utf8EncodeChar c =
    if c.val.toNat ≤ 0x7F then [UInt8.ofNat c.val.toNat]
    else if c.val.toNat ≤ 0x7FF then
      [UInt8.ofNat (c.val.toNat / 64 % 32 + 192), UInt8.ofNat (c.val.toNat % 64 + 128)]
    else if c.val.toNat ≤ 0xFFFF then
      [UInt8.ofNat (c.val.toNat / 4096 % 16 + 224), UInt8.ofNat (c.val.toNat / 64 % 64 + 128),
        UInt8.ofNat (c.val.toNat % 64 + 128)]
    else
      [UInt8.ofNat (c.val.toNat / 262144 % 8 + 240), UInt8.ofNat (c.val.toNat / 4096 % 64 + 128),
        UInt8.ofNat (c.val.toNat / 64 % 64 + 128), UInt8.ofNat (c.val.toNat % 64 + 128)] := rfl

theorem byte_eq {b : UInt8} {n : Nat} : UInt8.ofNat n = b ↔ n % 256 = b.toNat := by
  rw [← UInt8.toNat_inj, UInt8.toNat_ofNat']

/-! ## The table of well-formed sequences -/

theorem isChar_one {a : UInt8} : IsChar [a] ↔ a.toNat ≤ 0x7F := by
  constructor
  · rintro ⟨c, h⟩
    rw [encodeChar_eq] at h
    split at h
    · simp only [List.cons.injEq, byte_eq, and_true] at h
      omega
    · split at h
      · simp at h
      · split at h <;> simp at h
  · intro ha
    refine ⟨scalar a.toNat (by omega), ?_⟩
    rw [encodeChar_eq, scalar_toNat, if_pos ha]
    simp

theorem isChar_two {a b : UInt8} :
    IsChar [a, b] ↔ 0xC2 ≤ a.toNat ∧ a.toNat ≤ 0xDF ∧ Tail b := by
  constructor
  · rintro ⟨c, h⟩
    rw [encodeChar_eq] at h
    split at h
    · simp at h
    · split at h
      · simp only [List.cons.injEq, byte_eq, and_true] at h
        unfold Tail
        omega
      · split at h <;> simp at h
  · rintro ⟨lo, hi, tb, tb'⟩
    refine ⟨scalar ((a.toNat - 0xC0) * 64 + (b.toNat - 0x80)) (by omega), ?_⟩
    rw [encodeChar_eq, scalar_toNat, if_neg (by omega), if_pos (by omega)]
    simp only [List.cons.injEq, byte_eq, and_true]
    omega

theorem isChar_three {a b d : UInt8} :
    IsChar [a, b, d] ↔ Tail d ∧ (a.toNat = 0xE0 ∧ 0xA0 ≤ b.toNat ∧ b.toNat ≤ 0xBF ∨
      0xE1 ≤ a.toNat ∧ a.toNat ≤ 0xEC ∧ Tail b ∨
      a.toNat = 0xED ∧ 0x80 ≤ b.toNat ∧ b.toNat ≤ 0x9F ∨
      0xEE ≤ a.toNat ∧ a.toNat ≤ 0xEF ∧ Tail b) := by
  constructor
  · rintro ⟨c, h⟩
    have hc := valid c
    rw [encodeChar_eq] at h
    split at h
    · simp at h
    · split at h
      · simp at h
      · split at h
        · simp only [List.cons.injEq, byte_eq, and_true] at h
          unfold Tail
          omega
        · simp at h
  · rintro ⟨⟨td, td'⟩, lead⟩
    unfold Tail at lead
    refine ⟨scalar ((a.toNat - 0xE0) * 4096 + (b.toNat - 0x80) * 64 + (d.toNat - 0x80))
      (by omega), ?_⟩
    rw [encodeChar_eq, scalar_toNat, if_neg (by omega), if_neg (by omega), if_pos (by omega)]
    simp only [List.cons.injEq, byte_eq, and_true]
    omega

theorem isChar_four {a b d e : UInt8} :
    IsChar [a, b, d, e] ↔ Tail d ∧ Tail e ∧ (a.toNat = 0xF0 ∧ 0x90 ≤ b.toNat ∧ b.toNat ≤ 0xBF ∨
      0xF1 ≤ a.toNat ∧ a.toNat ≤ 0xF3 ∧ Tail b ∨
      a.toNat = 0xF4 ∧ 0x80 ≤ b.toNat ∧ b.toNat ≤ 0x8F) := by
  constructor
  · rintro ⟨c, h⟩
    have hc := valid c
    rw [encodeChar_eq] at h
    split at h
    · simp at h
    · split at h
      · simp at h
      · split at h
        · simp at h
        · simp only [List.cons.injEq, byte_eq, and_true] at h
          unfold Tail
          omega
  · rintro ⟨⟨td, td'⟩, ⟨te, te'⟩, lead⟩
    unfold Tail at lead
    refine ⟨scalar ((a.toNat - 0xF0) * 262144 + (b.toNat - 0x80) * 4096 +
      (d.toNat - 0x80) * 64 + (e.toNat - 0x80)) (by omega), ?_⟩
    rw [encodeChar_eq, scalar_toNat, if_neg (by omega), if_neg (by omega), if_neg (by omega)]
    simp only [List.cons.injEq, byte_eq, and_true]
    omega

/-- An encoding has one to four bytes. -/
theorem IsChar.shape {x : List UInt8} (h : IsChar x) :
    (∃ a, x = [a]) ∨ (∃ a b, x = [a, b]) ∨ (∃ a b d, x = [a, b, d]) ∨
      ∃ a b d e, x = [a, b, d, e] := by
  obtain ⟨c, rfl⟩ := h
  rw [encodeChar_eq]
  split
  · exact .inl ⟨_, rfl⟩
  · split
    · exact .inr (.inl ⟨_, _, rfl⟩)
    · split
      · exact .inr (.inr (.inl ⟨_, _, _, rfl⟩))
      · exact .inr (.inr (.inr ⟨_, _, _, _, rfl⟩))

theorem IsChar.ne_nil {x : List UInt8} (h : IsChar x) : x ≠ [] := by
  rcases h.shape with ⟨_, rfl⟩ | ⟨_, _, rfl⟩ | ⟨_, _, _, rfl⟩ | ⟨_, _, _, _, rfl⟩ <;> simp

/-- The length of an encoding, read off its lead byte. -/
def leadLength (a : UInt8) : Nat :=
  if a.toNat ≤ 0x7F then 1 else if a.toNat ≤ 0xDF then 2 else if a.toNat ≤ 0xEF then 3 else 4

theorem IsChar.length_eq {x r : List UInt8} (h : IsChar x) :
    ∃ a t, x ++ r = a :: t ∧ x.length = leadLength a := by
  unfold leadLength
  rcases h.shape with ⟨a, rfl⟩ | ⟨a, b, rfl⟩ | ⟨a, b, d, rfl⟩ | ⟨a, b, d, e, rfl⟩
  · have := isChar_one.1 h
    exact ⟨a, _, rfl, by simp only [List.length_cons, List.length_nil]; split_ifs; omega⟩
  · have := isChar_two.1 h
    exact ⟨a, _, rfl, by simp only [List.length_cons, List.length_nil]; split_ifs <;> omega⟩
  · have := isChar_three.1 h
    exact ⟨a, _, rfl, by simp only [List.length_cons, List.length_nil]; split_ifs <;> omega⟩
  · have := isChar_four.1 h
    exact ⟨a, _, rfl, by simp only [List.length_cons, List.length_nil]; split_ifs <;> omega⟩

/-- No encoding is a proper prefix of another: the first character is determined. -/
theorem IsChar.prefix_free {x y r t : List UInt8} (hx : IsChar x) (hy : IsChar y)
    (h : x ++ r = y ++ t) : x = y ∧ r = t := by
  obtain ⟨a, _, ha, lx⟩ := hx.length_eq (r := r)
  obtain ⟨b, _, hb, ly⟩ := hy.length_eq (r := t)
  have hab : a = b := by
    have := ha.symm.trans (h.trans hb)
    exact (List.cons.inj this).1
  exact List.append_inj h (by rw [lx, ly, hab])

/-! ## Well-formedness, one character at a time -/

theorem wellFormed_nil : WellFormed [] := ⟨[], rfl⟩

theorem wellFormed_cons_iff {s : List UInt8} (hs : s ≠ []) :
    WellFormed s ↔ ∃ x r, IsChar x ∧ s = x ++ r ∧ WellFormed r := by
  constructor
  · rintro ⟨cs, rfl⟩
    cases cs with
    | nil => exact (hs rfl).elim
    | cons c cs => exact ⟨_, encode cs, ⟨c, rfl⟩, by simp [encode], cs, rfl⟩
  · rintro ⟨_, _, ⟨c, rfl⟩, rfl, cs, rfl⟩
    exact ⟨c :: cs, by simp [encode]⟩

theorem wellFormed_append_iff {x r : List UInt8} (hx : IsChar x) :
    WellFormed (x ++ r) ↔ WellFormed r := by
  rw [wellFormed_cons_iff (by simp [hx.ne_nil])]
  constructor
  · rintro ⟨y, t, hy, h, ht⟩
    rw [(hx.prefix_free hy h).2]
    exact ht
  · exact fun h => ⟨x, r, hx, rfl, h⟩

theorem wellFormed_ascii {s : List UInt8} (h : ∀ b ∈ s, b.toNat ≤ 0x7F) : WellFormed s := by
  induction s with
  | nil => exact wellFormed_nil
  | cons b s ih =>
    have char : IsChar [b] := isChar_one.2 (h b (by simp))
    exact (wellFormed_append_iff char).2 (ih fun b' hb => h b' (by simp [hb]))

end SecpChat.Utf8
