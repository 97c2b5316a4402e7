import SecpChat.Lib.Utf8Forms
import SecpChat.Protocol.Secp

/-!
# What the field predicates accept

`valid_utf8` is exact: it accepts the concatenations of encodings of scalar values and
nothing else. One iteration of its loop (`utf8Next_eq_some`) consumes exactly the first
encoded character at the index, so the loop decides well-formedness of what is left.
What this means for the forms of numbers is `valid_utf8_exact`.
-/

namespace SecpChat

open Utf8 (IsChar IsScalar Overlong Fits Tail WellFormed form shortest)

theorem tail_iff (b : UInt8) : b &&& 0xC0 = 0x80 ↔ Tail b := by
  have all : ∀ n : Fin 256, (UInt8.ofFin n &&& 0xC0 = 0x80) ↔ 0x80 ≤ n.val ∧ n.val ≤ 0xBF := by
    decide +kernel
  exact all b.toFin

theorem drop_eq_cons_iff {s t : Bytes} {i : Nat} {a : UInt8} :
    s.drop i = a :: t ↔ i < s.length ∧ s.getD i 0 = a ∧ s.drop (i + 1) = t := by
  constructor
  · intro h
    have hi : i < s.length := by
      by_contra hn
      rw [List.drop_eq_nil_of_le (by omega)] at h
      cases h
    rw [List.drop_eq_getElem_cons hi] at h
    obtain ⟨ha, ht⟩ := List.cons.inj h
    exact ⟨hi, by rw [← ha]; simp [hi], ht⟩
  · rintro ⟨hi, ha, ht⟩
    rw [List.drop_eq_getElem_cons hi, ht, ← ha]
    simp [hi]

/-- The first character at index `i`, by its four possible lengths. -/
theorem isChar_at_iff {s : Bytes} {i j : Nat} :
    (∃ x r, IsChar x ∧ s.drop i = x ++ r ∧ j = i + x.length) ↔
      (i < s.length ∧ IsChar [s.getD i 0] ∧ j = i + 1) ∨
      (i + 1 < s.length ∧ IsChar [s.getD i 0, s.getD (i + 1) 0] ∧ j = i + 2) ∨
      (i + 2 < s.length ∧ IsChar [s.getD i 0, s.getD (i + 1) 0, s.getD (i + 2) 0] ∧ j = i + 3) ∨
      (i + 3 < s.length ∧
        IsChar [s.getD i 0, s.getD (i + 1) 0, s.getD (i + 2) 0, s.getD (i + 3) 0] ∧ j = i + 4) := by
  constructor
  · rintro ⟨x, r, hx, h, rfl⟩
    rcases hx.shape with ⟨a, rfl⟩ | ⟨a, b, rfl⟩ | ⟨a, b, d, rfl⟩ | ⟨a, b, d, e, rfl⟩ <;>
      simp only [List.cons_append, List.nil_append, drop_eq_cons_iff] at h
    · obtain ⟨hi, rfl, -⟩ := h
      exact .inl ⟨hi, hx, rfl⟩
    · obtain ⟨-, rfl, hi, rfl, -⟩ := h
      exact .inr (.inl ⟨hi, hx, rfl⟩)
    · obtain ⟨-, rfl, -, rfl, hi, rfl, -⟩ := h
      exact .inr (.inr (.inl ⟨hi, hx, rfl⟩))
    · obtain ⟨-, rfl, -, rfl, -, rfl, hi, rfl, -⟩ := h
      exact .inr (.inr (.inr ⟨hi, hx, rfl⟩))
  · rintro (⟨hi, hx, rfl⟩ | ⟨hi, hx, rfl⟩ | ⟨hi, hx, rfl⟩ | ⟨hi, hx, rfl⟩)
    · refine ⟨_, s.drop (i + 1), hx, ?_, rfl⟩
      exact drop_eq_cons_iff.2 ⟨hi, rfl, rfl⟩
    · refine ⟨_, s.drop (i + 2), hx, ?_, rfl⟩
      simp only [List.cons_append, List.nil_append, drop_eq_cons_iff, true_and, and_true]
      omega
    · refine ⟨_, s.drop (i + 3), hx, ?_, rfl⟩
      simp only [List.cons_append, List.nil_append, drop_eq_cons_iff, true_and, and_true]
      omega
    · refine ⟨_, s.drop (i + 4), hx, ?_, rfl⟩
      simp only [List.cons_append, List.nil_append, drop_eq_cons_iff, true_and, and_true]
      omega

/-- The `cont` lambda: in range, and a continuation byte. -/
theorem cont_iff {j n : Nat} {b : UInt8} :
    (if j < n then b &&& 0xC0 == 0x80 else false) = true ↔ j < n ∧ Tail b := by
  simp [tail_iff]

theorem utf8Next_eq_some {s : Bytes} {i j : Nat} (hi : i < s.length) :
    utf8Next s i = some j ↔ ∃ x r, IsChar x ∧ s.drop i = x ++ r ∧ j = i + x.length := by
  rw [isChar_at_iff, Utf8.isChar_one, Utf8.isChar_two, Utf8.isChar_three, Utf8.isChar_four]
  simp only [utf8Next, utf8Body, Id.run, Id, pure, bind, cont_iff, tail_iff]
  simp only [UInt8.le_iff_toNat_le, ← UInt8.toNat_inj, UInt8.reduceToNat, Tail]
  set b0 := (s.getD i 0).toNat
  have lead : b0 ≤ 127 ∨ 128 ≤ b0 ∧ b0 ≤ 193 ∨ 194 ≤ b0 ∧ b0 ≤ 223 ∨ b0 = 224 ∨
      225 ≤ b0 ∧ b0 ≤ 236 ∨ b0 = 237 ∨ 238 ≤ b0 ∧ b0 ≤ 239 ∨ b0 = 240 ∨
      241 ≤ b0 ∧ b0 ≤ 243 ∨ b0 = 244 ∨ 245 ≤ b0 := by omega
  -- the lead byte settles the outer tests; at most three on continuation bytes are left
  rcases lead with h | h | h | h | h | h | h | h | h | h | h <;>
    simp (disch := omega) only [if_pos, if_neg] <;> grind

/-- A character found at `i` lies inside the string. -/
theorem utf8Next_bounds {s : Bytes} {i j : Nat} (hi : i < s.length)
    (h : utf8Next s i = some j) : i < j ∧ j ≤ s.length := by
  obtain ⟨x, r, hx, hd, rfl⟩ := (utf8Next_eq_some hi).1 h
  have hlen := congrArg List.length hd
  have hpos := List.length_pos_iff.2 hx.ne_nil
  simp only [List.length_drop, List.length_append] at hlen
  omega

theorem utf8Loop_iff {s : Bytes} (fuel i : Nat) (hf : s.length ≤ i + fuel) :
    utf8Loop s fuel i = true ↔ WellFormed (s.drop i) := by
  induction fuel generalizing i with
  | zero =>
    rw [List.drop_eq_nil_of_le (by omega)]
    simp [utf8Loop, Utf8.wellFormed_nil]
  | succ fuel ih =>
    unfold utf8Loop
    split
    · next hi =>
      cases hn : utf8Next s i with
      | none =>
        have stuck : ¬ WellFormed (s.drop i) := by
          rw [Utf8.wellFormed_cons_iff (by simpa using hi)]
          rintro ⟨x, r, hx, hd, -⟩
          have := (utf8Next_eq_some hi).2 ⟨x, r, hx, hd, rfl⟩
          rw [hn] at this
          cases this
        simp [stuck]
      | some j =>
        have hb := utf8Next_bounds hi hn
        obtain ⟨x, r, hx, hd, rfl⟩ := (utf8Next_eq_some hi).1 hn
        have hr : r = s.drop (i + x.length) := by
          rw [← List.drop_drop, hd]
          simp
        rw [hd, Utf8.wellFormed_append_iff hx, hr]
        exact ih _ (by omega)
    · next hi =>
      rw [List.drop_eq_nil_of_le (by omega)]
      simp [Utf8.wellFormed_nil]

/-- **`valid_utf8` is exact.** -/
theorem validUtf8_iff_wellFormed (s : Bytes) : validUtf8 s = true ↔ WellFormed s := by
  rw [validUtf8, utf8Loop_iff _ _ (by omega), List.drop_zero]

theorem validUtf8_eq_false_iff {s : Bytes} : validUtf8 s = false ↔ ¬ WellFormed s := by
  rw [← validUtf8_iff_wellFormed, Bool.not_eq_true]

/-- **`valid_utf8` accepts shortest forms of scalar values**, and rejects a text that goes on
with an overlong form, the form of a surrogate or of a number above U+10FFFF, a stray
continuation byte, or an encoding cut off at the end. -/
theorem valid_utf8_exact :
    (∀ s : Bytes, validUtf8 s = true ↔
      ∃ ns : List Nat, (∀ n ∈ ns, IsScalar n) ∧ s = ns.flatMap shortest) ∧
    ∀ pre : Bytes, validUtf8 pre = true →
      (∀ k n post, Fits k n → Overlong k n ∨ ¬ IsScalar n →
        validUtf8 (pre ++ (form k n ++ post)) = false) ∧
      (∀ b post, Tail b → validUtf8 (pre ++ b :: post) = false) ∧
      ∀ n x y, IsScalar n → shortest n = x ++ y → x ≠ [] → y ≠ [] →
        validUtf8 (pre ++ x) = false := by
  refine ⟨fun s => ?_, fun pre hpre => ?_⟩
  · rw [validUtf8_iff_wellFormed, Utf8.wellFormed_iff_shortest]
  have front : WellFormed pre := (validUtf8_iff_wellFormed pre).1 hpre
  simp only [validUtf8_eq_false_iff, Utf8.wellFormed_append_iff_of_wellFormed front]
  refine ⟨fun k n post fits bad h => ?_, fun b post tail => Utf8.not_wellFormed_tail tail post,
    fun n x y scalar cut => ?_⟩
  · obtain ⟨scalar, least, -⟩ := (Utf8.wellFormed_form_append_iff fits).1 h
    rcases bad with ⟨j, shorter, fits'⟩ | not_scalar
    · have bound : n ≤ 0x10FFFF := by
        unfold IsScalar at scalar
        omega
      have small := (Utf8.needed_least bound).2 j fits'
      omega
    · exact not_scalar scalar
  · have char : IsChar (x ++ y) := Utf8.isChar_iff_shortest.2 ⟨n, scalar, cut.symm⟩
    exact Utf8.not_wellFormed_cut char

/-- The text a field may hold: well-formed UTF-8 without `|`, CR or LF. -/
structure FieldText (s : Bytes) : Prop where
  utf8 : WellFormed s
  clean : ∀ b ∈ s, b ≠ 124 ∧ b ≠ 13 ∧ b ≠ 10

theorem containsPipeOrNewline_eq_false {s : Bytes} :
    containsPipeOrNewline s = false ↔ ∀ b ∈ s, b ≠ 124 ∧ b ≠ 13 ∧ b ≠ 10 := by
  simp only [containsPipeOrNewline, List.any_eq_false, Bool.or_eq_true, beq_iff_eq, pipe, not_or]
  constructor
  · exact fun h b hb => ⟨(h b hb).1.1, (h b hb).2, (h b hb).1.2⟩
  · exact fun h b hb => ⟨⟨(h b hb).1, (h b hb).2.2⟩, (h b hb).2.1⟩

theorem fieldText_iff {s : Bytes} :
    (!containsPipeOrNewline s && validUtf8 s) = true ↔ FieldText s := by
  rw [Bool.and_eq_true, Bool.not_eq_true', containsPipeOrNewline_eq_false,
    validUtf8_iff_wellFormed]
  exact ⟨fun h => ⟨h.2, h.1⟩, fun h => ⟨h.clean, h.utf8⟩⟩

theorem fieldText_dash : FieldText (lit "-") :=
  ⟨⟨_, rfl⟩, by decide +kernel⟩

/-- `is_room_ok` and `is_username_ok` accept the same strings: the `"-"` test adds none. -/
theorem isUsernameOk_iff {u : Bytes} :
    isUsernameOk u = true ↔ FieldText u ∧ 1 ≤ u.length ∧ u.length ≤ 32 := by
  unfold isUsernameOk
  split
  · next h =>
    refine ⟨fun h => by simp at h, ?_⟩
    rintro ⟨-, lo, hi⟩
    rcases h with rfl | h
    · simp at lo
    · simp only [kMaxUsernameBytes] at h
      omega
  · next h =>
    simp only [not_or, kMaxUsernameBytes] at h
    have := List.length_pos_iff.2 h.1
    rw [fieldText_iff]
    exact ⟨fun t => ⟨t, by omega, by omega⟩, And.left⟩

theorem isRoomOk_iff {room : Bytes} :
    isRoomOk room = true ↔ FieldText room ∧ 1 ≤ room.length ∧ room.length ≤ 32 := by
  unfold isRoomOk
  split
  · next h =>
    subst h
    exact ⟨fun _ => ⟨fieldText_dash, by decide⟩, fun _ => rfl⟩
  · exact isUsernameOk_iff

theorem ne_nil_of_isUsernameOk {u : Bytes} (h : isUsernameOk u = true) : u ≠ [] :=
  List.length_pos_iff.1 (isUsernameOk_iff.1 h).2.1

theorem ne_nil_of_isRoomOk {room : Bytes} (h : isRoomOk room = true) : room ≠ [] :=
  List.length_pos_iff.1 (isRoomOk_iff.1 h).2.1

theorem isPayloadOk_iff {p : Bytes} :
    isPayloadOk p = true ↔ FieldText p ∧ p.length ≤ 512 := by
  unfold isPayloadOk
  split
  · next h =>
    subst h
    exact ⟨fun _ => ⟨fieldText_dash, by decide⟩, fun _ => rfl⟩
  · split
    · next h =>
      simp only [kMaxChatMessageBytes] at h
      exact ⟨fun h => by simp at h, fun ht => by omega⟩
    · next h =>
      simp only [kMaxChatMessageBytes] at h
      rw [fieldText_iff]
      exact ⟨fun t => ⟨t, by omega⟩, And.left⟩

end SecpChat
