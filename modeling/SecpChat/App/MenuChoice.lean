import SecpChat.Lib.Delimited
import SecpChat.Protocol.Bytes

/-!
# The number of a choice (`parse_menu_choice`)

`strtol` skips what C calls space, takes a sign, and stops where the digits or the C
string end. After the trim of the menu that leaves more lines for a choice than its
number alone (`parseMenuChoice_iff`): zeros and a plus in front, and after a NUL anything.
-/

namespace SecpChat

/-- `isspace` in the C locale. -/
def isSpace (b : UInt8) : Bool := b == 32 || (9 ≤ b && b ≤ 13)

def isDigit (b : UInt8) : Bool := 48 ≤ b && b ≤ 57

/-- What C sees of `c_str()`. -/
def cString (s : Bytes) : Bytes := s.takeWhile (· != 0)

/-- What `strtol` returns and reports; `long` has 64 bits. -/
structure Strtol where
  value : Int
  /-- `errno` is `ERANGE`. -/
  range : Bool
  /-- `end_ptr` is not where it started. -/
  converted : Bool
  /-- The string from `end_ptr` on. -/
  rest : Bytes
  deriving DecidableEq, Repr

/-- The number that the digits write. -/
def digitsValue (digits : Bytes) : Nat := digits.foldl (fun v d => 10 * v + (d.toNat - 48)) 0

/-- The sign in front of a number. -/
def signOf : Bytes → Bool × Bytes
  | b :: s => if b = 45 then (true, s) else if b = 43 then (false, s) else (false, b :: s)
  | [] => (false, [])

/-- `strtol` to the base 10. -/
def strtol (s : Bytes) : Strtol :=
  let (negative, s') := signOf (s.dropWhile isSpace)
  let digits := s'.takeWhile isDigit
  if digits = [] then ⟨0, false, false, s⟩
  else
    let v : Int := if negative then -(digitsValue digits : Int) else digitsValue digits
    let rest := s'.dropWhile isDigit
    if v < -2 ^ 63 then ⟨-2 ^ 63, true, true, rest⟩
    else if v > 2 ^ 63 - 1 then ⟨2 ^ 63 - 1, true, true, rest⟩
    else ⟨v, false, true, rest⟩

/-- `parse_menu_choice` -/
def parseMenuChoice (s : Bytes) : Option Nat :=
  let s := trimInPlace s
  if s = [] then none
  else
    let r := strtol (cString s)
    if r.range = true ∨ r.converted = false ∨ r.rest ≠ [] then none
    else if r.value < 1 ∨ r.value > 12 then none
    else some r.value.toNat

/-- The bytes are space, a sign, digits and what comes after them. -/
structure Numeral (s space sign digits rest : Bytes) : Prop where
  shape : s = space ++ (sign ++ (digits ++ rest))
  spaces : ∀ b ∈ space, isSpace b = true
  decimal : ∀ b ∈ digits, isDigit b = true
  nonempty : digits ≠ []
  stop : ∀ b, rest.head? = some b → isDigit b = false

theorem not_isSpace_of_isDigit {b : UInt8} (h : isDigit b = true) :
    isSpace b = false ∧ b ≠ 45 ∧ b ≠ 43 := by
  simp only [isDigit, isSpace, Bool.and_eq_true, decide_eq_true_eq, Bool.or_eq_false_iff,
    Bool.and_eq_false_iff, beq_eq_false_iff_ne, decide_eq_false_iff_not, UInt8.le_iff_toNat_le,
    ne_eq, ← UInt8.toNat_inj] at h ⊢
  simp only [UInt8.reduceToNat] at h ⊢
  omega

/-- The number that a sign and digits write. -/
def signedValue (sign digits : Bytes) : Int :=
  if sign = [45] then -(digitsValue digits : Int) else digitsValue digits

/-- **`strtol` converts a number and stops behind it.** -/
theorem strtol_numeral {s space sign digits rest : Bytes} (h : Numeral s space sign digits rest)
    (signed : sign = [] ∨ sign = [43] ∨ sign = [45]) :
    (strtol s).converted = true ∧ (strtol s).rest = rest ∧
      ((strtol s).range = false → (strtol s).value = signedValue sign digits) ∧
      ((strtol s).range = true → signedValue sign digits < 1 ∨ signedValue sign digits > 12) := by
  obtain ⟨rfl, spaces, all, nonempty, stop⟩ := h
  obtain ⟨d, ds, rfl⟩ := List.exists_cons_of_ne_nil nonempty
  obtain ⟨first, -, -⟩ := not_isSpace_of_isDigit (all d (by simp))
  have skipped : (space ++ (sign ++ (d :: ds ++ rest))).dropWhile isSpace =
      sign ++ (d :: ds ++ rest) := by
    refine (Delimited.while_append spaces fun b head => ?_).2
    rcases signed with rfl | rfl | rfl
    · obtain rfl : d = b := by simpa using head
      exact first
    · obtain rfl : 43 = b := by simpa using head
      decide
    · obtain rfl : 45 = b := by simpa using head
      decide
  have split : signOf (sign ++ (d :: ds ++ rest)) = (decide (sign = [45]), d :: ds ++ rest) := by
    obtain ⟨-, minus, plus⟩ := not_isSpace_of_isDigit (all d (by simp))
    rcases signed with rfl | rfl | rfl <;> simp [signOf, minus, plus]
  obtain ⟨taken, dropped⟩ := Delimited.while_append all stop
  simp only [strtol, skipped, split, taken, dropped, reduceCtorEq, if_false, decide_eq_true_eq]
  rw [← signedValue]
  split
  · simp; omega
  · split
    · simp; omega
    · simp

/-- Whatever `strtol` converts starts with a number. -/
theorem exists_numeral {s : Bytes} (h : (strtol s).converted = true) :
    ∃ space sign digits rest, Numeral s space sign digits rest ∧
      (sign = [] ∨ sign = [43] ∨ sign = [45]) := by
  obtain ⟨sign, signed, split⟩ : ∃ sign, (sign = [] ∨ sign = [43] ∨ sign = [45]) ∧
      s.dropWhile isSpace = sign ++ (signOf (s.dropWhile isSpace)).2 := by
    generalize s.dropWhile isSpace = t
    cases t with
    | nil => exact ⟨[], .inl rfl, rfl⟩
    | cons b t =>
      by_cases minus : b = 45
      · exact ⟨[45], .inr (.inr rfl), by simp [signOf, minus]⟩
      · by_cases plus : b = 43
        · exact ⟨[43], .inr (.inl rfl), by simp [signOf, plus]⟩
        · exact ⟨[], .inl rfl, by simp [signOf, minus, plus]⟩
  generalize found : (signOf (s.dropWhile isSpace)).2 = u at split
  have nonempty : u.takeWhile isDigit ≠ [] := by
    intro none
    simp [strtol, found, none] at h
  refine ⟨s.takeWhile isSpace, sign, u.takeWhile isDigit, u.dropWhile isDigit, ⟨?_, ?_, ?_, nonempty,
    ?_⟩, signed⟩
  · rw [List.takeWhile_append_dropWhile, ← split, List.takeWhile_append_dropWhile]
  · exact fun b => List.mem_takeWhile_imp
  · exact fun b => List.mem_takeWhile_imp
  · intro b head
    have stop := List.head?_dropWhile_not isDigit u
    rw [head] at stop
    exact stop

/-- The line, trimmed, is a number with C's space before it and perhaps a plus, up to its end or to
a NUL. -/
def Chooses (line : Bytes) (n : Nat) : Prop :=
  ∃ space sign digits rest, trimInPlace line = space ++ (sign ++ (digits ++ rest)) ∧
    (∀ b ∈ space, isSpace b = true) ∧ (sign = [] ∨ sign = [43]) ∧ digits ≠ [] ∧
    (∀ b ∈ digits, isDigit b = true) ∧ digitsValue digits = n ∧ (rest = [] ∨ rest.head? = some 0)

theorem chooses_of_parse {line : Bytes} {n : Nat} (h : parseMenuChoice line = some n) :
    1 ≤ n ∧ n ≤ 12 ∧ Chooses line n := by
  simp only [parseMenuChoice] at h
  split at h
  · cases h
  split at h
  · cases h
  next sound =>
  obtain ⟨range, converted, ended⟩ : (strtol (cString (trimInPlace line))).range = false ∧
      (strtol (cString (trimInPlace line))).converted = true ∧
      (strtol (cString (trimInPlace line))).rest = [] := by simpa [not_or] using sound
  split at h
  · cases h
  next bounded =>
  obtain ⟨space, sign, digits, rest, numeral, signed⟩ := exists_numeral converted
  obtain ⟨-, same, value, -⟩ := strtol_numeral numeral signed
  rw [ended] at same
  subst same
  rw [value range, Option.some.injEq] at h
  rw [value range] at bounded
  have positive : sign ≠ [45] := by
    rintro rfl
    simp only [signedValue, if_true] at bounded
    omega
  simp only [signedValue, if_neg positive] at h bounded
  refine ⟨by omega, by omega, space, sign, digits, (trimInPlace line).dropWhile (· != 0), ?_,
    numeral.spaces, ?_, numeral.nonempty, numeral.decimal, by omega, ?_⟩
  · have seen := numeral.shape
    rw [List.append_nil] at seen
    rw [← List.append_assoc sign, ← List.append_assoc space, ← seen, cString,
      List.takeWhile_append_dropWhile]
  · rcases signed with none | plus | minus
    · exact .inl none
    · exact .inr plus
    · exact (positive minus).elim
  · have stop := List.head?_dropWhile_not (· != 0) (trimInPlace line)
    cases behind : (trimInPlace line).dropWhile (· != 0) with
    | nil => exact .inl rfl
    | cons b rest =>
      rw [behind] at stop
      exact .inr (by simpa using stop)

theorem parse_of_chooses {line : Bytes} {n : Nat} (low : 1 ≤ n) (high : n ≤ 12)
    (h : Chooses line n) : parseMenuChoice line = some n := by
  obtain ⟨space, sign, digits, rest, shape, spaces, signed, nonempty, decimal, value, stop⟩ := h
  have visible (b : UInt8) (seen : b ∈ space ++ (sign ++ digits)) : (b != 0) = true := by
    have : isSpace b = true ∨ b = 43 ∨ isDigit b = true := by
      rcases List.mem_append.1 seen with inSpace | seen
      · exact .inl (spaces b inSpace)
      rcases List.mem_append.1 seen with inSign | inDigits
      · rcases signed with rfl | rfl
        · cases inSign
        · exact .inr (.inl (List.mem_singleton.1 inSign))
      · exact .inr (.inr (decimal b inDigits))
    rw [bne_iff_ne]
    rintro rfl
    revert this
    decide
  have seen : cString (trimInPlace line) = space ++ (sign ++ digits) := by
    have grouped : trimInPlace line = (space ++ (sign ++ digits)) ++ rest := by
      rw [shape]
      simp
    rw [cString, grouped]
    refine (Delimited.while_append visible fun b head => ?_).1
    rcases stop with rfl | first
    · cases head
    · obtain rfl : b = 0 := Option.some.inj (head.symm.trans first)
      rfl
  have numeral : Numeral (cString (trimInPlace line)) space sign digits [] :=
    ⟨by rw [seen, List.append_nil], spaces, decimal, nonempty, nofun⟩
  obtain ⟨converted, ended, sound, overflow⟩ :=
    strtol_numeral numeral (signed.imp_right .inl)
  have positive : sign ≠ [45] := by
    rcases signed with rfl | rfl <;> decide
  simp only [signedValue, if_neg positive, value] at sound overflow
  have range : (strtol (cString (trimInPlace line))).range = false := by
    cases exceeded : (strtol (cString (trimInPlace line))).range with
    | false => rfl
    | true =>
      have outside := overflow exceeded
      omega
  have some_ : trimInPlace line ≠ [] := by
    rw [shape]
    simp [nonempty]
  have bounded : ¬ ((n : Int) < 1 ∨ (n : Int) > 12) := by omega
  simp only [parseMenuChoice]
  rw [if_neg some_, if_neg (by simp [range, converted, ended]), sound range, if_neg bounded]
  rfl

/-- **The lines that are choice `n`** of the menu. -/
theorem parseMenuChoice_eq_some_iff (line : Bytes) (n : Nat) :
    parseMenuChoice line = some n ↔ 1 ≤ n ∧ n ≤ 12 ∧ Chooses line n :=
  ⟨chooses_of_parse, fun h => parse_of_chooses h.1 h.2.1 h.2.2⟩

/-- A vertical tab, a plus and zeros before the 7, a NUL and more after it. -/
example : parseMenuChoice ([32, 11] ++ lit "+007" ++ [0] ++ lit "x\r") = some 7 := by
  decide +kernel

end SecpChat
