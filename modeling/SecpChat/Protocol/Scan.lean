import SecpChat.Lib.Loop
import SecpChat.Protocol.Grammar

/-!
# The scans stay inside the string

The two loops that run over bytes from the network, with every access checked: a read and
a write out of range and a `substr` that starts beyond the end are faults. Neither loop
faults at any head it comes to, and both return what the unchecked definitions compute.
-/

namespace SecpChat

/-- An access out of range. -/
inductive Fault where
  /-- `p[i]` or `line[i]` -/
  | read (i : Nat)
  /-- `parts[i] = ..` -/
  | write (i : Nat)
  /-- `std::out_of_range` of `substr` -/
  | substr (pos : Nat)
  deriving DecidableEq, Repr

def readAt (s : Bytes) (i : Nat) : Except Fault UInt8 :=
  if h : i < s.length then .ok (s.get ⟨i, h⟩) else .error (.read i)

def writeAt (parts : List Bytes) (i : Nat) (part : Bytes) : Except Fault (List Bytes) :=
  if i < parts.length then .ok (parts.set i part) else .error (.write i)

def substrAt (s : Bytes) (pos count : Nat) : Except Fault Bytes :=
  if pos ≤ s.length then .ok (substr s pos count) else .error (.substr pos)

/-- The body of `while (i < n)`. -/
def utf8Scan (s : Bytes) (i : Nat) : Except Fault (Nat ⊕ Bool) :=
  if i < s.length then do
    match ← utf8Body (readAt s) s.length i with
    | none => return .inr false
    | some j => return .inl j
  else return .inr true

/-- `i == line.size() || line[i] == '|'` -/
def separatorAt (line : Bytes) (i : Nat) : Except Fault Bool :=
  if i = line.length then .ok true else do return (← readAt line i) == pipe

/-- One iteration of the split loop, as `splitBody`. -/
def splitScanBody (line : Bytes) (i : Nat) (st : SplitState) :
    Except Fault (Option SplitState) := do
  if ← separatorAt line i then
    if st.idx ≥ 4 then return none
    else
      let part ← substrAt line st.start (i - st.start)
      let parts ← writeAt st.parts st.idx part
      return some ⟨parts, st.idx + 1, i + 1⟩
  else return some st

/-- The body of `for (i = 0; i <= line.size(); ++i)`. -/
def splitScan (line : Bytes) (s : Nat × SplitState) :
    Except Fault ((Nat × SplitState) ⊕ Option SplitState) :=
  if s.1 ≤ line.length then do
    match ← splitScanBody line s.1 s.2 with
    | none => return .inr none
    | some st => return .inl (s.1 + 1, st)
  else return .inr (some s.2)

/-! ## `valid_utf8` -/

/-- The checked computation does not fault, and computes what the unchecked one does. -/
def Safe {α : Type} (x : Except Fault α) (y : Id α) : Prop := x = .ok y.run

namespace Safe

variable {α β : Type} {x x' : Except Fault α} {y y' : Id α}

theorem pure (a : α) : Safe (Pure.pure a) (Pure.pure a) := rfl

theorem bind {k : α → Except Fault β} {l : α → Id β} (hx : Safe x y) (hk : ∀ a, Safe (k a) (l a)) :
    Safe (x >>= k) (y >>= l) := by
  rw [Safe] at hx
  subst hx
  exact hk y.run

theorem ite {c : Prop} [Decidable c] (hx : c → Safe x y) (hx' : ¬ c → Safe x' y') :
    Safe (if c then x else x') (if c then y else y') := by
  split
  · next h => exact hx h
  · next h => exact hx' h

theorem read {s : Bytes} {i : Nat} (h : i < s.length) :
    Safe (readAt s i) (Pure.pure (s.getD i 0)) := by
  simp [Safe, readAt, h]

/-- `return some` under a condition. -/
theorem test {c : Prop} [Decidable c] (j : Nat) :
    Safe (if c then Pure.pure (some j) else Pure.pure none)
      (if c then Pure.pure (some j) else Pure.pure none) :=
  ite (fun _ => pure _) fun _ => pure _

end Safe

/-- **Every read of an iteration is below `n`.** -/
theorem utf8Body_safe {s : Bytes} {i : Nat} (hi : i < s.length) :
    Safe (utf8Body (readAt s) s.length i) (utf8Body (fun j => pure (s.getD j 0)) s.length i) := by
  unfold utf8Body
  have cont (j : Nat) :
      Safe (if j < s.length then do return (← readAt s j) &&& 0xC0 == 0x80 else return false)
        (if j < s.length then do return (← pure (s.getD j 0)) &&& 0xC0 == 0x80
          else return false) :=
    .ite (fun h => .bind (.read h) fun _ => .pure _) fun _ => .pure _
  refine .bind (.read hi) fun b0 => ?_
  refine .ite (fun _ => .pure _) fun _ => ?_
  refine .ite (fun _ => .bind (cont _) fun _ => .test _) fun _ => ?_
  -- 0xE0
  refine .ite (fun _ => .ite (fun h => ?_) fun _ => .pure _) fun _ => ?_
  · refine .bind (.read (by omega)) fun b1 => .bind (.read h) fun b2 => ?_
    exact .ite (fun _ => .test _) fun _ => .pure _
  refine .ite (fun _ => .bind (cont _) fun _ => ?_) fun _ => ?_
  · exact .ite (fun _ => .bind (cont _) fun _ => .test _) fun _ => .pure _
  -- 0xED
  refine .ite (fun _ => .ite (fun h => ?_) fun _ => .pure _) fun _ => ?_
  · refine .bind (.read (by omega)) fun b1 => .bind (.read h) fun b2 => ?_
    exact .ite (fun _ => .test _) fun _ => .pure _
  refine .ite (fun _ => .bind (cont _) fun _ => ?_) fun _ => ?_
  · exact .ite (fun _ => .bind (cont _) fun _ => .test _) fun _ => .pure _
  -- 0xF0
  refine .ite (fun _ => .ite (fun h => ?_) fun _ => .pure _) fun _ => ?_
  · refine .bind (.read (by omega)) fun b1 => .bind (.read (by omega)) fun b2 => ?_
    refine .bind (.read h) fun b3 => ?_
    exact .ite (fun _ => .test _) fun _ => .pure _
  refine .ite (fun _ => .bind (cont _) fun _ => ?_) fun _ => ?_
  · refine .ite (fun _ => .bind (cont _) fun _ => ?_) fun _ => .pure _
    exact .ite (fun _ => .bind (cont _) fun _ => .test _) fun _ => .pure _
  -- 0xF4
  refine .ite (fun _ => .ite (fun h => ?_) fun _ => .pure _) fun _ => .pure _
  refine .bind (.read (by omega)) fun b1 => .bind (.read (by omega)) fun b2 => ?_
  refine .bind (.read h) fun b3 => ?_
  exact .ite (fun _ => .test _) fun _ => .pure _

theorem utf8Scan_eq {s : Bytes} {i : Nat} (hi : i < s.length) :
    utf8Scan s i = .ok ((utf8Next s i).elim (.inr false) .inl) := by
  have body : utf8Body (readAt s) s.length i = .ok (utf8Next s i) := utf8Body_safe hi
  rw [utf8Scan, if_pos hi, body]
  cases utf8Next s i with
  | none => rfl
  | some j => rfl

theorem utf8Scan_variant (s : Bytes) :
    Loop.Variant (utf8Scan s) (fun i => i ≤ s.length) (fun i => s.length - i)
      fun i => utf8Loop s (s.length - i) i := by
  refine ⟨fun i inside => ?_⟩
  rcases Nat.lt_or_eq_of_le inside with hi | rfl
  · obtain ⟨fuel, left⟩ : ∃ fuel, s.length - i = fuel + 1 := ⟨s.length - i - 1, by omega⟩
    rw [utf8Scan_eq hi, left, utf8Loop, if_pos hi]
    cases next : utf8Next s i with
    | none => exact .inr rfl
    | some j =>
      obtain ⟨forward, inside'⟩ := utf8Next_bounds hi next
      refine .inl ⟨j, rfl, inside', by omega, ?_⟩
      -- both decide whether the rest is well-formed
      rw [Bool.eq_iff_iff, utf8Loop_iff _ _ (by omega), utf8Loop_iff _ _ (by omega)]
  · right
    rw [utf8Scan, if_neg (lt_irrefl _), Nat.sub_self]
    rfl

/-! ## The split loop -/

/-- What is true at the heads: `start` has passed the end only when the loop is over. -/
structure SplitInside (line : Bytes) (s : Nat × SplitState) : Prop where
  position : s.1 ≤ line.length + 1
  start : s.2.start ≤ s.1
  parts : s.2.parts.length = 4

theorem separatorAt_eq {line : Bytes} {i : Nat} (hi : i ≤ line.length) :
    separatorAt line i = .ok (decide (i = line.length ∨ line.getD i 0 = pipe)) := by
  unfold separatorAt
  split
  · next ended => simp [ended]
  · next inside =>
    have read : readAt line i = .ok (line.getD i 0) := Safe.read (by omega)
    rw [read]
    simp only [inside, false_or]
    rfl

/-- **No access of an iteration is out of range.** -/
theorem splitScanBody_eq {line : Bytes} {i : Nat} {st : SplitState} (hi : i ≤ line.length)
    (start : st.start ≤ i) (parts : st.parts.length = 4) :
    splitScanBody line i st = .ok (splitBody line i st) := by
  rw [splitScanBody, separatorAt_eq hi, splitBody]
  by_cases separator : i = line.length ∨ line.getD i 0 = pipe
  · rw [if_pos separator, decide_eq_true separator]
    by_cases full : st.idx ≥ 4
    · simp only [if_pos full]
      rfl
    · have part : substrAt line st.start (i - st.start) =
          .ok (substr line st.start (i - st.start)) := if_pos (le_trans start hi)
      have written (field : Bytes) :
          writeAt st.parts st.idx field = .ok (st.parts.set st.idx field) :=
        if_pos (by omega)
      simp only [if_neg full, part, written]
      rfl
  · rw [if_neg separator, decide_eq_false separator]
    rfl

/-- An iteration keeps `start` behind the next position. -/
theorem splitBody_inside {line : Bytes} {i : Nat} {st st' : SplitState} (hi : i ≤ line.length)
    (inside : SplitInside line (i, st)) (next : splitBody line i st = some st') :
    SplitInside line (i + 1, st') := by
  obtain ⟨-, start, parts⟩ := inside
  unfold splitBody at next
  split at next
  · split at next
    · cases next
    · cases next
      exact ⟨Nat.succ_le_succ hi, le_rfl, by simpa using parts⟩
  · cases next
    exact ⟨Nat.succ_le_succ hi, Nat.le_succ_of_le start, parts⟩

theorem splitScan_eq {line : Bytes} {i : Nat} {st : SplitState} (hi : i ≤ line.length)
    (inside : SplitInside line (i, st)) :
    splitScan line (i, st) = .ok ((splitBody line i st).elim (.inr none) fun st' =>
      .inl (i + 1, st')) := by
  have body := splitScanBody_eq hi inside.start inside.parts
  simp only [splitScan, if_pos hi, body]
  cases splitBody line i st with
  | none => rfl
  | some st' => rfl

theorem splitScan_variant (line : Bytes) :
    Loop.Variant (splitScan line) (SplitInside line) (fun s => line.length + 1 - s.1)
      fun s => splitLoop line (line.length + 1 - s.1) s.1 s.2 := by
  refine ⟨fun s inside => ?_⟩
  obtain ⟨i, st⟩ := s
  rcases Nat.lt_or_eq_of_le inside.position with hi | ended
  · have hi : i ≤ line.length := Nat.le_of_lt_succ hi
    have left : line.length + 1 - i = line.length - i + 1 := by omega
    rw [splitScan_eq hi inside]
    simp only [left, splitLoop]
    cases next : splitBody line i st with
    | none => exact .inr rfl
    | some st' =>
      refine .inl ⟨(i + 1, st'), rfl, splitBody_inside hi inside next, ?_, ?_⟩
      · show line.length + 1 - (i + 1) < line.length - i + 1
        omega
      · show splitLoop line (line.length + 1 - (i + 1)) (i + 1) st' = _
        rw [Nat.add_sub_add_right]
  · right
    obtain rfl : i = line.length + 1 := ended
    simp only [splitScan, if_neg (Nat.not_succ_le_self line.length), Nat.sub_self, splitLoop]
    rfl

/-- **The scans of untrusted bytes are safe and end.** -/
theorem scans_safe (s : Bytes) :
    (∀ i, Loop.Heads (utf8Scan s) 0 i → i ≤ s.length ∧ (∃ o, utf8Scan s i = .ok o) ∧
      ∀ j, utf8Scan s i = .ok (.inl j) → i < j) ∧
    (∀ fuel, s.length < fuel → Loop.run (utf8Scan s) fuel 0 = .ok (some (validUtf8 s))) ∧
    let line := stripNewlines s
    (∀ i st, Loop.Heads (splitScan line) (0, .init) (i, st) →
      i ≤ line.length + 1 ∧ st.start ≤ i ∧ st.parts.length = 4 ∧
        (∃ o, splitScan line (i, st) = .ok o) ∧
        ∀ j st', splitScan line (i, st) = .ok (.inl (j, st')) → i < j) ∧
    ∀ fuel, line.length + 1 < fuel → Loop.run (splitScan line) fuel (0, .init) =
      .ok (some (splitLoop line (line.length + 1) 0 .init)) := by
  have start (line : Bytes) : SplitInside line (0, .init) := ⟨Nat.zero_le _, le_rfl, rfl⟩
  refine ⟨fun i head => ?_, fun fuel enough => ?_, fun i st head => ?_, fun fuel enough => ?_⟩
  · have inside := (utf8Scan_variant s).heads (Nat.zero_le _) head
    refine ⟨inside, (utf8Scan_variant s).safe inside, fun j goes => ?_⟩
    have less := (utf8Scan_variant s).less inside goes
    omega
  · exact (utf8Scan_variant s).run_eq (Nat.zero_le _) enough
  · have inside := (splitScan_variant _).heads (start _) head
    refine ⟨inside.position, inside.start, inside.parts, (splitScan_variant _).safe inside,
      fun j st' goes => ?_⟩
    have less := (splitScan_variant _).less inside goes
    omega
  · exact (splitScan_variant _).run_eq (start _) enough

end SecpChat
