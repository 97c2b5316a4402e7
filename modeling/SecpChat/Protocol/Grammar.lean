import SecpChat.Lib.Delimited
import SecpChat.Protocol.Validate

/-!
# The parser accepts exactly its grammar

The split loop computes the separated fields of the stripped line (`splitLoop_eq`, with
the overflow to a fifth field as the failure case), so `parse_secp_line` is
characterised by an intercalation (`parseSecpLine_eq_some`). `SecpLine` is the grammar
of the message format, stated without the scanner.
-/

namespace SecpChat

open Utf8 (WellFormed)

/-! ## The split loop -/

/-- Fields written to consecutive slots. -/
def writeParts : List Bytes → Nat → List Bytes → List Bytes
  | parts, _, [] => parts
  | parts, idx, f :: fs => writeParts (parts.set idx f) (idx + 1) fs

/-- The fields still to come at position `i`, the one open since `start` first. -/
noncomputable def fieldsFrom (s : Bytes) (start i : Nat) : List Bytes :=
  List.splitOnPPrepend (· == pipe) (s.drop i) ((s.drop start).take (i - start)).reverse

theorem fieldsFrom_end (s : Bytes) (start : Nat) :
    fieldsFrom s start s.length = [substr s start (s.length - start)] := by
  simp [fieldsFrom, substr]

theorem fieldsFrom_sep {s : Bytes} {start i : Nat} (hi : i < s.length)
    (hp : s[i] = pipe) :
    fieldsFrom s start i = substr s start (i - start) :: fieldsFrom s (i + 1) (i + 1) := by
  rw [fieldsFrom, List.drop_eq_getElem_cons hi, List.splitOnPPrepend_cons_pos (by simp [hp])]
  simp [fieldsFrom, substr]

theorem fieldsFrom_char {s : Bytes} {start i : Nat} (hs : start ≤ i) (hi : i < s.length)
    (hp : s[i] ≠ pipe) : fieldsFrom s start i = fieldsFrom s start (i + 1) := by
  have grow : (s.drop start).take (i + 1 - start) =
      (s.drop start).take (i - start) ++ [s[i]] := by
    have hd : i - start < (s.drop start).length := by simp; omega
    rw [show i + 1 - start = i - start + 1 by omega, List.take_succ_eq_append_getElem hd]
    simp [show start + (i - start) = i by omega]
  rw [fieldsFrom, List.drop_eq_getElem_cons hi, List.splitOnPPrepend_cons_neg (by simp [hp]),
    fieldsFrom, grow]
  simp

theorem fieldsFrom_ne_nil (s : Bytes) (start i : Nat) : 1 ≤ (fieldsFrom s start i).length :=
  List.length_pos_iff.2 (List.splitOnPPrepend_ne_nil _ _ _)

/-- **The split loop**: `nullopt` exactly on a fifth field, else the fields in their slots. -/
theorem splitLoop_eq {s : Bytes} (k i : Nat) (st : SplitState) (hk : i + k = s.length)
    (hs : st.start ≤ i) :
    splitLoop s (k + 1) i st =
      let fields := fieldsFrom s st.start i
      if st.idx + fields.length ≤ 4 then
        some ⟨writeParts st.parts st.idx fields, st.idx + fields.length, s.length + 1⟩
      else none := by
  induction k generalizing i st with
  | zero =>
    obtain rfl : i = s.length := by omega
    rw [fieldsFrom_end]
    by_cases h : st.idx ≥ 4
    · simp [splitLoop, splitBody, h]
    · simp [splitLoop, splitBody, h, writeParts, show st.idx + 1 ≤ 4 by omega]
  | succ k ih =>
    have hi : i < s.length := by omega
    rw [splitLoop]
    by_cases hp : s[i] = pipe
    · rw [fieldsFrom_sep hi hp]
      have more := fieldsFrom_ne_nil s (i + 1) (i + 1)
      by_cases h : st.idx ≥ 4
      · simp [splitBody, hi, hp, h]
        omega
      · rw [splitBody, if_pos (by simp [hi, hp]), if_neg h]
        simp only
        rw [ih (i + 1) _ (by omega) (by simp)]
        simp [writeParts, Nat.add_assoc, Nat.add_comm 1]
    · rw [fieldsFrom_char hs hi hp, splitBody, if_neg (by simp [hi, hp]; omega)]
      exact ih (i + 1) st (by omega) (by omega)

theorem splitLoop_start (s : Bytes) :
    splitLoop s (s.length + 1) 0 .init =
      if (s.splitOn pipe).length ≤ 4 then
        some ⟨writeParts (List.replicate 4 []) 0 (s.splitOn pipe), (s.splitOn pipe).length,
          s.length + 1⟩
      else none := by
  have start : fieldsFrom s SplitState.init.start 0 = s.splitOn pipe := rfl
  rw [splitLoop_eq s.length 0 .init (by omega) (Nat.le_refl 0), start]
  simp [SplitState.init]

theorem splitLoop_of_fields {s T R U P : Bytes} (h : s.splitOn pipe = [T, R, U, P]) :
    splitLoop s (s.length + 1) 0 .init = some ⟨[T, R, U, P], 4, s.length + 1⟩ := by
  rw [splitLoop_start, h]
  rfl

theorem fields_of_splitLoop {s : Bytes} {st : SplitState}
    (h : splitLoop s (s.length + 1) 0 .init = some st) (hidx : st.idx = 4) :
    ∃ T R U P, s.splitOn pipe = [T, R, U, P] ∧ st.parts = [T, R, U, P] := by
  rw [splitLoop_start] at h
  split at h
  · cases h
    obtain ⟨T, R, U, P, fields⟩ := List.length_eq_four.1 hidx
    exact ⟨T, R, U, P, fields, by rw [fields]; rfl⟩
  · cases h

/-! ## Type tokens -/

theorem parseSecpType_name {t : SecpType} (h : t ≠ .Unknown) :
    parseSecpType (secpTypeName t) = t := by
  cases t with
  | Presence => decide +kernel
  | RoomAnnounce => decide +kernel
  | Invite => decide +kernel
  | Chat => decide +kernel
  | Unknown => exact (h rfl).elim

theorem name_parseSecpType {T : Bytes} (h : parseSecpType T ≠ .Unknown) :
    secpTypeName (parseSecpType T) = T := by
  unfold parseSecpType at h ⊢
  split_ifs at h ⊢ <;> simp_all [secpTypeName]

theorem secpTypeName_clean (t : SecpType) : ∀ b ∈ secpTypeName t, b ≠ 124 ∧ b ≠ 13 ∧ b ≠ 10 := by
  cases t <;> decide +kernel

theorem secpTypeName_length (t : SecpType) :
    1 ≤ (secpTypeName t).length ∧ (secpTypeName t).length ≤ 13 := by
  cases t <;> decide +kernel

/-! ## The parser -/

/-- `TYPE|ROOM|USERNAME|PAYLOAD`, the line without its terminator. -/
def lineBody (t : SecpType) (room username payload : Bytes) : Bytes :=
  secpTypeName t ++ pipe :: (room ++ pipe :: (username ++ pipe :: payload))

/-- The three field predicates of a message. -/
structure FieldsOk (m : SecpMessage) : Prop where
  known : m.type ≠ .Unknown
  room : isRoomOk m.room = true
  username : isUsernameOk m.username = true
  payload : isPayloadOk m.payload = true

theorem parseSecpLine_fields {line : Bytes} {m : SecpMessage} :
    parseSecpLine line = some m ↔ 1 ≤ line.length ∧ line.length ≤ 1024 ∧ FieldsOk m ∧
      (stripNewlines line).splitOn pipe = [secpTypeName m.type, m.room, m.username, m.payload] := by
  unfold parseSecpLine
  simp only [kMaxPacketBytes]
  constructor
  · intro h
    split at h
    · cases h
    next hlen =>
    split at h
    · cases h
    split at h
    · cases h
    next st hst =>
    split at h
    · cases h
    next hidx =>
    obtain ⟨T, R, U, P, fields, parts⟩ := fields_of_splitLoop hst (not_not.1 hidx)
    rw [parts] at h
    simp only [List.getD_cons_zero, List.getD_cons_succ] at h
    split at h
    · cases h
    next ht =>
    split at h
    · cases h
    next hok =>
    cases h
    simp only [Bool.or_eq_true, Bool.not_eq_true', not_or, Bool.not_eq_false] at hok
    simp only [not_or] at hlen
    have hpos := List.length_pos_iff.2 hlen.2
    refine ⟨by omega, by omega, ⟨ht, hok.1.1, hok.1.2, hok.2⟩, ?_⟩
    rw [fields, name_parseSecpType ht]
  · rintro ⟨lo, hi, ok, fields⟩
    have hline : ¬ (line.length > 1024 ∨ line = []) := by
      rintro (h | rfl)
      · omega
      · simp at lo
    have hbody : stripNewlines line ≠ [] := by
      intro e
      rw [e] at fields
      simp [List.splitOn_nil] at fields
    rw [if_neg hline, if_neg hbody, splitLoop_of_fields fields]
    simp [parseSecpType_name ok.known, ok.known, ok.room, ok.username, ok.payload]

theorem fieldsOk_of_parse {line : Bytes} {m : SecpMessage} (h : parseSecpLine line = some m) :
    FieldsOk m :=
  (parseSecpLine_fields.1 h).2.2.1

theorem FieldsOk.texts {m : SecpMessage} (ok : FieldsOk m) :
    FieldText m.room ∧ FieldText m.username ∧ FieldText m.payload :=
  ⟨(isRoomOk_iff.1 ok.room).1, (isUsernameOk_iff.1 ok.username).1, (isPayloadOk_iff.1 ok.payload).1⟩

theorem FieldText.no_pipe {s : Bytes} (h : FieldText s) : pipe ∉ s :=
  fun hm => (h.clean pipe hm).1 rfl

/-- Valid fields are separated again exactly when they were joined. -/
theorem splitOn_body_iff {s : Bytes} {m : SecpMessage} (ok : FieldsOk m) :
    s.splitOn pipe = [secpTypeName m.type, m.room, m.username, m.payload] ↔
      s = lineBody m.type m.room m.username m.payload := by
  obtain ⟨hr, hu, hp⟩ := ok.texts
  rw [Delimited.splitOn_eq_iff (by simp), Delimited.intercalate_four, lineBody]
  simp only [List.mem_cons, List.not_mem_nil, or_false, forall_eq_or_imp, forall_eq]
  exact ⟨fun hm => (secpTypeName_clean m.type pipe hm).1 rfl, hr.no_pipe, hu.no_pipe, hp.no_pipe⟩

/-- The body of a line with valid fields does not end in CR or LF. -/
theorem lineBody_last {m : SecpMessage} (ok : FieldsOk m) (b : UInt8)
    (h : (lineBody m.type m.room m.username m.payload).getLast? = some b) :
    isNewline b = false := by
  have hb : b = pipe ∨ b ∈ m.payload := by
    have hmem := List.mem_of_getLast? (l := pipe :: m.payload) (a := b) (by
      simpa [lineBody, List.getLast?_append, List.getLast?_cons] using h)
    simpa using hmem
  rcases hb with rfl | hb
  · decide
  · have := ok.texts.2.2.clean b hb
    simp [isNewline, this]

/-- **The parser, as a decomposition of the line.** -/
theorem parseSecpLine_eq_some {line : Bytes} {m : SecpMessage} :
    parseSecpLine line = some m ↔ 1 ≤ line.length ∧ line.length ≤ 1024 ∧ FieldsOk m ∧
      ∃ run, line = lineBody m.type m.room m.username m.payload ++ run ∧
        ∀ b ∈ run, isNewline b = true := by
  rw [parseSecpLine_fields]
  refine and_congr_right fun _ => and_congr_right fun _ => and_congr_right fun ok => ?_
  rw [splitOn_body_iff ok, stripNewlines, Delimited.rdropWhile_eq_iff]
  constructor
  · rintro ⟨run, rfl, hrun, -⟩
    exact ⟨run, rfl, hrun⟩
  · rintro ⟨run, rfl, hrun⟩
    exact ⟨run, rfl, hrun, lineBody_last ok⟩

/-! ## The grammar -/

/-- `line` is `T|R|U|P` followed by the terminator `s`. -/
structure SecpLine (line T R U P s : Bytes) : Prop where
  length : 1 ≤ line.length ∧ line.length ≤ 1024
  shape : line = T ++ lit "|" ++ R ++ lit "|" ++ U ++ lit "|" ++ P ++ s
  terminator : ∀ b ∈ s, b = 13 ∨ b = 10
  type : T ∈ [lit "PRESENCE", lit "ROOM_ANNOUNCE", lit "INVITE", lit "CHAT"]
  room : FieldText R ∧ 1 ≤ R.length ∧ R.length ≤ 32
  username : FieldText U ∧ 1 ≤ U.length ∧ U.length ≤ 32
  payload : FieldText P ∧ P.length ≤ 512

theorem secpTypeName_mem_iff {t : SecpType} :
    secpTypeName t ∈ [lit "PRESENCE", lit "ROOM_ANNOUNCE", lit "INVITE", lit "CHAT"] ↔
      t ≠ .Unknown := by
  cases t <;> decide +kernel

theorem exists_secpTypeName {T : Bytes}
    (h : T ∈ [lit "PRESENCE", lit "ROOM_ANNOUNCE", lit "INVITE", lit "CHAT"]) :
    ∃ t, secpTypeName t = T := by
  simp only [List.mem_cons, List.not_mem_nil, or_false] at h
  rcases h with rfl | rfl | rfl | rfl
  · exact ⟨.Presence, rfl⟩
  · exact ⟨.RoomAnnounce, rfl⟩
  · exact ⟨.Invite, rfl⟩
  · exact ⟨.Chat, rfl⟩

theorem lineBody_eq (t : SecpType) (R U P s : Bytes) :
    lineBody t R U P ++ s =
      secpTypeName t ++ lit "|" ++ R ++ lit "|" ++ U ++ lit "|" ++ P ++ s := by
  have bar : lit "|" = [pipe] := by decide +kernel
  simp [lineBody, bar]

theorem isNewline_iff {b : UInt8} : isNewline b = true ↔ b = 13 ∨ b = 10 := by
  simp [isNewline, or_comm]

/-- A message is parsed from a line exactly when its fields spell the line. -/
theorem parseSecpLine_iff_secpLine {line : Bytes} {m : SecpMessage} :
    parseSecpLine line = some m ↔
      ∃ s, SecpLine line (secpTypeName m.type) m.room m.username m.payload s := by
  rw [parseSecpLine_eq_some]
  constructor
  · rintro ⟨lo, hi, ok, s, shape, hs⟩
    exact ⟨s, ⟨lo, hi⟩, by rw [shape, lineBody_eq], fun b hb => isNewline_iff.1 (hs b hb),
      secpTypeName_mem_iff.2 ok.known, isRoomOk_iff.1 ok.room, isUsernameOk_iff.1 ok.username,
      isPayloadOk_iff.1 ok.payload⟩
  · rintro ⟨s, g⟩
    refine ⟨g.length.1, g.length.2, ⟨secpTypeName_mem_iff.1 g.type, isRoomOk_iff.2 g.room,
      isUsernameOk_iff.2 g.username, isPayloadOk_iff.2 g.payload⟩, s, ?_, ?_⟩
    · rw [lineBody_eq]
      exact g.shape
    · exact fun b hb => isNewline_iff.2 (g.terminator b hb)

/-- **The parser accepts exactly its grammar**, and the decomposition is unique. -/
theorem parser_accepts_exactly_grammar (line : Bytes) :
    ((parseSecpLine line).isSome = true ↔ ∃ T R U P s, SecpLine line T R U P s) ∧
    (∀ m, parseSecpLine line = some m ↔ ∃ T R U P s, SecpLine line T R U P s ∧
      secpTypeName m.type = T ∧ m.room = R ∧ m.username = U ∧ m.payload = P) ∧
    (∀ T R U P s T' R' U' P' s', SecpLine line T R U P s → SecpLine line T' R' U' P' s' →
      T = T' ∧ R = R' ∧ U = U' ∧ P = P' ∧ s = s') := by
  have accepts : ∀ m, parseSecpLine line = some m ↔ ∃ T R U P s, SecpLine line T R U P s ∧
      secpTypeName m.type = T ∧ m.room = R ∧ m.username = U ∧ m.payload = P := by
    intro m
    rw [parseSecpLine_iff_secpLine]
    constructor
    · rintro ⟨s, g⟩
      exact ⟨_, _, _, _, s, g, rfl, rfl, rfl, rfl⟩
    · rintro ⟨_, _, _, _, s, g, rfl, rfl, rfl, rfl⟩
      exact ⟨s, g⟩
  refine ⟨?_, accepts, ?_⟩
  · rw [Option.isSome_iff_exists]
    constructor
    · rintro ⟨m, hm⟩
      obtain ⟨T, R, U, P, s, g, -⟩ := (accepts m).1 hm
      exact ⟨T, R, U, P, s, g⟩
    · rintro ⟨T, R, U, P, s, g⟩
      obtain ⟨t, ht⟩ := exists_secpTypeName g.type
      exact ⟨⟨t, R, U, P⟩, (accepts _).2 ⟨T, R, U, P, s, g, ht, rfl, rfl, rfl⟩⟩
  · intro T R U P s T' R' U' P' s' g g'
    obtain ⟨t, rfl⟩ := exists_secpTypeName g.type
    obtain ⟨t', rfl⟩ := exists_secpTypeName g'.type
    have h : parseSecpLine line = some ⟨t, R, U, P⟩ := parseSecpLine_iff_secpLine.2 ⟨s, g⟩
    have h' : parseSecpLine line = some ⟨t', R', U', P'⟩ := parseSecpLine_iff_secpLine.2 ⟨s', g'⟩
    rw [h] at h'
    cases h'
    exact ⟨rfl, rfl, rfl, rfl, List.append_cancel_left (g.shape.symm.trans g'.shape)⟩

end SecpChat
