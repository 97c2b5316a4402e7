import SecpChat.Protocol.Grammar

/-!
# Encoder and decoder are inverse

`build_secp_line` fails only on invalid fields: its final length test cannot bite
(`lineBody_length`). A built line parses back to its fields, and a parsed line is the
built one up to its terminator.
-/

namespace SecpChat

/-- The longest line body with valid fields is 592 bytes. -/
theorem lineBody_length {m : SecpMessage} (ok : FieldsOk m) :
    1 ≤ (lineBody m.type m.room m.username m.payload).length ∧
      (lineBody m.type m.room m.username m.payload).length ≤ 592 := by
  have ht := secpTypeName_length m.type
  have hr := isRoomOk_iff.1 ok.room
  have hu := isUsernameOk_iff.1 ok.username
  have hp := isPayloadOk_iff.1 ok.payload
  simp only [lineBody, List.length_append, List.length_cons]
  omega

/-- Valid fields build the body and one LF. -/
theorem buildSecpLine_of_ok {m : SecpMessage} (ok : FieldsOk m) :
    buildSecpLine m.type m.room m.username m.payload =
      lineBody m.type m.room m.username m.payload ++ [10] := by
  have hlen := lineBody_length ok
  have shape : secpTypeName m.type ++
      pipe :: (m.room ++ pipe :: (m.username ++ pipe :: (m.payload ++ [10])))
      = lineBody m.type m.room m.username m.payload ++ [10] := by
    simp [lineBody]
  unfold buildSecpLine
  rw [if_neg ok.known, if_neg (by simp [ok.room, ok.username, ok.payload])]
  simp only [shape, kMaxPacketBytes]
  rw [if_neg (by simp only [List.length_append, List.length_singleton]; omega)]

theorem buildSecpLine_ne_nil_iff {t : SecpType} {r u p : Bytes} :
    buildSecpLine t r u p ≠ [] ↔ FieldsOk ⟨t, r, u, p⟩ := by
  constructor
  · intro h
    unfold buildSecpLine at h
    split at h
    · exact (h rfl).elim
    next known =>
    split at h
    · exact (h rfl).elim
    next hok =>
    simp only [Bool.or_eq_true, Bool.not_eq_true', not_or, Bool.not_eq_false] at hok
    exact ⟨known, hok.1.1, hok.1.2, hok.2⟩
  · intro ok
    rw [buildSecpLine_of_ok ok]
    simp

theorem parse_build {t : SecpType} {r u p : Bytes} (h : buildSecpLine t r u p ≠ []) :
    parseSecpLine (buildSecpLine t r u p) = some ⟨t, r, u, p⟩ := by
  have ok := buildSecpLine_ne_nil_iff.1 h
  have hlen := lineBody_length ok
  have shape := buildSecpLine_of_ok ok
  rw [parseSecpLine_eq_some, shape]
  refine ⟨by simp, ?_, ok, [10], rfl, by simp [isNewline]⟩
  simp only [List.length_append, List.length_singleton] at hlen ⊢
  omega

/-- A parsed line is the line built from its message, up to the terminator. -/
theorem build_parse {line : Bytes} {m : SecpMessage} (h : parseSecpLine line = some m) :
    ∃ body run, line = body ++ run ∧ (∀ b ∈ run, b = 13 ∨ b = 10) ∧
      (∀ b, body.getLast? = some b → b ≠ 13 ∧ b ≠ 10) ∧
      buildSecpLine m.type m.room m.username m.payload = body ++ [10] := by
  obtain ⟨-, -, ok, run, rfl, hrun⟩ := parseSecpLine_eq_some.1 h
  refine ⟨_, run, rfl, fun b hb => isNewline_iff.1 (hrun b hb), fun b hb => ?_,
    buildSecpLine_of_ok ok⟩
  have := lineBody_last ok b hb
  rw [← not_or, ← isNewline_iff]
  simp [this]

/-- **The encoder and the decoder are inverse.** -/
theorem encoder_decoder_inverse :
    (∀ t r u p, buildSecpLine t r u p ≠ [] ↔
      t ≠ .Unknown ∧ isRoomOk r = true ∧ isUsernameOk u = true ∧ isPayloadOk p = true) ∧
    (∀ t r u p, buildSecpLine t r u p ≠ [] →
      parseSecpLine (buildSecpLine t r u p) = some ⟨t, r, u, p⟩) ∧
    (∀ line m, parseSecpLine line = some m →
      buildSecpLine m.type m.room m.username m.payload ≠ [] ∧
      ∃ body run, line = body ++ run ∧ (∀ b ∈ run, b = 13 ∨ b = 10) ∧
        (∀ b, body.getLast? = some b → b ≠ 13 ∧ b ≠ 10) ∧
        buildSecpLine m.type m.room m.username m.payload = body ++ [10]) ∧
    (∀ line line' m m', parseSecpLine line = some m → parseSecpLine line' = some m' →
      (m = m' ↔ ∃ body run run', line = body ++ run ∧ line' = body ++ run' ∧
        (∀ b ∈ run, b = 13 ∨ b = 10) ∧ ∀ b ∈ run', b = 13 ∨ b = 10)) := by
  refine ⟨fun t r u p => ?_, fun t r u p => parse_build, fun line m h => ?_,
    fun line line' m m' h h' => ?_⟩
  · rw [buildSecpLine_ne_nil_iff]
    exact ⟨fun ok => ⟨ok.known, ok.room, ok.username, ok.payload⟩,
      fun ⟨known, room, username, payload⟩ => ⟨known, room, username, payload⟩⟩
  · obtain ⟨body, run, hline, hrun, hbody, build⟩ := build_parse h
    exact ⟨by simp [build], body, run, hline, hrun, hbody, build⟩
  · constructor
    · rintro rfl
      obtain ⟨-, -, -, run, hline, hrun⟩ := parseSecpLine_eq_some.1 h
      obtain ⟨-, -, -, run', hline', hrun'⟩ := parseSecpLine_eq_some.1 h'
      exact ⟨_, run, run', hline, hline', fun b hb => isNewline_iff.1 (hrun b hb),
        fun b hb => isNewline_iff.1 (hrun' b hb)⟩
    · rintro ⟨body, run, run', rfl, rfl, hrun, hrun'⟩
      -- equal bodies strip to the same line, which determines the fields
      obtain ⟨-, -, ok, fields⟩ := parseSecpLine_fields.1 h
      obtain ⟨-, -, ok', fields'⟩ := parseSecpLine_fields.1 h'
      have strip : stripNewlines (body ++ run) = stripNewlines (body ++ run') := by
        unfold stripNewlines
        rw [Delimited.rdropWhile_append_of_all body fun b hb => isNewline_iff.2 (hrun b hb),
          Delimited.rdropWhile_append_of_all body fun b hb => isNewline_iff.2 (hrun' b hb)]
      rw [strip, fields'] at fields
      obtain ⟨t, r, u, p⟩ := m
      obtain ⟨t', r', u', p'⟩ := m'
      simp only [List.cons.injEq, and_true] at fields
      obtain ⟨ht, rfl, rfl, rfl⟩ := fields
      have types := congrArg parseSecpType ht
      rw [parseSecpType_name ok.known, parseSecpType_name ok'.known] at types
      exact congrArg (SecpMessage.mk · r' u' p') types.symm

end SecpChat
