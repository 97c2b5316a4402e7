import SecpChat.Protocol.Bytes

/-!
# SECP lines (`protocol/secp.cpp`)

`TYPE|ROOM|USERNAME|PAYLOAD`, LF-terminated. The two scanning loops are kept as index
loops: `utf8Body` and `splitBody` are one iteration each. The reads of `valid_utf8` go
through a monadic accessor, so that the same text runs on bytes (`Id`) and under a
checked or logged access.
-/

namespace SecpChat

inductive SecpType where
  | Presence | RoomAnnounce | Invite | Chat | Unknown
  deriving DecidableEq, Repr

structure SecpMessage where
  type : SecpType
  room : Bytes
  username : Bytes
  payload : Bytes
  deriving DecidableEq, Repr

/-- `|` -/
def pipe : UInt8 := 124

def isNewline (b : UInt8) : Bool := b == 10 || b == 13

/-! ## `valid_utf8` -/

/-- One iteration of `valid_utf8` at index `i` of `n` bytes: `none` is `return false`,
`some j` is `i = j; continue`. -/
def utf8Body {m : Type → Type} [Monad m] (p : Nat → m UInt8) (n i : Nat) : m (Option Nat) := do
  let cont (j : Nat) : m Bool := do
    if j < n then return (← p j) &&& 0xC0 == 0x80 else return false
  let b0 ← p i
  if b0 ≤ 0x7F then return some (i + 1)
  else if 0xC2 ≤ b0 ∧ b0 ≤ 0xDF then
    if ← cont (i + 1) then return some (i + 2) else return none
  else if b0 = 0xE0 then
    if i + 2 < n then
      let b1 ← p (i + 1)
      let b2 ← p (i + 2)
      if 0xA0 ≤ b1 ∧ b1 ≤ 0xBF then  -- no overlong
        if b2 &&& 0xC0 = 0x80 then return some (i + 3) else return none
      else return none
    else return none
  else if 0xE1 ≤ b0 ∧ b0 ≤ 0xEC then
    if ← cont (i + 1) then
      if ← cont (i + 2) then return some (i + 3) else return none
    else return none
  else if b0 = 0xED then
    if i + 2 < n then
      let b1 ← p (i + 1)
      let b2 ← p (i + 2)
      if 0x80 ≤ b1 ∧ b1 ≤ 0x9F then  -- reject surrogates
        if b2 &&& 0xC0 = 0x80 then return some (i + 3) else return none
      else return none
    else return none
  else if 0xEE ≤ b0 ∧ b0 ≤ 0xEF then
    if ← cont (i + 1) then
      if ← cont (i + 2) then return some (i + 3) else return none
    else return none
  else if b0 = 0xF0 then
    if i + 3 < n then
      let b1 ← p (i + 1)
      let b2 ← p (i + 2)
      let b3 ← p (i + 3)
      if 0x90 ≤ b1 ∧ b1 ≤ 0xBF then  -- no overlong
        if b2 &&& 0xC0 = 0x80 ∧ b3 &&& 0xC0 = 0x80 then return some (i + 4) else return none
      else return none
    else return none
  else if 0xF1 ≤ b0 ∧ b0 ≤ 0xF3 then
    if ← cont (i + 1) then
      if ← cont (i + 2) then
        if ← cont (i + 3) then return some (i + 4) else return none
      else return none
    else return none
  else if b0 = 0xF4 then
    if i + 3 < n then
      let b1 ← p (i + 1)
      let b2 ← p (i + 2)
      let b3 ← p (i + 3)
      if 0x80 ≤ b1 ∧ b1 ≤ 0x8F then  -- at most U+10FFFF
        if b2 &&& 0xC0 = 0x80 ∧ b3 &&& 0xC0 = 0x80 then return some (i + 4) else return none
      else return none
    else return none
  else return none

/-- `utf8Body` on the bytes themselves. -/
def utf8Next (s : Bytes) (i : Nat) : Option Nat :=
  Id.run (utf8Body (fun j => pure (s.getD j 0)) s.length i)

/-- The `while (i < n)` loop. Every iteration advances `i`, so `n` iterations suffice. -/
def utf8Loop (s : Bytes) : Nat → Nat → Bool
  | 0, _ => true
  | fuel + 1, i =>
    if i < s.length then
      match utf8Next s i with
      | none => false
      | some j => utf8Loop s fuel j
    else true

def validUtf8 (s : Bytes) : Bool := utf8Loop s s.length 0

/-! ## Field predicates -/

def containsPipeOrNewline (s : Bytes) : Bool := s.any fun c => c == pipe || c == 10 || c == 13

def isRoomOk (room : Bytes) : Bool :=
  if room = lit "-" then true
  else if room = [] ∨ room.length > kMaxRoomNameBytes then false
  else !containsPipeOrNewline room && validUtf8 room

def isUsernameOk (u : Bytes) : Bool :=
  if u = [] ∨ u.length > kMaxUsernameBytes then false
  else !containsPipeOrNewline u && validUtf8 u

def isPayloadOk (p : Bytes) : Bool :=
  if p = lit "-" then true
  else if p.length > kMaxChatMessageBytes then false
  else !containsPipeOrNewline p && validUtf8 p

/-! ## Types, encoder, parser -/

def secpTypeName : SecpType → Bytes
  | .Presence => lit "PRESENCE"
  | .RoomAnnounce => lit "ROOM_ANNOUNCE"
  | .Invite => lit "INVITE"
  | .Chat => lit "CHAT"
  | .Unknown => lit "UNKNOWN"

def parseSecpType (token : Bytes) : SecpType :=
  if token = lit "PRESENCE" then .Presence
  else if token = lit "ROOM_ANNOUNCE" then .RoomAnnounce
  else if token = lit "INVITE" then .Invite
  else if token = lit "CHAT" then .Chat
  else .Unknown

/-- `build_secp_line`; the empty string stands for invalid input. -/
def buildSecpLine (type : SecpType) (room username payload : Bytes) : Bytes :=
  if type = .Unknown then []
  else if !isRoomOk room || !isUsernameOk username || !isPayloadOk payload then []
  else
    let out := secpTypeName type ++
      pipe :: (room ++ pipe :: (username ++ pipe :: (payload ++ [10])))
    if out.length > kMaxPacketBytes then [] else out

/-- The loop variables of the field split: `parts`, `idx` and `start`. -/
structure SplitState where
  parts : List Bytes
  idx : Nat
  start : Nat
  deriving DecidableEq, Repr

/-- `parts{}`, `idx = 0`, `start = 0`. -/
def SplitState.init : SplitState := ⟨List.replicate 4 [], 0, 0⟩

def substr (s : Bytes) (pos count : Nat) : Bytes := (s.drop pos).take count

/-- One iteration of the split loop at position `i`, the end counting as a separator;
`none` is `return std::nullopt` on a fifth field. -/
def splitBody (line : Bytes) (i : Nat) (st : SplitState) : Option SplitState :=
  if i = line.length ∨ line.getD i 0 = pipe then
    if st.idx ≥ 4 then none
    else some ⟨st.parts.set st.idx (substr line st.start (i - st.start)), st.idx + 1, i + 1⟩
  else some st

/-- `for (i = ...; i <= line.size(); ++i)`, with the number of iterations left. -/
def splitLoop (line : Bytes) : Nat → Nat → SplitState → Option SplitState
  | 0, _, st => some st
  | k + 1, i, st =>
    match splitBody line i st with
    | none => none
    | some st' => splitLoop line k (i + 1) st'

def stripNewlines (line : Bytes) : Bytes := line.rdropWhile isNewline

def parseSecpLine (line : Bytes) : Option SecpMessage :=
  if line.length > kMaxPacketBytes ∨ line = [] then none
  else
    let line := stripNewlines line
    if line = [] then none
    else
      match splitLoop line (line.length + 1) 0 .init with
      | none => none
      | some st =>
        if st.idx ≠ 4 then none
        else
          let part := fun i => st.parts.getD i []
          let t := parseSecpType (part 0)
          if t = .Unknown then none
          else if !isRoomOk (part 1) || !isUsernameOk (part 2) || !isPayloadOk (part 3) then none
          else some ⟨t, part 1, part 2, part 3⟩

end SecpChat
