import SecpChat.Lib.Runs
import SecpChat.Protocol.Validate
import SecpChat.Services.DirectMessage

/-!
# What one operation does to one session

Each operation has its exits stated once, with the whole outcome (`acceptInvite_cases`
and its like). From them `step_move` is the inversion of `DirectMessageService.step` at a
key: every operation leaves the entry alone or makes one of the eight `Move`s, each with
the guards under which it is made. The results about whole runs are read off it.
-/

namespace SecpChat

theorem makeSessionId_ne_dash (draw : Fin 0x1000000) : makeSessionId draw ≠ lit "-" := by
  intro h
  have length : (lit "-").length = 1 := by decide +kernel
  rw [← h] at length
  simp [makeSessionId] at length

theorem hexDigit_clean : ∀ n < 16, (hexDigit n).toNat ≤ 0x7F ∧
    hexDigit n ≠ 124 ∧ hexDigit n ≠ 13 ∧ hexDigit n ≠ 10 := by
  decide

/-- A drawn session id is a valid room name. -/
theorem isRoomOk_makeSessionId (draw : Fin 0x1000000) : isRoomOk (makeSessionId draw) = true := by
  have digits : ∀ b ∈ makeSessionId draw, ∃ n < 16, b = hexDigit n := by
    have bound := draw.isLt
    intro b hb
    simp only [makeSessionId, List.mem_cons, List.not_mem_nil, or_false] at hb
    rcases hb with rfl | rfl | rfl | rfl | rfl | rfl
    all_goals exact ⟨_, by omega, rfl⟩
  refine isRoomOk_iff.2 ⟨⟨Utf8.wellFormed_ascii fun b hb => ?_, fun b hb => ?_⟩, ?_, ?_⟩
  · obtain ⟨n, small, rfl⟩ := digits b hb
    exact (hexDigit_clean n small).1
  · obtain ⟨n, small, rfl⟩ := digits b hb
    exact (hexDigit_clean n small).2
  · simp [makeSessionId]
  · simp [makeSessionId]

theorem sameEndpoint_iff {a b : SockaddrIn} : sameEndpoint a b = true ↔ a = b := by
  obtain ⟨f, p, i⟩ := a
  obtain ⟨f', p', i'⟩ := b
  simp [sameEndpoint, and_assoc]

/-- The moves of the entry under `k`, at a client called `self`. -/
inductive Move (self k : Bytes) : DirectOp → Option Session → Option Session → Prop where
  | keep (op : DirectOp) (e : Option Session) : Move self k op e e
  | invite {users : UserDirectory} {draw : Fin 0x1000000} {now : Int} {sent : Bool}
      {target : Bytes} {addr : SockaddrIn}
      (valid : trimInPlace target ≠ []) (other : trimInPlace target ≠ self)
      (known : users.findAddress (trimInPlace target) = some addr) (key : makeSessionId draw = k) :
      Move self k (.inviteUser users draw now sent target) none
        (some ⟨.OutgoingPending, k, trimInPlace target, makeUnicastDest addr kUdpPort, now, now, now⟩)
  | invited {bytes : Bytes} {src : SockaddrIn} {t₁ t₂ : Int} {msg : SecpMessage}
      (parsed : parseSecpLine bytes = some msg) (type : msg.type = .Invite) (key : msg.room = k)
      (named : msg.username ≠ []) (payload : msg.payload = closedTo ++ self) :
      Move self k (.received bytes src t₁ t₂) none
        (some ⟨.IncomingPending, k, msg.username, makeUnicastDest src kUdpPort, t₁, 0, t₂⟩)
  | activate {bytes : Bytes} {src : SockaddrIn} {t₁ t₂ : Int} {msg : SecpMessage} {s : Session}
      (parsed : parseSecpLine bytes = some msg) (type : msg.type = .Chat) (key : msg.room = k)
      (endpoint : sameEndpoint s.peerAddr (makeUnicastDest src kUdpPort) = true)
      (named : s.peerUsername ≠ [] → msg.username = s.peerUsername)
      (pending : s.state = .OutgoingPending) :
      Move self k (.received bytes src t₁ t₂) (some s)
        (some { s with state := .Active, lastUpdate := t₁ })
  | accept {now : Int} {room : Bytes} {s : Session}
      (key : trimInPlace room = k) (pending : s.state = .IncomingPending) :
      Move self k (.acceptInvite now room) (some s)
        (some { s with state := .Active, lastUpdate := now })
  | decline {room reason : Bytes} {s : Session}
      (key : trimInPlace room = k) (pending : s.state = .IncomingPending) :
      Move self k (.declineInvite room reason) (some s) none
  | prune {maxAge now : Int} {s : Session}
      (pending : s.state ≠ .Active) (stale : now - s.lastUpdate > maxAge) :
      Move self k (.prunePending maxAge now) (some s) none
  | expire {minInterval maxAge now : Int} {sent : Bytes → Bool} {s : Session}
      (pending : s.state = .OutgoingPending) (old : now - s.createdAt > maxAge) :
      Move self k (.resendOutgoingPending minInterval maxAge now sent) (some s) none
  | resend {minInterval maxAge now : Int} {sent : Bytes → Bool} {s : Session}
      (pending : s.state = .OutgoingPending) (due : s.lastSent = 0 ∨ minInterval ≤ now - s.lastSent)
      (young : s.createdAt = 0 ∨ now - s.createdAt ≤ maxAge) :
      Move self k (.resendOutgoingPending minInterval maxAge now sent) (some s)
        (some { s with lastSent := now, lastUpdate := now })

namespace Move

variable {self key k : Bytes} {op : DirectOp} {t : Table Session} {s : Session}

theorem insert (h : key = k → Move self k op t[k]? (some s)) :
    Move self k op t[k]? (t.insert key s)[k]? := by
  by_cases same : key = k
  · subst same
    rw [Std.ExtTreeMap.getElem?_insert_self]
    exact h rfl
  · rw [Std.ExtTreeMap.getElem?_insert, if_neg (by simpa using same)]
    exact .keep _ _

theorem erase (h : key = k → Move self k op t[k]? none) :
    Move self k op t[k]? (t.erase key)[k]? := by
  by_cases same : key = k
  · subst same
    rw [Std.ExtTreeMap.getElem?_erase_self]
    exact h rfl
  · rw [Std.ExtTreeMap.getElem?_erase, if_neg (by simpa using same)]
    exact .keep _ _

end Move

namespace DirectMessageService

variable (d : DirectMessageService)

/-! ## The session table after each operation -/

theorem getElem?_eraseAll (t : Table Session) (keys : List Bytes) (k : Bytes) :
    (eraseAll t keys)[k]? = if k ∈ keys then none else t[k]? := by
  induction keys generalizing t with
  | nil => simp [eraseAll]
  | cons key keys ih =>
    have unfold_cons : eraseAll t (key :: keys) = eraseAll (t.erase key) keys := rfl
    rw [unfold_cons, ih]
    by_cases h : k = key
    · subst h
      simp
    · simp [h, Ne.symm h, Std.ExtTreeMap.getElem?_erase]

theorem mem_expired_iff {t : Table Session} {p : Session → Bool} {k : Bytes} :
    k ∈ (t.toList.filter fun e => p e.2).map Prod.fst ↔ ∃ s, t[k]? = some s ∧ p s = true := by
  simp only [List.mem_map, List.mem_filter, Prod.exists, exists_and_right, exists_eq_right,
    Std.ExtTreeMap.mem_toList_iff_getElem?_eq_some]

theorem isStale_iff {maxAge now : Int} {s : Session} :
    isStale maxAge now s = true ↔ s.state ≠ .Active ∧ now - s.lastUpdate > maxAge := by
  cases state : s.state <;> simp [isStale, state]

theorem prunePending_lookup (maxAge now : Int) (k : Bytes) :
    (d.prunePending maxAge now).state.sessions[k]? =
      d.sessions[k]?.filter fun s => !isStale maxAge now s := by
  simp only [prunePending, getElem?_eraseAll, mem_expired_iff]
  cases h : d.sessions[k]? with
  | none => simp
  | some s => cases hs : isStale maxAge now s <;> simp [hs, Option.filter]

theorem resendVisit_resend_iff {minInterval maxAge now : Int} {s : Session} :
    resendVisit minInterval maxAge now s = .resend ↔ s.state = .OutgoingPending ∧
      (s.lastSent = 0 ∨ minInterval ≤ now - s.lastSent) ∧
      (s.createdAt = 0 ∨ now - s.createdAt ≤ maxAge) := by
  unfold resendVisit
  split_ifs with pending old recent
  · simp [pending]
  · simp only [false_iff]
    omega
  · simp only [false_iff]
    omega
  · simp only [true_iff]
    exact ⟨not_not.1 pending, by omega, by omega⟩

theorem resendVisit_expire {minInterval maxAge now : Int} {s : Session}
    (h : resendVisit minInterval maxAge now s = .expire) :
    s.state = .OutgoingPending ∧ now - s.createdAt > maxAge := by
  unfold resendVisit at h
  split_ifs at h with pending old recent
  exact ⟨not_not.1 pending, old.2⟩

theorem resendVisit_skip {minInterval maxAge now : Int} {s : Session}
    (h : resendVisit minInterval maxAge now s = .skip) (pending : s.state = .OutgoingPending) :
    s.lastSent ≠ 0 ∧ now - s.lastSent < minInterval := by
  unfold resendVisit at h
  rw [if_neg (by simp [pending])] at h
  split_ifs at h with old recent
  exact recent

theorem resendOutgoingPending_lookup (minInterval maxAge now : Int) (sent : Bytes → Bool)
    (k : Bytes) :
    (d.resendOutgoingPending minInterval maxAge now sent).state.sessions[k]? =
      d.sessions[k]?.bind fun s =>
        match resendVisit minInterval maxAge now s with
        | .skip => some s
        | .expire => none
        | .resend => some { s with lastSent := now, lastUpdate := now } := by
  have expired := mem_expired_iff (t := d.sessions) (k := k)
    (p := fun s => resendVisit minInterval maxAge now s == .expire)
  simp only [resendOutgoingPending, getElem?_eraseAll, expired, Std.ExtTreeMap.getElem?_map]
  cases h : d.sessions[k]? with
  | none => simp
  | some s => cases hs : resendVisit minInterval maxAge now s <;> simp [hs]

/-! ## The exits of `invite_user` -/

/-- The invitation passes the checks of `invite_user`; the directory has the target at
`addr`. -/
structure Admits (users : UserDirectory) (draw : Fin 0x1000000) (target : Bytes)
    (addr : SockaddrIn) : Prop where
  valid : trimInPlace target ≠ []
  short : (trimInPlace target).length ≤ kMaxUsernameBytes
  other : trimInPlace target ≠ d.selfUsername
  known : users.findAddress (trimInPlace target) = some addr
  free : d.sessions[makeSessionId draw]? = none

/-- The session that `invite_user` opens. -/
def invited (draw : Fin 0x1000000) (now : Int) (target : Bytes) (addr : SockaddrIn) : Session :=
  ⟨.OutgoingPending, makeSessionId draw, trimInPlace target, makeUnicastDest addr kUdpPort,
    now, now, now⟩

/-- The line that `invite_user` sends. -/
def inviteLine (draw : Fin 0x1000000) (target : Bytes) : Bytes :=
  buildSecpLine .Invite (makeSessionId draw) d.selfUsername (closedTo ++ trimInPlace target)

section Invite

variable (users : UserDirectory) (draw : Fin 0x1000000) (now : Int) (sent : Bool) (target : Bytes)

/-- Past the checks the session is inserted, whatever the send does. -/
theorem inviteUser_admitted {addr : SockaddrIn} (h : d.Admits users draw target addr) :
    let o := d.inviteUser users draw now sent target
    o.state = { d with
      sessions := d.sessions.insert (makeSessionId draw) (invited draw now target addr) } ∧
    o.value = (if d.inviteLine draw target = [] ∨ sent = false then none
      else some (makeSessionId draw)) ∧
    ∃ msg, o.effects = if d.inviteLine draw target = [] then []
      else
        [.sendTo (makeUnicastDest addr kUdpPort) (d.inviteLine draw target) sent, .status msg] := by
  intro o
  obtain ⟨valid, short, other, known, free⟩ := h
  have free' : ¬ d.sessions.contains (makeSessionId draw) = true := by simpa using free
  have defn : o = d.inviteUser users draw now sent target := rfl
  simp only [inviteUser, known, if_neg (show ¬ (trimInPlace target = [] ∨
    (trimInPlace target).length > kMaxUsernameBytes ∨ trimInPlace target = d.selfUsername) by
      simp [valid, other, not_lt.2 short]), if_neg free'] at defn
  have line : buildSecpLine .Invite (makeSessionId draw) d.selfUsername
      (closedTo ++ trimInPlace target) = d.inviteLine draw target := rfl
  rw [line] at defn
  by_cases built : d.inviteLine draw target = []
  · rw [if_pos built] at defn
    rw [defn]
    exact ⟨rfl, by simp [built], [], by simp [built]⟩
  · rw [if_neg built] at defn
    cases sent with
    | false =>
      rw [if_pos rfl] at defn
      rw [defn]
      exact ⟨rfl, by simp, _, by rw [if_neg built]⟩
    | true =>
      rw [if_neg (by simp)] at defn
      rw [defn]
      exact ⟨rfl, by simp [built], _, by rw [if_neg built]⟩

theorem inviteUser_refused (refused : ∀ addr, ¬ d.Admits users draw target addr) :
    let o := d.inviteUser users draw now sent target
    o.state = d ∧ o.value = none ∧ ∀ e ∈ o.effects, ∃ msg, e = .status msg := by
  intro o
  have defn : o = d.inviteUser users draw now sent target := rfl
  simp only [inviteUser] at defn
  split at defn
  · rw [defn]
    exact ⟨rfl, rfl, by simp⟩
  next valid =>
  split at defn
  · rw [defn]
    exact ⟨rfl, rfl, by simp⟩
  next addr known =>
  split at defn
  · rw [defn]
    exact ⟨rfl, rfl, by simp⟩
  next free =>
  simp only [not_or, not_lt] at valid
  exact (refused addr ⟨valid.1, valid.2.1, valid.2.2, known, by simpa using free⟩).elim

end Invite

/-! ## The exits of the other operations -/

/-- **`accept_invite`** fails, or makes a pending incoming session active. -/
theorem acceptInvite_cases (now : Int) (room : Bytes) :
    d.acceptInvite now room = ⟨d, false, []⟩ ∨
    ∃ s told, d.sessions[trimInPlace room]? = some s ∧ s.state = .IncomingPending ∧
      d.acceptInvite now room = ⟨{ d with
        sessions := d.sessions.insert (trimInPlace room)
          { s with state := .Active, lastUpdate := now } }, true, [.status told]⟩ := by
  unfold acceptInvite
  simp only
  split
  · exact .inl rfl
  split
  · exact .inl rfl
  next s found =>
  split
  · exact .inl rfl
  next pending => exact .inr ⟨s, _, found, not_not.1 pending, rfl⟩

/-- **`decline_invite`** fails, or removes one. -/
theorem declineInvite_cases (room reason : Bytes) :
    d.declineInvite room reason = ⟨d, false, []⟩ ∨
    ∃ s told, d.sessions[trimInPlace room]? = some s ∧ s.state = .IncomingPending ∧
      d.declineInvite room reason =
        ⟨{ d with sessions := d.sessions.erase (trimInPlace room) }, true, [.status told]⟩ := by
  unfold declineInvite
  simp only
  split
  · exact .inl rfl
  split
  · exact .inl rfl
  next s found =>
  split
  · exact .inl rfl
  next pending => exact .inr ⟨s, _, found, not_not.1 pending, rfl⟩

/-- **`send_private_chat`** fails, or hands a line to the address of an active session. -/
theorem sendPrivateChat_cases (sent : Bool) (sid text : Bytes) :
    let t := trimInPlace text
    let line := buildSecpLine .Chat (trimInPlace sid) d.selfUsername t
    d.sendPrivateChat sent sid text = ⟨d, false, []⟩ ∨
    (t ≠ [] ∧ t.length ≤ kMaxChatMessageBytes ∧ line ≠ [] ∧ ∃ s,
      d.sessions[trimInPlace sid]? = some s ∧ s.state = .Active ∧
      d.sendPrivateChat sent sid text = ⟨d, sent, [.sendTo s.peerAddr line sent]⟩) := by
  intro t line
  unfold sendPrivateChat
  simp only
  split
  · exact .inl rfl
  split
  · exact .inl rfl
  next fields =>
  split
  · exact .inl rfl
  next s found =>
  split
  · exact .inl rfl
  next active =>
  split
  · exact .inl rfl
  next built =>
  obtain ⟨-, nonempty, short⟩ := (not_or.1 fields).imp_right not_or.1
  exact .inr ⟨nonempty, not_lt.1 short, built, s, found, not_not.1 active, rfl⟩

theorem sendPrivateChat_state (sent : Bool) (sid text : Bytes) :
    (d.sendPrivateChat sent sid text).state = d := by
  rcases d.sendPrivateChat_cases sent sid text with fails | ⟨-, -, -, s, -, -, sends⟩
  · rw [fails]
  · rw [sends]

/-- An INVITE for this client under a free key. -/
structure TakesInvite (msg : SecpMessage) : Prop where
  type : msg.type = .Invite
  room : msg.room ≠ []
  dash : msg.room ≠ lit "-"
  named : msg.username ≠ []
  payload : msg.payload = closedTo ++ d.selfUsername
  free : d.sessions[msg.room]? = none

/-- **An INVITE is taken or ignored.** Taken, it opens an incoming session and is announced. -/
theorem onInvite_cases (msg : SecpMessage) (src : SockaddrIn) (t₁ t₂ : Int) :
    (d.TakesInvite msg ∧ d.onInvite msg src t₁ t₂ = ⟨{ d with
      sessions := d.sessions.insert msg.room ⟨.IncomingPending, msg.room, msg.username,
        makeUnicastDest src kUdpPort, t₁, 0, t₂⟩ }, (),
      [.status (invitationNotice msg.username msg.room)]⟩) ∨
    (¬ d.TakesInvite msg ∧ d.onInvite msg src t₁ t₂ = ⟨d, (), []⟩) := by
  unfold onInvite
  split
  · next type => exact .inr ⟨fun takes => type takes.type, rfl⟩
  next type =>
  split
  · next fields =>
    refine .inr ⟨fun takes => ?_, rfl⟩
    rcases fields with room | dash | named | empty
    · exact takes.room room
    · exact takes.dash dash
    · exact takes.named named
    · rw [takes.payload, List.append_eq_nil_iff] at empty
      exact absurd empty.1 (by decide +kernel)
  next fields =>
  split
  · next shape => exact .inr ⟨fun takes => shape (takes.payload ▸ List.prefix_append _ _), rfl⟩
  next shape =>
  split
  · next other =>
    refine .inr ⟨fun takes => other ?_, rfl⟩
    rw [takes.payload, List.drop_left]
  next self =>
  split
  · next used =>
    refine .inr ⟨fun takes => ?_, rfl⟩
    simp [Std.ExtTreeMap.contains_eq_isSome_getElem?, takes.free] at used
  next fresh =>
  simp only [not_or] at fields
  have payload : msg.payload = closedTo ++ d.selfUsername := by
    obtain ⟨invited, shape⟩ := not_not.1 shape
    rw [← shape, List.drop_left, not_not] at self
    rw [← shape, self]
  exact .inl ⟨⟨not_not.1 type, fields.1, fields.2.1, fields.2.2.1, payload, by simpa using fresh⟩,
    rfl⟩

/-- A CHAT that the session `s` takes from `src`. -/
structure Takes (s : Session) (msg : SecpMessage) (src : SockaddrIn) : Prop where
  type : msg.type = .Chat
  fields : ¬ (msg.room = [] ∨ msg.room = lit "-" ∨ msg.username = [] ∨ msg.payload = [])
  endpoint : s.peerAddr = makeUnicastDest src kUdpPort
  named : s.peerUsername ≠ [] → msg.username = s.peerUsername
  open_ : s.state ≠ .IncomingPending

/-- **A CHAT is taken or ignored.** Taken, it leaves the session active and is delivered. -/
theorem onRoomChat_cases (msg : SecpMessage) (src : SockaddrIn) (now : Int) :
    (∃ s s', d.sessions[msg.room]? = some s ∧ Takes s msg src ∧ s'.state = .Active ∧
      (s' = s ∨ s.state = .OutgoingPending ∧ s' = { s with state := .Active, lastUpdate := now }) ∧
      d.onRoomChat msg src now = ⟨{ d with sessions := d.sessions.insert msg.room s' }, (),
        [.privateMessage msg.room
          (if s.peerUsername = [] then msg.username else s.peerUsername) msg.payload]⟩) ∨
    ((∀ s, d.sessions[msg.room]? = some s → ¬ Takes s msg src) ∧
      d.onRoomChat msg src now = ⟨d, (), []⟩) := by
  unfold onRoomChat
  split
  · next other => exact .inr ⟨fun s _ takes => other takes.type, rfl⟩
  next type =>
  split
  · next empty => exact .inr ⟨fun s _ takes => takes.fields empty, rfl⟩
  next fields =>
  split
  · next absent => exact .inr ⟨fun s found => by simp [absent] at found, rfl⟩
  next s found =>
  have the_entry : ∀ s', d.sessions[msg.room]? = some s' → s' = s := fun s' h => by
    rw [found] at h
    exact (Option.some.inj h).symm
  split
  · next elsewhere =>
    refine .inr ⟨fun s' hs' takes => ?_, rfl⟩
    rw [the_entry s' hs'] at takes
    simp [sameEndpoint_iff.2 takes.endpoint] at elsewhere
  next endpoint =>
  split
  · next renamed =>
    refine .inr ⟨fun s' hs' takes => ?_, rfl⟩
    rw [the_entry s' hs'] at takes
    exact renamed.2 (takes.named renamed.1)
  next named =>
  have takes : s.state ≠ .IncomingPending → Takes s msg src := by
    intro h
    refine ⟨not_not.1 type, fields, sameEndpoint_iff.1 (by simpa using endpoint), fun hn => ?_, h⟩
    exact not_not.1 fun hne => named ⟨hn, hne⟩
  cases state : s.state with
  | OutgoingPending =>
    exact .inl ⟨s, { s with state := .Active, lastUpdate := now }, found, takes (by simp [state]),
      rfl, .inr ⟨state, rfl⟩, by simp⟩
  | Active =>
    exact .inl ⟨s, s, found, takes (by simp [state]), state, .inl rfl, by simp [state]⟩
  | IncomingPending =>
    -- the entry is stored back as it was
    have stored : d.sessions.insert msg.room s = d.sessions := by
      apply Std.ExtTreeMap.ext_getElem?
      intro k
      by_cases hk : msg.room = k
      · subst hk
        simp [found]
      · simp [Std.ExtTreeMap.getElem?_insert, hk]
    refine .inr ⟨fun s' hs' takes => ?_, by simp [state, stored]⟩
    rw [the_entry s' hs'] at takes
    exact takes.open_ state

/-! ## The moves of each operation -/

theorem inviteUser_move (users : UserDirectory) (draw : Fin 0x1000000) (now : Int) (sent : Bool)
    (target k : Bytes) :
    Move d.selfUsername k (.inviteUser users draw now sent target) d.sessions[k]?
      (d.inviteUser users draw now sent target).state.sessions[k]? := by
  by_cases admitted : ∃ addr, d.Admits users draw target addr
  · obtain ⟨addr, ok⟩ := admitted
    rw [(d.inviteUser_admitted users draw now sent target ok).1]
    refine .insert fun key => ?_
    subst key
    rw [ok.free]
    exact .invite ok.valid ok.other ok.known rfl
  · rw [(d.inviteUser_refused users draw now sent target fun addr ok => admitted ⟨addr, ok⟩).1]
    exact .keep _ _

/-- A successful `invite_user` has passed the checks, and its line is sent. -/
theorem inviteUser_succeeded {users : UserDirectory} {draw : Fin 0x1000000} {now : Int}
    {sent : Bool} {target sid : Bytes}
    (h : (d.inviteUser users draw now sent target).value = some sid) :
    sid = makeSessionId draw ∧ sent = true ∧ d.inviteLine draw target ≠ [] ∧
      ∃ addr, d.Admits users draw target addr := by
  by_cases admitted : ∃ addr, d.Admits users draw target addr
  · obtain ⟨addr, ok⟩ := admitted
    rw [(d.inviteUser_admitted users draw now sent target ok).2.1] at h
    split at h
    · cases h
    next sends =>
    simp only [not_or, Bool.not_eq_false] at sends
    exact ⟨(Option.some.inj h).symm, sends.2, sends.1, addr, ok⟩
  · rw [(d.inviteUser_refused users draw now sent target fun addr ok => admitted ⟨addr, ok⟩).2.1]
      at h
    cases h

/-- It has opened a fresh session with its target. -/
theorem inviteUser_opened {users : UserDirectory} {draw : Fin 0x1000000} {now : Int} {sent : Bool}
    {target sid : Bytes} (h : (d.inviteUser users draw now sent target).value = some sid) :
    sid = makeSessionId draw ∧ d.sessions[sid]? = none ∧
      ∃ s, (d.inviteUser users draw now sent target).state.sessions[sid]? = some s ∧
        s.state = .OutgoingPending ∧ s.peerUsername = trimInPlace target := by
  obtain ⟨rfl, -, -, addr, ok⟩ := d.inviteUser_succeeded h
  refine ⟨rfl, ok.free, invited draw now target addr, ?_, rfl, rfl⟩
  rw [(d.inviteUser_admitted users draw now sent target ok).1, Std.ExtTreeMap.getElem?_insert_self]

theorem acceptInvite_move (now : Int) (room k : Bytes) :
    Move d.selfUsername k (.acceptInvite now room) d.sessions[k]?
      (d.acceptInvite now room).state.sessions[k]? := by
  rcases d.acceptInvite_cases now room with fails | ⟨s, told, found, pending, accepts⟩
  · rw [fails]
    exact .keep _ _
  · rw [accepts]
    refine .insert fun key => ?_
    rw [← key, found]
    exact .accept rfl pending

/-- A refused `accept_invite` leaves the service as it is. -/
theorem acceptInvite_refused {now : Int} {room : Bytes}
    (h : (d.acceptInvite now room).value = false) : (d.acceptInvite now room).state = d := by
  rcases d.acceptInvite_cases now room with fails | ⟨s, told, -, -, accepts⟩
  · rw [fails]
  · rw [accepts] at h
    cases h

/-- A successful one has made a pending incoming session active. -/
theorem acceptInvite_accepted {now : Int} {room : Bytes}
    (h : (d.acceptInvite now room).value = true) :
    ∃ s, d.sessions[trimInPlace room]? = some s ∧ s.state = .IncomingPending ∧
      (d.acceptInvite now room).state.sessions[trimInPlace room]? =
        some { s with state := .Active, lastUpdate := now } := by
  rcases d.acceptInvite_cases now room with fails | ⟨s, told, found, pending, accepts⟩
  · rw [fails] at h
    cases h
  · rw [accepts]
    exact ⟨s, found, pending, Std.ExtTreeMap.getElem?_insert_self⟩

theorem declineInvite_move (room reason k : Bytes) :
    Move d.selfUsername k (.declineInvite room reason) d.sessions[k]?
      (d.declineInvite room reason).state.sessions[k]? := by
  rcases d.declineInvite_cases room reason with fails | ⟨s, told, found, pending, declines⟩
  · rw [fails]
    exact .keep _ _
  · rw [declines]
    refine .erase fun key => ?_
    rw [← key, found]
    exact .decline rfl pending

theorem prunePending_move (maxAge now : Int) (k : Bytes) :
    Move d.selfUsername k (.prunePending maxAge now) d.sessions[k]?
      (d.prunePending maxAge now).state.sessions[k]? := by
  rw [prunePending_lookup]
  cases d.sessions[k]? with
  | none => exact .keep _ _
  | some s =>
    cases hs : isStale maxAge now s with
    | false => simpa [hs, Option.filter] using Move.keep _ _
    | true =>
      have gone : Option.filter (fun s => !isStale maxAge now s) (some s) = none := by
        simp [Option.filter, hs]
      obtain ⟨notActive, stale⟩ := isStale_iff.1 hs
      rw [gone]
      exact .prune notActive stale

theorem resendOutgoingPending_move (minInterval maxAge now : Int) (sent : Bytes → Bool)
    (k : Bytes) :
    Move d.selfUsername k (.resendOutgoingPending minInterval maxAge now sent) d.sessions[k]?
      (d.resendOutgoingPending minInterval maxAge now sent).state.sessions[k]? := by
  rw [resendOutgoingPending_lookup]
  cases d.sessions[k]? with
  | none => exact .keep _ _
  | some s =>
    simp only [Option.bind_some]
    cases visit : resendVisit minInterval maxAge now s with
    | skip => exact .keep _ _
    | expire =>
      obtain ⟨pending, old⟩ := resendVisit_expire visit
      exact .expire pending old
    | resend =>
      obtain ⟨pending, due, young⟩ := resendVisit_resend_iff.1 visit
      exact .resend pending due young

theorem onInvite_taken {msg : SecpMessage} (takes : d.TakesInvite msg) (src : SockaddrIn)
    (t₁ t₂ : Int) : d.onInvite msg src t₁ t₂ = ⟨{ d with
      sessions := d.sessions.insert msg.room ⟨.IncomingPending, msg.room, msg.username,
        makeUnicastDest src kUdpPort, t₁, 0, t₂⟩ }, (),
      [.status (invitationNotice msg.username msg.room)]⟩ := by
  rcases d.onInvite_cases msg src t₁ t₂ with ⟨-, opens⟩ | ⟨untaken, -⟩
  · exact opens
  · exact (untaken takes).elim

theorem onInvite_untaken {msg : SecpMessage} (untaken : ¬ d.TakesInvite msg) (src : SockaddrIn)
    (t₁ t₂ : Int) : d.onInvite msg src t₁ t₂ = ⟨d, (), []⟩ := by
  rcases d.onInvite_cases msg src t₁ t₂ with ⟨takes, -⟩ | ⟨-, ignored⟩
  · exact (untaken takes).elim
  · exact ignored

theorem onInvite_move {bytes : Bytes} {msg : SecpMessage} (parsed : parseSecpLine bytes = some msg)
    (src : SockaddrIn) (t₁ t₂ : Int) (k : Bytes) :
    Move d.selfUsername k (.received bytes src t₁ t₂) d.sessions[k]?
      (d.onInvite msg src t₁ t₂).state.sessions[k]? := by
  rcases d.onInvite_cases msg src t₁ t₂ with ⟨takes, opens⟩ | ⟨-, ignored⟩
  · rw [opens]
    refine .insert fun key => ?_
    rw [← key, takes.free]
    exact .invited parsed takes.type rfl takes.named takes.payload
  · rw [ignored]
    exact .keep _ _

theorem onRoomChat_move {bytes : Bytes} {msg : SecpMessage}
    (parsed : parseSecpLine bytes = some msg)
    (src : SockaddrIn) (t₁ t₂ : Int) (k : Bytes) :
    Move d.selfUsername k (.received bytes src t₁ t₂) d.sessions[k]?
      (d.onRoomChat msg src t₁).state.sessions[k]? := by
  rcases d.onRoomChat_cases msg src t₁ with
    ⟨s, s', found, takes, -, same | ⟨pending, activated⟩, delivers⟩ | ⟨-, ignored⟩
  · rw [delivers]
    refine .insert fun key => ?_
    rw [← key, found, same]
    exact .keep _ _
  · rw [delivers]
    refine .insert fun key => ?_
    rw [← key, found, activated]
    exact .activate parsed takes.type rfl (sameEndpoint_iff.2 takes.endpoint) takes.named pending
  · rw [ignored]
    exact .keep _ _

theorem receive_move (bytes : Bytes) (src : SockaddrIn) (t₁ t₂ : Int) (k : Bytes) :
    Move d.selfUsername k (.received bytes src t₁ t₂) d.sessions[k]?
      (d.receive bytes src t₁ t₂).state.sessions[k]? := by
  unfold receive
  split
  · exact .keep _ _
  next msg parsed =>
  split
  · exact d.onInvite_move parsed src t₁ t₂ k
  · exact d.onRoomChat_move parsed src t₁ t₂ k
  · exact .keep _ _

/-- **One operation, one entry.** -/
theorem step_move (op : DirectOp) (k : Bytes) :
    Move d.selfUsername k op d.sessions[k]? (d.step op).sessions[k]? := by
  cases op with
  | inviteUser users draw now sent target => exact d.inviteUser_move users draw now sent target k
  | acceptInvite now room => exact d.acceptInvite_move now room k
  | declineInvite room reason => exact d.declineInvite_move room reason k
  | sendPrivateChat sent sid text =>
    have same : d.step (.sendPrivateChat sent sid text) = d := d.sendPrivateChat_state sent sid text
    rw [same]
    exact .keep _ _
  | prunePending maxAge now => exact d.prunePending_move maxAge now k
  | resendOutgoingPending minInterval maxAge now sent =>
    exact d.resendOutgoingPending_move minInterval maxAge now sent k
  | received bytes src t₁ t₂ => exact d.receive_move bytes src t₁ t₂ k

/-! ## The lists that the menu shows -/

theorem mem_snapshotPendingInvites {d : DirectMessageService} {e : PendingInviteInfo} :
    e ∈ d.snapshotPendingInvites ↔ ∃ s, d.sessions[e.sessionId]? = some s ∧
      s.state = .IncomingPending ∧ e = ⟨e.sessionId, s.peerUsername, d.selfUsername⟩ := by
  simp only [snapshotPendingInvites, List.mem_filterMap, Prod.exists,
    Std.ExtTreeMap.mem_toList_iff_getElem?_eq_some]
  constructor
  · rintro ⟨sid, s, found, h⟩
    split at h
    · next incoming =>
      cases h
      exact ⟨s, found, incoming, rfl⟩
    · cases h
  · rintro ⟨s, found, incoming, same⟩
    exact ⟨e.sessionId, s, found, by rw [if_pos incoming, ← same]⟩

theorem mem_snapshotActiveSessions {d : DirectMessageService} {e : ActiveDirectSessionInfo} :
    e ∈ d.snapshotActiveSessions ↔ ∃ s, d.sessions[e.sessionId]? = some s ∧ s.state = .Active ∧
      e = ⟨e.sessionId, s.peerUsername, inetNtop s.peerAddr.sinAddr⟩ := by
  simp only [snapshotActiveSessions, List.mem_filterMap, Prod.exists,
    Std.ExtTreeMap.mem_toList_iff_getElem?_eq_some]
  constructor
  · rintro ⟨sid, s, found, h⟩
    split at h
    · next active =>
      cases h
      exact ⟨s, found, active, rfl⟩
    · cases h
  · rintro ⟨s, found, active, same⟩
    exact ⟨e.sessionId, s, found, by rw [if_pos active, ← same]⟩

end DirectMessageService

end SecpChat
