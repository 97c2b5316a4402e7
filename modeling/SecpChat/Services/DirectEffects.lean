import SecpChat.Protocol.RoundTrip
import SecpChat.Services.DirectLifecycle

/-!
# What one operation sends and delivers

The inversions of the two effects of a client's sessions: `mem_onRoomChat` for the
private-message callback and `step_sends` for a `sendto`. An INVITE is only sent
while its session is pending, a CHAT only while it is active, and both to the address
the session is bound to.
-/

namespace SecpChat

namespace DirectMessageService

variable (d : DirectMessageService)

/-- **The callback runs exactly on the CHATs a session takes.** -/
theorem mem_onRoomChat {msg : SecpMessage} {src : SockaddrIn} {now : Int} {e : Effect} :
    e ∈ (d.onRoomChat msg src now).effects ↔
      ∃ s, d.sessions[msg.room]? = some s ∧ Takes s msg src ∧
        e = .privateMessage msg.room (if s.peerUsername = [] then msg.username else s.peerUsername)
          msg.payload := by
  rcases d.onRoomChat_cases msg src now with ⟨s, s', found, takes, -, -, delivers⟩ |
    ⟨untaken, ignored⟩
  · simp [delivers, found, takes]
  · rw [ignored]
    simp only [List.not_mem_nil, false_iff]
    intro h
    obtain ⟨s, found, takes, -⟩ := h
    exact untaken s found takes

theorem received_invite {bytes : Bytes} {msg : SecpMessage}
    (parsed : parseSecpLine bytes = some msg) (type : msg.type = .Invite) (src : SockaddrIn)
    (t₁ t₂ : Int) :
    d.perform (.received bytes src t₁ t₂) =
      ((d.onInvite msg src t₁ t₂).state, (d.onInvite msg src t₁ t₂).effects) := by
  simp [perform, receive, parsed, type]

theorem received_chat {bytes : Bytes} {msg : SecpMessage} (parsed : parseSecpLine bytes = some msg)
    (type : msg.type = .Chat) (src : SockaddrIn) (t₁ t₂ : Int) :
    d.perform (.received bytes src t₁ t₂) =
      ((d.onRoomChat msg src t₁).state, (d.onRoomChat msg src t₁).effects) := by
  simp [perform, receive, parsed, type]

/-- A CHAT that is taken leaves its session active. -/
theorem received_taken {bytes : Bytes} {msg : SecpMessage} {src : SockaddrIn} {s : Session}
    (parsed : parseSecpLine bytes = some msg) (found : d.sessions[msg.room]? = some s)
    (takes : Takes s msg src) (t₁ t₂ : Int) :
    ∃ s', (d.step (.received bytes src t₁ t₂)).sessions[msg.room]? = some s' ∧
      s'.state = .Active := by
  rw [step, d.received_chat parsed takes.type]
  rcases d.onRoomChat_cases msg src t₁ with ⟨s₀, s', -, -, active, -, delivers⟩ | ⟨untaken, -⟩
  · refine ⟨s', ?_, active⟩
    rw [delivers, Std.ExtTreeMap.getElem?_insert_self]
  · exact (untaken s found takes).elim

/-- Nothing but status lines. -/
def Quiet (effects : List Effect) : Prop := ∀ e ∈ effects, ∃ m, e = .status m

theorem acceptInvite_quiet (now : Int) (room : Bytes) :
    Quiet (d.acceptInvite now room).effects := by
  rcases d.acceptInvite_cases now room with fails | ⟨s, told, -, -, accepts⟩
  · simp [Quiet, fails]
  · simp [Quiet, accepts]

theorem declineInvite_quiet (room reason : Bytes) :
    Quiet (d.declineInvite room reason).effects := by
  rcases d.declineInvite_cases room reason with fails | ⟨s, told, -, -, declines⟩
  · simp [Quiet, fails]
  · simp [Quiet, declines]

theorem prunePending_quiet (maxAge now : Int) : Quiet (d.prunePending maxAge now).effects := by
  intro e he
  obtain ⟨sid, -, rfl⟩ := List.mem_map.1 he
  exact ⟨_, rfl⟩

theorem onInvite_quiet (msg : SecpMessage) (src : SockaddrIn) (t₁ t₂ : Int) :
    Quiet (d.onInvite msg src t₁ t₂).effects := by
  rcases d.onInvite_cases msg src t₁ t₂ with ⟨-, opens⟩ | ⟨-, ignored⟩
  · simp [Quiet, opens]
  · simp [Quiet, ignored]

theorem Quiet.not_privateMessage {es : List Effect} {room sender text : Bytes} (q : Quiet es)
    (h : .privateMessage room sender text ∈ es) : False := by
  obtain ⟨m, hm⟩ := q _ h
  exact Effect.noConfusion hm

theorem Quiet.not_sendTo {es : List Effect} {dest : SockaddrIn} {line : Bytes} {ok : Bool}
    (q : Quiet es) (h : .sendTo dest line ok ∈ es) : False := by
  obtain ⟨m, hm⟩ := q _ h
  exact Effect.noConfusion hm

/-- Only a received CHAT invokes the private-message callback. -/
theorem privateMessage_mem {op : DirectOp} {room sender text : Bytes}
    (h : Effect.privateMessage room sender text ∈ d.effects op) :
    ∃ bytes src t₁ t₂ msg, op = .received bytes src t₁ t₂ ∧ parseSecpLine bytes = some msg ∧
      Effect.privateMessage room sender text ∈ (d.onRoomChat msg src t₁).effects := by
  cases op with
  | inviteUser users draw now sent target =>
    simp only [effects, perform] at h
    by_cases admitted : ∃ addr, d.Admits users draw target addr
    · obtain ⟨addr, ok⟩ := admitted
      obtain ⟨-, -, told, sends⟩ := d.inviteUser_admitted users draw now sent target ok
      rw [sends] at h
      split at h <;> simp at h
    · obtain ⟨-, -, quiet⟩ :=
        d.inviteUser_refused users draw now sent target fun addr ok => admitted ⟨addr, ok⟩
      exact (Quiet.not_privateMessage quiet h).elim
  | acceptInvite now room => exact ((acceptInvite_quiet _ now room).not_privateMessage h).elim
  | declineInvite room reason =>
    exact ((declineInvite_quiet _ room reason).not_privateMessage h).elim
  | sendPrivateChat sent sid text =>
    simp only [effects, perform] at h
    rcases d.sendPrivateChat_cases sent sid text with fails | ⟨-, -, -, s, -, -, sends⟩
    · simp [fails] at h
    · simp [sends] at h
  | prunePending maxAge now => exact ((prunePending_quiet _ maxAge now).not_privateMessage h).elim
  | resendOutgoingPending minInterval maxAge now sent =>
    simp only [effects, perform, resendOutgoingPending, List.mem_append, List.mem_flatMap] at h
    rcases h with ⟨⟨sid, s⟩, -, h⟩ | h
    · simp only at h
      split at h <;> simp at h
    · simp at h
  | received bytes src t₁ t₂ =>
    simp only [effects, perform, receive] at h
    split at h
    · simp at h
    next msg parsed =>
    split at h
    · exact ((onInvite_quiet _ msg src t₁ t₂).not_privateMessage h).elim
    · exact ⟨bytes, src, t₁, t₂, msg, rfl, parsed, h⟩
    · simp at h

/-- A datagram to `dest` that carries `msg` on behalf of the session `s` of `d`. -/
structure Carries (dest : SockaddrIn) (msg : SecpMessage) (s : Session) : Prop where
  found : d.sessions[msg.room]? = some s
  dest : dest = s.peerAddr
  sender : msg.username = d.selfUsername
  kind : s.state = .OutgoingPending ∧ msg.type = .Invite ∧
      msg.payload = closedTo ++ s.peerUsername ∨
    s.state = .Active ∧ msg.type = .Chat

variable {d}

theorem inviteUser_sends {users : UserDirectory} {draw : Fin 0x1000000} {now : Int} {sent ok : Bool}
    {target line : Bytes} {dest : SockaddrIn}
    (h : .sendTo dest line ok ∈ (d.inviteUser users draw now sent target).effects) :
    ∃ msg s, parseSecpLine line = some msg ∧
      Carries (d.inviteUser users draw now sent target).state dest msg s := by
  by_cases admitted : ∃ addr, d.Admits users draw target addr
  · obtain ⟨addr, admits⟩ := admitted
    obtain ⟨state, -, msg, effects⟩ := d.inviteUser_admitted users draw now sent target admits
    rw [effects] at h
    split at h
    · simp at h
    next built =>
    simp only [List.mem_cons, Effect.sendTo.injEq, reduceCtorEq, List.not_mem_nil, or_false] at h
    obtain ⟨rfl, rfl, -⟩ := h
    rw [state]
    exact ⟨_, _, parse_build built, Std.ExtTreeMap.getElem?_insert_self, rfl, rfl,
      .inl ⟨rfl, rfl, rfl⟩⟩
  · obtain ⟨-, -, quiet⟩ :=
      d.inviteUser_refused users draw now sent target fun addr ok => admitted ⟨addr, ok⟩
    obtain ⟨m, hm⟩ := quiet _ h
    exact Effect.noConfusion hm

theorem sendPrivateChat_sends {sent ok : Bool} {sid text line : Bytes} {dest : SockaddrIn}
    (h : .sendTo dest line ok ∈ (d.sendPrivateChat sent sid text).effects) :
    trimInPlace text ≠ [] ∧
      parseSecpLine line = some ⟨.Chat, trimInPlace sid, d.selfUsername, trimInPlace text⟩ ∧
      ∃ s, Carries d dest ⟨.Chat, trimInPlace sid, d.selfUsername, trimInPlace text⟩ s := by
  rcases d.sendPrivateChat_cases sent sid text with
    fails | ⟨nonempty, -, built, s, found, active, sends⟩
  · rw [fails] at h
    cases h
  · rw [sends, List.mem_singleton, Effect.sendTo.injEq] at h
    obtain ⟨rfl, rfl, -⟩ := h
    exact ⟨nonempty, parse_build built, s, found, rfl, rfl, .inr ⟨active, rfl⟩⟩

/-- A resent line is built from the session's own copies of the peer's name and address. -/
theorem resendOutgoingPending_line {minInterval maxAge now : Int} {sent : Bytes → Bool} {ok : Bool}
    {line : Bytes} {dest : SockaddrIn}
    (h : .sendTo dest line ok ∈ (d.resendOutgoingPending minInterval maxAge now sent).effects) :
    ∃ (sid : Bytes) (s : Session), d.sessions[sid]? = some s ∧
      resendVisit minInterval maxAge now s = .resend ∧ dest = s.peerAddr ∧
      line = buildSecpLine .Invite sid d.selfUsername (closedTo ++ s.peerUsername) ∧ line ≠ [] := by
  simp only [resendOutgoingPending, List.mem_append, List.mem_flatMap] at h
  rcases h with ⟨⟨sid, s⟩, visited, h⟩ | h
  · simp only [List.mem_filter, Std.ExtTreeMap.mem_toList_iff_getElem?_eq_some, beq_iff_eq]
      at visited
    simp only at h
    split at h
    · simp at h
    next built =>
    simp at h
    obtain ⟨rfl, rfl, -⟩ := h
    exact ⟨sid, s, visited.1, visited.2, rfl, rfl, built⟩
  · simp at h

theorem resendOutgoingPending_sends {minInterval maxAge now : Int} {sent : Bytes → Bool} {ok : Bool}
    {line : Bytes} {dest : SockaddrIn}
    (h : .sendTo dest line ok ∈ (d.resendOutgoingPending minInterval maxAge now sent).effects) :
    ∃ msg s, parseSecpLine line = some msg ∧
      Carries (d.resendOutgoingPending minInterval maxAge now sent).state dest msg s := by
  obtain ⟨sid, s, found, visit, rfl, rfl, built⟩ := resendOutgoingPending_line h
  refine ⟨_, { s with lastSent := now, lastUpdate := now }, parse_build built, ?_, rfl, rfl,
    .inl ⟨(resendVisit_resend_iff.1 visit).1, rfl, rfl⟩⟩
  rw [d.resendOutgoingPending_lookup, found, Option.bind_some, visit]

/-- **Every datagram is sent on behalf of a session** and to the address it is bound to. -/
theorem step_sends {op : DirectOp} {ok : Bool} {line : Bytes} {dest : SockaddrIn}
    (h : .sendTo dest line ok ∈ d.effects op) :
    ∃ msg s, parseSecpLine line = some msg ∧ Carries (d.step op) dest msg s := by
  cases op with
  | inviteUser users draw now sent target => exact inviteUser_sends h
  | acceptInvite now room => exact ((acceptInvite_quiet _ now room).not_sendTo h).elim
  | declineInvite room reason => exact ((declineInvite_quiet _ room reason).not_sendTo h).elim
  | sendPrivateChat sent sid text =>
    have same : d.step (.sendPrivateChat sent sid text) = d := d.sendPrivateChat_state sent sid text
    obtain ⟨-, parsed, s, carries⟩ := sendPrivateChat_sends h
    rw [same]
    exact ⟨_, s, parsed, carries⟩
  | prunePending maxAge now => exact ((prunePending_quiet _ maxAge now).not_sendTo h).elim
  | resendOutgoingPending minInterval maxAge now sent => exact resendOutgoingPending_sends h
  | received bytes src t₁ t₂ =>
    simp only [effects, perform, receive] at h
    split at h
    · simp at h
    next msg parsed =>
    split at h
    · exact ((onInvite_quiet _ msg src t₁ t₂).not_sendTo h).elim
    · rw [mem_onRoomChat] at h
      obtain ⟨s, -, -, h⟩ := h
      exact Effect.noConfusion h
    · simp at h

end DirectMessageService

end SecpChat
