import SecpChat.Services.DirectEffects

/-!
# What a failed call leaves behind

`accept_invite`, `decline_invite` and `send_private_chat` leave the sessions alone when
they answer false. `invite_user` has inserted its session by the time the line is built
and sent: when that fails it answers `std::nullopt`, and the session stays (`FailsLate`),
to be resent by the next heartbeat and answered by a CHAT.
-/

namespace SecpChat

open Runs

namespace DirectMessageService

/-- The call answers `std::nullopt` or false. -/
def Fails (d : DirectMessageService) : DirectOp → Prop
  | .inviteUser users draw now sent target => (d.inviteUser users draw now sent target).value = none
  | .acceptInvite now room => (d.acceptInvite now room).value = false
  | .declineInvite room reason => (d.declineInvite room reason).value = false
  | .sendPrivateChat sent sid text => (d.sendPrivateChat sent sid text).value = false
  | _ => False

/-- An `invite_user` that passes its checks, for which no line can be built or sent. -/
def FailsLate (d : DirectMessageService) : DirectOp → Prop
  | .inviteUser users draw _ sent target =>
    (∃ addr, d.Admits users draw target addr) ∧
      (isUsernameOk d.selfUsername = false ∨
        isPayloadOk (closedTo ++ trimInPlace target) = false ∨ sent = false)
  | _ => False

/-- Nothing tells `d'` from `d`: neither the sessions, now or later, nor what is done. -/
structure NoTrace (d d' : DirectMessageService) : Prop where
  sessions : ∀ k : Bytes, d'.sessions[k]? = d.sessions[k]?
  later : ∀ ops : List DirectOp, ∀ k : Bytes,
    (ops.foldl step d').sessions[k]? = (ops.foldl step d).sessions[k]?
  effects : ∀ (ops : List DirectOp) (op : DirectOp),
    (ops.foldl step d').effects op = (ops.foldl step d).effects op

variable {d : DirectMessageService}

theorem NoTrace.refl : NoTrace d d := ⟨fun _ => rfl, fun _ _ => rfl, fun _ _ => rfl⟩

theorem inviteLine_ne_nil_iff {draw : Fin 0x1000000} {target : Bytes} :
    d.inviteLine draw target ≠ [] ↔
      isUsernameOk d.selfUsername = true ∧ isPayloadOk (closedTo ++ trimInPlace target) = true := by
  rw [inviteLine, buildSecpLine_ne_nil_iff]
  constructor
  · intro ok
    exact ⟨ok.username, ok.payload⟩
  · rintro ⟨username, payload⟩
    exact ⟨nofun, isRoomOk_makeSessionId draw, username, payload⟩

theorem declineInvite_refused {room reason : Bytes}
    (h : (d.declineInvite room reason).value = false) : (d.declineInvite room reason).state = d := by
  rcases d.declineInvite_cases room reason with fails | ⟨s, told, -, -, declines⟩
  · rw [fails]
  · rw [declines] at h
    cases h

/-- A call that fails, but not late, leaves the service as it is. -/
theorem step_of_fails {op : DirectOp} (fails : d.Fails op) (early : ¬ d.FailsLate op) :
    d.step op = d := by
  cases op with
  | inviteUser users draw now sent target =>
    by_cases admitted : ∃ addr, d.Admits users draw target addr
    · obtain ⟨addr, ok⟩ := admitted
      have sends : d.inviteLine draw target ≠ [] ∧ sent = true := by
        by_contra unsent
        apply early
        refine ⟨⟨addr, ok⟩, ?_⟩
        rw [inviteLine_ne_nil_iff] at unsent
        by_contra clear
        simp only [not_or, Bool.not_eq_false] at clear
        exact unsent ⟨⟨clear.1, clear.2.1⟩, clear.2.2⟩
      have value : (d.inviteUser users draw now sent target).value = none := fails
      rw [(d.inviteUser_admitted users draw now sent target ok).2.1, if_neg (by simp [sends])]
        at value
      cases value
    · exact (d.inviteUser_refused users draw now sent target fun addr ok => admitted ⟨addr, ok⟩).1
  | acceptInvite now room => exact d.acceptInvite_refused fails
  | declineInvite room reason => exact declineInvite_refused fails
  | sendPrivateChat sent sid text => exact d.sendPrivateChat_state sent sid text
  | prunePending maxAge now => exact fails.elim
  | resendOutgoingPending minInterval maxAge now sent => exact fails.elim
  | received bytes src t₁ t₂ => exact fails.elim

/-- A call that fails late leaves a session. -/
theorem failsLate_leaves {op : DirectOp} (late : d.FailsLate op) :
    d.Fails op ∧ ∃ (k : Bytes) (s : Session), d.sessions[k]? = none ∧
      (d.step op).sessions[k]? = some s := by
  cases op with
  | inviteUser users draw now sent target =>
    obtain ⟨⟨addr, ok⟩, unsent⟩ := late
    obtain ⟨state, value, -⟩ := d.inviteUser_admitted users draw now sent target ok
    constructor
    · show (d.inviteUser users draw now sent target).value = none
      rw [value, if_pos]
      by_contra sends
      simp only [not_or, Bool.not_eq_false] at sends
      obtain ⟨username, payload⟩ := inviteLine_ne_nil_iff.1 sends.1
      simp [username, payload, sends.2] at unsent
    · refine ⟨makeSessionId draw, invited draw now target addr, ok.free, ?_⟩
      rw [step, perform, state]
      exact Std.ExtTreeMap.getElem?_insert_self
  | _ => exact late.elim

end DirectMessageService

open DirectMessageService in
/-- **A failed call leaves no trace exactly when it does not fail late.** -/
theorem failed_call_no_trace_iff (self : Bytes) (run : List DirectOp) (op : DirectOp) :
    let d := (directMachine self).exec run
    (d.Fails op → NoTrace d (d.step op)) ↔ ¬ d.FailsLate op := by
  intro d
  constructor
  · intro noTrace late
    obtain ⟨fails, k, s, before, after⟩ := failsLate_leaves late
    have same := (noTrace fails).sessions k
    rw [before, after] at same
    cases same
  · intro early fails
    rw [step_of_fails fails early]
    exact .refl

/-- alice's invitation of bob cannot be sent: the call fails, but the next heartbeat sends it, and
a CHAT of bob then activates its session. -/
theorem failed_invitation_resent :
    let bob : SockaddrIn := ⟨AF_INET, kUdpPort, ⟨10, 0, 0, 2⟩⟩
    let users := (UserDirectory.empty.setSelfUsername (lit "alice")).upsert (lit "bob") bob 1
    let d := (directMachine (lit "alice")).exec []
    let o := d.inviteUser users 42 (seconds 1) false (lit "bob")
    let heartbeat := DirectOp.resendOutgoingPending (seconds 6) (seconds 45) (seconds 11)
      fun _ => true
    let chat := DirectOp.received (lit "CHAT|00002a|bob|hei\n") bob (seconds 12) (seconds 12)
    o.value = none ∧ d.sessions[lit "00002a"]? = none ∧
      (o.state.sessions[lit "00002a"]?).map Session.state = some .OutgoingPending ∧
      o.state.effects heartbeat =
        [.sendTo bob (lit "INVITE|00002a|alice|CLOSED;to=bob\n") true] ∧
      ((o.state.step chat).sessions[lit "00002a"]?).map Session.state = some .Active := by
  decide +kernel

end SecpChat
