import SecpChat.Services.DirectMoves

/-!
# Session life cycle and immutable binding

The invariant `Bound` ties an entry to its key, and the moves of `DirectMoves` keep the
binding, so an entry is what its creation made it until it is removed. `Active` is
absorbing.
-/

namespace SecpChat

open Runs

/-- The runs of one client's sessions. -/
def directMachine (self : Bytes) : Machine DirectMessageService DirectOp :=
  ⟨.init self, DirectMessageService.step⟩

/-- What holds of every entry under `k`. -/
structure Bound (k : Bytes) (s : Session) : Prop where
  sessionId : s.sessionId = k
  named : s.peerUsername ≠ []
  port : s.peerAddr.sinPort = kUdpPort

/-- Same key, same peer. -/
structure SameBinding (s s' : Session) : Prop where
  sessionId : s'.sessionId = s.sessionId
  peerUsername : s'.peerUsername = s.peerUsername
  peerAddr : s'.peerAddr = s.peerAddr

theorem SameBinding.refl (s : Session) : SameBinding s s := ⟨rfl, rfl, rfl⟩

theorem SameBinding.trans {s s' s'' : Session} (h : SameBinding s s') (h' : SameBinding s' s'') :
    SameBinding s s'' :=
  ⟨h'.sessionId.trans h.sessionId, h'.peerUsername.trans h.peerUsername,
    h'.peerAddr.trans h.peerAddr⟩

namespace Move

variable {self k : Bytes} {op : DirectOp} {e e' : Option Session} {s s' : Session}

theorem sameBinding (m : Move self k op e e') (before : e = some s) (after : e' = some s') :
    SameBinding s s' := by
  cases m <;> simp_all <;> subst_vars <;> exact ⟨rfl, rfl, rfl⟩

theorem bound (m : Move self k op e e') (before : ∀ s, e = some s → Bound k s)
    (after : e' = some s') : Bound k s' := by
  cases m with
  | keep op e => exact before s' after
  | invite valid other known key => cases after; exact ⟨rfl, valid, rfl⟩
  | invited parsed type key named payload => cases after; exact ⟨rfl, named, rfl⟩
  | activate parsed type key endpoint named pending =>
    cases after; obtain ⟨h₁, h₂, h₃⟩ := before _ rfl; exact ⟨h₁, h₂, h₃⟩
  | accept key pending =>
    cases after; obtain ⟨h₁, h₂, h₃⟩ := before _ rfl; exact ⟨h₁, h₂, h₃⟩
  | decline key pending => cases after
  | prune pending stale => cases after
  | expire pending old => cases after
  | resend pending due young =>
    cases after; obtain ⟨h₁, h₂, h₃⟩ := before _ rfl; exact ⟨h₁, h₂, h₃⟩

/-- **An active session is neither changed nor removed.** -/
theorem active (m : Move self k op (some s) e') (h : s.state = .Active) : e' = some s := by
  cases m <;> first | rfl | simp_all

/-- A datagram from another address leaves the entry identical. -/
theorem foreign {bytes : Bytes} {src : SockaddrIn} {t₁ t₂ : Int}
    (m : Move self k (.received bytes src t₁ t₂) (some s) e')
    (h : src.sinAddr ≠ s.peerAddr.sinAddr) : e' = some s := by
  cases m with
  | keep => rfl
  | activate parsed type key endpoint named pending =>
    have addr := congrArg SockaddrIn.sinAddr (sameEndpoint_iff.1 endpoint)
    exact (h addr.symm).elim

end Move

namespace DirectMessageService

variable (d : DirectMessageService)

theorem step_selfUsername (op : DirectOp) : (d.step op).selfUsername = d.selfUsername := by
  cases op with
  | inviteUser users draw now sent target =>
    by_cases admitted : ∃ addr, d.Admits users draw target addr
    · obtain ⟨addr, ok⟩ := admitted
      rw [step, perform, (d.inviteUser_admitted users draw now sent target ok).1]
    · rw [step, perform,
        (d.inviteUser_refused users draw now sent target fun addr ok => admitted ⟨addr, ok⟩).1]
  | acceptInvite now room =>
    rcases d.acceptInvite_cases now room with fails | ⟨s, told, -, -, accepts⟩
    · rw [step, perform, fails]
    · rw [step, perform, accepts]
  | declineInvite room reason =>
    rcases d.declineInvite_cases room reason with fails | ⟨s, told, -, -, declines⟩
    · rw [step, perform, fails]
    · rw [step, perform, declines]
  | sendPrivateChat sent sid text =>
    exact congrArg selfUsername (d.sendPrivateChat_state sent sid text)
  | prunePending maxAge now => rfl
  | resendOutgoingPending minInterval maxAge now sent => rfl
  | received bytes src t₁ t₂ =>
    simp only [step, perform, receive]
    split
    · rfl
    next msg parsed =>
    split
    · rcases d.onInvite_cases msg src t₁ t₂ with ⟨-, opens⟩ | ⟨-, ignored⟩
      · rw [opens]
      · rw [ignored]
    · rcases d.onRoomChat_cases msg src t₁ with ⟨s, s', -, -, -, -, delivers⟩ | ⟨-, ignored⟩
      · rw [delivers]
      · rw [ignored]
    · rfl

end DirectMessageService

section Runs

variable (self : Bytes)

theorem exec_selfUsername (run : List DirectOp) :
    ((directMachine self).exec run).selfUsername = self :=
  (directMachine self).invariant (I := fun d => d.selfUsername = self) rfl
    (fun d op h => (d.step_selfUsername op).trans h) run

/-- The move of the next operation of a run. -/
theorem exec_move (run : List DirectOp) (op : DirectOp) (k : Bytes) :
    Move self k op ((directMachine self).exec run).sessions[k]?
      ((directMachine self).exec (run ++ [op])).sessions[k]? := by
  have m := ((directMachine self).exec run).step_move op k
  rw [exec_selfUsername] at m
  rw [Machine.exec_snoc]
  exact m

theorem exec_bound (run : List DirectOp) (k : Bytes) (s : Session)
    (h : ((directMachine self).exec run).sessions[k]? = some s) : Bound k s := by
  refine (directMachine self).invariant
    (I := fun d => ∀ k s, d.sessions[k]? = some s → Bound k s) ?_ ?_ run k s h
  · intro k s h
    simp [directMachine, DirectMessageService.init] at h
  · intro d op ih k s h
    exact (d.step_move op k).bound (ih k) h

/-- No session is called `-`. -/
theorem exec_no_dash (run : List DirectOp) :
    ((directMachine self).exec run).sessions[lit "-"]? = none := by
  refine (directMachine self).invariant (I := fun d => d.sessions[lit "-"]? = none) ?_ ?_ run
  · simp [directMachine, DirectMessageService.init]
  · intro d op absent
    have m := d.step_move op (lit "-")
    show (d.step op).sessions[lit "-"]? = none
    cases found : (d.step op).sessions[lit "-"]? with
    | none => rfl
    | some s =>
      rw [absent, found] at m
      cases m with
      | invite valid other known key => exact (makeSessionId_ne_dash _ key).elim
      | invited parsed type key named payload =>
        -- `on_invite` has refused it
        rename_i bytes src t₁ t₂ msg
        have refused : d.step (.received bytes src t₁ t₂) = d := by
          simp [DirectMessageService.step, DirectMessageService.perform,
            DirectMessageService.receive,
            parsed, type, DirectMessageService.onInvite, key]
        rw [refused, absent] at found
        cases found

theorem exec_active (run : List DirectOp) (k : Bytes) (s : Session)
    (h : ((directMachine self).exec run).sessions[k]? = some s) (active : s.state = .Active)
    (post : List DirectOp) : ((directMachine self).exec (run ++ post)).sessions[k]? = some s :=
  (directMachine self).stable (I := fun d => d.sessions[k]? = some s)
    (fun d op h => by
      have m := d.step_move op k
      rw [h] at m
      exact m.active active) h post

end Runs

/-- **Session life cycle and immutable binding.** -/
theorem session_life_cycle (self : Bytes) (run : List DirectOp) (op : DirectOp) (k : Bytes) :
    let before := ((directMachine self).exec run).sessions[k]?
    let after := ((directMachine self).exec (run ++ [op])).sessions[k]?
    (before.map Session.state = after.map Session.state ∨
      (∃ users draw now sent target, op = .inviteUser users draw now sent target ∧
        makeSessionId draw = k ∧ before = none ∧
        after.map Session.state = some .OutgoingPending) ∨
      (∃ bytes src t₁ t₂ msg, op = .received bytes src t₁ t₂ ∧ parseSecpLine bytes = some msg ∧
        msg.type = .Invite ∧ msg.room = k ∧ msg.payload = lit "CLOSED;to=" ++ self ∧
        before = none ∧ after.map Session.state = some .IncomingPending) ∨
      (∃ bytes src t₁ t₂ msg s, op = .received bytes src t₁ t₂ ∧ parseSecpLine bytes = some msg ∧
        msg.type = .Chat ∧ msg.room = k ∧ before = some s ∧ s.state = .OutgoingPending ∧
        src.sinAddr = s.peerAddr.sinAddr ∧ msg.username = s.peerUsername ∧
        after.map Session.state = some .Active) ∨
      (∃ now room, op = .acceptInvite now room ∧ trimInPlace room = k ∧
        before.map Session.state = some .IncomingPending ∧ after.map Session.state = some .Active) ∨
      (∃ s, before = some s ∧ s.state = .IncomingPending ∧ after = none ∧
        ((∃ room reason, op = .declineInvite room reason ∧ trimInPlace room = k) ∨
          ∃ maxAge now, op = .prunePending maxAge now ∧ now - s.lastUpdate > maxAge)) ∨
      (∃ s, before = some s ∧ s.state = .OutgoingPending ∧ after = none ∧
        ((∃ maxAge now, op = .prunePending maxAge now ∧ now - s.lastUpdate > maxAge) ∨
          ∃ minInterval maxAge now sent, op = .resendOutgoingPending minInterval maxAge now sent ∧
            now - s.createdAt > maxAge))) ∧
    (∀ s, before = some s →
      s.sessionId = k ∧ s.peerUsername ≠ [] ∧ s.peerAddr.sinPort = kUdpPort) ∧
    (∀ s s', before = some s → after = some s' →
      s'.sessionId = s.sessionId ∧ s'.peerUsername = s.peerUsername ∧ s'.peerAddr = s.peerAddr) ∧
    (∀ s bytes src t₁ t₂, op = .received bytes src t₁ t₂ → before = some s →
      src.sinAddr ≠ s.peerAddr.sinAddr → after = some s) ∧
    (∀ s, before = some s → s.state = .Active →
      ∀ ops, ((directMachine self).exec (run ++ ops)).sessions[k]? = some s) := by
  have m := exec_move self run op k
  have hbound := exec_bound self run k
  intro before after
  refine ⟨?_, fun s h => ?_, fun s s' h h' => ?_, fun s bytes src t₁ t₂ hop h hsrc => ?_,
    fun s h active => exec_active self run k s h active⟩
  · change Move self k op before after at m
    change ∀ s, before = some s → Bound k s at hbound
    clear_value before after
    cases m with
    | keep => exact .inl rfl
    | invite valid other known key => exact .inr (.inl ⟨_, _, _, _, _, rfl, key, rfl, rfl⟩)
    | invited parsed type key named payload =>
      exact .inr (.inr (.inl ⟨_, _, _, _, _, rfl, parsed, type, key, payload, rfl, rfl⟩))
    | activate parsed type key endpoint named pending =>
      refine .inr (.inr (.inr (.inl ⟨_, _, _, _, _, _, rfl, parsed, type, key, rfl, pending, ?_,
        named (hbound _ rfl).named, rfl⟩)))
      exact (congrArg SockaddrIn.sinAddr (sameEndpoint_iff.1 endpoint)).symm
    | accept key pending =>
      exact .inr (.inr (.inr (.inr (.inl ⟨_, _, rfl, key, congrArg some pending, rfl⟩))))
    | decline key pending =>
      exact .inr (.inr (.inr (.inr (.inr (.inl ⟨_, rfl, pending, rfl, .inl ⟨_, _, rfl, key⟩⟩)))))
    | @prune maxAge now s pending stale =>
      cases hs : s.state with
      | OutgoingPending =>
        exact .inr (.inr (.inr (.inr (.inr (.inr ⟨s, rfl, hs, rfl, .inl ⟨_, _, rfl, stale⟩⟩)))))
      | IncomingPending =>
        exact .inr (.inr (.inr (.inr (.inr (.inl ⟨s, rfl, hs, rfl, .inr ⟨_, _, rfl, stale⟩⟩)))))
      | Active => exact (pending hs).elim
    | expire pending old =>
      exact .inr (.inr (.inr (.inr (.inr (.inr
        ⟨_, rfl, pending, rfl, .inr ⟨_, _, _, _, rfl, old⟩⟩)))))
    | resend pending due young => exact .inl rfl
  · exact ⟨(hbound s h).sessionId, (hbound s h).named, (hbound s h).port⟩
  · have b := m.sameBinding h h'
    exact ⟨b.sessionId, b.peerUsername, b.peerAddr⟩
  · subst hop
    rw [show ((directMachine self).exec run).sessions[k]? = some s from h] at m
    exact m.foreign hsrc

end SecpChat
