import SecpChat.Services.DirectEffects

/-!
# Authenticity of private delivery

Whatever datagrams arrive, a message is only delivered in a session that the user
consented to: the creation of the entry is found with `exists_rise`, the consent as the
later rise of its state, and the binding is carried from there along the stretch on
which the entry has existed.
-/

namespace SecpChat

open Runs

/-- A session is open under `k`. -/
def HasSession (k : Bytes) (d : DirectMessageService) : Prop := d.sessions[k]? ≠ none

instance (k : Bytes) : DecidablePred (HasSession k) := fun d =>
  inferInstanceAs (Decidable (d.sessions[k]? ≠ none))

theorem HasSession.exists {k : Bytes} {d : DirectMessageService} (h : HasSession k d) :
    ∃ s, d.sessions[k]? = some s := Option.ne_none_iff_exists'.1 h

theorem not_hasSession {k : Bytes} {d : DirectMessageService} :
    ¬ HasSession k d ↔ d.sessions[k]? = none := not_not

/-- The entry under `k` is in a state with `P`. -/
def InState (P : DirectSessionState → Prop) (k : Bytes) (d : DirectMessageService) : Prop :=
  ∃ s, d.sessions[k]? = some s ∧ P s.state

/-- The entry under `k` does not await the user's answer. -/
abbrev Answered (k : Bytes) (d : DirectMessageService) : Prop := InState (· ≠ .IncomingPending) k d

theorem Move.answered {self k : Bytes} {op : DirectOp} {s s' : Session}
    (m : Move self k op (some s) (some s')) (h : s.state ≠ .IncomingPending) :
    s'.state ≠ .IncomingPending := by
  cases m with
  | keep => exact h
  | activate => simp
  | accept => simp
  | resend pending => simp [pending]

theorem Move.not_outgoing {self k : Bytes} {op : DirectOp} {s s' : Session}
    (m : Move self k op (some s) (some s')) (h : s.state ≠ .OutgoingPending) :
    s'.state ≠ .OutgoingPending := by
  cases m with
  | keep => exact h
  | activate => simp
  | accept => simp
  | resend pending => exact (h pending).elim

/-- How a session comes to be open: it was, or we invited, or we accepted. -/
theorem Move.opened {self k : Bytes} {op : DirectOp} {e : Option Session} {s' : Session}
    (m : Move self k op e (some s')) (h : s'.state ≠ .IncomingPending) :
    (∃ s, e = some s ∧ s.state ≠ .IncomingPending ∧ SameBinding s s') ∨
    (∃ users draw now sent target addr, op = .inviteUser users draw now sent target ∧ e = none ∧
      makeSessionId draw = k ∧ users.findAddress (trimInPlace target) = some addr ∧
      s'.peerUsername = trimInPlace target ∧ s'.peerAddr.sinAddr = addr.sinAddr) ∨
    ∃ now room s, op = .acceptInvite now room ∧ trimInPlace room = k ∧ e = some s ∧
      s.state = .IncomingPending ∧ SameBinding s s' := by
  cases m with
  | keep => exact .inl ⟨s', rfl, h, .refl s'⟩
  | invite valid other known key =>
    exact .inr (.inl ⟨_, _, _, _, _, _, rfl, rfl, key, known, rfl, rfl⟩)
  | invited => exact (h rfl).elim
  | activate _ _ _ _ _ pending => exact .inl ⟨_, rfl, by simp [pending], rfl, rfl, rfl⟩
  | accept key pending => exact .inr (.inr ⟨_, _, _, rfl, key, rfl, pending, rfl, rfl, rfl⟩)
  | resend pending => exact .inl ⟨_, rfl, by simp [pending], rfl, rfl, rfl⟩

/-- Only `accept_invite` answers an invitation and keeps the session. -/
theorem DirectMessageService.accepted_of_answered {d : DirectMessageService} {op : DirectOp}
    {k : Bytes} {s s' : Session} (before : d.sessions[k]? = some s)
    (pending : s.state = .IncomingPending) (after : (d.step op).sessions[k]? = some s')
    (answered : s'.state ≠ .IncomingPending) :
    ∃ now room, op = .acceptInvite now room ∧ trimInPlace room = k ∧
      (d.acceptInvite now room).value = true := by
  have m := d.step_move op k
  rw [before, after] at m
  have accepted : ∃ now room, op = .acceptInvite now room ∧ trimInPlace room = k := by
    cases m with
    | keep => exact (answered pending).elim
    | activate _ _ _ _ _ outgoing => simp [pending] at outgoing
    | accept key _ => exact ⟨_, _, rfl, key⟩
    | resend outgoing => simp [pending] at outgoing
  obtain ⟨now, room, rfl, key⟩ := accepted
  refine ⟨now, room, rfl, key, ?_⟩
  cases value : (d.acceptInvite now room).value with
  | true => rfl
  | false =>
    have unchanged : d.step (.acceptInvite now room) = d := d.acceptInvite_refused value
    rw [unchanged, before] at after
    cases after
    exact (answered pending).elim

section Runs

variable {self k : Bytes} {pre post : List DirectOp}

/-- An entry that has existed throughout keeps its binding. -/
theorem since_sameBinding {s : Session}
    (start : ((directMachine self).exec pre).sessions[k]? = some s)
    (since : (directMachine self).Since (HasSession k) pre post) :
    ∃ s', ((directMachine self).exec (pre ++ post)).sessions[k]? = some s' ∧ SameBinding s s' := by
  refine since.induct (I := fun d => ∃ s', d.sessions[k]? = some s' ∧ SameBinding s s')
    ⟨s, start, .refl s⟩ fun d op _ kept ih => ?_
  obtain ⟨s', before, binding⟩ := ih
  obtain ⟨s'', after⟩ := kept.exists
  exact ⟨s'', after, binding.trans ((d.step_move op k).sameBinding before after)⟩

/-- An incoming session that was answered and never removed was accepted. -/
theorem exists_accept (since : (directMachine self).Since (HasSession k) pre post)
    (start : ¬ Answered k ((directMachine self).exec pre))
    (last : Answered k ((directMachine self).exec (pre ++ post))) :
    ∃ mid now room rest, post = mid ++ .acceptInvite now room :: rest ∧ trimInPlace room = k ∧
      (((directMachine self).exec (pre ++ mid)).acceptInvite now room).value = true := by
  obtain ⟨mid, op, rest, rfl, before, rise⟩ := Machine.exists_rise post start last
  obtain ⟨s', after, answered⟩ := rise.start
  rw [Machine.exec_snoc] at after
  have front : (directMachine self).Since (HasSession k) pre mid := since.front
  obtain ⟨s, found⟩ := front.last.exists
  have pending : s.state = .IncomingPending := by
    by_contra h
    exact before ⟨s, found, h⟩
  obtain ⟨now, room, rfl, key, accepted⟩ :=
    DirectMessageService.accepted_of_answered found pending after answered
  exact ⟨mid, now, room, rest, rfl, key, accepted⟩

/-- What the moves of a session keep of its state holds as long as it exists. -/
theorem since_inState {P : DirectSessionState → Prop}
    (kept : ∀ {self k op s s'}, Move self k op (some s) (some s') → P s.state → P s'.state)
    (start : InState P k ((directMachine self).exec pre))
    (since : (directMachine self).Since (HasSession k) pre post) :
    InState P k ((directMachine self).exec (pre ++ post)) := by
  refine since.induct start fun d op _ still ih => ?_
  obtain ⟨s, before, state⟩ := ih
  obtain ⟨s', after : (d.step op).sessions[k]? = some s'⟩ := still.exists
  have m := d.step_move op k
  rw [before, after] at m
  exact ⟨s', after, kept m state⟩

/-- How the entry under `k` came to be. -/
theorem exists_creation {s : Session} {run : List DirectOp}
    (h : ((directMachine self).exec run).sessions[k]? = some s) :
    ∃ pre c post s₀, run = pre ++ c :: post ∧ Move self k c none (some s₀) ∧
      ((directMachine self).exec pre).sessions[k]? = none ∧
      ((directMachine self).exec (pre ++ [c])).sessions[k]? = some s₀ ∧
      (directMachine self).Since (HasSession k) (pre ++ [c]) post ∧ SameBinding s₀ s := by
  have absent : ¬ HasSession k ((directMachine self).exec []) := by
    simp [HasSession, directMachine, DirectMessageService.init]
  have present : HasSession k ((directMachine self).exec ([] ++ run)) := by
    simp [HasSession, h]
  obtain ⟨pre, c, post, rfl, before, since⟩ := Machine.exists_rise run absent present
  simp only [List.nil_append] at before since
  obtain ⟨s₀, after⟩ := since.start.exists
  obtain ⟨s', last, binding⟩ := since_sameBinding after since
  have found : s' = s := by
    rw [List.append_assoc, List.singleton_append, h] at last
    exact (Option.some.inj last).symm
  have m := exec_move self pre c k
  rw [not_hasSession.1 before, after] at m
  exact ⟨pre, c, post, s₀, rfl, m, not_hasSession.1 before, after, since, found ▸ binding⟩

end Runs

/-- **Authenticity of private delivery.** -/
theorem private_delivery_authentic (self : Bytes) (run : List DirectOp) (op : DirectOp)
    (room sender text : Bytes)
    (h : Effect.privateMessage room sender text ∈ ((directMachine self).exec run).effects op) :
    ∃ bytes src t₁ t₂ msg s pre c post s₀,
      op = .received bytes src t₁ t₂ ∧ parseSecpLine bytes = some msg ∧ msg.type = .Chat ∧
      msg.room = room ∧ msg.username = sender ∧ msg.payload = text ∧ text ≠ [] ∧
      ((directMachine self).exec (run ++ [op])).sessions[room]? = some s ∧ s.state = .Active ∧
      run = pre ++ c :: post ∧ ((directMachine self).exec pre).sessions[room]? = none ∧
      ((directMachine self).exec (pre ++ [c])).sessions[room]? = some s₀ ∧
      (directMachine self).Since (HasSession room) (pre ++ [c]) (post ++ [op]) ∧
      src.sinAddr = s₀.peerAddr.sinAddr ∧ sender = s₀.peerUsername ∧
      ((∃ invite isrc i₁ i₂ imsg, c = .received invite isrc i₁ i₂ ∧
          parseSecpLine invite = some imsg ∧ imsg.type = .Invite ∧ imsg.room = room ∧
          imsg.username = sender ∧ imsg.payload = lit "CLOSED;to=" ++ self ∧
          isrc.sinAddr = src.sinAddr ∧
          ∃ mid now name rest, post = mid ++ .acceptInvite now name :: rest ∧
            trimInPlace name = room ∧
            (((directMachine self).exec (pre ++ c :: mid)).acceptInvite now name).value = true) ∨
        ∃ users draw now sent target addr, c = .inviteUser users draw now sent target ∧
          trimInPlace target = sender ∧ makeSessionId draw = room ∧
          users.findAddress sender = some addr ∧ addr.sinAddr = src.sinAddr) := by
  obtain ⟨bytes, src, t₁, t₂, msg, rfl, parsed, called⟩ :=
    DirectMessageService.privateMessage_mem _ h
  obtain ⟨s, found, takes, called⟩ := (DirectMessageService.mem_onRoomChat _).1 called
  have named := (exec_bound self run msg.room s found).named
  rw [if_neg named] at called
  cases called
  obtain ⟨pre, c, post, s₀, rfl, created, before, after, since, binding⟩ := exists_creation found
  have username : msg.username = s.peerUsername := takes.named named
  have source : src.sinAddr = s₀.peerAddr.sinAddr := by
    have addr := congrArg SockaddrIn.sinAddr takes.endpoint
    rw [binding.peerAddr] at addr
    exact addr.symm
  obtain ⟨s', last, active⟩ : ∃ s', ((directMachine self).exec
      (pre ++ c :: post ++ [.received bytes src t₁ t₂])).sessions[msg.room]? = some s' ∧
      s'.state = .Active := by
    rw [Machine.exec_snoc]
    exact DirectMessageService.received_taken _ parsed found takes t₁ t₂
  have still : (directMachine self).Since (HasSession msg.room) (pre ++ [c])
      (post ++ [.received bytes src t₁ t₂]) := by
    refine Machine.since_snoc.2 ⟨since, ?_⟩
    rw [List.append_assoc pre, List.singleton_append, HasSession, last]
    exact Option.some_ne_none s'
  refine ⟨bytes, src, t₁, t₂, msg, s', pre, c, post, s₀, rfl, parsed, takes.type, rfl, username,
    rfl, fun empty => takes.fields (.inr (.inr (.inr empty))), last, active, rfl, before, after,
    still, source, binding.peerUsername, ?_⟩
  cases created with
  | @invite users draw now sent target addr valid other known key =>
    refine .inr ⟨users, draw, now, sent, target, addr, rfl, binding.peerUsername.symm, key, ?_,
      source.symm⟩
    rw [binding.peerUsername]
    exact known
  | @invited invite isrc i₁ i₂ imsg iparsed itype ikey inamed payload =>
    refine .inl ⟨invite, isrc, i₁, i₂, imsg, rfl, iparsed, itype, ikey,
      binding.peerUsername.symm, payload, source.symm, ?_⟩
    have start : ¬ Answered msg.room ((directMachine self).exec
        (pre ++ [.received invite isrc i₁ i₂])) := by
      intro answered
      obtain ⟨s₁, h₁, h₂⟩ := answered
      rw [after] at h₁
      cases h₁
      exact h₂ rfl
    have answered : Answered msg.room ((directMachine self).exec
        (pre ++ [.received invite isrc i₁ i₂] ++ post)) := by
      rw [List.append_assoc, List.singleton_append]
      exact ⟨s, found, takes.open_⟩
    obtain ⟨mid, now, name, rest, rfl, trimmed, accepted⟩ := exists_accept since start answered
    rw [List.append_assoc, List.singleton_append] at accepted
    exact ⟨mid, now, name, rest, rfl, trimmed, accepted⟩

/-- bob accepts an invitation from alice at 10.0.0.1, whose first CHAT is then shown. -/
theorem private_delivery_authentic_alice :
    let alice : SockaddrIn := ⟨AF_INET, kUdpPort, ⟨10, 0, 0, 1⟩⟩
    let run := [.received (lit "INVITE|00002a|alice|CLOSED;to=bob\n") alice 5 6,
      .acceptInvite 7 (lit " 00002a")]
    let op := .received (lit "CHAT|00002a|alice|hei\n") alice 8 9
    Effect.privateMessage (lit "00002a") (lit "alice") (lit "hei") ∈
        ((directMachine (lit "bob")).exec run).effects op ∧
      ∃ s, ((directMachine (lit "bob")).exec (run ++ [op])).sessions[lit "00002a"]? = some s ∧
        s.state = .Active := by
  intro alice run op
  have shown : Effect.privateMessage (lit "00002a") (lit "alice") (lit "hei") ∈
      ((directMachine (lit "bob")).exec run).effects op := by decide +kernel
  obtain ⟨_, _, _, _, _, s, _, _, _, _, _, _, _, _, _, _, _, last, active, _⟩ :=
    private_delivery_authentic (lit "bob") run op (lit "00002a") (lit "alice") (lit "hei") shown
  exact ⟨shown, s, last, active⟩

end SecpChat
