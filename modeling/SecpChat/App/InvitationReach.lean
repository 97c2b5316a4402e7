import SecpChat.App.Fidelity

/-!
# An invitation reaches the invited user

`invite_user` and `resend_outgoing_pending` build the line from different copies of the
target's name and address. The session that the call opens keeps both (`StillInvites`)
until it is gone, and no other pending outgoing session takes its id unless
`invite_user` draws that id again, so the lines are the same. `on_invite` compares what
follows `CLOSED;to=` with the client's whole name.
-/

namespace SecpChat

open Runs DirectMessageService

/-! ## Sending it again -/

def ClientOp.isInvitation : ClientOp → Bool
  | .inviteUser _ _ _ _ => true
  | _ => false

/-- `invite_user` opens a session under an id that is free. -/
def Client.Reopens (c : Client) (sid : Bytes) (op : ClientOp) : Prop :=
  op.isInvitation = true ∧ c.direct.sessions[sid]?.isNone = true ∧
    (c.step op).direct.sessions[sid]?.isSome = true

instance (c : Client) (sid : Bytes) (op : ClientOp) : Decidable (c.Reopens sid op) :=
  inferInstanceAs (Decidable (_ ∧ _))

/-- A pending outgoing session under `sid` is with `name` at `dest`. -/
def Client.StillInvites (c : Client) (sid name : Bytes) (dest : SockaddrIn) : Prop :=
  ∀ s, c.direct.sessions[sid]? = some s → s.state = .OutgoingPending →
    s.peerUsername = name ∧ s.peerAddr = dest

theorem Client.step_stillInvites {c : Client} {sid name : Bytes} {dest : SockaddrIn} {op : ClientOp}
    (same : ¬ c.Reopens sid op) (inv : c.StillInvites sid name dest) :
    (c.step op).StillInvites sid name dest := by
  intro s' found pending
  rw [c.step_direct op] at found
  cases contained : op.direct c.users with
  | none =>
    rw [contained] at found
    exact inv s' found pending
  | some dop =>
    have m := c.direct.step_move dop sid
    have after : (c.direct.step dop).sessions[sid]? = some s' := by
      rw [contained] at found
      exact found
    rw [after] at m
    cases before : c.direct.sessions[sid]? with
    | some s =>
      rw [before] at m
      obtain ⟨-, peer, addr⟩ := m.sameBinding rfl rfl
      have was : s.state = .OutgoingPending := by
        cases m with
        | keep => exact pending
        | activate => cases pending
        | accept => cases pending
        | resend was => exact was
      rw [peer, addr]
      exact inv s before was
    | none =>
      rw [before] at m
      cases m with
      | invite valid other known key =>
        -- the operation is an `invite_user` that has found the id free
        cases op <;> cases contained
        refine (same ⟨rfl, by simp [before], ?_⟩).elim
        rw [c.step_direct]
        exact Option.isSome_of_eq_some after
      | invited => cases pending

/-! ## Receiving it -/

/-- The session that `on_invite` opens. -/
def presented (sid sender : Bytes) (src : SockaddrIn) (t₁ t₂ : Int) : Session :=
  ⟨.IncomingPending, sid, sender, ⟨src.sinFamily, kUdpPort, src.sinAddr⟩, t₁, 0, t₂⟩

theorem onInvite_invited (d : DirectMessageService) {sid sender : Bytes} (room : sid ≠ [])
    (dash : sid ≠ lit "-") (named : sender ≠ []) (free : d.sessions[sid]? = none)
    (src : SockaddrIn) (t₁ t₂ : Int) :
    (d.onInvite ⟨.Invite, sid, sender, closedTo ++ d.selfUsername⟩ src t₁ t₂).state =
      { d with sessions := d.sessions.insert sid (presented sid sender src t₁ t₂) } := by
  have takes : d.TakesInvite ⟨.Invite, sid, sender, closedTo ++ d.selfUsername⟩ :=
    ⟨rfl, room, dash, named, rfl, free⟩
  rw [d.onInvite_taken takes]
  rfl

theorem onInvite_other (d : DirectMessageService) {sid sender name : Bytes}
    (other : name ≠ d.selfUsername) (src : SockaddrIn) (t₁ t₂ : Int) :
    d.onInvite ⟨.Invite, sid, sender, closedTo ++ name⟩ src t₁ t₂ = ⟨d, (), []⟩ := by
  exact d.onInvite_untaken (fun takes => other (List.append_cancel_left takes.payload)) src t₁ t₂

/-! ## End to end -/

/-- **Invitations reach exactly the invited user.** -/
theorem invitation_reaches_invited (u : Bytes) (ip : InAddr) (run : List ClientOp)
    (draw : Fin 0x1000000) (now : Int) (sent : Bool) (target sid : Bytes) :
    let M := clientMachine u ip
    let A := M.exec run
    let call := A.direct.inviteUser A.users draw now sent target
    let name := trimInPlace target
    call.value = some sid →
    ∃ addr line told, A.users.findAddress name = some addr ∧
      call.effects =
        [.sendTo ⟨addr.sinFamily, kUdpPort, addr.sinAddr⟩ line true, .status told] ∧
      (∀ later minInterval maxAge now' sent' dest' line' ok msg,
        let A' := M.exec (run ++ [.inviteUser draw now sent target])
        M.AlongFrom (fun c op => ¬ c.Reopens sid op) A' later →
        .sendTo dest' line' ok ∈ ((later.foldl Client.step A').direct.resendOutgoingPending
          minInterval maxAge now' sent').effects →
        parseSecpLine line' = some msg → msg.room = sid →
        dest' = ⟨addr.sinFamily, kUdpPort, addr.sinAddr⟩ ∧ line' = line) ∧
      ∀ v ip' run' src t₁ t₂,
        let B := (clientMachine v ip').exec run'
        (v = name → B.direct.sessions[sid]? = none →
          B.step (.received line src t₁ t₂) =
            { B with direct.sessions := B.direct.sessions.insert sid (presented sid u src t₁ t₂) }) ∧
        (v ≠ name → B.perform (.received line src t₁ t₂) = (B, [])) := by
  intro M A call name returned
  obtain ⟨drawn, rfl, built, addr, admits⟩ := A.direct.inviteUser_succeeded returned
  obtain ⟨state, -, told, effects⟩ :=
    A.direct.inviteUser_admitted A.users draw now true target admits
  rw [if_neg built] at effects
  have self : A.direct.selfUsername = u := exec_direct_username u ip run
  have line : A.direct.inviteLine draw target =
      buildSecpLine .Invite sid u (closedTo ++ name) := by
    rw [inviteLine, self, drawn]
  have parsed : parseSecpLine (A.direct.inviteLine draw target) =
      some ⟨.Invite, sid, u, closedTo ++ name⟩ := by
    rw [line] at built ⊢
    exact parse_build built
  refine ⟨addr, A.direct.inviteLine draw target, told, admits.known, effects, ?_, ?_⟩
  · intro later minInterval maxAge now' sent' dest' line' ok msg A' along posted parsed' room
    have invites : A'.StillInvites sid name (makeUnicastDest addr kUdpPort) := by
      intro s found pending
      have opened : A'.direct.sessions[sid]? = some (invited draw now target addr) := by
        have step : A' = A.step (.inviteUser draw now true target) := M.exec_snoc _ _
        rw [step, A.step_direct]
        show (A.direct.inviteUser A.users draw now true target).state.sessions[sid]? = _
        rw [state, drawn, Std.ExtTreeMap.getElem?_insert_self]
      obtain rfl := Option.some.inj (opened.symm.trans found)
      exact ⟨rfl, rfl⟩
    have invites' := Machine.AlongFrom.invariant M
      (I := fun c => c.StillInvites sid name (makeUnicastDest addr kUdpPort))
      (fun c op same => Client.step_stillInvites same) along invites
    have self' : (later.foldl Client.step A').direct.selfUsername = u := by
      have whole := M.exec_append (run ++ [.inviteUser draw now true target]) later
      rw [show later.foldl Client.step A' = later.foldl M.next A' from rfl, ← whole]
      exact exec_direct_username u ip _
    obtain ⟨sid', s, found, visit, rfl, rfl, built'⟩ := resendOutgoingPending_line posted
    rw [parse_build built'] at parsed'
    obtain rfl := Option.some.inj parsed'
    subst room
    obtain ⟨peer, dest⟩ := invites' s found (resendVisit_resend_iff.1 visit).1
    exact ⟨dest, by rw [self', peer, line]⟩
  · intro v ip' run' src t₁ t₂ B
    have selfB : B.direct.selfUsername = v := exec_direct_username v ip' run'
    refine ⟨fun here free => ?_, fun other => ?_⟩
    · have fields := fieldsOk_of_parse parsed
      have dash : sid ≠ lit "-" := drawn ▸ makeSessionId_ne_dash draw
      have opened := onInvite_invited B.direct (ne_nil_of_isRoomOk fields.room) dash
        (ne_nil_of_isUsernameOk fields.username) free src t₁ t₂
      rw [← here, ← selfB] at parsed
      show (B.handleDatagram _ src t₁ t₂).1 = _
      rw [B.handleDatagram_invite parsed rfl, opened]
    · show B.handleDatagram _ src t₁ t₂ = _
      rw [B.handleDatagram_invite parsed rfl,
        onInvite_other B.direct (by rw [selfB]; exact other.symm)]

/-- alice invites bob and sends the invitation again after 10 s; bob stores it. -/
theorem invitation_reaches_invited_bob :
    let M := clientMachine (lit "alice") ⟨10, 0, 0, 1⟩
    let alice : SockaddrIn := ⟨AF_INET, kUdpPort, ⟨10, 0, 0, 1⟩⟩
    let bob : SockaddrIn := ⟨AF_INET, kUdpPort, ⟨10, 0, 0, 2⟩⟩
    let run := [.received (lit "PRESENCE|-|bob|10.0.0.2\n") bob 0 0]
    let call := (M.exec run).direct.inviteUser (M.exec run).users 42 (seconds 1) true (lit " bob")
    let resent := ((M.exec (run ++ [.inviteUser 42 (seconds 1) true (lit " bob")])).direct
      |>.resendOutgoingPending (seconds 6) (seconds 45) (seconds 11) fun _ => true).effects
    let there := (clientMachine (lit "bob") ⟨10, 0, 0, 2⟩).exec []
    let s := presented (lit "00002a") (lit "alice") alice 5 6
    ∃ line told, call.effects = [.sendTo bob line true, .status told] ∧
      resent = [.sendTo bob line true] ∧
      there.step (.received line alice 5 6) =
        { there with direct.sessions := there.direct.sessions.insert (lit "00002a") s } := by
  intro M alice bob run call resent there s
  obtain ⟨addr, line, told, known, effects, again, reaches⟩ :=
    invitation_reaches_invited (lit "alice") ⟨10, 0, 0, 1⟩ run 42 (seconds 1) true (lit " bob")
      (lit "00002a") (by decide +kernel)
  obtain rfl : addr = bob := Option.some.inj (known.symm.trans (by decide +kernel))
  refine ⟨line, told, effects, ?_, ?_⟩
  · have once : resent = [.sendTo bob (lit "INVITE|00002a|alice|CLOSED;to=bob\n") true] := by
      decide +kernel
    obtain ⟨-, same⟩ := again [] (seconds 6) (seconds 45) (seconds 11) (fun _ => true) bob
      (lit "INVITE|00002a|alice|CLOSED;to=bob\n") true
      ⟨.Invite, lit "00002a", lit "alice", lit "CLOSED;to=bob"⟩ trivial
      (by show _ ∈ resent; rw [once]; exact List.mem_singleton_self _) (by decide +kernel) rfl
    rw [once, same]
  · exact (reaches (lit "bob") ⟨10, 0, 0, 2⟩ [] alice 5 6).1 (by decide +kernel) (by decide +kernel)

/-- The id is drawn again once the first session has expired: the later datagram goes to
another user. -/
theorem reused_id_invites_another :
    let M := clientMachine (lit "alice") ⟨10, 0, 0, 1⟩
    let bob : SockaddrIn := ⟨AF_INET, kUdpPort, ⟨10, 0, 0, 2⟩⟩
    let carol : SockaddrIn := ⟨AF_INET, kUdpPort, ⟨10, 0, 0, 3⟩⟩
    let resend (now : Int) :=
      ClientOp.resendOutgoingPending (seconds 6) (seconds 45) now fun _ => true
    let run := [.received (lit "PRESENCE|-|bob|10.0.0.2\n") bob 0 0]
    let later := [resend (seconds 50),
      .received (lit "PRESENCE|-|carol|10.0.0.3\n") carol (seconds 51) (seconds 51),
      .inviteUser 42 (seconds 52) true (lit "carol")]
    let call := (M.exec run).direct.inviteUser (M.exec run).users 42 (seconds 1) true (lit "bob")
    call.value = some (lit "00002a") ∧
      call.effects.head? =
        some (.sendTo bob (lit "INVITE|00002a|alice|CLOSED;to=bob\n") true) ∧
      (M.exec (run ++ .inviteUser 42 (seconds 1) true (lit "bob") :: later)).effects
          (resend (seconds 60)) =
        [.sendTo carol (lit "INVITE|00002a|alice|CLOSED;to=carol\n") true] := by
  decide +kernel

end SecpChat
