import SecpChat.App.Fidelity

/-!
# Who can be seen

`main` admits any username that is not blank; the encoder, the parser and `on_presence`
each have conditions of their own. A client whose presence they let through is stored by
every other client under its name and address, and can be invited (`visible_of_valid`).
The name that a client can be seen under is one that SECP carries.
-/

namespace SecpChat

open Runs DirectMessageService

/-- `main` up to the start of the threads; `none` where it exits over the username. -/
def Client.login (arg : Bytes) (localIp : InAddr) : Option Client :=
  let username := trimInPlace arg
  if username = [] then none else some (.init username localIp)

/-! ## The dotted quad -/

theorem octetDigits_spec (n : UInt8) :
    (octetDigits n).length ≤ 3 ∧ ∀ b ∈ octetDigits n, 48 ≤ b ∧ b ≤ 57 := by
  have all : ∀ n : Fin 256, (octetDigits (UInt8.ofFin n)).length ≤ 3 ∧
      (octetDigits (UInt8.ofFin n)).all (fun b => 48 ≤ b && b ≤ 57) = true := by decide +kernel
  obtain ⟨length, digits⟩ := all n.toFin
  exact ⟨length, by simpa using digits⟩

theorem mem_inetNtop {addr : InAddr} {b : UInt8} (h : b ∈ inetNtop addr) : 46 ≤ b ∧ b ≤ 57 := by
  simp only [inetNtop, List.mem_append, List.mem_cons] at h
  have digit {n : UInt8} (hb : b ∈ octetDigits n) : 46 ≤ b ∧ b ≤ 57 := by
    obtain ⟨lo, hi⟩ := (octetDigits_spec n).2 b hb
    exact ⟨UInt8.le_trans (by decide : (46 : UInt8) ≤ 48) lo, hi⟩
  rcases h with h | rfl | h | rfl | h | rfl | h
  · exact digit h
  · decide
  · exact digit h
  · decide
  · exact digit h
  · decide
  · exact digit h

/-- SECP can carry an address. -/
theorem isPayloadOk_inetNtop (addr : InAddr) : isPayloadOk (inetNtop addr) = true := by
  refine isPayloadOk_iff.2 ⟨⟨Utf8.wellFormed_ascii fun b hb => ?_, fun b hb => ?_⟩, ?_⟩
  · have hi := UInt8.le_iff_toNat_le.1 (mem_inetNtop hb).2
    exact le_trans hi (by decide)
  · obtain ⟨lo, hi⟩ := mem_inetNtop hb
    simp only [UInt8.le_iff_toNat_le, UInt8.reduceToNat] at lo hi
    refine ⟨?_, ?_, ?_⟩ <;> rintro rfl <;> simp at lo hi
  · have a := (octetDigits_spec addr.a).1
    have b := (octetDigits_spec addr.b).1
    have c := (octetDigits_spec addr.c).1
    have d := (octetDigits_spec addr.d).1
    simp only [inetNtop, List.length_append, List.length_cons]
    omega

/-! ## A presence that is heard -/

/-- `on_presence` of the client stores the user at its address, and as long as the entry is not
stale `invite_user` opens a session there. -/
structure Client.Finds (c : Client) (line username : Bytes) (src : SockaddrIn) (t₁ : Int) :
    Prop where
  parsed : parseSecpLine line = some ⟨.Presence, lit "-", username, inetNtop src.sinAddr⟩
  stored : (DiscoveryService.onPresence c.users username (inetNtop src.sinAddr) src
    t₁).findAddress username = some src
  invited : ∀ t₂, t₂ - t₁ ≤ kDiscoveryPeerStaleAge →
    let heard := c.step (.received line src t₁ t₂)
    heard.users.findAddress username = some src ∧
      ∀ draw now sent, heard.direct.sessions[makeSessionId draw]? = none →
        ∃ s, (heard.direct.inviteUser heard.users draw now sent username).state.sessions[
            makeSessionId draw]? = some s ∧
          s.peerUsername = username ∧ s.peerAddr = makeUnicastDest src kUdpPort

/-- The client's presence is a line, and every other client that receives it from the client's
address finds the client. -/
def Client.Visible (me : Client) : Prop :=
  ∀ sent, ∃ line, me.effects (.sendPresence sent) = [.sendTo broadcastDest line sent] ∧
    ∀ you ip run src t₁, you ≠ me.username → src.sinAddr = me.discovery.ipv4 →
      ((clientMachine you ip).exec run).Finds line me.username src t₁

section Heard

variable {you username line : Bytes} {ip : InAddr} {run : List ClientOp} {src : SockaddrIn}

/-- A presence under another name, with the address it is received from, is accepted. -/
theorem presenceOf_eq_some
    (parsed : parseSecpLine line = some ⟨.Presence, lit "-", username, inetNtop src.sinAddr⟩)
    (other : you ≠ username) : presenceOf you line src = some username := by
  simp [presenceOf, parsed, other.symm]

theorem finds_of_parsed
    (parsed : parseSecpLine line = some ⟨.Presence, lit "-", username, inetNtop src.sinAddr⟩)
    (own : trimInPlace username = username) (other : you ≠ username) (t₁ : Int) :
    ((clientMachine you ip).exec run).Finds line username src t₁ := by
  let c := (clientMachine you ip).exec run
  have named : c.users.selfUsername = you := by
    rw [show c.users = _ from exec_users you ip run]
    exact (Expiry.exec_eq_of_simulates (directory_simulates you) _).1
  have valid : isUsernameOk username = true := (fieldsOk_of_parse parsed).username
  have accepted := UserDirectory.step_presence named line src t₁
  rw [presenceOf_eq_some parsed other, Option.elim_some] at accepted
  have heard : DiscoveryService.onPresence c.users username (inetNtop src.sinAddr) src t₁ =
      { c.users with peers := c.users.peers.insert username ⟨username, src, t₁⟩ } := by
    rw [← accepted]
    simp [UserDirectory.step, parsed]
  refine ⟨parsed, ?_, fun t₂ fresh => ?_⟩
  · rw [show ((clientMachine you ip).exec run).users = c.users from rfl, heard]
    simp [UserDirectory.findAddress]
  intro after
  have known : after.users.findAddress username = some src := by
    have users : after.users = (c.users.step (.presence line src t₁)).step (.prune t₂) := by
      rw [show after.users = _ from c.step_users (.received line src t₁ t₂)]
      simp [ClientOp.directory, parsed]
    have kept : t₂ ≤ kDiscoveryPeerStaleAge + t₁ := by omega
    rw [users, accepted]
    simp [UserDirectory.step, DiscoveryService.pruneStalePeers, UserDirectory.pruneStale,
      UserDirectory.findAddress, kept]
  refine ⟨known, fun draw now sent free => ?_⟩
  have self : after.direct.selfUsername = you := by
    have step : after = (clientMachine you ip).exec (run ++ [.received line src t₁ t₂]) :=
      (Machine.exec_snoc (clientMachine you ip) run _).symm
    rw [step]
    exact exec_direct_username you ip _
  have admits : after.direct.Admits after.users draw username src := by
    constructor
    · rw [own]
      exact ne_nil_of_isUsernameOk valid
    · rw [own]
      exact (isUsernameOk_iff.1 valid).2.2
    · rw [own, self]
      exact other.symm
    · rw [own]
      exact known
    · exact free
  refine ⟨DirectMessageService.invited draw now username src, ?_, own, rfl⟩
  rw [(after.direct.inviteUser_admitted after.users draw now sent username admits).1,
    Std.ExtTreeMap.getElem?_insert_self]

end Heard

/-- **A valid name is visible.** -/
theorem visible_of_valid {username : Bytes} {localIp : InAddr}
    (valid : isUsernameOk username = true) (own : trimInPlace username = username) :
    (Client.init username localIp).Visible := by
  intro sent
  let line := buildSecpLine .Presence (lit "-") username (inetNtop localIp)
  have dash : isRoomOk (lit "-") = true := isRoomOk_iff.2 ⟨fieldText_dash, by decide +kernel⟩
  have built : line ≠ [] :=
    buildSecpLine_ne_nil_iff.2 ⟨nofun, dash, valid, isPayloadOk_inetNtop localIp⟩
  refine ⟨line, ?_, fun you ip run src t₁ other same => ?_⟩
  · have ready : (username != []) = true := by simpa using ne_nil_of_isUsernameOk valid
    simp only [Client.effects, Client.perform, Client.init, DiscoveryService.sendPresenceBroadcast,
      DiscoveryService.setIdentity, ready]
    exact congrArg Prod.snd (if_neg built)
  · refine finds_of_parsed ?_ own other t₁
    rw [same]
    exact parse_build built

/-- Where no line can be built, none is sent. -/
theorem sendPresence_of_unbuilt {username : Bytes} {localIp : InAddr} {sent : Bool}
    (unbuilt : buildSecpLine .Presence (lit "-") username (inetNtop localIp) = []) :
    (Client.init username localIp).effects (.sendPresence sent) = [] := by
  simp [Client.effects, Client.perform, Client.init, DiscoveryService.sendPresenceBroadcast,
    DiscoveryService.setIdentity, unbuilt]

/-- **Who logs in is visible exactly when SECP can carry the name.** -/
theorem login_visible_iff (arg : Bytes) (localIp : InAddr) (me : Client)
    (admitted : Client.login arg localIp = some me) :
    me.username = trimInPlace arg ∧
      (me.Visible ↔ FieldText (trimInPlace arg) ∧ (trimInPlace arg).length ≤ 32) := by
  unfold Client.login at admitted
  simp only at admitted
  split at admitted
  · cases admitted
  next nonempty =>
  cases admitted
  refine ⟨rfl, ?_⟩
  have lower : 1 ≤ (trimInPlace arg).length := List.length_pos_iff.2 nonempty
  constructor
  · intro visible
    obtain ⟨line, sends, -⟩ := visible true
    have built : buildSecpLine .Presence (lit "-") (trimInPlace arg) (inetNtop localIp) ≠ [] := by
      intro unbuilt
      rw [sendPresence_of_unbuilt unbuilt] at sends
      cases sends
    obtain ⟨text, -, upper⟩ := isUsernameOk_iff.1 (buildSecpLine_ne_nil_iff.1 built).username
    exact ⟨text, upper⟩
  · rintro ⟨text, upper⟩
    exact visible_of_valid (isUsernameOk_iff.2 ⟨text, lower, upper⟩) (trimInPlace_trimInPlace arg)

/-- alice logs in with blanks around her name. -/
theorem login_visible_iff_alice :
    ∃ me, Client.login (lit " alice ") ⟨10, 0, 0, 1⟩ = some me ∧ me.username = lit "alice" ∧
      me.Visible := by
  have admitted : Client.login (lit " alice ") ⟨10, 0, 0, 1⟩ =
      some (.init (lit "alice") ⟨10, 0, 0, 1⟩) := by
    have trimmed : trimInPlace (lit " alice ") = lit "alice" := by decide +kernel
    have nonempty : lit "alice" ≠ [] := by decide +kernel
    rw [Client.login, trimmed]
    exact if_neg nonempty
  obtain ⟨-, visible⟩ := login_visible_iff (lit " alice ") ⟨10, 0, 0, 1⟩ _ admitted
  refine ⟨_, admitted, rfl, visible.2 (fieldText_iff.1 ?_ |> fun text => ⟨text, ?_⟩)⟩
  · decide +kernel
  · decide +kernel

/-- A name of 33 letters logs in, and its client sends no presence at all. -/
theorem long_name_never_seen :
    let arg := List.replicate 33 97
    ∃ me, Client.login arg ⟨10, 0, 0, 1⟩ = some me ∧ me.username = arg ∧
      (∀ sent, me.effects (.sendPresence sent) = []) ∧ ¬ me.Visible := by
  intro arg
  have trimmed : trimInPlace arg = arg := by decide +kernel
  have nonempty : arg ≠ [] := by decide +kernel
  have unbuilt : buildSecpLine .Presence (lit "-") arg (inetNtop ⟨10, 0, 0, 1⟩) = [] := by
    decide +kernel
  have silent (sent : Bool) :
      (Client.init arg ⟨10, 0, 0, 1⟩).effects (.sendPresence sent) = [] :=
    sendPresence_of_unbuilt unbuilt
  refine ⟨.init arg ⟨10, 0, 0, 1⟩, ?_, rfl, silent, fun visible => ?_⟩
  · rw [Client.login, trimmed]
    exact if_neg nonempty
  · obtain ⟨line, sends, -⟩ := visible true
    rw [silent] at sends
    cases sends

end SecpChat
