import SecpChat.App.Menu
import SecpChat.App.Origin

/-!
# Chat fidelity

A line of text goes through the trim of the menu, that of the service, the encoder, the
parser, the dispatch and one of three handlers. Trimming is idempotent and the parser
inverts the encoder, so what is left is what each handler demands of the message
(`handled_lobby`, `handled_group`, `handled_private`), and that the senders' own checks
imply it.
-/

namespace SecpChat

open Runs DirectMessageService

theorem trimInPlace_trimInPlace (s : Bytes) : trimInPlace (trimInPlace s) = trimInPlace s :=
  Delimited.trim_trim isTrailingBlank isLeadingBlank s

/-- The three channels of a CHAT, by the callbacks they invoke. -/
inductive ChatChannel where
  | lobby | group | direct
  deriving DecidableEq, Repr

def Effect.isOn : ChatChannel → Effect → Bool
  | .lobby, .lobbyMessage _ _ => true
  | .group, .groupMessage _ _ _ => true
  | .direct, .privateMessage _ _ _ => true
  | _, _ => false

/-! ## What a client hears -/

/-- What each callback is invoked with, on a CHAT. -/
theorem handled_on (c : Client) {bytes : Bytes} {msg : SecpMessage}
    (parsed : parseSecpLine bytes = some msg) (type : msg.type = .Chat) (src : SockaddrIn)
    (t₁ t₂ : Int) :
    let effects := (c.handleDatagram bytes src t₁ t₂).2
    effects.filter (Effect.isOn .lobby) =
      (if msg.room = usnChat then LobbyService.onLobbyChat msg.username msg.payload else []) ∧
    effects.filter (Effect.isOn .group) = (c.groups.onRoomChat msg).effects ∧
    effects.filter (Effect.isOn .direct) = (c.direct.onRoomChat msg src t₁).effects := by
  intro effects
  have all : effects = _ := congrArg Prod.snd (c.handleDatagram_chat parsed type src t₁ t₂)
  simp only [all, List.filter_append]
  have lobby : (if msg.room = usnChat then LobbyService.onLobbyChat msg.username msg.payload
      else []) = [] ∨ ∃ sender text, (if msg.room = usnChat then
        LobbyService.onLobbyChat msg.username msg.payload else []) = [.lobbyMessage sender text] := by
    unfold LobbyService.onLobbyChat
    repeat' split
    all_goals simp
  have group : (c.groups.onRoomChat msg).effects = [] ∨ ∃ room sender text,
      (c.groups.onRoomChat msg).effects = [.groupMessage room sender text] := by
    rcases c.groups.onRoomChat_effects msg with none | ⟨-, -, one⟩
    · exact .inl none
    · exact .inr ⟨_, _, _, one⟩
  have direct : (c.direct.onRoomChat msg src t₁).effects = [] ∨ ∃ sid sender text,
      (c.direct.onRoomChat msg src t₁).effects = [.privateMessage sid sender text] := by
    rcases c.direct.onRoomChat_cases msg src t₁ with ⟨s, s', -, -, -, -, delivers⟩ | ⟨-, ignored⟩
    · exact .inr ⟨_, _, _, by rw [delivers]⟩
    · exact .inl (by rw [ignored])
  generalize (if msg.room = usnChat then LobbyService.onLobbyChat msg.username msg.payload
    else []) = heardInLobby at lobby ⊢
  generalize (c.groups.onRoomChat msg).effects = heardInGroup at group ⊢
  generalize (c.direct.onRoomChat msg src t₁).effects = heardInPrivate at direct ⊢
  rcases lobby with rfl | ⟨_, _, rfl⟩ <;> rcases group with rfl | ⟨_, _, _, rfl⟩ <;>
    rcases direct with rfl | ⟨_, _, _, rfl⟩ <;> exact ⟨rfl, rfl, rfl⟩

/-! ## What a successful send has sent -/

theorem sendChat_sent {sent : Bool} {username text : Bytes}
    (ok : (LobbyService.sendChat sent username text).1 = true) :
    let u := trimInPlace username
    let t := trimInPlace text
    t ≠ [] ∧ t.length ≤ kMaxChatMessageBytes ∧
      LobbyService.onLobbyChat u t = [.lobbyMessage u t] ∧
      ∃ line, (LobbyService.sendChat sent username text).2 = [.sendTo broadcastDest line true] ∧
        parseSecpLine line = some ⟨.Chat, usnChat, u, t⟩ := by
  rcases LobbyService.sendChat_cases sent username text with
    fails | ⟨nonempty, short, heard, built, sends⟩
  · rw [fails] at ok
    cases ok
  · rw [sends] at ok
    obtain rfl : sent = true := ok
    rw [sends]
    exact ⟨nonempty, short, heard, _, rfl, parse_build built⟩

theorem sendGroupChat_sent {g : GroupRoomCoordinator} {sent : Bool} {text : Bytes}
    (ok : (g.sendGroupChat sent text).value = true) :
    let t := trimInPlace text
    t ≠ [] ∧ t.length ≤ kMaxChatMessageBytes ∧ g.hasActiveMembership = true ∧
      g.activeRoomName ≠ [] ∧ ∃ line,
        (g.sendGroupChat sent text).effects =
          [.sendTo ⟨AF_INET, g.joinedPort, g.joinedGroup⟩ line true] ∧
        parseSecpLine line = some ⟨.Chat, g.activeRoomName, g.username, t⟩ := by
  rcases g.sendGroupChat_cases sent text with
    fails | ⟨nonempty, short, active, socket, built, sends⟩
  · rw [fails] at ok
    cases ok
  · rw [sends] at ok
    obtain rfl : sent = true := ok
    have joined : g.hasActiveMembership = true := by
      simp [GroupRoomCoordinator.hasActiveMembership, active, Option.isSome_iff_ne_none, socket]
    rw [sends]
    exact ⟨nonempty, short, joined, active, _, rfl, parse_build built⟩

theorem sendPrivateChat_sent {d : DirectMessageService} {sent : Bool} {sid text : Bytes}
    (ok : (d.sendPrivateChat sent sid text).value = true) :
    let t := trimInPlace text
    t ≠ [] ∧ t.length ≤ kMaxChatMessageBytes ∧ ∃ s line,
      d.sessions[trimInPlace sid]? = some s ∧ s.state = .Active ∧
      (d.sendPrivateChat sent sid text).effects = [.sendTo s.peerAddr line true] ∧
      parseSecpLine line = some ⟨.Chat, trimInPlace sid, d.selfUsername, t⟩ := by
  rcases d.sendPrivateChat_cases sent sid text with
    fails | ⟨nonempty, short, built, s, found, active, sends⟩
  · rw [fails] at ok
    cases ok
  · rw [sends] at ok
    obtain rfl : sent = true := ok
    rw [sends]
    exact ⟨nonempty, short, s, _, found, active, rfl, parse_build built⟩

/-! ## What is heard of a line -/

/-- The invocations of a channel's callback when a datagram is processed. -/
def Client.hears (c : Client) (channel : ChatChannel) (line : Bytes) (src : SockaddrIn)
    (t₁ t₂ : Int) : List Effect :=
  (c.effects (.received line src t₁ t₂)).filter (Effect.isOn channel)

section Hears

variable (c : Client) {line sender text room sid : Bytes} (src : SockaddrIn) (t₁ t₂ : Int)

/-- A room is heard by whoever is in it, its own sender apart. -/
theorem hears_group (parsed : parseSecpLine line = some ⟨.Chat, room, sender, text⟩)
    (named : room ≠ []) (nonempty : text ≠ []) :
    c.hears .group line src t₁ t₂ =
      if c.groups.activeRoomId = some room ∧ sender ≠ c.groups.username then
        [.groupMessage room sender text]
      else [] := by
  have username : sender ≠ [] := ne_nil_of_isUsernameOk (fieldsOk_of_parse parsed).username
  have heard : c.hears .group line src t₁ t₂ = _ := (handled_on c parsed rfl src t₁ t₂).2.1
  rw [heard, GroupRoomCoordinator.onRoomChat, GroupRoomCoordinator.activeRoomId]
  by_cases idle : c.groups.activeRoomName = []
  · simp [idle]
  by_cases here : room = c.groups.activeRoomName
  · subst here
    by_cases self : sender = c.groups.username
    · simp [idle, self]
    · simp [idle, self, username, nonempty]
  · simp [idle, here, Ne.symm here]

/-- A private line is heard in the open session that is bound to its sender. -/
theorem hears_private (parsed : parseSecpLine line = some ⟨.Chat, sid, sender, text⟩)
    (nonempty : text ≠ []) (dash : sid ≠ lit "-") {s : Session}
    (found : c.direct.sessions[sid]? = some s) (opened : s.state ≠ .IncomingPending)
    (peer : s.peerUsername = sender) (address : s.peerAddr = makeUnicastDest src kUdpPort) :
    c.hears .direct line src t₁ t₂ = [.privateMessage sid sender text] := by
  have username : sender ≠ [] := ne_nil_of_isUsernameOk (fieldsOk_of_parse parsed).username
  have room : sid ≠ [] := ne_nil_of_isRoomOk (fieldsOk_of_parse parsed).room
  have takes : Takes s ⟨.Chat, sid, sender, text⟩ src :=
    ⟨rfl, by simp [room, dash, username, nonempty], address, fun _ => peer.symm, opened⟩
  have heard : c.hears .direct line src t₁ t₂ = _ := (handled_on c parsed rfl src t₁ t₂).2.2
  rcases c.direct.onRoomChat_cases ⟨.Chat, sid, sender, text⟩ src t₁ with
    ⟨s', s'', found', -, -, -, delivers⟩ | ⟨none, -⟩
  · obtain rfl : s = s' := Option.some.inj (found.symm.trans found')
    rw [heard, delivers, peer, if_neg username]
  · exact (none s found takes).elim

end Hears

/-! ## End to end -/

/-- **Chat fidelity.** What a successful send of a typed line hands to the socket invokes the
channel's callback once, with the sender's name and the text that the sender's menu echoes.
`recv_from` fails on a source that is not `AF_INET`, hence `inet` and `srcInet`. -/
theorem chat_fidelity (u v : Bytes) (ip ip' : InAddr) (run run' : List ClientOp)
    (trimmed : trimInPlace u = u) (different : v ≠ u)
    (inet : ∀ bytes src t₁ t₂, .received bytes src t₁ t₂ ∈ run' → src.sinFamily = AF_INET)
    (raw : Bytes) (src : SockaddrIn) (srcInet : src.sinFamily = AF_INET) (t₁ t₂ : Int)
    (sent : Bool) :
    let sender := (clientMachine u ip).exec run
    let receiver := (clientMachine v ip').exec run'
    let typed := trimInPlace raw
    ((LobbyService.sendChat sent sender.username typed).1 = true →
      (sender.promptLobbyMessage sent [raw]).printed =
        [.line (lit "[USN Chat] " ++ u ++ lit ": " ++ typed)] ∧
      ∃ line, (LobbyService.sendChat sent sender.username typed).2 =
          [.sendTo broadcastDest line true] ∧
        receiver.hears .lobby line src t₁ t₂ = [.lobbyMessage u typed]) ∧
    ((sender.groups.sendGroupChat sent typed).value = true →
      ∃ room line, sender.groups.activeRoomId = some room ∧
        (sender.promptGroupChat sent [raw]).printed =
          [.line (lit "[Gruppe " ++ room ++ lit "] " ++ u ++ lit ": " ++ typed)] ∧
        (sender.groups.sendGroupChat sent typed).effects =
          [.sendTo ⟨AF_INET, sender.groups.joinedPort, sender.groups.joinedGroup⟩ line true] ∧
        receiver.hears .group line src t₁ t₂ =
          (if receiver.groups.activeRoomId = some room then [.groupMessage room u typed] else []) ∧
        ∀ later, ((clientMachine u ip).exec (run ++ later)).hears .group line src t₁ t₂ = []) ∧
    ∀ sid, (sender.direct.sendPrivateChat sent sid typed).value = true →
      (sender.choosePrivate sent [sid, raw]).printed =
        Client.printActive sender.direct.snapshotActiveSessions ++
          [.line (lit "[Privat " ++ trimInPlace sid ++ lit "] " ++ u ++ lit ": " ++ typed)] ∧
      ∃ dest line, (sender.direct.sendPrivateChat sent sid typed).effects =
          [.sendTo dest line true] ∧
        ∀ s, receiver.direct.sessions[trimInPlace sid]? = some s →
          s.state = .OutgoingPending ∨ s.state = .Active → s.peerUsername = u →
          s.peerAddr.sinAddr = src.sinAddr →
          receiver.hears .direct line src t₁ t₂ =
            [.privateMessage (trimInPlace sid) u typed] := by
  intro sender receiver typed
  have once : trimInPlace typed = typed := trimInPlace_trimInPlace raw
  have senderName : sender.username = u := exec_username u ip run
  refine ⟨fun ok => ?_, fun ok => ?_, fun sid ok => ?_⟩
  · obtain ⟨nonempty, short, heard, line, effects, parsed⟩ := sendChat_sent ok
    rw [senderName, trimmed, once] at parsed heard
    rw [once] at nonempty short
    refine ⟨?_, line, effects, ?_⟩
    · show (sender.reply (sender.onLobbyMessage sent typed) []).printed = _
      rw [Client.onLobbyMessage, if_neg nonempty, if_neg (not_lt.2 short), ok, senderName]
      rfl
    · refine (handled_on receiver parsed rfl src t₁ t₂).1.trans ?_
      rw [if_pos rfl]
      exact heard
  · obtain ⟨nonempty, short, member, named, line, effects, parsed⟩ := sendGroupChat_sent ok
    rw [show sender.groups.username = u from exec_groups_username u ip run, once] at parsed
    rw [once] at nonempty short
    have active : sender.groups.activeRoomId = some sender.groups.activeRoomName := by
      simp [GroupRoomCoordinator.activeRoomId, named]
    refine ⟨sender.groups.activeRoomName, line, active, ?_, effects, ?_, fun later => ?_⟩
    · rw [Client.promptGroupChat, if_neg (by simp [member])]
      show (sender.reply (sender.onGroupChat sent typed) []).printed = _
      rw [Client.onGroupChat, if_neg nonempty, if_neg (not_lt.2 short), active, ok, senderName]
      rfl
    · rw [hears_group receiver src t₁ t₂ parsed named nonempty,
        show receiver.groups.username = v from exec_groups_username v ip' run']
      simp [different.symm]
    · rw [hears_group _ src t₁ t₂ parsed named nonempty, exec_groups_username]
      simp
  · obtain ⟨nonempty, short, s, line, found, active, effects, parsed⟩ := sendPrivateChat_sent ok
    rw [show sender.direct.selfUsername = u from exec_direct_username u ip run, once] at parsed
    rw [once] at nonempty short
    obtain ⟨-, long, fits⟩ := isRoomOk_iff.1 (fieldsOk_of_parse parsed).room
    refine ⟨?_, s.peerAddr, line, effects, fun s' held opened peer address => ?_⟩
    · have entry : (⟨trimInPlace sid, s.peerUsername, inetNtop s.peerAddr.sinAddr⟩ :
          ActiveDirectSessionInfo) ∈ sender.direct.snapshotActiveSessions :=
        mem_snapshotActiveSessions.2 ⟨s, found, active, rfl⟩
      have listed := List.ne_nil_of_mem entry
      have called : sender.direct.sendPrivateChat sent (trimInPlace sid) typed =
          sender.direct.sendPrivateChat sent sid typed := by
        simp only [sendPrivateChat, trimInPlace_trimInPlace]
      have some_ : trimInPlace sid ≠ [] := List.length_pos_iff.1 long
      have taken : Client.sessionRefused (trimInPlace sid) = none := by
        rw [Client.sessionRefused, if_neg some_, if_neg (not_lt.2 fits)]
      simp only [Client.choosePrivate]
      rw [if_neg listed, taken]
      show _ ++ (sender.reply (sender.onPrivateText sent (trimInPlace sid) typed) []).printed = _
      rw [Client.onPrivateText, if_neg nonempty, if_neg (not_lt.2 short), called, ok, senderName]
      rfl
    · have bound : s'.peerAddr = makeUnicastDest src kUdpPort := by
        obtain ⟨bytes, src', t₁, t₂, got, same⟩ := (session_origin v ip' run' _ s' held).received
        rw [same] at address ⊢
        have family := inet bytes src' t₁ t₂ got
        simp only [makeUnicastDest] at address ⊢
        rw [SockaddrIn.mk.injEq]
        exact ⟨family.trans srcInet.symm, rfl, address⟩
      have dash : trimInPlace sid ≠ lit "-" := by
        intro same
        obtain ⟨ops, run⟩ := exec_direct v ip' run'
        rw [show receiver.direct = _ from run, same, exec_no_dash v ops] at held
        cases held
      have open_ : s'.state ≠ .IncomingPending := by
        rcases opened with h | h <;> simp [h]
      exact hears_private receiver src t₁ t₂ parsed nonempty dash held open_ peer bound

/-- alice has created the room r1 and bob has joined it: what she types is shown at bob's. -/
theorem chat_fidelity_alice_bob :
    let calls : ChannelCalls := ⟨true, some 4, true, true, true, true, true, true⟩
    let src : SockaddrIn := ⟨AF_INET, kUdpPort, ⟨10, 0, 0, 1⟩⟩
    let created := [.createRoom calls true (lit "r1")]
    let joined := [.received (lit "ROOM_ANNOUNCE|r1|alice|OPEN\n") src (seconds 2) (seconds 2),
      .joinRoom (seconds 3) calls (lit "r1")]
    let alice := (clientMachine (lit "alice") ⟨10, 0, 0, 1⟩).exec created
    let bob := (clientMachine (lit "bob") ⟨10, 0, 0, 2⟩).exec joined
    (alice.promptGroupChat true [lit " hei \r"]).printed =
        [.line (lit "[Gruppe r1] alice: hei")] ∧
      ∃ line, (alice.groups.sendGroupChat true (lit "hei")).effects =
          [.sendTo ⟨AF_INET, kUdpPort, ⟨239, 0, 0, 1⟩⟩ line true] ∧
        bob.hears .group line src 0 0 = [.groupMessage (lit "r1") (lit "alice") (lit "hei")] := by
  intro calls src created joined alice bob
  have inet : ∀ bytes src t₁ t₂, .received bytes src t₁ t₂ ∈ joined → src.sinFamily = AF_INET := by
    intro bytes src' t₁ t₂ got
    simp only [joined, List.mem_cons, ClientOp.received.injEq, reduceCtorEq, List.not_mem_nil,
      or_false] at got
    rw [got.2.1]
  have typed : trimInPlace (lit " hei \r") = lit "hei" := by decide +kernel
  obtain ⟨-, group, -⟩ := chat_fidelity (lit "alice") (lit "bob") ⟨10, 0, 0, 1⟩ ⟨10, 0, 0, 2⟩ created
    joined (by decide +kernel) (by decide +kernel) inet (lit " hei \r") src rfl 0 0 true
  rw [typed] at group
  obtain ⟨room, line, active, printed, effects, heard, -⟩ := group (by decide +kernel)
  have named : room = lit "r1" :=
    (Option.some.inj (active.symm.trans (by decide +kernel : _ = some (lit "r1"))))
  subst named
  have there : bob.groups.activeRoomId = some (lit "r1") := by decide +kernel
  rw [if_pos there] at heard
  have port : alice.groups.joinedPort = kUdpPort := by decide +kernel
  have address : alice.groups.joinedGroup = ⟨239, 0, 0, 1⟩ := by decide +kernel
  refine ⟨printed.trans (by decide +kernel), line, ?_, heard⟩
  rw [effects, ← port, ← address]

end SecpChat
