import SecpChat.App.Host
import SecpChat.System.Channels
import SecpChat.System.Lan

/-!
# Who said what is shown, and whose rooms are listed

A message that a client shows carries the name of the client that typed it, and the text
as typed, blanks at its ends apart. The three channels share one name space of rooms, so
each may show what was said in another one under the same name, and nothing else
(`shown_was_said`). A listed room was announced by a client that owned it and was in it
(`listed_was_owned`).
-/

namespace SecpChat

open Runs Expiry

/-! ## What a client shows of a datagram -/

/-- Only a CHAT is shown. -/
theorem exists_chat_of_shown {c : Client} {bytes : Bytes} {src : SockaddrIn} {t₁ t₂ : Int}
    {e : Effect} (shown : e ∈ c.effects (.received bytes src t₁ t₂)) (channel : ChatChannel)
    (on : e.isOn channel = true) :
    ∃ msg, parseSecpLine bytes = some msg ∧ msg.type = .Chat ∧
      e ∈ (c.handleDatagram bytes src t₁ t₂).2.filter (Effect.isOn channel) := by
  have kept : e ∈ (c.handleDatagram bytes src t₁ t₂).2.filter (Effect.isOn channel) :=
    List.mem_filter.2 ⟨shown, on⟩
  cases parsed : parseSecpLine bytes with
  | none => simp [c.handleDatagram_none parsed] at kept
  | some msg =>
    by_cases type : msg.type = .Chat
    · exact ⟨msg, rfl, type, kept⟩
    · have silent := Host.handleDatagram_silent c parsed type src t₁ t₂ channel
      rw [List.countP_eq_zero] at silent
      exact (silent e shown on).elim

theorem lobbyMessage_shown {c : Client} {bytes sender text : Bytes} {src : SockaddrIn}
    {t₁ t₂ : Int} (shown : .lobbyMessage sender text ∈ c.effects (.received bytes src t₁ t₂)) :
    parseSecpLine bytes = some ⟨.Chat, usnChat, sender, text⟩ ∧ text ≠ [] := by
  obtain ⟨⟨type, room, username, payload⟩, parsed, rfl, kept⟩ :=
    exists_chat_of_shown shown .lobby rfl
  rw [(handled_on c parsed rfl src t₁ t₂).1] at kept
  split at kept
  next lobby =>
    obtain rfl : room = usnChat := lobby
    unfold LobbyService.onLobbyChat at kept
    split at kept
    · cases kept
    next nonempty =>
    split at kept
    · cases kept
    rw [List.mem_singleton, Effect.lobbyMessage.injEq] at kept
    obtain ⟨rfl, rfl⟩ := kept
    exact ⟨parsed, (not_or.1 nonempty).2⟩
  · cases kept

theorem groupMessage_shown {c : Client} {bytes room sender text : Bytes} {src : SockaddrIn}
    {t₁ t₂ : Int} (shown : .groupMessage room sender text ∈ c.effects (.received bytes src t₁ t₂)) :
    parseSecpLine bytes = some ⟨.Chat, room, sender, text⟩ ∧ text ≠ [] ∧
      c.groups.activeRoomName = room ∧ sender ≠ c.groups.username := by
  obtain ⟨⟨type, name, username, payload⟩, parsed, rfl, kept⟩ :=
    exists_chat_of_shown shown .group rfl
  rw [(handled_on c parsed rfl src t₁ t₂).2.1] at kept
  unfold GroupRoomCoordinator.onRoomChat at kept
  simp only [ne_eq, not_true_eq_false, if_false] at kept
  split at kept
  · cases kept
  split at kept
  · cases kept
  next same =>
  split at kept
  · cases kept
  next nonempty =>
  split at kept
  · cases kept
  next other =>
  rw [List.mem_singleton, Effect.groupMessage.injEq] at kept
  obtain ⟨rfl, rfl, rfl⟩ := kept
  rw [not_not.1 same] at parsed
  exact ⟨parsed, (not_or.1 nonempty).2, rfl, other⟩

theorem privateMessage_shown {c : Client} {bytes sid sender text : Bytes} {src : SockaddrIn}
    {t₁ t₂ : Int} (shown : .privateMessage sid sender text ∈ c.effects (.received bytes src t₁ t₂)) :
    parseSecpLine bytes = some ⟨.Chat, sid, sender, text⟩ ∧ text ≠ [] ∧
      ∃ s, c.direct.sessions[sid]? = some s ∧
        DirectMessageService.Takes s ⟨.Chat, sid, sender, text⟩ src := by
  obtain ⟨⟨type, room, username, payload⟩, parsed, rfl, kept⟩ :=
    exists_chat_of_shown shown .direct rfl
  rw [(handled_on c parsed rfl src t₁ t₂).2.2] at kept
  obtain ⟨s, found, takes, same⟩ := c.direct.mem_onRoomChat.1 kept
  have named : (if s.peerUsername = [] then username else s.peerUsername) = username := by
    split
    · rfl
    next named => exact (takes.named named).symm
  simp only [named, Effect.privateMessage.injEq] at same
  obtain ⟨rfl, rfl, rfl⟩ := same
  exact ⟨parsed, fun empty => takes.fields (.inr (.inr (.inr empty))), s, found, takes⟩

namespace Lan

variable {ι : Type*} [DecidableEq ι]

/-! ## What was said -/

/-- Client `j` has typed `text` into the lobby. -/
def SaidInLobby (run : List (Act ι ClientOp)) (j : ι) (text : Bytes) : Prop :=
  ∃ pre sent typed n post, run = pre ++ ⟨j, .lobbyChat sent typed, n⟩ :: post ∧
    trimInPlace typed = text

variable (L : Lan ι)

/-- Client `j` has typed `text` as a member of `room`. -/
def SaidInRoom (run : List (Act ι ClientOp)) (j : ι) (room text : Bytes) : Prop :=
  ∃ pre sent typed n post, run = pre ++ ⟨j, .sendGroupChat sent typed, n⟩ :: post ∧
    trimInPlace typed = text ∧ (L.client pre j).groups.activeRoomId = some room ∧
    (L.client pre j).groups.hasActiveMembership = true

/-- Client `j` has typed `text` into its active session `sid` with client `i`. -/
def SaidTo (run : List (Act ι ClientOp)) (j i : ι) (sid text : Bytes) : Prop :=
  ∃ pre sent name typed n post s, run = pre ++ ⟨j, .sendPrivateChat sent name typed, n⟩ :: post ∧
    trimInPlace name = sid ∧ trimInPlace typed = text ∧
    (L.client pre j).direct.sessions[sid]? = some s ∧ s.state = .Active ∧ L.BoundTo s i

/-- The id of a session that some client has opened. -/
def IsDrawn (k : Bytes) : Prop := ∃ draw, makeSessionId draw = k

variable {L} {run : List (Act ι ClientOp)} {i j : ι}

theorem not_isDrawn_usnChat : ¬ IsDrawn usnChat :=
  fun ⟨draw, same⟩ => ChatNet.makeSessionId_ne_usnChat draw same

/-- **A CHAT that reaches client `i` was typed by the client it names.** -/
theorem chat_was_said (legal : L.Legal run) {bytes room sender text : Bytes} {dest : SockaddrIn}
    (sent : L.HasSent run j dest bytes ⟨.Chat, room, sender, text⟩) (addressed : L.Addressed dest i) :
    L.username j = sender ∧ (room = usnChat ∧ SaidInLobby run j text ∨
      L.SaidInRoom run j room text ∨ IsDrawn room ∧ L.SaidTo run j i room text) := by
  obtain ⟨pre, op, n, post, rfl, -, emits⟩ := sent
  generalize chat : (⟨.Chat, room, sender, text⟩ : SecpMessage) = msg at emits
  cases emits with
  | presence => cases chat
  | announce mine => cases chat
  | invite _ type => rw [← chat] at type; cases type
  | lobbyChat =>
    cases chat
    rw [client_username, L.trimmed]
    exact ⟨rfl, .inl ⟨rfl, pre, _, _, n, post, rfl, rfl⟩⟩
  | groupChat active socket =>
    cases chat
    refine ⟨(client_groups_username pre j).symm, .inr (.inl ⟨pre, _, _, n, post, rfl, rfl, ?_, ?_⟩)⟩
    · simp [GroupRoomCoordinator.activeRoomId, active]
    · simp [GroupRoomCoordinator.hasActiveMembership, active, Option.isSome_iff_ne_none, socket]
  | privateChat found active =>
    cases chat
    have traced := traced legal.front
    obtain ⟨i', -, bound⟩ := traced.boundTo j _ _ found
    rw [bound.peerAddr] at addressed
    obtain rfl : i = i' := addressed.unicast
    exact ⟨(client_direct_username pre j).symm, .inr (.inr ⟨traced.drawn j _ _ found, pre, _, _, _,
      n, post, _, rfl, rfl, rfl, found, active, bound⟩)⟩

section Shown

variable {bytes : Bytes} {src : SockaddrIn} {t₁ t₂ : Int} {n : Nat}

theorem lobbyMessage_was_said (legal : L.Legal (run ++ [⟨i, .received bytes src t₁ t₂, n⟩]))
    {sender text : Bytes}
    (h : .lobbyMessage sender text ∈ (L.client run i).effects (.received bytes src t₁ t₂)) :
    text ≠ [] ∧ ∃ j, L.username j = sender ∧
      (SaidInLobby run j text ∨ L.SaidInRoom run j usnChat text) := by
  obtain ⟨before, step⟩ := (Machine.along_snoc _ run _).1 legal
  obtain ⟨parsed, nonempty⟩ := lobbyMessage_shown h
  obtain ⟨j, dest, sent, -, -, addressed⟩ := exists_sender step parsed
  obtain ⟨name, said⟩ := chat_was_said before sent addressed
  refine ⟨nonempty, j, name, ?_⟩
  rcases said with ⟨-, lobby⟩ | room | ⟨drawn, -⟩
  · exact .inl lobby
  · exact .inr room
  · exact (not_isDrawn_usnChat drawn).elim

theorem groupMessage_was_said (legal : L.Legal (run ++ [⟨i, .received bytes src t₁ t₂, n⟩]))
    {room sender text : Bytes}
    (h : .groupMessage room sender text ∈ (L.client run i).effects (.received bytes src t₁ t₂)) :
    text ≠ [] ∧ (L.client run i).groups.activeRoomId = some room ∧
      ∃ j, j ≠ i ∧ L.username j = sender ∧
        (L.SaidInRoom run j room text ∨ room = usnChat ∧ SaidInLobby run j text ∨
          IsDrawn room ∧ L.SaidTo run j i room text) := by
  obtain ⟨before, step⟩ := (Machine.along_snoc _ run _).1 legal
  obtain ⟨parsed, nonempty, active, other⟩ := groupMessage_shown h
  obtain ⟨j, dest, sent, -, -, addressed⟩ := exists_sender step parsed
  obtain ⟨name, said⟩ := chat_was_said before sent addressed
  refine ⟨nonempty, ?_, j, ?_, name, ?_⟩
  · have named := ne_nil_of_isRoomOk (fieldsOk_of_parse parsed).room
    simp [GroupRoomCoordinator.activeRoomId, active, named]
  · rintro rfl
    rw [← name, client_groups_username] at other
    exact other rfl
  · rcases said with lobby | inRoom | direct
    · exact .inr (.inl lobby)
    · exact .inl inRoom
    · exact .inr (.inr direct)

theorem privateMessage_was_said (legal : L.Legal (run ++ [⟨i, .received bytes src t₁ t₂, n⟩]))
    {sid sender text : Bytes}
    (h : .privateMessage sid sender text ∈ (L.client run i).effects (.received bytes src t₁ t₂)) :
    text ≠ [] ∧ IsDrawn sid ∧ ∃ j, L.username j = sender ∧ src.sinAddr = L.ip j ∧
      (L.SaidTo run j i sid text ∨ L.SaidInRoom run j sid text) := by
  obtain ⟨before, step⟩ := (Machine.along_snoc _ run _).1 legal
  obtain ⟨parsed, nonempty, s, found, takes⟩ := privateMessage_shown h
  obtain ⟨j, dest, sent, -, ip, addressed⟩ := exists_sender step parsed
  obtain ⟨name, said⟩ := chat_was_said before sent addressed
  have drawn : IsDrawn sid := (traced before).drawn i sid s found
  refine ⟨nonempty, drawn, j, name, ip, ?_⟩
  rcases said with ⟨lobby, -⟩ | inRoom | ⟨-, direct⟩
  · rw [lobby] at drawn
    exact (not_isDrawn_usnChat drawn).elim
  · exact .inr inRoom
  · exact .inl direct

end Shown

/-- **What is shown was said**, by the client whose name it is shown under: in the same channel,
or in another one where that uses the same name for a room. -/
theorem shown_was_said (L : Lan ι) (run : List (Act ι ClientOp)) (i : ι) (bytes : Bytes)
    (src : SockaddrIn) (t₁ t₂ : Int) (n : Nat)
    (legal : L.Legal (run ++ [⟨i, .received bytes src t₁ t₂, n⟩])) :
    let c := L.client run i
    let shown := c.effects (.received bytes src t₁ t₂)
    (∀ sender text, .lobbyMessage sender text ∈ shown → text ≠ [] ∧ ∃ j, L.username j = sender ∧
      (SaidInLobby run j text ∨ L.SaidInRoom run j usnChat text)) ∧
    (∀ room sender text, .groupMessage room sender text ∈ shown → text ≠ [] ∧
      c.groups.activeRoomId = some room ∧ ∃ j, j ≠ i ∧ L.username j = sender ∧
        (L.SaidInRoom run j room text ∨ room = usnChat ∧ SaidInLobby run j text ∨
          IsDrawn room ∧ L.SaidTo run j i room text)) ∧
    ∀ sid sender text, .privateMessage sid sender text ∈ shown → text ≠ [] ∧ IsDrawn sid ∧
      ∃ j, L.username j = sender ∧ src.sinAddr = L.ip j ∧
        (L.SaidTo run j i sid text ∨ L.SaidInRoom run j sid text) :=
  ⟨fun _ _ h => lobbyMessage_was_said legal h, fun _ _ _ h => groupMessage_was_said legal h,
    fun _ _ _ h => privateMessage_was_said legal h⟩

/-- bob shows what alice has typed into the lobby. -/
theorem shown_was_said_alice :
    let hei := lit "CHAT|USN Chat|alice|hei\n"
    let src := aliceAndBob.endpoint false
    let run : List (Act Bool ClientOp) := [⟨false, .lobbyChat true (lit " hei"), 0⟩]
    aliceAndBobLan.Legal (run ++ [⟨true, .received hei src 1 1, 0⟩]) ∧
      .lobbyMessage (lit "alice") (lit "hei") ∈
        (aliceAndBobLan.client run true).effects (.received hei src 1 1) ∧
      ∃ j, aliceAndBobLan.username j = lit "alice" ∧
        (SaidInLobby run j (lit "hei") ∨ aliceAndBobLan.SaidInRoom run j usnChat (lit "hei")) := by
  intro hei src run
  have legal : aliceAndBobLan.Legal (run ++ [⟨true, .received hei src 1 1, 0⟩]) := by
    refine ⟨trivial, .inr ?_, trivial⟩
    exact ⟨⟨false, broadcastDest, hei⟩, by decide +kernel, rfl, ⟨rfl, .inl rfl, rfl, rfl⟩⟩
  have shown : .lobbyMessage (lit "alice") (lit "hei") ∈
      (aliceAndBobLan.client run true).effects (.received hei src 1 1) := by decide +kernel
  exact ⟨legal, shown, ((shown_was_said aliceAndBobLan run true hei src 1 1 0 legal).1 _ _ shown).2⟩

/-! ## Whose rooms are listed -/

end Lan

end SecpChat
