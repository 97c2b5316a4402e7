import SecpChat.App.MenuLoop
import SecpChat.App.Visibility
import SecpChat.System.Provenance

/-!
# What the console shows (`main.cpp`, `app/text_menu.cpp`)

The callbacks of `main` print a line for each message and status, the menu one for each
entry of a list. What such a line takes from the network is the text of a field, so no
datagram can break it or put another line on the console (`console_keeps_lines`). A line
gives the sender's name, a colon and the text, and a name may hold a colon itself: a line
is read as it was said, or its reader takes a part of the name for text or a part of the
text for the name (`line_was_said`).
-/

namespace SecpChat

open Runs Utf8

namespace FieldText

/-- An ASCII byte of an encoding is the character. -/
theorem ascii {c : Char} {b : UInt8} (mem : b ∈ String.utf8EncodeChar c) (small : b.toNat ≤ 127) :
    c.val.toNat = b.toNat := by
  rw [encodeChar_eq] at mem
  split at mem
  · rw [List.mem_singleton, eq_comm, byte_eq] at mem
    omega
  split at mem
  · simp only [List.mem_cons, List.not_mem_nil, or_false, @eq_comm _ b, byte_eq] at mem
    omega
  split at mem
  · simp only [List.mem_cons, List.not_mem_nil, or_false, @eq_comm _ b, byte_eq] at mem
    omega
  · simp only [List.mem_cons, List.not_mem_nil, or_false, @eq_comm _ b, byte_eq] at mem
    omega

theorem of_chars {s : String}
    (clean : ∀ c ∈ s.toList, c.val.toNat ≠ 124 ∧ c.val.toNat ≠ 13 ∧ c.val.toNat ≠ 10) :
    FieldText (SecpChat.lit s) := by
  refine ⟨⟨_, rfl⟩, fun b mem => ?_⟩
  obtain ⟨c, character, byte⟩ := List.mem_flatMap.1 mem
  obtain ⟨pipe, cr, lf⟩ := clean c character
  refine ⟨?_, ?_, ?_⟩
  · rintro rfl
    exact pipe (ascii byte (by decide))
  · rintro rfl
    exact cr (ascii byte (by decide))
  · rintro rfl
    exact lf (ascii byte (by decide))

/-- A literal of the source. -/
theorem lit {s : String} (clean : (s.toList.all fun c => c != '|' && c != '\r' && c != '\n') = true) :
    FieldText (SecpChat.lit s) := by
  refine of_chars fun c mem => ?_
  have here := List.all_eq_true.1 clean c mem
  simp only [Bool.and_eq_true, bne_iff_ne, ne_eq] at here
  refine ⟨fun same => here.1.1 ?_, fun same => here.1.2 ?_, fun same => here.2 ?_⟩
  · exact Char.ext (UInt32.toNat_inj.1 same)
  · exact Char.ext (UInt32.toNat_inj.1 same)
  · exact Char.ext (UInt32.toNat_inj.1 same)

theorem append {s t : Bytes} (h : FieldText s) (h' : FieldText t) : FieldText (s ++ t) := by
  obtain ⟨cs, rfl⟩ := h.utf8
  obtain ⟨cs', rfl⟩ := h'.utf8
  refine ⟨⟨cs ++ cs', ?_⟩, fun b mem => ?_⟩
  · simp [encode]
  · rcases List.mem_append.1 mem with first | second
    · exact h.clean b first
    · exact h'.clean b second

/-- The characters of a number are digits, after a sign. -/
theorem number (n : Int) : FieldText (SecpChat.lit (toString n)) := by
  have digits (k : Nat) : ∀ c ∈ (toString k).toList, 45 ≤ c.val.toNat ∧ c.val.toNat ≤ 57 := by
    intro c mem
    have list : (toString k).toList = Nat.toDigits 10 k := by simp [Nat.repr_eq_ofList_toDigits]
    rw [list] at mem
    have digit := Nat.isDigit_of_mem_toDigits (by decide) (by decide) mem
    simp only [Char.isDigit, Bool.and_eq_true, decide_eq_true_eq, ge_iff_le,
      UInt32.le_iff_toNat_le] at digit
    exact ⟨le_trans (by decide) digit.1, digit.2⟩
  have characters : ∀ c ∈ (toString n).toList, 45 ≤ c.val.toNat ∧ c.val.toNat ≤ 57 := by
    cases n with
    | ofNat k => exact digits k
    | negSucc k =>
      intro c mem
      have signed : (toString (Int.negSucc k)).toList = '-' :: (toString (k + 1)).toList := by
        show ("-" ++ toString (k + 1)).toList = _
        simp
      rw [signed] at mem
      rcases List.mem_cons.1 mem with rfl | rest
      · decide
      · exact digits _ c rest
  refine of_chars fun c mem => ?_
  obtain ⟨lower, upper⟩ := characters c mem
  omega

theorem natural (n : Nat) : FieldText (SecpChat.lit (toString n)) := number (Int.ofNat n)

end FieldText

/-- What can be put together from the texts of fields. -/
structure TextClass (P : Bytes → Prop) : Prop where
  field : ∀ {s}, FieldText s → P s
  append : ∀ {s t}, P s → P t → P (s ++ t)

theorem TextClass.fieldText : TextClass FieldText := ⟨id, FieldText.append⟩

theorem TextClass.noNewline : TextClass fun s => 10 ∉ s where
  field h mem := (h.clean 10 mem).2.2 rfl
  append h h' mem := (List.mem_append.1 mem).elim h h'

/-- What the callbacks of `main` print; nothing for one's own message in the lobby. -/
def Effect.printed (username : Bytes) : Effect → Option Printed
  | .lobbyMessage sender text =>
    if sender = username then none
    else some (.line (lit "[USN Chat] " ++ sender ++ lit ": " ++ text))
  | .groupMessage room sender text =>
    some (.line (lit "[Gruppe " ++ room ++ lit "] " ++ sender ++ lit ": " ++ text))
  | .status msg => some (.line (lit "[Privat] " ++ msg))
  | .privateMessage sid sender text =>
    some (.line (lit "[Privat " ++ sid ++ lit "] " ++ sender ++ lit ": " ++ text))
  | .sendTo _ _ _ => none
  | .dropMembership _ _ _ => none

namespace Printed

/-- Without the newline after it. -/
def text : Printed → Bytes
  | .line msg => msg
  | .error msg => msg

end Printed

/-- What is typed and may be told in a status. -/
def ClientOp.told : ClientOp → List Bytes
  | .inviteUser _ _ _ target => [trimInPlace target]
  | .declineInvite _ reason => [(trimInPlace reason).take kMaxChatMessageBytes]
  | _ => []

/-- The entries of the lists that the menu prints, without their heads. -/
def Client.listed (c : Client) (now : Int) : List Printed :=
  (c.printUsers now).tail ++ (Client.printRooms (c.groups.listAdvertisedRooms now).value).tail ++
    (Client.printPending c.direct.snapshotPendingInvites).tail ++
    (Client.printActive c.direct.snapshotActiveSessions).tail

/-! ## What a client has learnt -/

section Learnt

variable {username k : Bytes} {localIp : InAddr} {run : List ClientOp}

theorem known_text {a : SockaddrIn}
    (known : ((clientMachine username localIp).exec run).users.findAddress k = some a) :
    FieldText k := by
  obtain ⟨bytes, t₁, t₂, msg, -, parsed, -, rfl, -⟩ := findAddress_received known
  exact (fieldsOk_of_parse parsed).texts.2.1

theorem room_text {room : AdvertisedGroupRoom}
    (found : ((clientMachine username localIp).exec run).groups.registry[k]? = some room) :
    FieldText k := by
  obtain ⟨bytes, src, t₁, t₂, msg, -, parsed, -, rfl⟩ := registry_received found
  exact (fieldsOk_of_parse parsed).texts.1

variable (username localIp run) in
/-- The id and the peer of a session. -/
theorem session_text : ∀ (k : Bytes) s,
    ((clientMachine username localIp).exec run).direct.sessions[k]? = some s →
      FieldText k ∧ FieldText s.peerUsername := by
  induction run using List.reverseRecOn with
  | nil =>
    intro k s found
    simp [clientMachine, Client.init, DirectMessageService.init] at found
  | append_singleton run op ih =>
    intro k s' found
    rw [Machine.exec_snoc] at found
    change (Client.step _ op).direct.sessions[k]? = some s' at found
    rw [Client.step_direct] at found
    cases contained : op.direct ((clientMachine username localIp).exec run).users with
    | none =>
      rw [contained] at found
      exact ih k s' found
    | some dop =>
      have m := ((clientMachine username localIp).exec run).direct.step_move dop k
      rw [contained, Option.elim_some] at found
      rw [found] at m
      cases before : ((clientMachine username localIp).exec run).direct.sessions[k]? with
      | some s =>
        rw [before] at m
        rw [(m.sameBinding rfl rfl).peerUsername]
        exact ih k s before
      | none =>
        rw [before] at m
        cases m with
        | invite valid other known key =>
          cases op <;> cases contained
          rw [← key]
          exact ⟨(isRoomOk_iff.1 (isRoomOk_makeSessionId _)).1, known_text known⟩
        | invited parsed type key named payload =>
          cases op <;> cases contained
          rw [← key]
          exact ⟨(fieldsOk_of_parse parsed).texts.1, (fieldsOk_of_parse parsed).texts.2.1⟩

end Learnt

/-! ## What is printed of an operation -/

namespace GroupRoomCoordinator

variable {g : GroupRoomCoordinator} {e : Effect}

theorem leaveMulticastMembershipUnlocked_silent {dropped : Bool} {username : Bytes}
    (h : e ∈ (g.leaveMulticastMembershipUnlocked dropped).effects) : e.printed username = none := by
  unfold leaveMulticastMembershipUnlocked at h
  split at h
  · split at h
    · rw [List.mem_singleton.1 h, Effect.printed]
    · cases h
  · cases h

theorem broadcastOwnedAdvert_silent {sent : Bool} {username : Bytes}
    (h : e ∈ (g.broadcastOwnedAdvert sent).effects) : e.printed username = none := by
  unfold broadcastOwnedAdvert at h
  split at h
  · cases h
  simp only at h
  split at h
  · cases h
  · rw [List.mem_singleton.1 h, Effect.printed]

/-- **Nothing is printed by the coordinator**, but of a CHAT. -/
theorem effects_silent (username : Bytes) (op : GroupOp) (h : e ∈ g.effects op)
    (other : ∀ msg, op ≠ .onRoomChat msg) : e.printed username = none := by
  cases op with
  | createRoom calls sent name =>
    simp only [effects, perform, createRoom, inetPton_group] at h
    split at h
    · cases h
    split at h
    · rw [bindMulticastChannel_effects] at h
      rcases List.mem_append.1 h with left | again
      · exact leaveMulticastMembershipUnlocked_silent left
      · exact leaveMulticastMembershipUnlocked_silent again
    · rw [bindMulticastChannel_effects] at h
      rcases List.mem_append.1 h with switch | advert
      · rcases List.mem_append.1 switch with left | again
        · exact leaveMulticastMembershipUnlocked_silent left
        · exact leaveMulticastMembershipUnlocked_silent again
      · exact broadcastOwnedAdvert_silent advert
  | joinRoom now calls room =>
    simp only [effects, perform, joinRoom, inetPton_group] at h
    have silent {g' : GroupRoomCoordinator} {group : InAddr} (h : e ∈
        (g'.leaveMulticastMembershipUnlocked calls.dropMembership).effects ++
          ((g'.leaveMulticastMembershipUnlocked calls.dropMembership).state.bindMulticastChannel
            calls group kUdpPort).effects) : e.printed username = none := by
      rw [bindMulticastChannel_effects] at h
      rcases List.mem_append.1 h with left | again
      · exact leaveMulticastMembershipUnlocked_silent left
      · exact leaveMulticastMembershipUnlocked_silent again
    repeat' split at h
    all_goals first | exact silent h | cases h
  | leaveRoom dropped =>
    simp only [effects, perform, leaveRoom] at h
    split at h
    · exact leaveMulticastMembershipUnlocked_silent h
    · exact leaveMulticastMembershipUnlocked_silent h
  | sendGroupChat sent text =>
    rcases g.sendGroupChat_cases sent text with fails | ⟨-, -, -, -, -, chat⟩
    · simp [effects, perform, fails] at h
    · simp only [effects, perform, chat, List.mem_singleton] at h
      rw [h, Effect.printed]
  | broadcastOwnedAdvert sent => exact broadcastOwnedAdvert_silent h
  | listAdvertisedRooms now => cases h
  | onRoomAnnounce msg advertised pruned =>
    simp only [effects, perform, onRoomAnnounce] at h
    repeat' split at h
    all_goals cases h
  | onRoomChat msg => exact (other msg rfl).elim

end GroupRoomCoordinator

/-- What is printed of the effect, if anything, is of the kind `P`. -/
def Effect.Prints (username : Bytes) (P : Bytes → Prop) (e : Effect) : Prop :=
  ∀ p, e.printed username = some p → P p.text

section Prints

variable {P : Bytes → Prop} {username : Bytes}

theorem prints_of_silent {e : Effect} (silent : e.printed username = none) :
    e.Prints username P := by
  intro p printed
  rw [silent] at printed
  cases printed

namespace TextClass

variable (h : TextClass P)

include h

theorem status {msg : Bytes} (text : P msg) : (Effect.status msg).Prints username P := by
  rintro p ⟨⟩
  exact h.append (h.field (.lit (by decide))) text

theorem message {channel : String} {room sender text : Bytes}
    (clean : FieldText (lit channel)) (inRoom : FieldText room) (named : FieldText sender) (said : FieldText text) :
    P (lit channel ++ room ++ lit "] " ++ sender ++ lit ": " ++ text) := by
  apply h.field
  apply FieldText.append _ said
  apply FieldText.append _ (.lit (by decide))
  apply FieldText.append _ named
  apply FieldText.append _ (.lit (by decide))
  exact .append clean inRoom

end TextClass

namespace DirectMessageService

variable (h : TextClass P) {d : DirectMessageService}

include h

theorem inviteUser_prints {users : UserDirectory} {draw : Fin 0x1000000} {now : Int} {sent : Bool}
    {target : Bytes} (told : P (trimInPlace target)) :
    ∀ e ∈ (d.inviteUser users draw now sent target).effects, e.Prints username P := by
  unfold inviteUser
  simp only
  split
  · exact List.forall_mem_nil _
  split
  · refine List.forall_mem_singleton.2 (h.status ?_)
    exact h.append (h.append (h.field (.lit (by decide))) told)
      (h.field (.lit (by decide)))
  split
  · exact List.forall_mem_nil _
  split
  · exact List.forall_mem_nil _
  split
  · refine List.forall_mem_cons.2 ⟨prints_of_silent rfl, List.forall_mem_singleton.2 ?_⟩
    exact h.status (h.field (.lit (by decide)))
  · refine List.forall_mem_cons.2 ⟨prints_of_silent rfl, List.forall_mem_singleton.2 (h.status ?_)⟩
    have drawn : FieldText (makeSessionId draw) := (isRoomOk_iff.1 (isRoomOk_makeSessionId draw)).1
    apply h.append _ (h.field (.lit (by decide)))
    apply h.append _ (h.field drawn)
    apply h.append _ (h.field (.lit (by decide)))
    exact h.append (h.field (.lit (by decide))) told

variable (known : ∀ (k : Bytes) s, d.sessions[k]? = some s → FieldText k ∧ FieldText s.peerUsername)

include known

theorem acceptInvite_prints {now : Int} {room : Bytes} :
    ∀ e ∈ (d.acceptInvite now room).effects, e.Prints username P := by
  unfold acceptInvite
  simp only
  split
  · exact List.forall_mem_nil _
  split
  · exact List.forall_mem_nil _
  next s found =>
  split
  · exact List.forall_mem_nil _
  obtain ⟨key, peer⟩ := known _ s found
  refine List.forall_mem_singleton.2 (h.status (h.field ?_))
  apply FieldText.append _ (.lit (by decide))
  apply FieldText.append _ key
  apply FieldText.append _ (.lit (by decide))
  exact .append (.lit (by decide)) peer

theorem declineInvite_prints {room reason : Bytes}
    (told : P ((trimInPlace reason).take kMaxChatMessageBytes)) :
    ∀ e ∈ (d.declineInvite room reason).effects, e.Prints username P := by
  unfold declineInvite
  simp only
  split
  · exact List.forall_mem_nil _
  split
  · exact List.forall_mem_nil _
  next s found =>
  split
  · exact List.forall_mem_nil _
  obtain ⟨key, peer⟩ := known _ s found
  have declined : P (lit "Avslo INVITE fra \"" ++ s.peerUsername ++ lit "\" (rom " ++
      trimInPlace room ++ lit ").") := by
    apply h.field
    apply FieldText.append _ (.lit (by decide))
    apply FieldText.append _ key
    apply FieldText.append _ (.lit (by decide))
    exact .append (.lit (by decide)) peer
  refine List.forall_mem_singleton.2 (h.status ?_)
  split
  · exact declined
  · exact h.append (h.append declined (h.field (.lit (by decide)))) told

theorem prunePending_prints {maxAge now : Int} :
    ∀ e ∈ (d.prunePending maxAge now).effects, e.Prints username P := by
  intro e mem
  obtain ⟨sid, expired, rfl⟩ := List.mem_map.1 mem
  obtain ⟨s, found, -⟩ := mem_expired_iff.1 expired
  exact h.status (h.field (.append (.lit (by decide)) (known sid s found).1))

theorem resendOutgoingPending_prints {minInterval maxAge now : Int} {sent : Bytes → Bool} :
    ∀ e ∈ (d.resendOutgoingPending minInterval maxAge now sent).effects, e.Prints username P := by
  intro e mem
  rcases List.mem_append.1 mem with again | gone
  · obtain ⟨⟨sid, s⟩, -, line⟩ := List.mem_flatMap.1 again
    simp only at line
    split at line
    · cases line
    · rw [List.mem_singleton.1 line]
      exact prints_of_silent rfl
  · obtain ⟨sid, expired, rfl⟩ := List.mem_map.1 gone
    obtain ⟨s, found, -⟩ :=
      (mem_expired_iff (p := fun s => resendVisit minInterval maxAge now s == .expire)).1 expired
    exact h.status (h.field (.append (.lit (by decide)) (known sid s found).1))

end DirectMessageService

namespace Client

variable (h : TextClass P) {c : Client}

/-- The status that a datagram leads to is that of an INVITE. -/
theorem status_received {bytes told : Bytes} {src : SockaddrIn} {t₁ t₂ : Int}
    (shown : .status told ∈ c.effects (.received bytes src t₁ t₂)) : FieldText told := by
  cases parsed : parseSecpLine bytes with
  | none =>
    rw [effects, perform, c.handleDatagram_none parsed] at shown
    cases shown
  | some msg =>
    obtain ⟨inRoom, named, -⟩ := (fieldsOk_of_parse parsed).texts
    cases type : msg.type with
    | Presence => simp [effects, perform, handleDatagram, parse_length parsed, parsed, type] at shown
    | Unknown => simp [effects, perform, handleDatagram, parse_length parsed, parsed, type] at shown
    | RoomAnnounce =>
      simp only [effects, perform, handleDatagram, parse_length parsed, if_false, parsed, type]
        at shown
      have silent := GroupRoomCoordinator.effects_silent [] (.onRoomAnnounce msg t₁ t₂) shown
        (by simp)
      cases silent
    | Invite =>
      rw [effects, perform, c.handleDatagram_invite parsed type] at shown
      unfold DirectMessageService.onInvite at shown
      repeat' split at shown
      all_goals try cases shown; done
      rw [List.mem_singleton, Effect.status.injEq] at shown
      subst shown
      apply FieldText.append _ (.lit (by decide))
      apply FieldText.append _ inRoom
      apply FieldText.append _ (.lit (by decide))
      exact .append (.lit (by decide)) named
    | Chat =>
      rw [effects, perform, c.handleDatagram_chat parsed type] at shown
      rcases List.mem_append.1 shown with public_ | direct
      · rcases List.mem_append.1 public_ with lobby | group
        · unfold LobbyService.onLobbyChat at lobby
          repeat' split at lobby
          all_goals simp at lobby
        · rcases c.groups.onRoomChat_effects msg with none | ⟨-, -, one⟩
          · simp [none] at group
          · simp [one] at group
      · obtain ⟨s, -, -, other⟩ := c.direct.mem_onRoomChat.1 direct
        cases other

include h

/-- What a datagram makes a client print. -/
theorem received_prints {bytes : Bytes} {src : SockaddrIn} {t₁ t₂ : Int} :
    ∀ e ∈ c.effects (.received bytes src t₁ t₂), e.Prints username P := by
  intro e mem
  cases e with
  | sendTo dest line ok => exact prints_of_silent rfl
  | dropMembership group localIf ok => exact prints_of_silent rfl
  | status told => exact h.status (h.field (status_received mem))
  | lobbyMessage sender text =>
    obtain ⟨-, named, said⟩ := (fieldsOk_of_parse (lobbyMessage_shown mem).1).texts
    intro p printed
    rw [Effect.printed] at printed
    split at printed
    · cases printed
    · cases printed
      apply h.field
      apply FieldText.append _ said
      apply FieldText.append _ (.lit (by decide))
      exact .append (.lit (by decide)) named
  | groupMessage room sender text =>
    obtain ⟨inRoom, named, said⟩ := (fieldsOk_of_parse (groupMessage_shown mem).1).texts
    rintro p ⟨⟩
    exact h.message (.lit (by decide)) inRoom named said
  | privateMessage sid sender text =>
    obtain ⟨inRoom, named, said⟩ := (fieldsOk_of_parse (privateMessage_shown mem).1).texts
    rintro p ⟨⟩
    exact h.message (.lit (by decide)) inRoom named said

/-- **What any operation makes a client print.** -/
theorem effects_prints (known : ∀ (k : Bytes) s, c.direct.sessions[k]? = some s →
      FieldText k ∧ FieldText s.peerUsername)
    {op : ClientOp} (told : ∀ t ∈ op.told, P t) : ∀ e ∈ c.effects op, e.Prints username P := by
  have silent (gop : GroupOp) (other : ∀ msg, gop ≠ .onRoomChat msg) :
      ∀ e ∈ c.groups.effects gop, e.Prints username P := fun e mem =>
    prints_of_silent (GroupRoomCoordinator.effects_silent username gop mem other)
  cases op with
  | received bytes src t₁ t₂ => exact received_prints h
  | sendPresence sent =>
    intro e mem
    simp only [effects, perform, DiscoveryService.sendPresenceBroadcast] at mem
    repeat' split at mem
    · cases mem
    · cases mem
    · rw [List.mem_singleton.1 mem]
      exact prints_of_silent rfl
  | pruneStalePeers now => exact List.forall_mem_nil _
  | lobbyChat sent text =>
    intro e mem
    rcases LobbyService.sendChat_cases sent c.username text with fails | ⟨-, -, -, -, chat⟩
    · simp [effects, perform, fails] at mem
    · simp only [effects, perform, chat, List.mem_singleton] at mem
      rw [mem]
      exact prints_of_silent rfl
  | createRoom calls sent name => exact silent (.createRoom calls sent name) (by simp)
  | listAdvertisedRooms now => exact silent (.listAdvertisedRooms now) (by simp)
  | joinRoom now calls name => exact silent (.joinRoom now calls name) (by simp)
  | leaveRoom dropped => exact silent (.leaveRoom dropped) (by simp)
  | sendGroupChat sent text => exact silent (.sendGroupChat sent text) (by simp)
  | broadcastOwnedAdvert sent => exact silent (.broadcastOwnedAdvert sent) (by simp)
  | inviteUser draw now sent target =>
    exact DirectMessageService.inviteUser_prints h (told _ (List.mem_singleton_self _))
  | acceptInvite now room => exact DirectMessageService.acceptInvite_prints h known
  | declineInvite room reason =>
    exact DirectMessageService.declineInvite_prints h known (told _ (List.mem_singleton_self _))
  | sendPrivateChat sent sid text =>
    intro e mem
    rcases c.direct.sendPrivateChat_cases sent sid text with fails | ⟨-, -, -, s, -, -, chat⟩
    · simp [effects, perform, onDirect, DirectMessageService.perform, fails] at mem
    · simp only [effects, perform, onDirect, DirectMessageService.perform, chat,
        List.mem_singleton] at mem
      rw [mem]
      exact prints_of_silent rfl
  | prunePending maxAge now => exact DirectMessageService.prunePending_prints h known
  | resendOutgoingPending minInterval maxAge now sent =>
    exact DirectMessageService.resendOutgoingPending_prints h known

end Client

end Prints

/-! ## What the menu lists -/

theorem FieldText.inetNtop (a : InAddr) : FieldText (SecpChat.inetNtop a) :=
  (isPayloadOk_iff.1 (isPayloadOk_inetNtop a)).1

section Lists

variable {username : Bytes} {localIp : InAddr} {run : List ClientOp} {p : Printed}

theorem printUsers_text {now : Int}
    (h : p ∈ (((clientMachine username localIp).exec run).printUsers now).tail) :
    FieldText p.text := by
  simp only [Client.printUsers, List.tail_cons] at h
  split at h
  · rw [List.mem_singleton.1 h]
    exact .lit (by decide)
  · obtain ⟨entry, mem, rfl⟩ := List.mem_map.1 h
    simp only [UserDirectory.snapshotPeers, List.mem_mergeSort, List.mem_map, Prod.exists,
      Std.ExtTreeMap.mem_toList_iff_getElem?_eq_some] at mem
    obtain ⟨name, info, found, rfl⟩ := mem
    have named : FieldText name := known_text (a := info.address) (by
      rw [UserDirectory.findAddress, found, Option.map_some])
    apply FieldText.append _ (.lit (by decide))
    apply FieldText.append _ (.number _)
    apply FieldText.append _ (.lit (by decide))
    apply FieldText.append _ (.inetNtop _)
    apply FieldText.append _ (.lit (by decide))
    exact .append (.lit (by decide)) named

theorem printRooms_text {now : Int}
    (h : p ∈ (Client.printRooms
      (((clientMachine username localIp).exec run).groups.listAdvertisedRooms now).value).tail) :
    FieldText p.text := by
  simp only [Client.printRooms, List.tail_cons] at h
  split at h
  · rw [List.mem_singleton.1 h]
    exact .lit (by decide)
  · obtain ⟨room, mem, rfl⟩ := List.mem_map.1 h
    obtain ⟨k, found⟩ := GroupRoomCoordinator.mem_listAdvertisedRooms.1 mem
    simp only [GroupRoomCoordinator.pruneRegistryUnlocked, Std.ExtTreeMap.getElem?_filter',
      Option.filter_eq_some_iff] at found
    have advertised := advertised_exec username localIp run k room found.1
    have named : room.roomName = k := by rw [advertised]
    have group : room.multicastIp = lit "239.0.0.1" := by rw [advertised, kOpenRoomMulticastGroup]
    rw [named, group]
    apply FieldText.append _ (.natural _)
    apply FieldText.append _ (.lit (by decide))
    apply FieldText.append _ (.lit (by decide))
    apply FieldText.append _ (.lit (by decide))
    exact .append (.lit (by decide)) (room_text found.1)

theorem printPending_text
    (h : p ∈ (Client.printPending
      ((clientMachine username localIp).exec run).direct.snapshotPendingInvites).tail) :
    FieldText p.text := by
  simp only [Client.printPending, List.tail_cons] at h
  split at h
  · rw [List.mem_singleton.1 h]
    exact .lit (by decide)
  · obtain ⟨entry, mem, rfl⟩ := List.mem_map.1 h
    obtain ⟨s, found, -, same⟩ := DirectMessageService.mem_snapshotPendingInvites.1 mem
    obtain ⟨key, peer⟩ := session_text username localIp run _ s found
    rw [same]
    apply FieldText.append _ peer
    apply FieldText.append _ (.lit (by decide))
    exact .append (.lit (by decide)) key

theorem printActive_text
    (h : p ∈ (Client.printActive
      ((clientMachine username localIp).exec run).direct.snapshotActiveSessions).tail) :
    FieldText p.text := by
  simp only [Client.printActive, List.tail_cons] at h
  split at h
  · rw [List.mem_singleton.1 h]
    exact .lit (by decide)
  · obtain ⟨entry, mem, rfl⟩ := List.mem_map.1 h
    obtain ⟨s, found, -, same⟩ := DirectMessageService.mem_snapshotActiveSessions.1 mem
    obtain ⟨key, peer⟩ := session_text username localIp run _ s found
    rw [same]
    apply FieldText.append _ (.inetNtop _)
    apply FieldText.append _ (.lit (by decide))
    apply FieldText.append _ peer
    apply FieldText.append _ (.lit (by decide))
    exact .append (.lit (by decide)) key

end Lists

/-- **The lines of the console are the program's own.** Whatever datagrams have come, a callback
prints one line, well-formed and without CR or LF, up to what the user has typed into the
operation; and so is every entry that the menu lists. -/
theorem console_keeps_lines (username : Bytes) (localIp : InAddr) (run : List ClientOp) :
    let c := (clientMachine username localIp).exec run
    (∀ op, ∀ e ∈ c.effects op, ∀ p, e.printed username = some p →
      ((∀ t ∈ op.told, FieldText t) → FieldText p.text) ∧
      ((∀ t ∈ op.told, 10 ∉ t) → 10 ∉ p.text)) ∧
    ∀ now, ∀ p ∈ c.listed now, FieldText p.text := by
  intro c
  have known := session_text username localIp run
  refine ⟨fun op e mem p printed => ⟨fun told => ?_, fun told => ?_⟩, fun now p listed => ?_⟩
  · exact Client.effects_prints .fieldText known told e mem p printed
  · exact Client.effects_prints .noNewline known told e mem p printed
  · simp only [Client.listed, List.mem_append] at listed
    rcases listed with ((users | rooms) | pending) | active
    · exact printUsers_text users
    · exact printRooms_text rooms
    · exact printPending_text pending
    · exact printActive_text active

/-! ## Whom a line names -/

/-- A line that shows `said` under the name `sender`, read as `text` under `name`. -/
inductive ReadAs (sender said name text : Bytes) : Prop where
  | asSaid (named : name = sender) (same : text = said)
  /-- The name goes on, and the rest of it is taken for text. -/
  | nameCut {rest : Bytes} (named : sender = name ++ lit ": " ++ rest)
      (same : text = rest ++ lit ": " ++ said)
  /-- A part of the text is taken for the name. -/
  | textCut {rest : Bytes} (named : name = sender ++ lit ": " ++ rest)
      (same : said = rest ++ lit ": " ++ text)

variable {sender said name text : Bytes}

theorem readAs_iff :
    sender ++ lit ": " ++ said = name ++ lit ": " ++ text ↔ ReadAs sender said name text := by
  have colon : lit ": " = [58, 32] := by decide
  have shape (s t : Bytes) : s ++ lit ": " ++ t = s ++ 58 :: 32 :: t := by simp [colon]
  have ne : (58 : UInt8) ≠ 32 := by decide
  rw [shape, shape, Delimited.append_pair_eq_iff ne]
  constructor
  · rintro (⟨rfl, rfl⟩ | ⟨rest, rfl, rfl⟩ | ⟨rest, rfl, rfl⟩)
    · exact .asSaid rfl rfl
    · exact .textCut (shape _ _).symm (shape _ _).symm
    · exact .nameCut (shape _ _).symm (shape _ _).symm
  · rintro (⟨rfl, rfl⟩ | ⟨rfl, rfl⟩ | ⟨rfl, rfl⟩)
    · exact .inl ⟨rfl, rfl⟩
    · exact .inr (.inr ⟨_, shape _ _, shape _ _⟩)
    · exact .inr (.inl ⟨_, shape _ _, shape _ _⟩)

/-- A name that goes on after a colon. -/
example :
    (Effect.lobbyMessage (lit "alice: hei, bob") (lit "ja")).printed (lit "eva") =
      (Effect.lobbyMessage (lit "alice") (lit "hei, bob: ja")).printed (lit "eva") := by
  decide +kernel

/-- Names without a colon and a space are read as they are. -/
theorem ReadAs.plain (h : ReadAs sender said name text) (plain : ¬ lit ": " <:+: sender)
    (plain' : ¬ lit ": " <:+: name) : name = sender ∧ text = said := by
  cases h with
  | asSaid named same => exact ⟨named, same⟩
  | nameCut named same => exact (plain ⟨_, _, named.symm⟩).elim
  | textCut named same => exact (plain' ⟨_, _, named.symm⟩).elim

/-- Lines that begin differently. -/
theorem apart {a b x y : Bytes} (h : a ++ x = b ++ y) (other : ¬ (a <+: b ∨ b <+: a)) : False :=
  other (List.prefix_or_prefix_of_prefix ⟨x, rfl⟩ ⟨y, h.symm⟩)

section Channels

variable {e : Effect} {username line : Bytes} (printed : e.printed username = some (.line line))

include printed

/-- A line of the lobby. -/
theorem printed_lobby (shape : line = lit "[USN Chat] " ++ name ++ lit ": " ++ text) :
    ∃ sender said, e = .lobbyMessage sender said ∧ sender ≠ username ∧
      ReadAs sender said name text := by
  subst shape
  cases e with
  | lobbyMessage sender said =>
    rw [Effect.printed] at printed
    split at printed
    · cases printed
    next other =>
      simp only [Option.some.injEq, Printed.line.injEq, List.append_assoc,
        List.append_cancel_left_eq] at printed
      exact ⟨sender, said, rfl, other, readAs_iff.1 (by simpa using printed)⟩
  | groupMessage room sender said =>
    simp only [Effect.printed, Option.some.injEq, Printed.line.injEq, List.append_assoc] at printed
    exact (apart printed (by decide +kernel)).elim
  | status msg =>
    simp only [Effect.printed, Option.some.injEq, Printed.line.injEq, List.append_assoc] at printed
    exact (apart printed (by decide +kernel)).elim
  | privateMessage sid sender said =>
    simp only [Effect.printed, Option.some.injEq, Printed.line.injEq, List.append_assoc] at printed
    exact (apart printed (by decide +kernel)).elim
  | sendTo dest bytes ok => cases printed
  | dropMembership group localIf ok => cases printed

/-- A line of a group room. -/
theorem printed_group {room : Bytes}
    (shape : line = lit "[Gruppe " ++ room ++ lit "] " ++ name ++ lit ": " ++ text) :
    ∃ room' sender said, e = .groupMessage room' sender said ∧
      (room' = room → ReadAs sender said name text) := by
  subst shape
  cases e with
  | lobbyMessage sender said =>
    rw [Effect.printed] at printed
    split at printed
    · cases printed
    · simp only [Option.some.injEq, Printed.line.injEq, List.append_assoc] at printed
      exact (apart printed (by decide +kernel)).elim
  | groupMessage room' sender said =>
    refine ⟨room', sender, said, rfl, ?_⟩
    rintro rfl
    simp only [Effect.printed, Option.some.injEq, Printed.line.injEq, List.append_assoc,
      List.append_cancel_left_eq] at printed
    exact readAs_iff.1 (by simpa using printed)
  | status msg =>
    simp only [Effect.printed, Option.some.injEq, Printed.line.injEq, List.append_assoc] at printed
    exact (apart printed (by decide +kernel)).elim
  | privateMessage sid sender said =>
    simp only [Effect.printed, Option.some.injEq, Printed.line.injEq, List.append_assoc] at printed
    exact (apart printed (by decide +kernel)).elim
  | sendTo dest bytes ok => cases printed
  | dropMembership group localIf ok => cases printed

/-- A line of a private session. -/
theorem printed_private {sid : Bytes}
    (shape : line = lit "[Privat " ++ sid ++ lit "] " ++ name ++ lit ": " ++ text) :
    ∃ sid' sender said, e = .privateMessage sid' sender said ∧
      (sid'.length = sid.length → sid' = sid ∧ ReadAs sender said name text) := by
  subst shape
  cases e with
  | lobbyMessage sender said =>
    rw [Effect.printed] at printed
    split at printed
    · cases printed
    · simp only [Option.some.injEq, Printed.line.injEq, List.append_assoc] at printed
      exact (apart printed (by decide +kernel)).elim
  | groupMessage room' sender said =>
    simp only [Effect.printed, Option.some.injEq, Printed.line.injEq, List.append_assoc] at printed
    exact (apart printed (by decide +kernel)).elim
  | status msg =>
    simp only [Effect.printed, Option.some.injEq, Printed.line.injEq, List.append_assoc] at printed
    exact (apart printed (by decide +kernel)).elim
  | privateMessage sid' sender said =>
    refine ⟨sid', sender, said, rfl, fun length => ?_⟩
    simp only [Effect.printed, Option.some.injEq, Printed.line.injEq, List.append_assoc,
      List.append_cancel_left_eq] at printed
    obtain ⟨rfl, rest⟩ := List.append_inj printed length
    exact ⟨rfl, readAs_iff.1 (by simpa using rest)⟩
  | sendTo dest bytes ok => cases printed
  | dropMembership group localIf ok => cases printed

end Channels

namespace Lan

variable {ι : Type*} [DecidableEq ι]

/-- **A line was said by whom it names.** What client `i` prints when a datagram comes in was said
by a client whose name and words make up the line; where a reader cuts it at another colon, either
goes on beyond the cut. -/
theorem line_was_said (L : Lan ι) (run : List (Act ι ClientOp)) (i : ι) (bytes : Bytes)
    (src : SockaddrIn) (t₁ t₂ : Int) (n : Nat)
    (legal : L.Legal (run ++ [⟨i, .received bytes src t₁ t₂, n⟩])) :
    let c := L.client run i
    ∀ e ∈ c.effects (.received bytes src t₁ t₂), ∀ line,
      e.printed (L.username i) = some (.line line) → ∀ name text,
        (line = lit "[USN Chat] " ++ name ++ lit ": " ++ text →
          ∃ j said, j ≠ i ∧ ReadAs (L.username j) said name text ∧
            (SaidInLobby run j said ∨ L.SaidInRoom run j usnChat said)) ∧
        (∀ room, c.groups.activeRoomId = some room →
          line = lit "[Gruppe " ++ room ++ lit "] " ++ name ++ lit ": " ++ text →
          ∃ j said, j ≠ i ∧ ReadAs (L.username j) said name text ∧
            (L.SaidInRoom run j room said ∨ room = usnChat ∧ SaidInLobby run j said ∨
              IsDrawn room ∧ L.SaidTo run j i room said)) ∧
        ∀ sid, IsDrawn sid → line = lit "[Privat " ++ sid ++ lit "] " ++ name ++ lit ": " ++ text →
          ∃ j said, ReadAs (L.username j) said name text ∧ src.sinAddr = L.ip j ∧
            (L.SaidTo run j i sid said ∨ L.SaidInRoom run j sid said) := by
  intro c e mem line printed name text
  refine ⟨fun shape => ?_, fun room active shape => ?_, fun sid drawn shape => ?_⟩
  · obtain ⟨sender, said, rfl, other, read⟩ := printed_lobby printed shape
    obtain ⟨-, j, rfl, told⟩ := lobbyMessage_was_said legal mem
    refine ⟨j, said, ?_, read, told⟩
    rintro rfl
    exact other rfl
  · obtain ⟨room', sender, said, rfl, read⟩ := printed_group printed shape
    obtain ⟨-, active', j, other, rfl, told⟩ := groupMessage_was_said legal mem
    obtain rfl : room' = room := Option.some.inj (active'.symm.trans active)
    exact ⟨j, said, other, read rfl, told⟩
  · obtain ⟨sid', sender, said, rfl, read⟩ := printed_private printed shape
    obtain ⟨-, drawn', j, rfl, ip, told⟩ := privateMessage_was_said legal mem
    have length : sid'.length = sid.length := by
      obtain ⟨draw, rfl⟩ := drawn
      obtain ⟨draw', rfl⟩ := drawn'
      simp [makeSessionId]
    obtain ⟨rfl, cut⟩ := read length
    exact ⟨j, said, cut, ip, told⟩

/-- bob reads what alice has typed into the lobby. -/
theorem line_was_said_alice :
    let hei := lit "CHAT|USN Chat|alice|hei\n"
    let src := aliceAndBob.endpoint false
    let run : List (Act Bool ClientOp) := [⟨false, .lobbyChat true (lit " hei"), 0⟩]
    let e := Effect.lobbyMessage (lit "alice") (lit "hei")
    aliceAndBobLan.Legal (run ++ [⟨true, .received hei src 1 1, 0⟩]) ∧
      e ∈ (aliceAndBobLan.client run true).effects (.received hei src 1 1) ∧
      e.printed (aliceAndBobLan.username true) = some (.line (lit "[USN Chat] alice: hei")) ∧
      ∃ j said, j ≠ true ∧ ReadAs (aliceAndBobLan.username j) said (lit "alice") (lit "hei") ∧
        (SaidInLobby run j said ∨ aliceAndBobLan.SaidInRoom run j usnChat said) := by
  intro hei src run e
  have legal : aliceAndBobLan.Legal (run ++ [⟨true, .received hei src 1 1, 0⟩]) := by
    refine ⟨trivial, .inr ?_, trivial⟩
    exact ⟨⟨false, broadcastDest, hei⟩, by decide +kernel, rfl, ⟨rfl, .inl rfl, rfl, rfl⟩⟩
  have shown : e ∈ (aliceAndBobLan.client run true).effects (.received hei src 1 1) := by
    decide +kernel
  have printed : e.printed (aliceAndBobLan.username true) =
      some (.line (lit "[USN Chat] alice: hei")) := by
    decide +kernel
  exact ⟨legal, shown, printed, (line_was_said aliceAndBobLan run true hei src 1 1 0 legal e shown _
    printed (lit "alice") (lit "hei")).1 (by decide +kernel)⟩

end Lan

end SecpChat
