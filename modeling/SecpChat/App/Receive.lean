import SecpChat.App.Host

/-!
# Datagrams that do not fit in the buffer

`recv_from` hands on the first `kMaxPacketBytes` bytes of a datagram and does not say that
there were more, so the two length checks behind it, in `handle_datagram` and in the
parser, never fail on what was received. A longer datagram is rejected by the grammar of
its first 1024 bytes or not at all, and it is not when these are a line and some of the
CR and LF after it (`CutToLine`).
-/

namespace SecpChat

open Runs

/-- The `switch` of `handle_datagram`. -/
def Client.dispatch (c : Client) (msg : SecpMessage) (src : SockaddrIn) (t₁ t₂ : Int) :
    Client × List Effect :=
  match msg.type with
  | .Presence =>
    let users := DiscoveryService.onPresence c.users msg.username msg.payload src t₁
    ({ c with users := DiscoveryService.pruneStalePeers users t₂ }, [])
  | .RoomAnnounce => c.onGroups (.onRoomAnnounce msg t₁ t₂)
  | .Invite =>
    let o := c.direct.onInvite msg src t₁ t₂
    ({ c with direct := o.state }, o.effects)
  | .Chat =>
    let lobby := if msg.room = usnChat then LobbyService.onLobbyChat msg.username msg.payload
      else []
    let groups := c.groups.onRoomChat msg
    let direct := c.direct.onRoomChat msg src t₁
    ({ c with groups := groups.state, direct := direct.state },
      lobby ++ groups.effects ++ direct.effects)
  | .Unknown => (c, [])

namespace Arrived

/-- The message that `handle_datagram` switches on. -/
def dispatched (d : Arrived) : Option SecpMessage :=
  d.recvFrom.bind fun bytes =>
    if bytes = [] ∨ bytes.length > kMaxPacketBytes then none else parseSecpLine bytes

/-- The datagram is longer than the buffer, and what fits in the buffer is a line. -/
def CutToLine (d : Arrived) : Prop :=
  1024 < d.bytes.length ∧ ∃ T R U P s, SecpLine (d.bytes.take 1024) T R U P s

variable {d : Arrived}

/-- The length checks add nothing to the parser's own. -/
theorem dispatched_eq (inet : d.src.sinFamily = AF_INET) :
    d.dispatched = parseSecpLine (d.bytes.take kMaxPacketBytes) := by
  have received : d.recvFrom = some (d.bytes.take kMaxPacketBytes) := by simp [recvFrom, inet]
  rw [dispatched, received, Option.bind_some]
  cases parsed : parseSecpLine (d.bytes.take kMaxPacketBytes) with
  | none => split <;> rfl
  | some msg => exact if_neg (parse_length parsed)

theorem parse_none_of_long (long : 1024 < d.bytes.length) : parseSecpLine d.bytes = none := by
  cases parsed : parseSecpLine d.bytes with
  | none => rfl
  | some msg =>
    have short := (parseSecpLine_fields.1 parsed).2.1
    omega

/-- A line is what the parser accepts. -/
theorem cutToLine_iff : d.CutToLine ↔
    1024 < d.bytes.length ∧ (parseSecpLine (d.bytes.take 1024)).isSome = true := by
  refine and_congr_right fun _ => ?_
  rw [Option.isSome_iff_exists]
  constructor
  · rintro ⟨T, R, U, P, s, line⟩
    obtain ⟨t, rfl⟩ := exists_secpTypeName line.type
    exact ⟨⟨t, R, U, P⟩, parseSecpLine_iff_secpLine.2 ⟨s, line⟩⟩
  · rintro ⟨msg, parsed⟩
    obtain ⟨s, line⟩ := parseSecpLine_iff_secpLine.1 parsed
    exact ⟨_, _, _, _, s, line⟩

/-- **The loop takes the message of the whole datagram** unless a longer one is cut to a line. -/
theorem dispatched_eq_parse_iff (inet : d.src.sinFamily = AF_INET) :
    d.dispatched = parseSecpLine d.bytes ↔ ¬ d.CutToLine := by
  rw [dispatched_eq inet]
  by_cases long : 1024 < d.bytes.length
  · rw [parse_none_of_long long, cutToLine_iff, kMaxPacketBytes]
    simp [long]
  · have whole : d.bytes.take kMaxPacketBytes = d.bytes :=
      List.take_of_length_le (not_lt.1 long)
    rw [whole]
    exact ⟨fun _ cut => long cut.1, fun _ => rfl⟩

/-- The line and its fields leave at least 432 bytes of the buffer to CR and LF. -/
theorem CutToLine.terminator (cut : d.CutToLine) :
    ∃ T R U P s, SecpLine (d.bytes.take 1024) T R U P s ∧ 432 ≤ s.length := by
  obtain ⟨long, T, R, U, P, s, line⟩ := cut
  obtain ⟨t, rfl⟩ := exists_secpTypeName line.type
  have type := (secpTypeName_length t).2
  have room := line.room.2.2
  have username := line.username.2.2
  have payload := line.payload.2
  have full := congrArg List.length line.shape
  have bar : (lit "|").length = 1 := by decide +kernel
  simp only [List.length_take, List.length_append, bar] at full
  exact ⟨_, R, U, P, s, line, by omega⟩

end Arrived

namespace Host

theorem handle_eq_dispatch (c : Client) (d : Arrived) (t₁ t₂ : Int) :
    handle c d t₁ t₂ = d.dispatched.elim (c, []) fun msg => c.dispatch msg d.src t₁ t₂ := by
  unfold handle Arrived.dispatched
  cases d.recvFrom with
  | none => rfl
  | some bytes =>
    rw [Option.elim_some, Option.bind_some, Client.handleDatagram]
    split
    · rfl
    · cases parseSecpLine bytes with
      | none => rfl
      | some msg => rfl

/-- Reading a socket dispatches the message of the datagram at the head of its queue. -/
theorem step_read {h : Host} {socket : HostSocket} {d : Arrived} {rest : List Arrived}
    (head : h.queue socket = d :: rest) (t₁ t₂ : Int) :
    let o := d.dispatched.elim (h.client, []) fun msg => h.client.dispatch msg d.src t₁ t₂
    (h.step (.read socket t₁ t₂)).client = o.1 ∧
      (h.step (.read socket t₁ t₂)).handled = h.handled ++ o.2.map fun e => (d.id, e) := by
  intro o
  simp only [step, head, handle_eq_dispatch, o, and_self]

end Host

/-- **A datagram that does not fit in the buffer** reaches a handler exactly when its first 1024
bytes are a line. -/
theorem receive_loop_dispatches_iff (username : Bytes) (localIp : InAddr) (run : List HostOp)
    (socket : HostSocket) (d : Arrived) (rest : List Arrived) (t₁ t₂ : Int)
    (head : ((hostMachine username localIp).exec run).queue socket = d :: rest)
    (inet : d.src.sinFamily = AF_INET) :
    let h := (hostMachine username localIp).exec run
    let h' := (hostMachine username localIp).exec (run ++ [.read socket t₁ t₂])
    let o := d.dispatched.elim (h.client, []) fun msg => h.client.dispatch msg d.src t₁ t₂
    (h'.client = o.1 ∧ h'.handled = h.handled ++ o.2.map fun e => (d.id, e)) ∧
      (d.dispatched = parseSecpLine d.bytes ↔ ¬ d.CutToLine) := by
  intro h h' o
  have read : h' = h.step (.read socket t₁ t₂) := Machine.exec_snoc _ run _
  rw [read]
  exact ⟨Host.step_read head t₁ t₂, Arrived.dispatched_eq_parse_iff inet⟩

/-- alice reads bob's line in the lobby. -/
theorem receive_loop_dispatches_lobby :
    let d : Arrived := ⟨0, lit "CHAT|USN Chat|bob|hei\n", ⟨AF_INET, kUdpPort, ⟨10, 0, 0, 2⟩⟩⟩
    let run : List HostOp := [.arrive .broadcast d.bytes d.src]
    ((hostMachine (lit "alice") ⟨10, 0, 0, 1⟩).exec (run ++ [.read .udp 1 1])).handled =
        [(0, .lobbyMessage (lit "bob") (lit "hei"))] ∧
      (d.dispatched = parseSecpLine d.bytes ↔ ¬ d.CutToLine) := by
  intro d run
  exact ⟨by decide +kernel, (receive_loop_dispatches_iff (lit "alice") ⟨10, 0, 0, 1⟩ run .udp d []
    1 1 rfl rfl).2⟩

/-- bob's line is followed by 1100 line feeds: the datagram is no SECP line, and is shown. -/
theorem overlong_datagram_dispatched :
    let bytes := lit "CHAT|USN Chat|bob|hei" ++ List.replicate 1100 10
    let bob : SockaddrIn := ⟨AF_INET, kUdpPort, ⟨10, 0, 0, 2⟩⟩
    let run : List HostOp := [.arrive .broadcast bytes bob, .read .udp 1 1]
    kMaxPacketBytes < bytes.length ∧ parseSecpLine bytes = none ∧
      (Arrived.dispatched ⟨0, bytes, bob⟩) =
        some ⟨.Chat, lit "USN Chat", lit "bob", lit "hei"⟩ ∧
      ((hostMachine (lit "alice") ⟨10, 0, 0, 1⟩).exec run).handled =
        [(0, .lobbyMessage (lit "bob") (lit "hei"))] := by
  decide +kernel

end SecpChat
