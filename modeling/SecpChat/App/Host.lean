import SecpChat.App.Fidelity
import SecpChat.Services.RoomSwitch

/-!
# The sockets of one host (`main.cpp`, `app/receive_multiplex_loop.cpp`)

`main` binds one socket to port 50000, and `bind_multicast_channel` binds a second one to
the same port while the client is in a room. The kernel queues an arriving broadcast on
every socket of the port, a multicast too once the host has joined the group, and the
receive loop reads both queues. A datagram that arrives while the second socket is open is
therefore handled twice; what it shows twice is what the client would show of it then
(`Doubles`).
-/

namespace SecpChat

open Runs

/-- `udp_sock` of `main`, and the socket that `bind_multicast_channel` opens. -/
inductive HostSocket where
  | udp | multicast
  deriving DecidableEq, Repr

/-- How a datagram was sent. The kernel gives a unicast one to a single socket. -/
inductive Cast where
  | broadcast | multicast | unicast (chosen : HostSocket)
  deriving DecidableEq, Repr

/-- A datagram that has arrived, with its number. -/
structure Arrived where
  id : Nat
  bytes : Bytes
  src : SockaddrIn
  deriving DecidableEq, Repr

/-- `recv_from` into the buffer of the loop. -/
def Arrived.recvFrom (d : Arrived) : Option Bytes :=
  if d.src.sinFamily ≠ AF_INET then none else some (d.bytes.take kMaxPacketBytes)

structure Host where
  client : Client
  queue : HostSocket → List Arrived
  /-- The number of datagrams that have arrived. -/
  arrived : Nat
  /-- The effects of handling each datagram. -/
  handled : List (Nat × Effect)

inductive HostOp where
  /-- A datagram for port 50000 arrives. -/
  | arrive (cast : Cast) (bytes : Bytes) (src : SockaddrIn)
  /-- The receive loop reads a socket. -/
  | read (socket : HostSocket) (t₁ t₂ : Int)
  /-- The menu or a timer calls a service. -/
  | act (op : ClientOp)

namespace Host

def isOpen (h : Host) : HostSocket → Bool
  | .udp => true
  | .multicast => h.client.groups.mcastSock.isSome

/-- The kernel queues an arriving datagram on the socket. -/
def queues (h : Host) (cast : Cast) (socket : HostSocket) : Bool :=
  h.isOpen socket && match cast with
    | .broadcast => true
    | .multicast => h.client.groups.joinedMembership
    | .unicast chosen => socket == chosen

/-- `handle_datagram` of what `recv_from` yields. -/
def handle (c : Client) (d : Arrived) (t₁ t₂ : Int) : Client × List Effect :=
  d.recvFrom.elim (c, []) fun bytes => c.handleDatagram bytes d.src t₁ t₂

def step (h : Host) : HostOp → Host
  | .arrive cast bytes src =>
    let d : Arrived := ⟨h.arrived, bytes, src⟩
    { h with
      arrived := h.arrived + 1
      queue := fun s => if h.queues cast s then h.queue s ++ [d] else h.queue s }
  | .read socket t₁ t₂ =>
    match h.queue socket with
    | [] => h
    | d :: rest =>
      let (client, effects) := handle h.client d t₁ t₂
      ⟨client, Function.update h.queue socket rest, h.arrived,
        h.handled ++ effects.map fun e => (d.id, e)⟩
  -- what is received comes from a socket
  | .act (.received _ _ _ _) => h
  | .act op =>
    { h with
      client := h.client.step op
      queue :=
        if op.groups.elim false h.client.groups.closesChannel then
          Function.update h.queue .multicast []
        else h.queue }

end Host

/-- The runs of one client on its host. -/
def hostMachine (username : Bytes) (localIp : InAddr) : Machine Host HostOp :=
  ⟨⟨.init username localIp, fun _ => [], 0, []⟩, Host.step⟩

/-! ## What is shown twice -/

/-- The lobby, or the active room, shows the datagram. -/
def Client.shows (c : Client) (channel : ChatChannel) (d : Arrived) : Bool :=
  (d.recvFrom.bind parseSecpLine).any fun msg => msg.type == .Chat && msg.payload != [] &&
    match channel with
    | .lobby => msg.room == usnChat
    | .group => msg.room == c.groups.activeRoomName && msg.username != c.groups.username
    | .direct => false

namespace Host

/-- A datagram arrives that is queued on the second socket as well and that the lobby or the
active room shows. -/
def Doubles (h : Host) : HostOp → Bool
  | .arrive cast bytes src => h.queues cast .udp && h.queues cast .multicast &&
      (h.client.shows .lobby ⟨h.arrived, bytes, src⟩ ||
        h.client.shows .group ⟨h.arrived, bytes, src⟩)
  | _ => false

/-- How often a callback was invoked in handling the datagram `n`. -/
def shown (h : Host) (channel : ChatChannel) (n : Nat) : Nat :=
  h.handled.countP fun e => e.1 == n && e.2.isOn channel

end Host

/-! ## Handling one datagram -/

/-- The channel of a client outlives every operation that does not close it. -/
theorem GroupRoomCoordinator.step_sameMembership {g : GroupRoomCoordinator} {op : GroupOp}
    (kept : g.closesChannel op = false) : SameMembership g (g.step op) := by
  obtain ⟨registry, state⟩ := step_of_keeps kept
  rw [state]
  exact ⟨rfl, rfl, rfl⟩

/-- What a client would show depends on its active room and its name. -/
structure SameView (c c' : Client) : Prop where
  active : c'.groups.activeRoomName = c.groups.activeRoomName
  username : c'.groups.username = c.groups.username

theorem SameView.trans {c c' c'' : Client} (h : SameView c c') (h' : SameView c' c'') :
    SameView c c'' :=
  ⟨h'.active.trans h.active, h'.username.trans h.username⟩

theorem SameView.shows {c c' : Client} (h : SameView c c') (channel : ChatChannel) (d : Arrived) :
    c'.shows channel d = c.shows channel d := by
  simp only [Client.shows, h.active, h.username]

theorem step_sameView {c : Client} {op : ClientOp}
    (kept : op.groups.elim false c.groups.closesChannel = false) : SameView c (c.step op) := by
  constructor
  · rw [c.step_groups]
    cases contained : op.groups with
    | none => rfl
    | some gop =>
      rw [contained] at kept
      exact (GroupRoomCoordinator.step_sameMembership kept).active
  · rw [c.step_groups]
    cases op.groups with
    | none => rfl
    | some gop => exact GroupRoomCoordinator.step_username gop

namespace Host

theorem handle_sameView (c : Client) (d : Arrived) (t₁ t₂ : Int) :
    SameView c (handle c d t₁ t₂).1 := by
  unfold handle
  cases d.recvFrom with
  | none => exact ⟨rfl, rfl⟩
  | some bytes =>
    have kept : (ClientOp.received bytes d.src t₁ t₂).groups.elim false c.groups.closesChannel =
        false := by
      simp only [ClientOp.groups]
      cases parseSecpLine bytes with
      | none => rfl
      | some msg =>
        rw [Option.bind_some]
        split <;> rfl
    exact step_sameView kept

/-- Only a CHAT invokes a channel's callback. -/
theorem handleDatagram_silent (c : Client) {bytes : Bytes} {msg : SecpMessage}
    (parsed : parseSecpLine bytes = some msg) (type : msg.type ≠ .Chat) (src : SockaddrIn)
    (t₁ t₂ : Int) (channel : ChatChannel) :
    (c.handleDatagram bytes src t₁ t₂).2.countP (Effect.isOn channel) = 0 := by
  have advert : (c.groups.onRoomAnnounce msg t₁ t₂).effects = [] := by
    obtain ⟨registry, outcome⟩ := c.groups.onRoomAnnounce_outcome msg t₁ t₂
    rw [outcome]
  cases kind : msg.type with
  | Presence => simp [Client.handleDatagram, parse_length parsed, parsed, kind]
  | RoomAnnounce =>
    simp [Client.handleDatagram, parse_length parsed, parsed, kind, Client.onGroups,
      GroupRoomCoordinator.perform, advert]
  | Invite =>
    rw [c.handleDatagram_invite parsed kind, List.countP_eq_zero]
    intro e he
    obtain ⟨told, rfl⟩ := DirectMessageService.onInvite_quiet c.direct msg src t₁ t₂ e he
    cases channel <;> simp [Effect.isOn]
  | Chat => exact (type kind).elim
  | Unknown => simp [Client.handleDatagram, parse_length parsed, parsed, kind]

/-- A callback of the lobby or the group is invoked once if the client shows the datagram,
else not at all. -/
theorem handle_shows (c : Client) (d : Arrived) (t₁ t₂ : Int) {channel : ChatChannel}
    (public_ : channel ≠ .direct) :
    (handle c d t₁ t₂).2.countP (Effect.isOn channel) = if c.shows channel d then 1 else 0 := by
  unfold handle Client.shows
  cases d.recvFrom with
  | none => simp
  | some bytes =>
    rw [Option.elim_some, Option.bind_some]
    cases parsed : parseSecpLine bytes with
    | none => simp [c.handleDatagram_none parsed]
    | some msg =>
      by_cases type : msg.type = .Chat
      · obtain ⟨lobby, group, -⟩ := handled_on c parsed type d.src t₁ t₂
        have ok := fieldsOk_of_parse parsed
        have sender := ne_nil_of_isUsernameOk ok.username
        have named := ne_nil_of_isRoomOk ok.room
        rw [List.countP_eq_length_filter]
        cases channel with
        | lobby =>
          have short : ¬ (msg.username.length > kMaxUsernameBytes ∨
              msg.payload.length > kMaxChatMessageBytes) := by
            rw [not_or, not_lt, not_lt]
            exact ⟨(isUsernameOk_iff.1 ok.username).2.2, (isPayloadOk_iff.1 ok.payload).2⟩
          rw [lobby, LobbyService.onLobbyChat, if_neg short]
          by_cases room : msg.room = usnChat <;> by_cases empty : msg.payload = [] <;>
            simp [type, room, empty, sender]
        | group =>
          rw [group, GroupRoomCoordinator.onRoomChat]
          by_cases idle : c.groups.activeRoomName = []
          · simp [type, idle, named]
          by_cases room : msg.room = c.groups.activeRoomName <;>
            by_cases self : msg.username = c.groups.username <;>
            by_cases empty : msg.payload = [] <;> simp_all
        | direct => exact (public_ rfl).elim
      · rw [handleDatagram_silent c parsed type]
        simp [type]

/-! ## Once -/

/-- The copies of the datagram `n` that wait on the first socket. -/
def waiting (h : Host) (n : Nat) : Nat := (h.queue .udp).countP fun d => d.id == n

/-- Those on the second socket that the client would show. -/
def loud (h : Host) (channel : ChatChannel) (n : Nat) : Nat :=
  (h.queue .multicast).countP fun d => d.id == n && h.client.shows channel d

/-- **The invariant**: what has been shown of a datagram and what may still be is one. -/
structure Once (h : Host) : Prop where
  queued : ∀ socket, ∀ d ∈ h.queue socket, d.id < h.arrived
  past : ∀ e ∈ h.handled, e.1 < h.arrived
  once : ∀ channel, channel ≠ .direct → ∀ n,
    h.waiting n + h.loud channel n + h.shown channel n ≤ 1

/-- The number of the next datagram is not used yet. -/
theorem Once.next {h : Host} (inv : h.Once) (channel : ChatChannel) :
    h.waiting h.arrived = 0 ∧ h.loud channel h.arrived = 0 ∧ h.shown channel h.arrived = 0 := by
  refine ⟨List.countP_eq_zero.2 fun d hd => ?_, List.countP_eq_zero.2 fun d hd => ?_,
    List.countP_eq_zero.2 fun e he => ?_⟩
  · simp [(inv.queued .udp d hd).ne]
  · simp [(inv.queued .multicast d hd).ne]
  · simp [(inv.past e he).ne]

theorem once_arrive {h : Host} (inv : h.Once) (cast : Cast) (bytes : Bytes) (src : SockaddrIn)
    (single : ¬ h.Doubles (.arrive cast bytes src)) : (h.step (.arrive cast bytes src)).Once := by
  constructor
  · intro socket d hd
    show d.id < h.arrived + 1
    simp only [step] at hd
    split at hd
    · rcases List.mem_append.1 hd with old | new
      · exact Nat.lt_succ_of_lt (inv.queued socket d old)
      · rw [List.mem_singleton.1 new]
        exact Nat.lt_succ_self _
    · exact Nat.lt_succ_of_lt (inv.queued socket d hd)
  · exact fun e he => Nat.lt_succ_of_lt (inv.past e he)
  · intro channel public_ n
    have before := inv.once channel public_ n
    have waiting' : (h.step (.arrive cast bytes src)).waiting n =
        h.waiting n + if h.queues cast .udp ∧ h.arrived = n then 1 else 0 := by
      simp only [waiting, step]
      cases h.queues cast .udp <;> by_cases same : h.arrived = n <;> simp [same]
    have loud' : (h.step (.arrive cast bytes src)).loud channel n = h.loud channel n +
        if h.queues cast .multicast ∧ h.arrived = n ∧
          h.client.shows channel ⟨h.arrived, bytes, src⟩ then 1 else 0 := by
      simp only [loud, step]
      cases h.queues cast .multicast <;> by_cases same : h.arrived = n <;>
        cases shown : h.client.shows channel ⟨h.arrived, bytes, src⟩ <;> simp_all
    have shown' : (h.step (.arrive cast bytes src)).shown channel n = h.shown channel n := rfl
    rw [waiting', loud', shown']
    by_cases same : h.arrived = n
    · subst same
      obtain ⟨none, none', none''⟩ := inv.next channel
      rw [none, none', none'']
      have either : ¬ (h.queues cast .udp = true ∧ h.queues cast .multicast = true ∧
          h.client.shows channel ⟨h.arrived, bytes, src⟩ = true) := by
        rintro ⟨first, second, shows⟩
        apply single
        cases channel with
        | lobby => simp [Doubles, first, second, shows]
        | group => simp [Doubles, first, second, shows]
        | direct => exact (public_ rfl).elim
      split <;> split <;> simp_all
    · simp [same, before]

/-- What handling the head of a queue adds to what is shown. -/
theorem shown_read {h : Host} {socket : HostSocket} {d : Arrived} {rest : List Arrived}
    (head : h.queue socket = d :: rest) (t₁ t₂ : Int) {channel : ChatChannel}
    (public_ : channel ≠ .direct) (n : Nat) :
    (h.step (.read socket t₁ t₂)).shown channel n =
      h.shown channel n + if d.id = n ∧ h.client.shows channel d then 1 else 0 := by
  have handled := handle_shows h.client d t₁ t₂ public_
  simp only [shown, step, head, List.countP_append, List.countP_map]
  by_cases same : d.id = n
  · have own : ((fun e => e.1 == n && e.2.isOn channel) ∘ fun e => (d.id, e)) =
        Effect.isOn channel := by
      funext e
      simp [same]
    rw [own, handled]
    simp [same]
  · simp [same, Function.comp_def]

/-- The rest of the state after reading a head. -/
theorem view_read {h : Host} {socket : HostSocket} {d : Arrived} {rest : List Arrived}
    (head : h.queue socket = d :: rest) (t₁ t₂ : Int) :
    SameView h.client (h.step (.read socket t₁ t₂)).client := by
  simp only [step, head]
  exact handle_sameView h.client d t₁ t₂

theorem queue_read {h : Host} {socket : HostSocket} {d : Arrived} {rest : List Arrived}
    (head : h.queue socket = d :: rest) (t₁ t₂ : Int) (s : HostSocket) (other : s ≠ socket) :
    (h.step (.read socket t₁ t₂)).queue s = h.queue s := by
  simp only [step, head, Function.update_of_ne other]

theorem once_read {h : Host} (inv : h.Once) (socket : HostSocket) (t₁ t₂ : Int) :
    (h.step (.read socket t₁ t₂)).Once := by
  cases head : h.queue socket with
  | nil => simpa [step, head] using inv
  | cons d rest =>
    have fresh : ∀ d' ∈ d :: rest, d'.id < h.arrived := head ▸ inv.queued socket
    have queue : (h.step (.read socket t₁ t₂)).queue = Function.update h.queue socket rest := by
      simp only [step, head]
    have arrived : (h.step (.read socket t₁ t₂)).arrived = h.arrived := by simp only [step, head]
    have view := view_read head t₁ t₂
    constructor
    · intro socket' d' hd'
      rw [arrived]
      rw [queue] at hd'
      by_cases same : socket' = socket
      · subst same
        rw [Function.update_self] at hd'
        exact fresh d' (List.mem_cons_of_mem d hd')
      · rw [Function.update_of_ne same] at hd'
        exact inv.queued socket' d' hd'
    · intro e he
      rw [arrived]
      simp only [step, head, List.mem_append, List.mem_map] at he
      rcases he with old | ⟨e', -, rfl⟩
      · exact inv.past e old
      · exact fresh d (List.mem_cons_self)
    · intro channel public_ n
      have before := inv.once channel public_ n
      rw [shown_read head t₁ t₂ public_ n]
      simp only [waiting, loud, queue, view.shows] at before ⊢
      cases socket with
      | udp =>
        rw [head, List.countP_cons] at before
        rw [Function.update_self, Function.update_of_ne (by decide)]
        by_cases same : d.id = n
        · simp only [same, beq_self_eq_true, if_true, true_and] at before ⊢
          split <;> omega
        · simpa [same] using before
      | multicast =>
        rw [head, List.countP_cons] at before
        rw [Function.update_self, Function.update_of_ne (by decide)]
        by_cases same : d.id = n
        · simp only [same, beq_self_eq_true, Bool.true_and, true_and] at before ⊢
          omega
        · simpa [same] using before

/-- Closing the second socket drops its queue; as long as it stays, so does the room. -/
theorem once_act {h : Host} (inv : h.Once) (op : ClientOp) : (h.step (.act op)).Once := by
  by_cases received : ∃ bytes src t₁ t₂, op = .received bytes src t₁ t₂
  · obtain ⟨bytes, src, t₁, t₂, rfl⟩ := received
    exact inv
  have stepped : h.step (.act op) = { h with
      client := h.client.step op
      queue := if op.groups.elim false h.client.groups.closesChannel then
        Function.update h.queue .multicast [] else h.queue } := by
    cases op <;> first | rfl | exact (received ⟨_, _, _, _, rfl⟩).elim
  rw [stepped]
  cases closes : op.groups.elim false h.client.groups.closesChannel with
  | false =>
    rw [if_neg (by simp)]
    refine ⟨inv.queued, inv.past, fun channel public_ n => ?_⟩
    have before := inv.once channel public_ n
    simpa only [waiting, loud, shown, (step_sameView closes).shows] using before
  | true =>
    rw [if_pos rfl]
    refine ⟨fun socket d hd => ?_, inv.past, fun channel public_ n => ?_⟩
    · cases socket with
      | udp => exact inv.queued .udp d hd
      | multicast => simp at hd
    · have before := inv.once channel public_ n
      simp only [waiting, loud, shown] at before ⊢
      rw [Function.update_self, Function.update_of_ne (by decide), List.countP_nil]
      omega

/-! ## Twice -/

/-- Reading a socket up to the datagram `d` handles it, and leaves the room and the other
queue as they are. -/
theorem read_up_to {socket : HostSocket} {d : Arrived} {back : List Arrived} {channel : ChatChannel}
    (public_ : channel ≠ .direct) (front : List Arrived) (h : Host)
    (queue : h.queue socket = front ++ d :: back) :
    let h' := (List.replicate (front.length + 1) (HostOp.read socket 0 0)).foldl step h
    SameView h.client h'.client ∧ (∀ s, s ≠ socket → h'.queue s = h.queue s) ∧
      (h.client.shows channel d = true → h.shown channel d.id + 1 ≤ h'.shown channel d.id) := by
  induction front generalizing h with
  | nil =>
    intro h'
    have read : h' = h.step (.read socket 0 0) := rfl
    rw [read]
    refine ⟨view_read queue 0 0, queue_read queue 0 0, fun shows => ?_⟩
    rw [shown_read queue 0 0 public_]
    simp [shows]
  | cons x front ih =>
    intro h'
    have head : h.queue socket = x :: (front ++ d :: back) := queue
    have view := view_read head 0 0
    have left : (h.step (.read socket 0 0)).queue socket = front ++ d :: back := by
      simp only [step, head, Function.update_self]
    obtain ⟨view', others, shown'⟩ := ih (h.step (.read socket 0 0)) left
    refine ⟨view.trans view', fun s other => (others s other).trans (queue_read head 0 0 s other),
      fun shows => ?_⟩
    have more := shown_read head 0 0 public_ d.id
    exact le_trans (by omega) (shown' ((view.shows channel d).trans shows))

/-- What arrives while the second socket is open, and is shown, can be shown twice. -/
theorem shown_twice {h : Host} {cast : Cast} {bytes : Bytes} {src : SockaddrIn}
    (doubles : h.Doubles (.arrive cast bytes src)) :
    ∃ more channel, channel ≠ .direct ∧
      2 ≤ ((HostOp.arrive cast bytes src :: more).foldl step h).shown channel h.arrived := by
  simp only [Doubles, Bool.and_eq_true, Bool.or_eq_true] at doubles
  obtain ⟨⟨first, second⟩, shows⟩ := doubles
  obtain ⟨channel, public_, shows⟩ : ∃ channel, channel ≠ .direct ∧
      h.client.shows channel ⟨h.arrived, bytes, src⟩ = true := by
    rcases shows with lobby | group
    · exact ⟨.lobby, nofun, lobby⟩
    · exact ⟨.group, nofun, group⟩
  let arrived := h.step (.arrive cast bytes src)
  have udp : arrived.queue .udp = h.queue .udp ++ [⟨h.arrived, bytes, src⟩] := if_pos first
  have multicast : arrived.queue .multicast = h.queue .multicast ++ [⟨h.arrived, bytes, src⟩] :=
    if_pos second
  obtain ⟨view, others, once⟩ := read_up_to public_ (h.queue .udp) arrived udp
  obtain ⟨-, -, twice⟩ := read_up_to public_ (h.queue .multicast) _
    ((others .multicast (by decide)).trans multicast)
  refine ⟨List.replicate ((h.queue .udp).length + 1) (.read .udp 0 0) ++
    List.replicate ((h.queue .multicast).length + 1) (.read .multicast 0 0), channel, public_, ?_⟩
  rw [List.foldl_cons, List.foldl_append]
  have first' := once shows
  have second' := twice ((view.shows channel _).trans shows)
  exact le_trans (by omega) second'

end Host

/-- **No chat is shown twice** unless it arrives while the second socket is open, and then it
can be. -/
theorem chat_shown_once (username : Bytes) (localIp : InAddr) :
    (∀ run, (hostMachine username localIp).Along (fun h op => ¬ h.Doubles op) run →
      ∀ channel, channel ≠ .direct → ∀ n,
        ((hostMachine username localIp).exec run).shown channel n ≤ 1) ∧
    ∀ run cast bytes src,
      ((hostMachine username localIp).exec run).Doubles (.arrive cast bytes src) = true →
      ∃ more channel, channel ≠ .direct ∧
        2 ≤ ((hostMachine username localIp).exec (run ++ .arrive cast bytes src :: more)).shown
          channel ((hostMachine username localIp).exec run).arrived := by
  refine ⟨fun run single channel public_ n => ?_, fun run cast bytes src doubles => ?_⟩
  · have inv : ((hostMachine username localIp).exec run).Once := by
      refine (hostMachine username localIp).invariant_along ?_ ?_ run single
      · exact ⟨by simp [hostMachine], by simp [hostMachine], by simp [hostMachine, Host.waiting,
          Host.loud, Host.shown]⟩
      · intro h op single inv
        cases op with
        | arrive cast bytes src => exact Host.once_arrive inv cast bytes src single
        | read socket t₁ t₂ => exact Host.once_read inv socket t₁ t₂
        | act op => exact Host.once_act inv op
    have once := inv.once channel public_ n
    omega
  · obtain ⟨more, channel, public_, twice⟩ := Host.shown_twice doubles
    refine ⟨more, channel, public_, ?_⟩
    rw [Machine.exec_append]
    exact twice

/-- Outside a room bob's line in the lobby is shown once. -/
theorem chat_shown_once_lobby :
    let bob : SockaddrIn := ⟨AF_INET, kUdpPort, ⟨10, 0, 0, 2⟩⟩
    let run := [.arrive .broadcast (lit "CHAT|USN Chat|bob|hei\n") bob, .read .udp 1 1,
      .read .multicast 2 2]
    let M := hostMachine (lit "alice") ⟨10, 0, 0, 1⟩
    M.Along (fun h op => ¬ h.Doubles op) run ∧ (M.exec run).shown .lobby 0 = 1 ∧
      (M.exec run).shown .group 0 ≤ 1 := by
  intro bob run M
  have single : M.Along (fun h op => ¬ h.Doubles op) run := by decide +kernel
  exact ⟨single, by decide +kernel, (chat_shown_once (lit "alice") ⟨10, 0, 0, 1⟩).1 run single .group
    (by decide) 0⟩

/-- In a room, bob's line in the lobby and his line in the room are each shown twice. -/
theorem chat_shown_twice_in_room :
    let calls : ChannelCalls := ⟨true, some 4, true, true, true, true, true, true⟩
    let bob : SockaddrIn := ⟨AF_INET, kUdpPort, ⟨10, 0, 0, 2⟩⟩
    let run := [.act (.createRoom calls true (lit "r1")),
      .arrive .broadcast (lit "CHAT|USN Chat|bob|hei\n") bob,
      .arrive .multicast (lit "CHAT|r1|bob|hei\n") bob,
      .read .udp 1 1, .read .multicast 1 1, .read .udp 2 2, .read .multicast 2 2]
    let h := (hostMachine (lit "alice") ⟨10, 0, 0, 1⟩).exec run
    h.arrived = 2 ∧ h.shown .lobby 0 = 2 ∧ h.shown .group 1 = 2 := by
  decide +kernel

end SecpChat
