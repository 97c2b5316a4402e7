import SecpChat.App.Host
import SecpChat.App.InterruptibleSleep
import SecpChat.App.MenuLoop
import SecpChat.Lib.Progress

/-!
# The threads of the program (`main.cpp`, `app/receive_multiplex_loop.cpp`)

From the start of the threads to the end of `main`: the menu and then the shutdown, the
receive loop, the heartbeat and the loop of the group adverts, a step of one of them at a
time. `poll` reports what it finds when it returns, and between that and the `recv` of a
socket the menu may have closed the channel, or switched to another one. The host of the
process runs as one of `hostMachine` (`host_part`), its sleeper as one of `sleepMachine`
(`sleeper_part`), and a `recv` has something to read unless the channel was given up since
(`recv_never_waits`). What becomes of a `recv` in a channel that is given up meanwhile the
source leaves open, since its socket is destroyed; here only the environment ends it.
-/

namespace SecpChat

open Runs
open scoped List

/-- `revents` of an entry: `POLLERR` and `POLLNVAL` count before `POLLIN`. -/
inductive Revents where
  | none | pollin | error
  deriving DecidableEq, Repr

/-- What `poll` returns; `interrupted` is `EINTR`. -/
inductive PollResult where
  | interrupted | failed
  | ready (revents : HostSocket → Revents)

/-- Where `run_receive_multiplex_loop` is. The number is how often the channel had been given up
when `poll` returned. -/
inductive ReceiverPc where
  /-- `while (running.load())` -/
  | head
  /-- `pfds` is built. -/
  | poll (pfds : List HostSocket)
  /-- In the loop over `pfds`. -/
  | serve (polled : Nat) (pfds : List (HostSocket × Revents))
  /-- In the `recv_from` of an entry; `captured` is when `recv_multicast` took the socket. -/
  | recv (socket : HostSocket) (captured polled : Nat) (pfds : List (HostSocket × Revents))
  | ended
  deriving DecidableEq, Repr

/-- Where a thread that sleeps is in its loop. -/
inductive LoopPc where
  /-- `while (running.load())` -/
  | head
  /-- In `sleep_for`, or just back from it. -/
  | sleep
  /-- In the body, after some of its calls. -/
  | body (done : Nat)
  | ended
  deriving DecidableEq, Repr

/-- Where `main` is. -/
inductive MainPc where
  | menu (pc : MenuPc)
  | requestStop | closeUdp | leaveRoom
  | joinReceiver | joinHeartbeat | joinGroupAdvert
  | returned
  deriving DecidableEq, Repr

/-- What the environment decides of a call in the body of a loop. -/
structure LoopInputs where
  now : Int
  sent : Bool
  resent : Bytes → Bool

/-- The calls in the body of a loop; what they send goes through `udp_sock`. -/
def BackgroundThread.calls (i : LoopInputs) (udpOpen : Bool) : BackgroundThread → List ClientOp
  | .heartbeat => [.sendPresence (udpOpen && i.sent), .pruneStalePeers i.now,
      .prunePending (seconds 30) i.now,
      .resendOutgoingPending (seconds 6) (seconds 45) i.now fun sid => udpOpen && i.resent sid]
  | .groupAdvertLoop => [.broadcastOwnedAdvert (udpOpen && i.sent)]

structure Process where
  host : Host
  running : Bool
  /-- `udp_sock` has a descriptor. What arrives for it after that is never read. -/
  udpOpen : Bool
  sleeper : InterruptibleSleep BackgroundThread
  main : MainPc
  loop : BackgroundThread → LoopPc
  receiver : ReceiverPc
  /-- How often the multicast channel has been given up. -/
  givenUp : Nat

inductive ProcessAct where
  /-- `main` goes on; in the menu that is with a line. -/
  | main (line : Option Bytes) (e : Surroundings)
  | receiver (result : PollResult) (t₁ t₂ : Int)
  | loop (t : BackgroundThread) (i : LoopInputs)
  /-- The time of a wait is up. -/
  | timeout (t : BackgroundThread)
  | spurious (t : BackgroundThread)
  /-- The `recv_from` that the receiver is in ends with nothing. -/
  | recvEnds
  /-- A datagram for port 50000 arrives. -/
  | arrive (cast : Cast) (bytes : Bytes) (src : SockaddrIn)

namespace Process

def init (username : Bytes) (localIp : InAddr) : Process where
  host := (hostMachine username localIp).start
  running := true
  udpOpen := true
  sleeper := (sleepMachine BackgroundThread).start
  main := .menu .choice
  loop _ := .head
  receiver := .head
  givenUp := 0

variable (p : Process)

def client : Client := p.host.client

/-- A service is called. -/
def call (op : ClientOp) : Process :=
  { p with
    host := p.host.step (.act op)
    givenUp := if op.groups.elim false p.client.groups.closesChannel then p.givenUp + 1
      else p.givenUp }

/-- `main`, from the menu on. -/
def stepMain (line : Option Bytes) (e : Surroundings) : Process :=
  match p.main with
  | .menu (.returned _) => { p with running := false, main := .requestStop }
  | .menu pc =>
    let r := p.client.onLine e pc line
    { r.op.elim p p.call with main := .menu r.pc }
  | .requestStop =>
    { p with
      sleeper := p.sleeper.stop
      main := if p.sleeper.stopper = .idle then .requestStop else .closeUdp }
  | .closeUdp => { p with udpOpen := false, main := .leaveRoom }
  | .leaveRoom => { p.call (.leaveRoom e.dropped) with main := .joinReceiver }
  | .joinReceiver => if p.receiver = .ended then { p with main := .joinHeartbeat } else p
  | .joinHeartbeat => if p.loop .heartbeat = .ended then { p with main := .joinGroupAdvert } else p
  | .joinGroupAdvert => if p.loop .groupAdvertLoop = .ended then { p with main := .returned } else p
  | .returned => p

/-- A socket can be read. -/
def isOpen : HostSocket → Bool
  | .udp => p.udpOpen
  | .multicast => p.client.groups.mcastSock.isSome

/-- The loop over `pfds`, up to the next `recv_from`. -/
def serve (polled : Nat) : List (HostSocket × Revents) → ReceiverPc
  | [] => .head
  | (_, .error) :: pfds => if p.running = false then .head else .serve polled pfds
  | (_, .none) :: pfds => .serve polled pfds
  | (socket, .pollin) :: pfds =>
    if p.isOpen socket = true then .recv socket p.givenUp polled pfds else .serve polled pfds

/-- The `recv_from` that the receiver is in returns: its socket is closed, or it has a datagram. -/
def recvReturns (socket : HostSocket) (captured : Nat) : Bool :=
  match socket with
  | .udp => !p.udpOpen || p.host.queue .udp != []
  | .multicast => captured == p.givenUp && p.host.queue .multicast != []

/-- `run_receive_multiplex_loop` -/
def stepReceiver (result : PollResult) (t₁ t₂ : Int) : Process :=
  match p.receiver with
  | .head =>
    { p with receiver := if p.running = true then
        .poll (.udp :: if p.client.groups.mcastSock.isSome then [.multicast] else []) else .ended }
  | .poll pfds =>
    { p with receiver := match result with
        | .interrupted => .head
        | .failed => .ended
        | .ready revents => .serve p.givenUp (pfds.map fun s => (s, revents s)) }
  | .serve polled pfds => { p with receiver := p.serve polled pfds }
  | .recv socket captured polled pfds =>
    if p.recvReturns socket captured = true then
      { p with
        host := if socket = .udp ∧ p.udpOpen = false then p.host
          else p.host.step (.read socket t₁ t₂)
        receiver := .serve polled pfds }
    else p
  | .ended => p

def gotoLoop (t : BackgroundThread) (pc : LoopPc) : Process :=
  { p with loop := Function.update p.loop t pc }

/-- The loops of `heartbeat` and `group_advert_loop`. -/
def stepLoop (t : BackgroundThread) (i : LoopInputs) : Process :=
  match p.loop t with
  | .head =>
    if p.running = true then { p with sleeper := p.sleeper.step (.call t) }.gotoLoop t .sleep
    else p.gotoLoop t .ended
  | .sleep =>
    match p.sleeper.pc t with
    | .out result => p.gotoLoop t (if result = some true then .body 0 else .ended)
    | _ => { p with sleeper := p.sleeper.run t }
  | .body done =>
    match (t.calls i p.udpOpen)[done]? with
    | some op => (p.call op).gotoLoop t (.body (done + 1))
    | none => p.gotoLoop t .head
  | .ended => p

def step : ProcessAct → Process
  | .main line e => p.stepMain line e
  | .receiver result t₁ t₂ => p.stepReceiver result t₁ t₂
  | .loop t i => p.stepLoop t i
  | .timeout t => { p with sleeper := p.sleeper.step (.timeout t) }
  | .spurious t => { p with sleeper := p.sleeper.step (.spurious t) }
  | .recvEnds => match p.receiver with
    | .recv _ _ polled pfds => { p with receiver := .serve polled pfds }
    | _ => p
  | .arrive cast bytes src => { p with host := p.host.step (.arrive cast bytes src) }

end Process

/-- The runs of the program from the start of its threads. -/
def processMachine (username : Bytes) (localIp : InAddr) : Machine Process ProcessAct :=
  ⟨.init username localIp, Process.step⟩

variable (username : Bytes) (localIp : InAddr)

namespace Process

variable {p : Process}

/-! ## The host and the sleeper of the process -/

theorem stepMain_host (line : Option Bytes) (e : Surroundings) :
    (p.stepMain line e).host = p.host ∨ ∃ op, (p.stepMain line e).host = p.host.step op := by
  unfold stepMain
  split
  · exact .inl rfl
  next pc _ _ =>
    cases r : (p.client.onLine e pc line).op with
    | none =>
      simp only [r]
      exact .inl rfl
    | some op =>
      simp only [r]
      exact .inr ⟨.act op, rfl⟩
  · exact .inl rfl
  · exact .inl rfl
  · exact .inr ⟨.act (.leaveRoom e.dropped), rfl⟩
  · split <;> exact .inl rfl
  · split <;> exact .inl rfl
  · split <;> exact .inl rfl
  · exact .inl rfl

theorem stepReceiver_host (result : PollResult) (t₁ t₂ : Int) :
    (p.stepReceiver result t₁ t₂).host = p.host ∨
      ∃ op, (p.stepReceiver result t₁ t₂).host = p.host.step op := by
  unfold stepReceiver
  split
  · exact .inl rfl
  · exact .inl rfl
  · exact .inl rfl
  next socket _ _ _ _ =>
    split
    · by_cases closed : socket = .udp ∧ p.udpOpen = false
      · exact .inl (if_pos closed)
      · exact .inr ⟨.read socket t₁ t₂, if_neg closed⟩
    · exact .inl rfl
  · exact .inl rfl

theorem stepLoop_host (t : BackgroundThread) (i : LoopInputs) :
    (p.stepLoop t i).host = p.host ∨ ∃ op, (p.stepLoop t i).host = p.host.step op := by
  unfold stepLoop
  split
  · split <;> exact .inl rfl
  · split <;> exact .inl rfl
  · split
    next op _ => exact .inr ⟨.act op, rfl⟩
    · exact .inl rfl
  · exact .inl rfl

theorem step_host (a : ProcessAct) :
    (p.step a).host = p.host ∨ ∃ op, (p.step a).host = p.host.step op := by
  cases a with
  | main line e => exact stepMain_host line e
  | receiver result t₁ t₂ => exact stepReceiver_host result t₁ t₂
  | loop t i => exact stepLoop_host t i
  | timeout t => exact .inl rfl
  | spurious t => exact .inl rfl
  | recvEnds =>
    simp only [step]
    split <;> exact .inl rfl
  | arrive cast bytes src => exact .inr ⟨.arrive cast bytes src, rfl⟩

/-- **The process acts on its host as a host**: what holds of every run of `hostMachine` holds in
the process, whatever its threads do between each other's steps. -/
theorem host_part :
    (processMachine username localIp).Part (hostMachine username localIp) Process.host :=
  ⟨rfl, fun p => p.step_host⟩

theorem step_sleeper (a : ProcessAct) :
    (p.step a).sleeper = p.sleeper ∨ ∃ act, (p.step a).sleeper = p.sleeper.step act := by
  cases a with
  | main line e =>
    simp only [step, stepMain]
    split
    · exact .inl rfl
    · cases (p.client.onLine e _ line).op <;> exact .inl rfl
    · exact .inr ⟨.stop, rfl⟩
    · exact .inl rfl
    · exact .inl rfl
    · split <;> exact .inl rfl
    · split <;> exact .inl rfl
    · split <;> exact .inl rfl
    · exact .inl rfl
  | receiver result t₁ t₂ =>
    simp only [step, stepReceiver]
    split
    · exact .inl rfl
    · exact .inl rfl
    · exact .inl rfl
    · split <;> exact .inl rfl
    · exact .inl rfl
  | loop t i =>
    simp only [step, stepLoop]
    split
    · split
      · exact .inr ⟨.call t, rfl⟩
      · exact .inl rfl
    · split
      · exact .inl rfl
      · exact .inr ⟨.run t, rfl⟩
    · split <;> exact .inl rfl
    · exact .inl rfl
  | timeout t => exact .inr ⟨.timeout t, rfl⟩
  | spurious t => exact .inr ⟨.spurious t, rfl⟩
  | recvEnds =>
    simp only [step]
    split <;> exact .inl rfl
  | arrive cast bytes src => exact .inl rfl

/-- **The sleeping threads run as those of `sleepMachine`.** -/
theorem sleeper_part :
    (processMachine username localIp).Part (sleepMachine BackgroundThread) Process.sleeper :=
  ⟨rfl, fun p => p.step_sleeper⟩

/-! ## What `poll` has found -/

/-- The sockets that the receiver polls. -/
def polls (p : Process) : List HostSocket :=
  match p.receiver with
  | .poll pfds => pfds
  | _ => []

/-- `poll` reports `POLLIN` of a socket that is open and has a datagram. -/
def Sound (p : Process) : ProcessAct → Prop
  | .receiver (.ready revents) _ _ =>
    ∀ socket ∈ p.polls, revents socket = .pollin →
      p.isOpen socket = true ∧ p.host.queue socket ≠ []
  | _ => True

instance (p : Process) (a : ProcessAct) : Decidable (p.Sound a) := by
  unfold Sound
  split <;> infer_instance

/-- A socket with `POLLIN` can be read, or has been given up since `poll` returned. -/
def Readable (p : Process) (polled : Nat) : HostSocket → Prop
  | .udp => p.udpOpen = false ∨ p.host.queue .udp ≠ []
  | .multicast => polled = p.givenUp → p.host.queue .multicast ≠ []

/-- The entries that are still to be served. -/
structure Polled (p : Process) (polled : Nat) (pfds : List (HostSocket × Revents)) : Prop where
  sockets : pfds.map Prod.fst <+ [.udp, .multicast]
  past : polled ≤ p.givenUp
  readable : ∀ socket, (socket, .pollin) ∈ pfds → p.Readable polled socket

theorem Polled.tail {polled : Nat} {entry : HostSocket × Revents}
    {pfds : List (HostSocket × Revents)} (h : p.Polled polled (entry :: pfds)) :
    p.Polled polled pfds :=
  ⟨List.sublist_of_cons_sublist h.sockets, h.past,
    fun socket mem => h.readable socket (List.mem_cons_of_mem entry mem)⟩

/-- A socket that is being read. -/
structure Receiving (p : Process) (socket : HostSocket) (captured polled : Nat)
    (pfds : List (HostSocket × Revents)) : Prop where
  entries : p.Polled polled ((socket, .pollin) :: pfds)
  since : polled ≤ captured
  past : captured ≤ p.givenUp
  current : socket = .multicast → captured = p.givenUp → p.isOpen .multicast = true

/-- **The invariant of the receive loop.** -/
def InTurn (p : Process) : ReceiverPc → Prop
  | .poll pfds => pfds <+ [.udp, .multicast]
  | .serve polled pfds => p.Polled polled pfds
  | .recv socket captured polled pfds => p.Receiving socket captured polled pfds
  | .head | .ended => True

/-- What could be read can still be, unless the channel is given up. -/
structure Keeps (p p' : Process) : Prop where
  givenUp : p.givenUp ≤ p'.givenUp
  readable : ∀ polled ≤ p.givenUp, ∀ socket, p.Readable polled socket → p'.Readable polled socket
  current : p'.givenUp = p.givenUp → p.isOpen .multicast = true → p'.isOpen .multicast = true

theorem Keeps.polled {p p' : Process} (h : Keeps p p') {polled : Nat}
    {pfds : List (HostSocket × Revents)} (before : p.Polled polled pfds) :
    p'.Polled polled pfds :=
  ⟨before.sockets, before.past.trans h.givenUp,
    fun socket mem => h.readable polled before.past socket (before.readable socket mem)⟩

theorem Keeps.inTurn {p p' : Process} (h : Keeps p p') {pc : ReceiverPc} (before : p.InTurn pc) :
    p'.InTurn pc := by
  cases pc with
  | head => exact trivial
  | poll pfds => exact before
  | serve polled pfds => exact h.polled before
  | recv socket captured polled pfds =>
    refine ⟨h.polled before.entries, before.since, before.past.trans h.givenUp,
      fun channel same => ?_⟩
    have least := before.past
    have more := h.givenUp
    have still : captured = p.givenUp := by omega
    exact h.current (by omega) (before.current channel still)
  | ended => exact trivial

theorem Keeps.of_same {p p' : Process} (host : p'.host = p.host) (givenUp : p'.givenUp = p.givenUp)
    (closed : p.udpOpen = false → p'.udpOpen = false) : Keeps p p' := by
  refine ⟨givenUp.ge, fun polled _ socket readable => ?_, fun _ channel => ?_⟩
  · cases socket with
    | udp =>
      simp only [Readable, host]
      exact readable.imp_left closed
    | multicast =>
      simp only [Readable, host, givenUp]
      exact readable
  · simp only [isOpen, client, host] at channel ⊢
    exact channel

/-- What the other threads leave to the receiver. -/
structure Leaves (p p' : Process) : Prop extends Keeps p p' where
  receiver : p'.receiver = p.receiver

theorem Leaves.of_same {p p' : Process} (receiver : p'.receiver = p.receiver)
    (host : p'.host = p.host) (givenUp : p'.givenUp = p.givenUp)
    (closed : p.udpOpen = false → p'.udpOpen = false) : Leaves p p' :=
  ⟨.of_same host givenUp closed, receiver⟩

theorem Leaves.inTurn {p p' : Process} (h : Leaves p p') (before : p.InTurn p.receiver) :
    p'.InTurn p'.receiver := by
  rw [h.receiver]
  exact h.toKeeps.inTurn before

/-- To receive a datagram gives nothing up. -/
theorem received_keeps (c : Client) (bytes : Bytes) (src : SockaddrIn) (t₁ t₂ : Int) :
    (ClientOp.received bytes src t₁ t₂).groups.elim false c.groups.closesChannel = false := by
  simp only [ClientOp.groups]
  cases parseSecpLine bytes with
  | none => rfl
  | some msg =>
    rw [Option.bind_some]
    split <;> rfl

/-- A call gives the channel up, and its queue with it, or leaves the queues alone. -/
theorem act_queue (h : Host) (op : ClientOp) :
    (h.step (.act op)).queue = if op.groups.elim false h.client.groups.closesChannel then
      Function.update h.queue .multicast [] else h.queue := by
  cases op with
  | received bytes src t₁ t₂ =>
    rw [received_keeps]
    rfl
  | _ => rfl

/-- What does not give the channel up leaves the client in it. -/
theorem step_sameMembership {c : Client} {op : ClientOp}
    (keeps : op.groups.elim false c.groups.closesChannel = false) :
    GroupRoomCoordinator.SameMembership c.groups (c.step op).groups := by
  rw [Client.step_groups]
  cases contained : op.groups with
  | none => exact ⟨rfl, rfl, rfl⟩
  | some gop =>
    rw [contained] at keeps
    exact GroupRoomCoordinator.step_sameMembership keeps

theorem call_sameMembership {op : ClientOp}
    (keeps : op.groups.elim false p.client.groups.closesChannel = false) :
    GroupRoomCoordinator.SameMembership p.client.groups (p.call op).client.groups := by
  have stepped := step_sameMembership keeps
  cases op with
  | received bytes src t₁ t₂ => exact ⟨rfl, rfl, rfl⟩
  | _ => exact stepped

theorem call_leaves (op : ClientOp) : Leaves p (p.call op) := by
  have queue := act_queue p.host op
  cases closes : op.groups.elim false p.client.groups.closesChannel with
  | false =>
    have givenUp : (p.call op).givenUp = p.givenUp := by simp [call, closes]
    have kept : ¬ op.groups.elim false p.host.client.groups.closesChannel = true := by
      rw [show op.groups.elim false p.host.client.groups.closesChannel = false from closes]
      decide
    have queues : (p.call op).host.queue = p.host.queue := queue.trans (if_neg kept)
    refine ⟨⟨givenUp.ge, fun polled _ socket readable => ?_, fun _ channel => ?_⟩, rfl⟩
    · cases socket with
      | udp =>
        simp only [Readable, queues]
        exact readable
      | multicast =>
        simp only [Readable, queues, givenUp]
        exact readable
    · have same := (call_sameMembership closes).socket
      simp only [isOpen, same] at channel ⊢
      exact channel
  | true =>
    have givenUp : (p.call op).givenUp = p.givenUp + 1 := by simp [call, closes]
    have queues : (p.call op).host.queue = Function.update p.host.queue .multicast [] :=
      queue.trans (if_pos closes)
    refine ⟨⟨by omega, fun polled past socket readable => ?_, fun same => by omega⟩, rfl⟩
    cases socket with
    | udp =>
      simp only [Readable, queues, Function.update_of_ne (show HostSocket.udp ≠ .multicast by decide)]
      exact readable
    | multicast =>
      intro same
      omega

theorem stepMain_leaves (line : Option Bytes) (e : Surroundings) :
    Leaves p (p.stepMain line e) := by
  unfold stepMain
  split
  · exact .of_same rfl rfl rfl id
  next pc _ _ =>
    simp only
    cases (p.client.onLine e pc line).op with
    | none => exact .of_same rfl rfl rfl id
    | some op =>
      have called := p.call_leaves op
      exact ⟨⟨called.givenUp, called.readable, called.current⟩, called.receiver⟩
  · exact .of_same rfl rfl rfl id
  · exact .of_same rfl rfl rfl fun _ => rfl
  · have called := p.call_leaves (.leaveRoom e.dropped)
    exact ⟨⟨called.givenUp, called.readable, called.current⟩, called.receiver⟩
  · split <;> exact .of_same rfl rfl rfl id
  · split <;> exact .of_same rfl rfl rfl id
  · split <;> exact .of_same rfl rfl rfl id
  · exact .of_same rfl rfl rfl id

theorem stepLoop_leaves (t : BackgroundThread) (i : LoopInputs) : Leaves p (p.stepLoop t i) := by
  unfold stepLoop
  split
  · split <;> exact .of_same rfl rfl rfl id
  · split <;> exact .of_same rfl rfl rfl id
  · split
    next op _ =>
      have called := p.call_leaves op
      exact ⟨⟨called.givenUp, called.readable, called.current⟩, called.receiver⟩
    · exact .of_same rfl rfl rfl id
  · exact .of_same rfl rfl rfl id

theorem arrive_leaves (cast : Cast) (bytes : Bytes) (src : SockaddrIn) :
    Leaves p (p.step (.arrive cast bytes src)) := by
  have grows (socket : HostSocket) (waiting : p.host.queue socket ≠ []) :
      (p.host.step (.arrive cast bytes src)).queue socket ≠ [] := by
    simp only [Host.step]
    split
    · simp
    · exact waiting
  refine ⟨⟨le_rfl, fun polled _ socket readable => ?_, fun _ channel => channel⟩, rfl⟩
  cases socket with
  | udp => exact readable.imp_right (grows .udp)
  | multicast => exact fun same => grows .multicast (readable same)

/-- Reading a socket leaves the queue of the other. -/
theorem read_queue (h : Host) (socket : HostSocket) (t₁ t₂ : Int) {s : HostSocket}
    (other : s ≠ socket) : (h.step (.read socket t₁ t₂)).queue s = h.queue s := by
  cases head : h.queue socket with
  | nil => simp [Host.step, head]
  | cons d rest => exact Host.queue_read head t₁ t₂ s other

theorem serve_inTurn {polled : Nat} {pfds : List (HostSocket × Revents)}
    (h : p.Polled polled pfds) : p.InTurn (p.serve polled pfds) := by
  cases pfds with
  | nil => exact trivial
  | cons entry pfds =>
    obtain ⟨socket, revents⟩ := entry
    cases revents with
    | none => exact h.tail
    | error =>
      simp only [serve]
      split
      · exact trivial
      · exact h.tail
    | pollin =>
      simp only [serve]
      split
      next readable => exact ⟨h, h.past, le_rfl, fun channel _ => channel ▸ readable⟩
      · exact h.tail

theorem stepReceiver_inTurn {result : PollResult} {t₁ t₂ : Int}
    (sound : p.Sound (.receiver result t₁ t₂)) (h : p.InTurn p.receiver) :
    (p.stepReceiver result t₁ t₂).InTurn (p.stepReceiver result t₁ t₂).receiver := by
  unfold stepReceiver
  cases at_ : p.receiver with
  | head =>
    simp only
    split
    · simp only [InTurn]
      split <;> decide
    · exact trivial
  | poll pfds =>
    rw [at_] at h
    cases result with
    | interrupted => exact trivial
    | failed => exact trivial
    | ready revents =>
      simp only [Sound, polls, at_] at sound
      refine ⟨?_, le_rfl, fun socket mem => ?_⟩
      · simp only [List.map_map, Function.comp_def, List.map_id']
        exact h
      · obtain ⟨s, polled, same⟩ := List.mem_map.1 mem
        obtain ⟨rfl, found⟩ := Prod.mk.inj same
        obtain ⟨-, waiting⟩ := sound s polled found
        cases s with
        | udp => exact .inr waiting
        | multicast => exact fun _ => waiting
  | serve polled pfds =>
    rw [at_] at h
    have kept : Keeps p { p with receiver := p.serve polled pfds } := .of_same rfl rfl id
    exact kept.inTurn (serve_inTurn h)
  | recv socket captured polled pfds =>
    rw [at_] at h
    have entries := h.entries
    simp only
    split
    · refine ⟨entries.tail.sockets, entries.tail.past, fun s mem => ?_⟩
      -- a socket is served once, so what is read here is of another entry
      have other : s ≠ socket := by
        rintro rfl
        have nodup : (((s, Revents.pollin) :: pfds).map Prod.fst).Nodup :=
          entries.sockets.nodup (by decide)
        have listed : s ∈ pfds.map Prod.fst := List.mem_map.2 ⟨_, mem, rfl⟩
        exact (List.nodup_cons.1 nodup).1 listed
      have before := entries.tail.readable s mem
      have queue : (if socket = .udp ∧ p.udpOpen = false then p.host
          else p.host.step (.read socket t₁ t₂)).queue s = p.host.queue s := by
        split
        · rfl
        · exact read_queue p.host socket t₁ t₂ other
      cases s with
      | udp =>
        simp only [Readable, queue]
        exact before
      | multicast =>
        simp only [Readable, queue]
        exact before
    · rw [at_]
      exact h
  | ended => rw [at_] at h ⊢; exact h

theorem step_inTurn {a : ProcessAct} (sound : p.Sound a) (h : p.InTurn p.receiver) :
    (p.step a).InTurn (p.step a).receiver := by
  cases a with
  | main line e => exact (stepMain_leaves line e).inTurn h
  | receiver result t₁ t₂ => exact stepReceiver_inTurn sound h
  | loop t i => exact (stepLoop_leaves t i).inTurn h
  | timeout t =>
    have kept : Keeps p (p.step (.timeout t)) := .of_same rfl rfl id
    exact kept.inTurn h
  | spurious t =>
    have kept : Keeps p (p.step (.spurious t)) := .of_same rfl rfl id
    exact kept.inTurn h
  | recvEnds =>
    simp only [step]
    split
    next polled pfds at_ =>
      rw [at_] at h
      have kept : Keeps p { p with receiver := .serve polled pfds } := .of_same rfl rfl id
      exact kept.polled h.entries.tail
    · exact h
  | arrive cast bytes src => exact (arrive_leaves cast bytes src).inTurn h

theorem exec_inTurn {run : List ProcessAct}
    (sound : (processMachine username localIp).Along Process.Sound run) :
    ((processMachine username localIp).exec run).InTurn
      ((processMachine username localIp).exec run).receiver :=
  (processMachine username localIp).invariant_along (I := fun p => p.InTurn p.receiver) trivial
    (fun _ _ sound h => step_inTurn sound h) run sound

/-- A `recv` of an entry with `POLLIN` returns, or the channel has been given up since. -/
theorem InTurn.ready {socket : HostSocket} {captured polled : Nat}
    {pfds : List (HostSocket × Revents)} (h : p.InTurn (.recv socket captured polled pfds)) :
    p.recvReturns socket captured = true ∨ socket = .multicast ∧ polled < p.givenUp := by
  have readable := h.entries.readable socket List.mem_cons_self
  cases socket with
  | udp =>
    left
    simpa [recvReturns, Readable] using readable
  | multicast =>
    rcases h.entries.past.eq_or_lt with same | less
    · left
      have since := h.since
      have past := h.past
      have current : captured = p.givenUp := by omega
      simpa [recvReturns, current] using readable same
    · exact .inr ⟨rfl, less⟩

end Process

/-- **The receive loop never waits in `recv`** for a datagram that is not there, unless the
channel has been given up between the `poll` that found it and the `recv`. -/
theorem recv_never_waits {run : List ProcessAct}
    (sound : (processMachine username localIp).Along Process.Sound run) {socket : HostSocket}
    {captured polled : Nat} {pfds : List (HostSocket × Revents)}
    (at_ : ((processMachine username localIp).exec run).receiver =
      .recv socket captured polled pfds) :
    ((processMachine username localIp).exec run).recvReturns socket captured = true ∨
      socket = .multicast ∧ polled < ((processMachine username localIp).exec run).givenUp := by
  have inTurn := Process.exec_inTurn username localIp sound
  rw [at_] at inTurn
  exact inTurn.ready

/-- bob's line in the lobby is there to be read. -/
theorem recv_never_waits_lobby :
    let bob : SockaddrIn := ⟨AF_INET, kUdpPort, ⟨10, 0, 0, 2⟩⟩
    let found : PollResult := .ready fun _ => .pollin
    let run : List ProcessAct := [.receiver found 0 0,
      .arrive .broadcast (lit "CHAT|USN Chat|bob|hei\n") bob, .receiver found 0 0,
      .receiver found 1 1]
    ((processMachine (lit "alice") ⟨10, 0, 0, 1⟩).exec run).recvReturns .udp 0 = true ∨
      HostSocket.udp = .multicast ∧
        0 < ((processMachine (lit "alice") ⟨10, 0, 0, 1⟩).exec run).givenUp := by
  intro bob found run
  have sound : (processMachine (lit "alice") ⟨10, 0, 0, 1⟩).Along Process.Sound run := by
    decide +kernel
  have at_ : ((processMachine (lit "alice") ⟨10, 0, 0, 1⟩).exec run).receiver =
      .recv .udp 0 0 [] := rfl
  exact recv_never_waits (lit "alice") ⟨10, 0, 0, 1⟩ sound at_

end SecpChat
