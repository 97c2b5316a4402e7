import SecpChat.Services.ChannelSyscalls
import SecpChat.Services.Lobby

/-!
# The descriptors of the program (`main.cpp`, `net/local_endpoint.cpp`)

`main` with its system calls: it finds its address, opens the first socket, announces itself,
serves what the menu and the other threads do with the sockets, and closes down while they
still run. Their operations are taken one after the other; one that a close overtakes is the
matter of `App/SocketLifetime.lean`. The early returns print what failed, and objects are
destroyed as `main` returns. Wherever it returns and whatever fails, no descriptor is left open.
-/

namespace SecpChat

open Calls Net
open Syscalls (ChannelOp Matches)

/-- `errno_message`; the text of an error is that of `std::strerror`. -/
def errnoMessage (strerror : Errno → Bytes) (what : Bytes) (e : Errno) : Bytes :=
  what ++ lit ": errno=" ++ lit (toString e) ++ lit " (" ++ strerror e ++ lit ")"

section

variable (strerror : Errno → Bytes)

/-- `get_local_ipv4`: the address, or what it prints. -/
def getLocalIpv4 : Sys (Except Bytes InAddr) := do
  match ← (Prog.perform Syscall.socket : Sys (Except Errno Nat)) with
  | .error e => return .error (errnoMessage strerror (lit "socket(get_local_ipv4)") e)
  | .ok s =>
    match inetPton (lit "8.8.8.8") with
    | none =>
      let _ ← .perform (.close s)
      return .error (lit "inet_pton(get_local_ipv4) feilet.")
    | some serv =>
      match ← .perform (.connect s ⟨AF_INET, 53, serv⟩) with
      | .error e =>
        let _ ← .perform (.close s)
        return .error (errnoMessage strerror (lit "connect(get_local_ipv4)") e)
      | .ok _ =>
        match ← (Prog.perform (Syscall.getsockname s) : Sys (Except Errno InAddr)) with
        | .error e =>
          let _ ← .perform (.close s)
          return .error (errnoMessage strerror (lit "getsockname(get_local_ipv4)") e)
        | .ok name =>
          let _ ← .perform (.close s)
          return .ok name

/-- What `main` has when it has started. -/
structure Started where
  username : Bytes
  localIp : InAddr
  udpSock : Net.UdpSocket
  deriving DecidableEq, Repr

/-- A step of `main` on its socket; where it fails the error is printed, and `udp_sock` is closed as
`main` returns. -/
def orReturn (what : Bytes) (r : Net.UdpSocket × Bool)
    (next : Net.UdpSocket → Sys (Except (List Bytes) Started)) :
    Sys (Except (List Bytes) Started) := do
  let (udpSock, done) := r
  if done = false then
    let _ ← udpSock.close
    return .error [errnoMessage strerror what udpSock.lastErrno]
  next udpSock

/-- `main` up to the services, or what it prints before it returns 1. -/
def startup (argv : List Bytes) : Sys (Except (List Bytes) Started) := do
  match argv with
  | [] => return .error [lit "Bruk: chatapp <brukernavn>"]
  | [program] => return .error [lit "Bruk: " ++ program ++ lit " <brukernavn>"]
  | _ :: name :: _ =>
    let username := trimInPlace name
    if username = [] then
      return .error [lit "Brukernavn kan ikke være tomt."]
    match ← getLocalIpv4 strerror with
    | .error printed => return .error [printed, lit "Kunne ikke finne lokal IPv4-adresse."]
    | .ok localIp =>
      orReturn strerror (lit "socket(udp)") (← Net.UdpSocket.closed.open_) fun udpSock => do
      orReturn strerror (lit "setsockopt(SO_REUSEADDR udp)") (← udpSock.setReuseAddress true)
        fun udpSock => do
      orReturn strerror (lit "setsockopt(SO_BROADCAST udp)") (← udpSock.setBroadcast true)
        fun udpSock => do
      orReturn strerror (lit "bind(udp)") (← udpSock.bind kUdpPort) fun udpSock =>
      return .ok ⟨username, localIp, udpSock⟩

def sendPresenceBroadcast (tries : Nat) (d : DiscoveryService) (udpSock : Net.UdpSocket) :
    Sys (Net.UdpSocket × Bool) := do
  if d.identityReady = false then
    return (udpSock, false)
  let line := buildSecpLine .Presence (lit "-") d.username (inetNtop d.ipv4)
  if line = [] then
    return (udpSock, false)
  udpSock.sendTo tries line broadcastDest

/-- What is done with the sockets: the coordinator is called, a service sends a line on `udp_sock`,
or the receive loop reads it. -/
inductive SocketUse where
  | channel (op : ChannelOp)
  | sendTo (line : Bytes) (dest : SockaddrIn)
  | recvFrom

def SocketUse.perform (tries : Nat) (use : SocketUse) (c : GroupRoomCoordinator × Net.UdpSocket) :
    Sys (GroupRoomCoordinator × Net.UdpSocket) :=
  match use with
  | .channel op => do return (← Syscalls.perform tries op c).1
  | .sendTo line dest => do return (c.1, (← c.2.sendTo tries line dest).1)
  | .recvFrom => do return (c.1, (← c.2.recvFrom tries kMaxPacketBytes).1)

/-- What all threads do with the sockets, one after the other. -/
def serve (tries : Nat) :
    List SocketUse → GroupRoomCoordinator × Net.UdpSocket → Sys (GroupRoomCoordinator × Net.UdpSocket)
  | [], c => return c
  | use :: uses, c => do serve tries uses (← use.perform tries c)

/-- `main`: what it returns and prints to `std::cerr`. The first socket is closed and the room left
at the end, while the other threads go on with `closing` and `leaving`; after the joins the objects
are destroyed, the coordinator with its channel first. -/
def runProgram (tries : Nat) (argv : List Bytes) (serving closing leaving : List SocketUse) :
    Sys (Int × List Bytes) := do
  match ← startup strerror argv with
  | .error printed => return (1, printed)
  | .ok started =>
    let discovery := DiscoveryService.setIdentity started.username started.localIp
    let (udpSock, announced) ← sendPresenceBroadcast tries discovery started.udpSock
    let (groups, udpSock) ← serve tries serving (.init started.localIp started.username, udpSock)
    let udpSock ← udpSock.close
    let (groups, udpSock) ← serve tries closing (groups, udpSock)
    let groups ← Syscalls.leaveRoom groups
    let (groups, udpSock) ← serve tries leaving (groups, udpSock)
    match groups.mcastSock with
    | some sock =>
      let _ ← (⟨sock.fd, 0⟩ : Net.UdpSocket).close
    | none => pure ()
    let _ ← udpSock.close
    return (0, if announced then [] else [lit "Advarsel: første presence-broadcast feilet."])

variable {strerror} {d : Descriptors}

/-- Closing the probing socket leaves the others, and then the function returns. -/
theorem wp_closeProbe {fd : Nat} (free : d fd = none) (r : Except Bytes InAddr) :
    kernel.wp (do let _ ← (Prog.perform (Syscall.close fd) : Sys _); return r) (fun _ d' => d' = d)
      (d.put fd .fresh) := by
  refine (World.wp_bind _ _).2 ⟨?_, fun answer d' answered => ?_⟩
  · rintro _ ⟨⟩
    exact d.isOpen_put fd .fresh
  · have dropped : d' = (d.put fd .fresh).drop fd := by
      cases answer with
      | error e => exact answered
      | ok v => exact answered.2
    exact dropped.trans (d.drop_put free .fresh)

/-- The probing socket is closed on every way out. -/
theorem wp_getLocalIpv4 : kernel.wp (getLocalIpv4 strerror) (fun _ d' => d' = d) d := by
  unfold getLocalIpv4
  refine (World.wp_bind _ _).2 ⟨nofun, fun r d' answered => ?_⟩
  cases r with
  | error e => exact answered
  | ok fd =>
    obtain ⟨free, rfl⟩ := answered
    have isOpen : ∀ fd' ∈ some fd, (d.put fd .fresh).isOpen fd' := by
      rintro _ ⟨⟩
      exact d.isOpen_put fd .fresh
    cases inetPton (lit "8.8.8.8") with
    | none => exact wp_closeProbe free _
    | some serv =>
      refine (World.wp_bind _ _).2 ⟨isOpen, fun r d' answered => ?_⟩
      cases r with
      | error e =>
        obtain rfl : d' = d.put fd .fresh := answered
        exact wp_closeProbe free _
      | ok v =>
        obtain ⟨-, rfl⟩ := answered
        refine (World.wp_bind _ _).2 ⟨isOpen, fun r d' answered => ?_⟩
        cases r with
        | error e =>
          obtain rfl : d' = d.put fd .fresh := answered
          exact wp_closeProbe free _
        | ok name =>
          obtain ⟨-, rfl⟩ := answered
          exact wp_closeProbe free _

/-- The first socket, ready to be used. -/
def udpSocket : KernelSocket :=
  { KernelSocket.fresh with reuseaddr := true, broadcast := true, port := some kUdpPort }

theorem wp_orReturn {what : Bytes} {call : Nat → Syscall} {f : KernelSocket → KernelSocket}
    {next : Net.UdpSocket → Sys (Except (List Bytes) Started)}
    {Q : Except (List Bytes) Started → Descriptors → Prop} {fd : Nat} {k : KernelSocket}
    (sets : UdpSocket.Sets call f) (free : d fd = none)
    (done : kernel.wp (next ⟨fd, 0⟩) Q (d.put fd (f k))) (fails : ∀ printed, Q (.error [printed]) d) :
    kernel.wp (do orReturn strerror what (← (⟨fd, 0⟩ : Net.UdpSocket).request call) next) Q
      (d.put fd k) := by
  refine (World.wp_bind _ _).2 (UdpSocket.wp_request sets rfl (d.isOpen_put fd k) ?_ fun errno => ?_)
  · rw [Descriptors.modify_put]
    exact done
  · refine World.wp_seq (Syscalls.wp_close_put rfl free k) fun _ _ gone => ?_
    rw [gone]
    exact fails _

/-- **The start** fails with nothing left open and something printed, or has the first socket,
bound to the port of the protocol. -/
theorem wp_startup (argv : List Bytes) :
    kernel.wp (startup strerror argv) (fun r d' => match r with
      | .error printed => printed ≠ [] ∧ d' = d
      | .ok started => started.username ≠ [] ∧
        ∃ fd : Nat, started.udpSock.fd = fd ∧ d fd = none ∧ d' = d.put fd udpSocket) d := by
  unfold startup
  match argv with
  | [] => exact ⟨nofun, rfl⟩
  | [program] => exact ⟨nofun, rfl⟩
  | _ :: name :: _ =>
    simp only
    split
    · exact ⟨nofun, rfl⟩
    next named =>
    refine World.wp_seq wp_getLocalIpv4 fun found d' same => ?_
    rw [same]
    cases found with
    | error printed => exact ⟨nofun, rfl⟩
    | ok localIp =>
      refine (World.wp_bind _ _).2 (UdpSocket.wp_open (by decide) (fun fd free => ?_)
        fun errno => ?_)
      · have fails (printed : Bytes) : [printed] ≠ [] ∧ d = d := ⟨nofun, rfl⟩
        refine wp_orReturn (UdpSocket.sets_setsockopt _) free ?_ fails
        refine wp_orReturn (UdpSocket.sets_setsockopt _) free ?_ fails
        refine wp_orReturn (UdpSocket.sets_bind _) free ?_ fails
        exact ⟨named, fd, rfl, free, rfl⟩
      · have closed : kernel.wp (⟨-1, errno⟩ : Net.UdpSocket).close (fun _ d' => d' = d) d :=
          UdpSocket.wp_close_closed (Int.negSucc_lt_zero 0) rfl
        refine World.wp_seq closed fun _ d' same => ?_
        exact ⟨nofun, same⟩

/-- A channel is beside the first socket, and outlives it. -/
theorem matches_drop {g : GroupRoomCoordinator} {fd : Nat} {k : KernelSocket} (free : d fd = none)
    {d' : Descriptors} (h : Matches g (d.put fd k) d') : Matches g d (d'.drop fd) := by
  unfold Matches at *
  split at h
  · rw [h]
    exact d.drop_put free k
  · obtain ⟨channel, same, beside, rfl⟩ := h
    have other : channel ≠ fd := by
      rintro rfl
      simp [Descriptors.put] at beside
    refine ⟨channel, same, ?_, ?_⟩
    · simpa [Descriptors.put, other] using beside
    · funext i
      by_cases first : i = fd
      · subst first
        simp [Descriptors.put, Descriptors.drop, other.symm, free]
      · by_cases second : i = channel
        · subst second
          simp [Descriptors.put, Descriptors.drop, other]
        · simp [Descriptors.put, Descriptors.drop, first, second]

section Serving

variable {c : GroupRoomCoordinator × Net.UdpSocket} {others : Descriptors} (tries : Nat)

/-- **What is done with the sockets** keeps the channel beside the others, and the first socket. -/
theorem SocketUse.wp_perform (use : SocketUse) (h : Matches c.1 others d)
    (usable : c.2.Usable others) :
    kernel.wp (use.perform tries c) (fun c' d' => Matches c'.1 others d' ∧ c'.2.fd = c.2.fd) d := by
  have here := Syscalls.usable_of_matches usable h
  cases use with
  | channel op => exact World.wp_seq (Syscalls.wp_perform tries op h usable) fun _ _ kept => kept.1
  | sendTo line dest =>
    exact (World.wp_bind _ _).2 (UdpSocket.wp_sendTo here (fun r same => ⟨h, same⟩) tries line dest)
  | recvFrom =>
    exact (World.wp_bind _ _).2 (UdpSocket.wp_recvFrom here (fun r same => ⟨h, same⟩) tries _)

theorem wp_serve (uses : List SocketUse) (h : Matches c.1 others d) (usable : c.2.Usable others) :
    kernel.wp (serve tries uses c) (fun c' d' => Matches c'.1 others d' ∧ c'.2.fd = c.2.fd) d := by
  induction uses generalizing c d with
  | nil => exact ⟨h, rfl⟩
  | cons use uses ih =>
    refine World.wp_seq (use.wp_perform tries h usable) ?_
    rintro c' d' ⟨h', same⟩
    refine World.wp_mono (ih h' (UdpSocket.usable_of_fd usable same)) ?_
    rintro c'' d'' ⟨h'', same'⟩
    exact ⟨h'', same'.trans same⟩

theorem wp_sendPresenceBroadcast {udpSock : Net.UdpSocket} (usable : udpSock.Usable d)
    (discovery : DiscoveryService) :
    kernel.wp (sendPresenceBroadcast tries discovery udpSock)
      (fun r d' => d' = d ∧ r.1.fd = udpSock.fd) d := by
  unfold sendPresenceBroadcast
  split
  · exact ⟨rfl, rfl⟩
  · simp only
    split
    · exact ⟨rfl, rfl⟩
    · exact UdpSocket.wp_sendTo usable (fun r same => ⟨rfl, same⟩) tries _ _

/-- The end of `main`: the channel is given back by its destructor, if there is one. -/
theorem wp_destroy {r : Int × List Bytes} (h : Matches c.1 d others) (closed : c.2.fd < 0) :
    kernel.wp (do
      match c.1.mcastSock with
      | some sock =>
        let _ ← (⟨sock.fd, 0⟩ : Net.UdpSocket).close
      | none => pure ()
      let _ ← c.2.close
      return r) (fun r' d' => r' = r ∧ d' = d) others := by
  have last : kernel.wp (do let _ ← c.2.close; return r) (fun r' d' => r' = r ∧ d' = d) d :=
    (World.wp_bind _ _).2 (UdpSocket.wp_close_closed closed ⟨rfl, rfl⟩)
  unfold Matches at h
  cases channel : c.1.mcastSock with
  | none =>
    rw [channel] at h
    rw [h]
    exact last
  | some sock =>
    rw [channel] at h
    obtain ⟨fd, same, free, rfl⟩ := h
    refine World.wp_seq (Syscalls.wp_close_put same free _) ?_
    rintro _ d' gone
    rw [gone]
    exact last

end Serving

end

/-- **The program leaves no descriptor open**, wherever it returns and whatever fails on the way:
and every call that it makes names an open one, as long as no close overtakes what another thread
is doing. It returns an error only with something printed. -/
theorem program_leaves_nothing (strerror : Errno → Bytes) (tries : Nat) (argv : List Bytes)
    (serving closing leaving : List SocketUse) (d : Descriptors) :
    kernel.wp (runProgram strerror tries argv serving closing leaving)
      (fun r d' => d' = d ∧ (r.1 = 0 ∨ r.2 ≠ [])) d := by
  unfold runProgram
  refine World.wp_seq (wp_startup argv) fun r d₁ started => ?_
  cases r with
  | error printed => exact ⟨started.2, .inr started.1⟩
  | ok started_ =>
    obtain ⟨-, fd, same, free, rfl⟩ := started
    have usable : ∀ {s : Net.UdpSocket}, s.fd = fd → s.Usable (d.put fd udpSocket) := by
      intro s held fd' held'
      obtain rfl : fd = fd' := by omega
      exact d.isOpen_put fd udpSocket
    refine World.wp_seq (wp_sendPresenceBroadcast tries (usable same) _) ?_
    rintro ⟨udpSock, announced⟩ d₁ ⟨rfl, announcedFd⟩
    have bare : Matches (.init started_.localIp started_.username) (d.put fd udpSocket)
        (d.put fd udpSocket) := rfl
    refine World.wp_seq (wp_serve tries serving bare (usable (announcedFd.trans same))) ?_
    rintro ⟨g, udpSock'⟩ d₂ ⟨served, servedFd⟩
    have isOpen := Syscalls.isOpen_of_matches (d.isOpen_put fd udpSocket) served
    refine (World.wp_bind _ _).2 (UdpSocket.wp_close (servedFd.trans (announcedFd.trans same)) isOpen
      fun errno => ?_)
    -- from here on the first socket makes no call
    have closed : ∀ {s : Net.UdpSocket} {others : Descriptors}, s.fd = -1 → s.Usable others :=
      fun held => UdpSocket.usable_of_closed (by omega)
    refine World.wp_seq (wp_serve tries closing (matches_drop free served) (closed rfl)) ?_
    rintro ⟨g', udpSock''⟩ d₃ ⟨served', closedFd⟩
    refine World.wp_seq (Syscalls.wp_leaveRoom served' true) ?_
    rintro g'' d₄ ⟨left, -⟩
    refine World.wp_seq (wp_serve tries leaving left (closed closedFd)) ?_
    rintro c d₅ ⟨last, lastFd⟩
    have gone : c.2.fd = -1 := lastFd.trans closedFd
    refine World.wp_mono (wp_destroy last (by omega)) ?_
    rintro r d' ⟨rfl, rfl⟩
    exact ⟨rfl, .inl rfl⟩

end SecpChat
