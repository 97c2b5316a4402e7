import SecpChat.Net.UdpSocket
import SecpChat.Services.GroupMembership

/-!
# The channel of a room and the kernel (`services/group_room_coordinator.cpp`)

The operations of the coordinator one after the other, with the calls they make on the
sockets. Whatever the kernel answers, the coordinator goes where the model of `GroupRoom.lean`
goes with some outcomes of those calls, and returns what it returns; and the kernel has what
the coordinator says: no socket without a channel, and with one a socket that is bound, a
member of the group and set up in full (`Matches`). A socket that could not be set up is
closed again.
-/

namespace SecpChat.Syscalls

open Calls Net

variable (g : GroupRoomCoordinator)

def leaveMulticastMembershipUnlocked : Sys GroupRoomCoordinator := do
  match g.mcastSock with
  | none => pure ()
  | some sock =>
    let mut mcastSock : Net.UdpSocket := ⟨sock.fd, 0⟩
    if mcastSock.fd ≥ 0 ∧ g.joinedMembership = true then
      mcastSock := (← mcastSock.multicastDropMembership g.joinedGroup g.localIf).1
    let _ ← mcastSock.close
  return { g with joinedMembership := false, joinedPort := 0, mcastSock := none }

/-- A step of `bind_multicast_channel`; where it fails, `sk` is closed as the function returns. -/
def attempt (err : Bytes) (r : Net.UdpSocket × Bool)
    (next : Net.UdpSocket → Sys (GroupRoomCoordinator × Option Bytes)) :
    Sys (GroupRoomCoordinator × Option Bytes) := do
  let (sk, done) := r
  if done = false then
    let _ ← sk.close
    return (g, some err)
  next sk

def bindMulticastChannel (group : InAddr) (port : UInt16) :
    Sys (GroupRoomCoordinator × Option Bytes) := do
  let g ← leaveMulticastMembershipUnlocked g
  attempt g (lit "socket") (← Net.UdpSocket.closed.open_) fun sk => do
  attempt g (lit "SO_REUSEADDR") (← sk.setReuseAddress true) fun sk => do
  attempt g (lit "bind") (← sk.bind port) fun sk => do
  attempt g (lit "IP_MULTICAST_IF") (← sk.setMulticastOutboundInterface g.localIf) fun sk => do
  attempt g (lit "IP_ADD_MEMBERSHIP") (← sk.multicastAddMembership group g.localIf) fun sk => do
  attempt g (lit "IP_MULTICAST_TTL") (← sk.setMulticastTtl 1) fun sk => do
  attempt g (lit "IP_MULTICAST_LOOP") (← sk.setMulticastLoop true) fun sk =>
  return ({ g with
    mcastSock := some ⟨sk.fd⟩
    joinedGroup := group
    joinedPort := port
    joinedMembership := true }, none)

/-- `broadcast_owned_advert`; `advertSock` is what `advert_sock_` points to. -/
def broadcastOwnedAdvert (tries : Nat) (advertSock : Net.UdpSocket) : Sys Net.UdpSocket := do
  match g.owned with
  | none => return advertSock
  | some owned =>
    let line := buildSecpLine .RoomAnnounce owned.roomName g.username (lit "OPEN")
    if line = [] then
      return advertSock
    return (← advertSock.sendTo tries line broadcastDest).1

def createRoom (tries : Nat) (advertSock : Net.UdpSocket) (roomDisplayName : Bytes) :
    Sys ((GroupRoomCoordinator × Net.UdpSocket) × Bool) := do
  let name := trimInPlace roomDisplayName
  if name = [] ∨ name.length > kMaxRoomNameBytes then
    return ((g, advertSock), false)
  match inetPton kOpenRoomMulticastGroup with
  | none => return ((g, advertSock), false)
  | some group =>
    let left ← leaveMulticastMembershipUnlocked g
    let (bound, err) ← bindMulticastChannel { left with activeRoomName := [], owned := none }
      group kUdpPort
    match err with
    | some _ => return ((bound, advertSock), false)
    | none =>
      let created := { bound with owned := some ⟨name⟩, activeRoomName := name }
      let advertSock ← broadcastOwnedAdvert created tries advertSock
      return ((created, advertSock), true)

def joinRoom (now : Int) (roomName : Bytes) : Sys (GroupRoomCoordinator × Bool) := do
  if roomName = [] then
    return (g, false)
  if roomName.length > kMaxRoomNameBytes then
    return (g, false)
  let pruned := g.pruneRegistryUnlocked now
  if pruned.activeRoomName = roomName then
    return (pruned, false)
  if pruned.registry.contains roomName = false then
    return (pruned, false)
  match inetPton kOpenRoomMulticastGroup with
  | none => return (pruned, false)
  | some group =>
    let left ← leaveMulticastMembershipUnlocked (pruned.disownOther roomName)
    let (bound, err) ← bindMulticastChannel left group kUdpPort
    match err with
    | some _ => return (bound, false)
    | none => return ({ bound with activeRoomName := roomName }, true)

def leaveRoom : Sys GroupRoomCoordinator := do
  let gone ← leaveMulticastMembershipUnlocked g
  let cleared := { gone with activeRoomName := [] }
  match cleared.owned with
  | some owned =>
    return if owned.roomName = g.activeRoomName then { cleared with owned := none } else cleared
  | none => return cleared

def sendGroupChat (tries : Nat) (text : Bytes) : Sys Bool := do
  let trimmed := trimInPlace text
  if trimmed = [] ∨ trimmed.length > kMaxChatMessageBytes then
    return false
  match g.mcastSock with
  | none => return false
  | some sock =>
    if g.activeRoomName = [] then
      return false
    let line := buildSecpLine .Chat g.activeRoomName g.username trimmed
    if line = [] then
      return false
    return (← (⟨sock.fd, 0⟩ : Net.UdpSocket).sendTo tries line
      ⟨AF_INET, g.joinedPort, g.joinedGroup⟩).2

def recvMulticast (tries : Nat) : Sys (Option (Bytes × SockaddrIn)) := do
  match g.mcastSock with
  | none => return none
  | some sock => return (← (⟨sock.fd, 0⟩ : Net.UdpSocket).recvFrom tries kMaxPacketBytes).2

/-- What the coordinator is asked to do: an operation of the model, or `recv_multicast`. -/
inductive ChannelOp where
  | group (op : GroupOp)
  | recvMulticast

def ChannelOp.group? : ChannelOp → Option GroupOp
  | group op => some op
  | recvMulticast => none

/-- An operation of the coordinator, and what it returns where it returns a `bool`; the outcomes of
its calls are the kernel's. What it works on is the coordinator and the socket it advertises with. -/
def perform (tries : Nat) (op : ChannelOp) (c : GroupRoomCoordinator × Net.UdpSocket) :
    Sys ((GroupRoomCoordinator × Net.UdpSocket) × Bool) :=
  match op with
  | .group (.createRoom _ _ name) => createRoom c.1 tries c.2 name
  | .group (.joinRoom now _ name) => do
    let (g, joined) ← joinRoom c.1 now name
    return ((g, c.2), joined)
  | .group (.leaveRoom _) => do return ((← leaveRoom c.1, c.2), true)
  | .group (.sendGroupChat _ text) => do return (c, ← sendGroupChat c.1 tries text)
  | .group (.broadcastOwnedAdvert _) => do
    return ((c.1, ← broadcastOwnedAdvert c.1 tries c.2), true)
  | .group op => return ((c.1.step op, c.2), true)
  | .recvMulticast => do return (c, (← recvMulticast c.1 tries).isSome)

/-- The operation with other outcomes of the calls. -/
def answered (calls : ChannelCalls) (sent : Bool) : GroupOp → GroupOp
  | .createRoom _ _ name => .createRoom calls sent name
  | .joinRoom now _ name => .joinRoom now calls name
  | .leaveRoom _ => .leaveRoom calls.dropMembership
  | .sendGroupChat _ text => .sendGroupChat sent text
  | .broadcastOwnedAdvert _ => .broadcastOwnedAdvert sent
  | op => op

/-- What the operation of the model returns. -/
def returned : GroupOp → Bool
  | .createRoom calls sent name => (g.createRoom calls sent name).value
  | .joinRoom now calls name => (g.joinRoom now calls name).value
  | .sendGroupChat sent text => (g.sendGroupChat sent text).value
  | _ => true

/-- The coordinator `g` does, and returns, what the model does with some outcomes of the calls. -/
def Follows (op : ChannelOp) (r : (GroupRoomCoordinator × Net.UdpSocket) × Bool) : Prop :=
  match op with
  | .group op => ∃ calls sent, r.1.1 = g.step (answered calls sent op) ∧
      r.2 = returned g (answered calls sent op)
  | .recvMulticast => r.1.1 = g

/-- The socket of a channel, set up in full. -/
def channelSocket : KernelSocket where
  reuseaddr := true
  broadcast := false
  port := some g.joinedPort
  multicastTtl := 1
  multicastLoop := true
  multicastIf := some g.localIf
  memberships := [(g.joinedGroup, g.localIf)]

/-- Beside the descriptors `others` there is that of the channel, if there is a channel. -/
def Matches (others : Descriptors) (d : Descriptors) : Prop :=
  match g.mcastSock with
  | none => d = others
  | some sock => ∃ fd : Nat, sock.fd = fd ∧ others fd = none ∧ d = others.put fd (channelSocket g)

variable {g} {others d : Descriptors}

/-- Whatever has been set of a socket, closing it leaves the others. -/
theorem wp_close_put {s : Net.UdpSocket} {fd : Nat} (held : s.fd = fd) (free : others fd = none)
    (k : KernelSocket) : kernel.wp s.close (fun _ d' => d' = others) (others.put fd k) :=
  UdpSocket.wp_close held (others.isOpen_put fd k) fun _ => others.drop_put free k

theorem wp_leave (h : Matches g others d) :
    kernel.wp (leaveMulticastMembershipUnlocked g)
      (fun g' d' => g' = g.channelless ∧ d' = others) d := by
  unfold leaveMulticastMembershipUnlocked
  unfold Matches at h
  cases channel : g.mcastSock with
  | none =>
    rw [channel] at h
    exact ⟨rfl, h⟩
  | some sock =>
    rw [channel] at h
    obtain ⟨fd, same, free, rfl⟩ := h
    have closes (s : Net.UdpSocket) (held : s.fd = fd) (k : KernelSocket) :
        kernel.wp (do let _ ← s.close; pure g.channelless)
          (fun g' d' => g' = g.channelless ∧ d' = others) (others.put fd k) :=
      World.wp_seq (wp_close_put held free k) fun _ _ gone => ⟨rfl, gone⟩
    simp only
    split
    · refine (World.wp_bind _ _).2 (UdpSocket.wp_request (UdpSocket.sets_setsockopt _) same
        (others.isOpen_put fd _) ?_ fun errno => closes _ same _)
      rw [Descriptors.modify_put]
      exact closes _ same _
    · exact closes _ same _

/-- A step that fails leaves no socket behind. -/
theorem wp_attempt {err : Bytes} {call : Nat → Syscall} {f : KernelSocket → KernelSocket}
    {next : Net.UdpSocket → Sys (GroupRoomCoordinator × Option Bytes)}
    {Q : GroupRoomCoordinator × Option Bytes → Descriptors → Prop} {fd : Nat} {k : KernelSocket}
    (sets : UdpSocket.Sets call f) (free : others fd = none)
    (done : kernel.wp (next ⟨fd, 0⟩) Q (others.put fd (f k))) (fails : Q (g, some err) others) :
    kernel.wp (do attempt g err (← (⟨fd, 0⟩ : Net.UdpSocket).request call) next) Q
      (others.put fd k) := by
  refine (World.wp_bind _ _).2 (UdpSocket.wp_request sets rfl (others.isOpen_put fd k) ?_
    fun errno => ?_)
  · rw [Descriptors.modify_put]
    exact done
  · refine World.wp_seq (wp_close_put rfl free k) fun _ _ gone => ?_
    rw [gone]
    exact fails

theorem wp_bindMulticastChannel (h : Matches g others d) (group : InAddr) (port : UInt16) :
    kernel.wp (bindMulticastChannel g group port)
      (fun r d' => Matches r.1 others d' ∧ ∃ calls,
        (g.bindMulticastChannel calls group port).state = r.1 ∧
        (g.bindMulticastChannel calls group port).value = r.2) d := by
  have failed (calls : ChannelCalls) (err : Bytes)
      (state : (g.bindMulticastChannel calls group port).state = g.channelless)
      (value : (g.bindMulticastChannel calls group port).value = some err) :
      Matches (g.channelless, some err).1 others others ∧ ∃ calls,
        (g.bindMulticastChannel calls group port).state = (g.channelless, some err).1 ∧
        (g.bindMulticastChannel calls group port).value = (g.channelless, some err).2 :=
    ⟨rfl, calls, state, value⟩
  unfold bindMulticastChannel
  refine World.wp_seq (wp_leave h) ?_
  rintro _ _ ⟨rfl, rfl⟩
  refine (World.wp_bind _ _).2 (UdpSocket.wp_open (by decide) (fun fd free => ?_) fun errno => ?_)
  · let calls : ChannelCalls := ⟨true, some fd, true, true, true, true, true, true⟩
    refine wp_attempt (UdpSocket.sets_setsockopt _) free ?_
      (failed { calls with reuse := false } _ rfl rfl)
    refine wp_attempt (UdpSocket.sets_bind _) free ?_ (failed { calls with bind := false } _ rfl rfl)
    refine wp_attempt (UdpSocket.sets_setsockopt _) free ?_
      (failed { calls with multicastIf := false } _ rfl rfl)
    refine wp_attempt (UdpSocket.sets_setsockopt _) free ?_
      (failed { calls with addMembership := false } _ rfl rfl)
    refine wp_attempt (UdpSocket.sets_setsockopt _) free ?_
      (failed { calls with ttl := false } _ rfl rfl)
    refine wp_attempt (UdpSocket.sets_setsockopt _) free ?_
      (failed { calls with loop := false } _ rfl rfl)
    exact ⟨⟨fd, rfl, free, rfl⟩, calls, rfl, rfl⟩
  · exact failed ⟨true, none, true, true, true, true, true, true⟩ _ rfl rfl

/-- What is open beside the channel is open. -/
theorem isOpen_of_matches {fd : Nat} (isOpen : others.isOpen fd) (h : Matches g others d) :
    d.isOpen fd := by
  unfold Matches at h
  split at h
  · rw [h]
    exact isOpen
  · obtain ⟨channel, -, free, rfl⟩ := h
    have other : fd ≠ channel := by
      rintro rfl
      simp [Descriptors.isOpen, free] at isOpen
    simpa [Descriptors.isOpen, Descriptors.put, other] using isOpen

/-- Beside the channel the other sockets can be used as before. -/
theorem usable_of_matches {s : Net.UdpSocket} (usable : s.Usable others) (h : Matches g others d) :
    s.Usable d :=
  fun fd held => isOpen_of_matches (usable fd held) h

/-- So can the socket of the channel. -/
theorem Matches.usable {sock : SecpChat.UdpSocket} (h : Matches g others d)
    (channel : g.mcastSock = some sock) : (⟨sock.fd, 0⟩ : Net.UdpSocket).Usable d := by
  unfold Matches at h
  rw [channel] at h
  obtain ⟨fd, same, -, rfl⟩ := h
  intro fd' held
  obtain rfl : fd = fd' := by
    simp only [same] at held
    omega
  exact others.isOpen_put fd _

section Sends

variable {advertSock : Net.UdpSocket} (tries : Nat)

theorem wp_broadcastOwnedAdvert (h : Matches g others d) (usable : advertSock.Usable others) :
    kernel.wp (broadcastOwnedAdvert g tries advertSock)
      (fun s d' => s.fd = advertSock.fd ∧ Matches g others d') d := by
  unfold broadcastOwnedAdvert
  split
  · exact ⟨rfl, h⟩
  · simp only
    split
    · exact ⟨rfl, h⟩
    · exact (World.wp_bind _ _).2
        (UdpSocket.wp_sendTo (usable_of_matches usable h) (fun r same => ⟨same, h⟩) tries _ _)

theorem wp_sendGroupChat (h : Matches g others d) (text : Bytes) :
    kernel.wp (sendGroupChat g tries text)
      (fun ok d' => Matches g others d' ∧ ∃ sent, ok = (g.sendGroupChat sent text).value) d := by
  unfold sendGroupChat GroupRoomCoordinator.sendGroupChat
  simp only
  split
  · exact ⟨h, true, rfl⟩
  cases channel : g.mcastSock with
  | none => exact ⟨h, true, by simp⟩
  | some sock =>
    simp only [reduceCtorEq, or_false]
    split
    · exact ⟨h, true, rfl⟩
    split
    · exact ⟨h, true, rfl⟩
    · exact (World.wp_bind _ _).2
        (UdpSocket.wp_sendTo (h.usable channel) (fun r _ => ⟨h, r.2, rfl⟩) tries _ _)

theorem wp_recvMulticast (h : Matches g others d) :
    kernel.wp (recvMulticast g tries) (fun _ d' => Matches g others d') d := by
  unfold recvMulticast
  cases channel : g.mcastSock with
  | none => exact h
  | some sock =>
    exact (World.wp_bind _ _).2
      (UdpSocket.wp_recvFrom (h.usable channel) (fun _ _ => h) tries _)

theorem wp_createRoom (h : Matches g others d) (usable : advertSock.Usable others) (sent : Bool)
    (name : Bytes) :
    kernel.wp (createRoom g tries advertSock name)
      (fun r d' => r.1.2.fd = advertSock.fd ∧ Matches r.1.1 others d' ∧ ∃ calls,
        (g.createRoom calls sent name).state = r.1.1 ∧
        (g.createRoom calls sent name).value = r.2) d := by
  unfold createRoom GroupRoomCoordinator.createRoom
  simp only [inetPton_group]
  split
  · exact ⟨rfl, h, ⟨true, none, true, true, true, true, true, true⟩, rfl, rfl⟩
  refine World.wp_seq (wp_leave h) ?_
  rintro _ d' ⟨rfl, same⟩
  rw [same]
  have bare : Matches { g.channelless with activeRoomName := [], owned := none } others others := rfl
  refine World.wp_seq (wp_bindMulticastChannel bare ⟨239, 0, 0, 1⟩ kUdpPort) ?_
  rintro ⟨bound, err⟩ d' ⟨matches_, calls, state, value⟩
  have left : ∀ dropped, (g.leaveMulticastMembershipUnlocked dropped).state = g.channelless :=
    fun _ => rfl
  cases err with
  | some err =>
    refine ⟨rfl, matches_, calls, ?_⟩
    simp only [left, value, state]
    exact ⟨trivial, trivial⟩
  | none =>
    let created : GroupRoomCoordinator :=
      { bound with owned := some ⟨trimInPlace name⟩, activeRoomName := trimInPlace name }
    have beside : Matches created others d' := matches_
    refine World.wp_seq (wp_broadcastOwnedAdvert tries beside usable) ?_
    rintro advertSock' d'' ⟨same, advertised⟩
    refine ⟨same, advertised, calls, ?_⟩
    simp only [left, value, state, GroupRoomCoordinator.broadcastOwnedAdvert_state]
    exact ⟨trivial, trivial⟩

end Sends

theorem wp_joinRoom (h : Matches g others d) (now : Int) (name : Bytes) :
    kernel.wp (joinRoom g now name)
      (fun r d' => Matches r.1 others d' ∧ ∃ calls,
        (g.joinRoom now calls name).state = r.1 ∧ (g.joinRoom now calls name).value = r.2) d := by
  have none_ : ChannelCalls := ⟨true, none, true, true, true, true, true, true⟩
  unfold joinRoom GroupRoomCoordinator.joinRoom
  simp only [inetPton_group]
  split
  · exact ⟨h, none_, rfl, rfl⟩
  split
  · exact ⟨h, none_, rfl, rfl⟩
  split
  · exact ⟨h, none_, rfl, rfl⟩
  split
  · exact ⟨h, none_, rfl, rfl⟩
  have pruned : Matches ((g.pruneRegistryUnlocked now).disownOther name) others d := by
    rw [GroupRoomCoordinator.disownOther_eq]
    exact h
  refine World.wp_seq (wp_leave pruned) ?_
  rintro _ d' ⟨rfl, same⟩
  rw [same]
  have bare : Matches ((g.pruneRegistryUnlocked now).disownOther name).channelless others others :=
    rfl
  refine World.wp_seq (wp_bindMulticastChannel bare ⟨239, 0, 0, 1⟩ kUdpPort) ?_
  rintro ⟨bound, err⟩ d' ⟨matches_, calls, state, value⟩
  have left : ∀ dropped, (((g.pruneRegistryUnlocked now).disownOther name).leaveMulticastMembershipUnlocked
      dropped).state = ((g.pruneRegistryUnlocked now).disownOther name).channelless :=
    fun _ => rfl
  cases err with
  | some err =>
    refine ⟨matches_, calls, ?_⟩
    simp only [left, value, state]
    exact ⟨trivial, trivial⟩
  | none =>
    refine ⟨matches_, calls, ?_⟩
    simp only [left, value, state]
    exact ⟨trivial, trivial⟩

theorem wp_leaveRoom (h : Matches g others d) (dropped : Bool) :
    kernel.wp (leaveRoom g)
      (fun g' d' => Matches g' others d' ∧ (g.leaveRoom dropped).state = g') d := by
  unfold leaveRoom
  refine World.wp_seq (wp_leave h) ?_
  rintro _ d' ⟨rfl, same⟩
  rw [same]
  unfold GroupRoomCoordinator.leaveRoom GroupRoomCoordinator.leaveMulticastMembershipUnlocked
    GroupRoomCoordinator.channelless
  cases mine : g.owned with
  | none => exact ⟨rfl, rfl⟩
  | some owned =>
    simp only
    split
    · exact ⟨rfl, rfl⟩
    · exact ⟨rfl, rfl⟩

/-- **One operation** does what the model does with some outcomes of the calls, and keeps the
socket that it advertises with. -/
theorem wp_perform {c : GroupRoomCoordinator × Net.UdpSocket} (tries : Nat) (op : ChannelOp)
    (h : Matches c.1 others d) (usable : c.2.Usable others) :
    kernel.wp (perform tries op c)
      (fun r d' => (Matches r.1.1 others d' ∧ r.1.2.fd = c.2.fd) ∧ Follows c.1 op r) d := by
  obtain ⟨g, advertSock⟩ := c
  have none_ : ChannelCalls := ⟨true, none, true, true, true, true, true, true⟩
  have quiet {op : GroupOp} (keeps : g.closesChannel op = false)
      (same : answered none_ true op = op) (void : returned g op = true) :
      (Matches (g.step op) others d ∧ advertSock.fd = advertSock.fd) ∧
        Follows g (.group op) ((g.step op, advertSock), true) := by
    obtain ⟨registry, state⟩ := GroupRoomCoordinator.step_of_keeps keeps
    refine ⟨⟨?_, rfl⟩, none_, true, by rw [same], by rw [same, void]⟩
    rw [state]
    exact h
  cases op with
  | recvMulticast =>
    exact (World.wp_bind _ _).2 (World.wp_mono (wp_recvMulticast tries h)
      fun _ _ h' => ⟨⟨h', rfl⟩, rfl⟩)
  | group op =>
    cases op with
    | createRoom calls sent name =>
      refine World.wp_mono (wp_createRoom tries h usable sent name) ?_
      rintro r d' ⟨same, matches_, calls', state, value⟩
      exact ⟨⟨matches_, same⟩, calls', sent, state.symm, value.symm⟩
    | joinRoom now calls name =>
      refine World.wp_seq (wp_joinRoom h now name) ?_
      rintro ⟨g', done⟩ d' ⟨matches_, calls', state, value⟩
      exact ⟨⟨matches_, rfl⟩, calls', true, state.symm, value.symm⟩
    | leaveRoom dropped =>
      refine World.wp_seq (wp_leaveRoom h none_.dropMembership) ?_
      rintro g' d' ⟨matches_, state⟩
      exact ⟨⟨matches_, rfl⟩, none_, true, state.symm, rfl⟩
    | sendGroupChat sent text =>
      refine World.wp_seq (wp_sendGroupChat tries h text) ?_
      rintro ok d' ⟨matches_, sent', value⟩
      exact ⟨⟨matches_, rfl⟩, none_, sent', (g.sendGroupChat_state sent' text).symm, value⟩
    | broadcastOwnedAdvert sent =>
      refine World.wp_seq (wp_broadcastOwnedAdvert tries h usable) ?_
      rintro advertSock' d' ⟨same, matches_⟩
      exact ⟨⟨matches_, same⟩, none_, true,
        (g.broadcastOwnedAdvert_state true).symm, rfl⟩
    | listAdvertisedRooms now => exact quiet rfl rfl rfl
    | onRoomAnnounce msg advertised pruned => exact quiet rfl rfl rfl
    | onRoomChat msg => exact quiet rfl rfl rfl

/-! ## Every run -/

/-- A channel is one to the group of the open rooms, on the interface of the client. -/
def ToOpenGroup (localInterface : InAddr) (g : GroupRoomCoordinator) : Prop :=
  g.localIf = localInterface ∧
    (g.mcastSock ≠ none → g.joinedGroup = ⟨239, 0, 0, 1⟩ ∧ g.joinedPort = kUdpPort)

theorem step_toOpenGroup {localInterface : InAddr} (h : ToOpenGroup localInterface g)
    (op : GroupOp) : ToOpenGroup localInterface (g.step op) := by
  have change := g.step_change op
  generalize g.step op = g' at change
  cases change with
  | keeps registry kept => exact h
  | createFails fails => exact ⟨h.1, fun channel => (channel rfl).elim⟩
  | creates named succeed created fd => exact ⟨h.1, fun _ => ⟨rfl, rfl⟩⟩
  | joinFails wanted fails =>
    rw [GroupRoomCoordinator.disownOther_eq]
    exact ⟨h.1, fun channel => (channel rfl).elim⟩
  | joins wanted succeed fd =>
    rw [GroupRoomCoordinator.disownOther_eq]
    exact ⟨h.1, fun _ => ⟨rfl, rfl⟩⟩
  | leaves => exact ⟨h.1, fun channel => (channel rfl).elim⟩

/-- The socket of every channel: bound beside the first one, and a member of the group. -/
def openGroupSocket (localInterface : InAddr) : KernelSocket where
  reuseaddr := true
  broadcast := false
  port := some kUdpPort
  multicastTtl := 1
  multicastLoop := true
  multicastIf := some localInterface
  memberships := [(⟨239, 0, 0, 1⟩, localInterface)]

/-- Beside the descriptors `others` there is that of the channel, set up in full, while there is a
channel. -/
def OneChannel (localInterface : InAddr) (others : Descriptors) (g : GroupRoomCoordinator)
    (d : Descriptors) : Prop :=
  match g.mcastSock with
  | none => d = others
  | some sock => ∃ fd : Nat,
    sock.fd = fd ∧ others fd = none ∧ d = others.put fd (openGroupSocket localInterface)

theorem Matches.oneChannel {localInterface : InAddr} (h : Matches g others d)
    (group : ToOpenGroup localInterface g) : OneChannel localInterface others g d := by
  unfold Matches at h
  unfold OneChannel
  cases channel : g.mcastSock with
  | none =>
    rw [channel] at h
    exact h
  | some sock =>
    rw [channel] at h
    obtain ⟨fd, same, free, table⟩ := h
    obtain ⟨joined, port⟩ := group.2 (by simp [channel])
    have full : channelSocket g = openGroupSocket localInterface := by
      simp only [channelSocket, openGroupSocket, joined, port, group.1]
    exact ⟨fd, same, free, full ▸ table⟩

/-- The operations as steps of a component. -/
def ops (tries : Nat) (op : ChannelOp) (c : GroupRoomCoordinator × Net.UdpSocket) :
    Sys (GroupRoomCoordinator × Net.UdpSocket) := do
  return (← perform tries op c).1

end SecpChat.Syscalls

namespace SecpChat

open Calls Net Syscalls

/-- **The kernel has what the coordinator says**, in every run of its operations one after the
other, whatever is answered to their calls: the coordinator does and returns what the model does
with some outcomes of them, every call names a descriptor that is open, and beside the others there
is exactly the socket of the channel while there is a channel, set up in full. -/
theorem channel_follows (localInterface : InAddr) (username : Bytes) (tries : Nat)
    {advertSock : Net.UdpSocket} {others d : Descriptors} {run : List ChannelOp}
    {c : GroupRoomCoordinator × Net.UdpSocket} (usable : advertSock.Usable others)
    (h : kernel.Runs (Syscalls.ops tries) (.init localInterface username, advertSock) others run c
      d) :
    (∃ run', List.Forall₂ (fun op op' => ∃ calls sent, op' = answered calls sent op)
        (run.filterMap ChannelOp.group?) run' ∧
        c.1 = (groupMachine localInterface username).exec run') ∧
      (∀ op, kernel.wp (Syscalls.perform tries op c) (fun r _ => Follows c.1 op r) d) ∧
      OneChannel localInterface others c.1 d := by
  let M := groupMachine localInterface username
  let Answers : List GroupOp → List GroupOp → Prop :=
    List.Forall₂ fun op op' => ∃ calls sent, op' = answered calls sent op
  have bare : Matches (.init localInterface username) others others := rfl
  have inv : (Matches c.1 others d ∧ c.2.Usable others) ∧ ToOpenGroup localInterface c.1 ∧
      ∃ run', Answers (run.filterMap ChannelOp.group?) run' ∧ c.1 = M.exec run' := by
    refine h.induct (I := fun run c d => (Matches c.1 others d ∧ c.2.Usable others) ∧
      ToOpenGroup localInterface c.1 ∧
      ∃ run', Answers (run.filterMap ChannelOp.group?) run' ∧ c.1 = M.exec run')
      ⟨⟨bare, usable⟩, ⟨rfl, fun channel => (channel rfl).elim⟩, [], .nil, rfl⟩ ?_
    rintro run op c d ⟨⟨matches_, usable⟩, group, run', answers, state⟩
    refine World.wp_seq (wp_perform tries op matches_ usable) ?_
    rintro r d' ⟨⟨matches', same⟩, follows⟩
    refine ⟨⟨matches', UdpSocket.usable_of_fd usable same⟩, ?_⟩
    cases op with
    | recvMulticast =>
      have same : r.1.1 = c.1 := follows
      rw [same]
      refine ⟨group, run', ?_, state⟩
      rw [List.filterMap_append]
      simpa [List.filterMap, ChannelOp.group?] using answers
    | group op =>
      obtain ⟨calls, sent, next, -⟩ := follows
      rw [next]
      refine ⟨step_toOpenGroup group _, run' ++ [answered calls sent op], ?_, ?_⟩
      · rw [List.filterMap_append]
        exact List.rel_append answers (.cons ⟨calls, sent, rfl⟩ .nil)
      · rw [state]
        exact (M.exec_snoc run' _).symm
  obtain ⟨⟨matches_, usable'⟩, group, follows⟩ := inv
  exact ⟨follows, fun op => World.wp_mono (wp_perform tries op matches_ usable') fun _ _ h => h.2,
    matches_.oneChannel group⟩

/-- alice creates a room beside her first socket, and writes into it. -/
theorem channel_follows_created :
    let others : Descriptors := fun fd => if fd = 3 then some .fresh else none
    let refused : ChannelCalls := ⟨false, none, false, false, false, false, false, false⟩
    let run : List ChannelOp :=
      [.group (.createRoom refused false (lit "r1")), .group (.sendGroupChat false (lit "hei")),
        .recvMulticast]
    ∃ c d, kernel.Runs (Syscalls.ops 0) (.init ⟨10, 0, 0, 1⟩ (lit "alice"), ⟨3, 0⟩) others run c d ∧
      c.1.mcastSock = some ⟨4⟩ ∧ OneChannel ⟨10, 0, 0, 1⟩ others c.1 d := by
  intro others refused run
  have usable : (⟨3, 0⟩ : Net.UdpSocket).Usable others := by
    intro fd held
    obtain rfl : fd = 3 := by
      simp only at held
      omega
    rfl
  obtain ⟨c, d, runs, channel⟩ : ∃ c d,
      kernel.Runs (Syscalls.ops 0) (.init ⟨10, 0, 0, 1⟩ (lit "alice"), ⟨3, 0⟩) others run c d ∧
        c.1.mcastSock = some ⟨4⟩ :=
    ⟨_, _, World.runAll_runs (Syscalls.ops 0) (oblige_keeps 4 ⟨10, 0, 0, 1⟩) run _ _,
      by decide +kernel⟩
  exact ⟨c, d, runs, channel, (channel_follows ⟨10, 0, 0, 1⟩ (lit "alice") 0 usable runs).2.2⟩

end SecpChat
