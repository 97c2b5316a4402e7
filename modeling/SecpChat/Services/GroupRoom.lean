import SecpChat.Lib.Runs
import SecpChat.Protocol.Secp
import SecpChat.Net.Address

/-!
# Open group rooms (`services/group_room_coordinator.cpp`)

The coordinator and its operations, one definition each. Clock readings and the outcomes
of the socket calls are arguments: `ChannelCalls` holds the outcome of every call that
`bind_multicast_channel` may make. `advert_sock_` is bound to a reference by the
constructor; `main` installs the callback before any thread starts. Log lines are left
out.
-/

namespace SecpChat

open Runs

def kGroupRegistryStaleAge : Int := seconds 25

structure AdvertisedGroupRoom where
  roomId : Bytes
  roomName : Bytes
  multicastIp : Bytes
  multicastPort : UInt16
  lastAdvert : Int
  deriving DecidableEq, Repr

structure OwnedRoom where
  roomName : Bytes
  deriving DecidableEq, Repr

/-- An open socket is its descriptor, −1 when closed. -/
structure UdpSocket where
  fd : Int
  deriving DecidableEq, Repr

structure GroupRoomCoordinator where
  localIf : InAddr
  username : Bytes
  registry : Table AdvertisedGroupRoom
  owned : Option OwnedRoom
  mcastSock : Option UdpSocket
  activeRoomName : Bytes
  joinedGroup : InAddr
  joinedPort : UInt16
  joinedMembership : Bool

/-- The outcomes of the socket calls of one create, join or leave. -/
structure ChannelCalls where
  dropMembership : Bool
  /-- The descriptor that `socket` returns, if it succeeds. -/
  opened : Option Nat
  reuse : Bool
  bind : Bool
  multicastIf : Bool
  addMembership : Bool
  ttl : Bool
  loop : Bool
  deriving DecidableEq, Repr

/-- All the calls that set up a channel succeed. -/
def ChannelCalls.Succeed (calls : ChannelCalls) : Prop :=
  calls.opened.isSome = true ∧ calls.reuse = true ∧ calls.bind = true ∧ calls.multicastIf = true ∧
    calls.addMembership = true ∧ calls.ttl = true ∧ calls.loop = true

instance (calls : ChannelCalls) : Decidable calls.Succeed :=
  inferInstanceAs (Decidable (_ ∧ _))

namespace GroupRoomCoordinator

def init (localInterface : InAddr) (username : Bytes) : GroupRoomCoordinator where
  localIf := localInterface
  username := username
  registry := ∅
  owned := none
  mcastSock := none
  activeRoomName := []
  joinedGroup := ⟨0, 0, 0, 0⟩
  joinedPort := 0
  joinedMembership := false

def pruneRegistryUnlocked (g : GroupRoomCoordinator) (now : Int) : GroupRoomCoordinator :=
  { g with registry := g.registry.filter fun _ room =>
      !decide (now - room.lastAdvert > kGroupRegistryStaleAge) }

def leaveMulticastMembershipUnlocked (g : GroupRoomCoordinator) (dropped : Bool) :
    Outcome GroupRoomCoordinator Unit :=
  let effects := match g.mcastSock with
    | some sock =>
      if sock.fd ≥ 0 ∧ g.joinedMembership = true then
        [.dropMembership g.joinedGroup g.localIf dropped]
      else []
    | none => []
  ⟨{ g with joinedMembership := false, joinedPort := 0, mcastSock := none }, (), effects⟩

/-- `bind_multicast_channel`: `some err` where it returns false. -/
def bindMulticastChannel (g : GroupRoomCoordinator) (calls : ChannelCalls) (group : InAddr)
    (port : UInt16) : Outcome GroupRoomCoordinator (Option Bytes) :=
  let left := g.leaveMulticastMembershipUnlocked calls.dropMembership
  match calls.opened with
  | none => ⟨left.state, some (lit "socket"), left.effects⟩
  | some fd =>
    if calls.reuse = false then ⟨left.state, some (lit "SO_REUSEADDR"), left.effects⟩
    else if calls.bind = false then ⟨left.state, some (lit "bind"), left.effects⟩
    else if calls.multicastIf = false then ⟨left.state, some (lit "IP_MULTICAST_IF"), left.effects⟩
    else if calls.addMembership = false then
      ⟨left.state, some (lit "IP_ADD_MEMBERSHIP"), left.effects⟩
    else if calls.ttl = false then ⟨left.state, some (lit "IP_MULTICAST_TTL"), left.effects⟩
    else if calls.loop = false then ⟨left.state, some (lit "IP_MULTICAST_LOOP"), left.effects⟩
    else
      ⟨{ left.state with
          mcastSock := some ⟨fd⟩
          joinedGroup := group
          joinedPort := port
          joinedMembership := true }, none, left.effects⟩

def broadcastOwnedAdvert (g : GroupRoomCoordinator) (sent : Bool) :
    Outcome GroupRoomCoordinator Unit :=
  match g.owned with
  | none => ⟨g, (), []⟩
  | some owned =>
    let line := buildSecpLine .RoomAnnounce owned.roomName g.username (lit "OPEN")
    if line = [] then ⟨g, (), []⟩ else ⟨g, (), [.sendTo broadcastDest line sent]⟩

/-- `create_room`; `sent` is the outcome of the advert it broadcasts. -/
def createRoom (g : GroupRoomCoordinator) (calls : ChannelCalls) (sent : Bool)
    (roomDisplayName : Bytes) : Outcome GroupRoomCoordinator Bool :=
  let name := trimInPlace roomDisplayName
  if name = [] ∨ name.length > kMaxRoomNameBytes then ⟨g, false, []⟩
  else
    match inetPton kOpenRoomMulticastGroup with
    | none => ⟨g, false, []⟩
    | some group =>
      let left := g.leaveMulticastMembershipUnlocked calls.dropMembership
      let bound := { left.state with activeRoomName := [], owned := none }.bindMulticastChannel
        calls group kUdpPort
      match bound.value with
      | some _ => ⟨bound.state, false, left.effects ++ bound.effects⟩
      | none =>
        let created := { bound.state with owned := some ⟨name⟩, activeRoomName := name }
        let advert := created.broadcastOwnedAdvert sent
        ⟨advert.state, true, left.effects ++ bound.effects ++ advert.effects⟩

def listAdvertisedRooms (g : GroupRoomCoordinator) (now : Int) :
    Outcome GroupRoomCoordinator (List AdvertisedGroupRoom) :=
  let pruned := g.pruneRegistryUnlocked now
  ⟨pruned, (pruned.registry.toList.map Prod.snd).mergeSort
    fun a b => !decide (b.roomName < a.roomName), []⟩

/-- A room of another name is no longer ours. -/
def disownOther (g : GroupRoomCoordinator) (roomName : Bytes) : GroupRoomCoordinator :=
  match g.owned with
  | some owned => if owned.roomName ≠ roomName then { g with owned := none } else g
  | none => g

def joinRoom (g : GroupRoomCoordinator) (now : Int) (calls : ChannelCalls) (roomName : Bytes) :
    Outcome GroupRoomCoordinator Bool :=
  if roomName = [] then ⟨g, false, []⟩
  else if roomName.length > kMaxRoomNameBytes then ⟨g, false, []⟩
  else
    let pruned := g.pruneRegistryUnlocked now
    if pruned.activeRoomName = roomName then ⟨pruned, false, []⟩
    else if pruned.registry.contains roomName = false then ⟨pruned, false, []⟩
    else
      match inetPton kOpenRoomMulticastGroup with
      | none => ⟨pruned, false, []⟩
      | some group =>
        let left :=
          (pruned.disownOther roomName).leaveMulticastMembershipUnlocked calls.dropMembership
        let bound := left.state.bindMulticastChannel calls group kUdpPort
        match bound.value with
        | some _ => ⟨bound.state, false, left.effects ++ bound.effects⟩
        | none =>
          ⟨{ bound.state with activeRoomName := roomName }, true, left.effects ++ bound.effects⟩

def leaveRoom (g : GroupRoomCoordinator) (dropped : Bool) : Outcome GroupRoomCoordinator Unit :=
  let gone := g.leaveMulticastMembershipUnlocked dropped
  let cleared := { gone.state with activeRoomName := [] }
  match cleared.owned with
  | some owned =>
    ⟨if owned.roomName = g.activeRoomName then { cleared with owned := none } else cleared, (),
      gone.effects⟩
  | none => ⟨cleared, (), gone.effects⟩

def sendGroupChat (g : GroupRoomCoordinator) (sent : Bool) (text : Bytes) :
    Outcome GroupRoomCoordinator Bool :=
  let trimmed := trimInPlace text
  if trimmed = [] ∨ trimmed.length > kMaxChatMessageBytes then ⟨g, false, []⟩
  else if g.activeRoomName = [] ∨ g.mcastSock = none then ⟨g, false, []⟩
  else
    let line := buildSecpLine .Chat g.activeRoomName g.username trimmed
    if line = [] then ⟨g, false, []⟩
    else ⟨g, sent, [.sendTo ⟨AF_INET, g.joinedPort, g.joinedGroup⟩ line sent]⟩

def hasActiveMembership (g : GroupRoomCoordinator) : Bool :=
  g.activeRoomName != [] && g.mcastSock.isSome

def activeRoomId (g : GroupRoomCoordinator) : Option Bytes :=
  if g.activeRoomName = [] then none else some g.activeRoomName

/-- `on_room_announce`; `advertised` and `pruned` are its two clock readings. -/
def onRoomAnnounce (g : GroupRoomCoordinator) (msg : SecpMessage) (advertised pruned : Int) :
    Outcome GroupRoomCoordinator Unit :=
  if msg.room = [] ∨ msg.room = lit "-" ∨ msg.username = [] then ⟨g, (), []⟩
  else if msg.payload ≠ lit "OPEN" then ⟨g, (), []⟩
  else
    let room : AdvertisedGroupRoom :=
      ⟨msg.room, msg.room, kOpenRoomMulticastGroup, kUdpPort, advertised⟩
    let added := { g with registry := g.registry.insert room.roomName room }
    ⟨added.pruneRegistryUnlocked pruned, (), []⟩

def onRoomChat (g : GroupRoomCoordinator) (msg : SecpMessage) : Outcome GroupRoomCoordinator Unit :=
  if msg.type ≠ .Chat then ⟨g, (), []⟩
  else if g.activeRoomName = [] then ⟨g, (), []⟩
  else if msg.room ≠ g.activeRoomName then ⟨g, (), []⟩
  else if msg.username = [] ∨ msg.payload = [] then ⟨g, (), []⟩
  else if msg.username = g.username then ⟨g, (), []⟩
  else ⟨g, (), [.groupMessage g.activeRoomName msg.username msg.payload]⟩

def multicastFd (g : GroupRoomCoordinator) : Int :=
  match g.mcastSock with
  | none => -1
  | some sock => sock.fd

end GroupRoomCoordinator

/-- The operations on a coordinator, with everything the environment decides. -/
inductive GroupOp where
  | createRoom (calls : ChannelCalls) (sent : Bool) (roomDisplayName : Bytes)
  | joinRoom (now : Int) (calls : ChannelCalls) (roomName : Bytes)
  | leaveRoom (dropped : Bool)
  | sendGroupChat (sent : Bool) (text : Bytes)
  | broadcastOwnedAdvert (sent : Bool)
  | listAdvertisedRooms (now : Int)
  | onRoomAnnounce (msg : SecpMessage) (advertised pruned : Int)
  | onRoomChat (msg : SecpMessage)

namespace GroupRoomCoordinator

def perform (g : GroupRoomCoordinator) : GroupOp → GroupRoomCoordinator × List Effect
  | .createRoom calls sent name => let o := g.createRoom calls sent name; (o.state, o.effects)
  | .joinRoom now calls name => let o := g.joinRoom now calls name; (o.state, o.effects)
  | .leaveRoom dropped => let o := g.leaveRoom dropped; (o.state, o.effects)
  | .sendGroupChat sent text => let o := g.sendGroupChat sent text; (o.state, o.effects)
  | .broadcastOwnedAdvert sent => let o := g.broadcastOwnedAdvert sent; (o.state, o.effects)
  | .listAdvertisedRooms now => let o := g.listAdvertisedRooms now; (o.state, o.effects)
  | .onRoomAnnounce msg advertised pruned =>
    let o := g.onRoomAnnounce msg advertised pruned; (o.state, o.effects)
  | .onRoomChat msg => let o := g.onRoomChat msg; (o.state, o.effects)

def step (g : GroupRoomCoordinator) (op : GroupOp) : GroupRoomCoordinator := (g.perform op).1

def effects (g : GroupRoomCoordinator) (op : GroupOp) : List Effect := (g.perform op).2

end GroupRoomCoordinator

/-- The runs of one client's coordinator. -/
def groupMachine (localInterface : InAddr) (username : Bytes) :
    Machine GroupRoomCoordinator GroupOp :=
  ⟨.init localInterface username, GroupRoomCoordinator.step⟩

end SecpChat
