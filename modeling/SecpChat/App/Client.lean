import SecpChat.Services.DirectMessage
import SecpChat.Services.GroupRoom
import SecpChat.Services.Lobby

/-!
# A client (`main.cpp`, `app/receive_multiplex_loop.cpp`)

The services of one process with the operations that its menu, its heartbeats and its
receive loop perform on them. `handleDatagram` is the dispatch of the receive loop.
-/

namespace SecpChat

structure Client where
  username : Bytes
  users : UserDirectory
  discovery : DiscoveryService
  groups : GroupRoomCoordinator
  direct : DirectMessageService

/-- What the user, the timers and the network make a client do. -/
inductive ClientOp where
  | received (bytes : Bytes) (src : SockaddrIn) (t₁ t₂ : Int)
  | sendPresence (sent : Bool)
  | pruneStalePeers (now : Int)
  | lobbyChat (sent : Bool) (text : Bytes)
  | createRoom (calls : ChannelCalls) (sent : Bool) (roomDisplayName : Bytes)
  | listAdvertisedRooms (now : Int)
  | joinRoom (now : Int) (calls : ChannelCalls) (roomName : Bytes)
  | leaveRoom (dropped : Bool)
  | sendGroupChat (sent : Bool) (text : Bytes)
  | broadcastOwnedAdvert (sent : Bool)
  | inviteUser (draw : Fin 0x1000000) (now : Int) (sent : Bool) (target : Bytes)
  | acceptInvite (now : Int) (room : Bytes)
  | declineInvite (room reason : Bytes)
  | sendPrivateChat (sent : Bool) (sid text : Bytes)
  | prunePending (maxAge now : Int)
  | resendOutgoingPending (minInterval maxAge now : Int) (sent : Bytes → Bool)

namespace Client

/-- `main`, up to the start of the threads. -/
def init (username : Bytes) (localIp : InAddr) : Client where
  username := username
  users := UserDirectory.empty.setSelfUsername username
  discovery := .setIdentity username localIp
  groups := .init localIp username
  direct := .init username

def onGroups (c : Client) (op : GroupOp) : Client × List Effect :=
  let (groups, effects) := c.groups.perform op
  ({ c with groups }, effects)

def onDirect (c : Client) (op : DirectOp) : Client × List Effect :=
  let (direct, effects) := c.direct.perform op
  ({ c with direct }, effects)

/-- `handle_datagram`; `t₁` and `t₂` are the clock readings of the handler. -/
def handleDatagram (c : Client) (bytes : Bytes) (src : SockaddrIn) (t₁ t₂ : Int) :
    Client × List Effect :=
  if bytes = [] ∨ bytes.length > kMaxPacketBytes then (c, [])
  else
    match parseSecpLine bytes with
    | none => (c, [])
    | some msg =>
      match msg.type with
      | .Presence =>
        let users := DiscoveryService.onPresence c.users msg.username msg.payload src t₁
        ({ c with users := DiscoveryService.pruneStalePeers users t₂ }, [])
      | .RoomAnnounce => c.onGroups (.onRoomAnnounce msg t₁ t₂)
      | .Invite =>
        let o := c.direct.onInvite msg src t₁ t₂
        ({ c with direct := o.state }, o.effects)
      | .Chat =>
        let lobby := if msg.room = usnChat then LobbyService.onLobbyChat msg.username msg.payload
          else []
        let groups := c.groups.onRoomChat msg
        let direct := c.direct.onRoomChat msg src t₁
        ({ c with groups := groups.state, direct := direct.state },
          lobby ++ groups.effects ++ direct.effects)
      | .Unknown => (c, [])

def perform (c : Client) : ClientOp → Client × List Effect
  | .received bytes src t₁ t₂ => c.handleDatagram bytes src t₁ t₂
  | .sendPresence sent => (c, (c.discovery.sendPresenceBroadcast sent).2)
  | .pruneStalePeers now => ({ c with users := DiscoveryService.pruneStalePeers c.users now }, [])
  | .lobbyChat sent text => (c, (LobbyService.sendChat sent c.username text).2)
  | .createRoom calls sent name => c.onGroups (.createRoom calls sent name)
  | .listAdvertisedRooms now => c.onGroups (.listAdvertisedRooms now)
  | .joinRoom now calls name => c.onGroups (.joinRoom now calls name)
  | .leaveRoom dropped => c.onGroups (.leaveRoom dropped)
  | .sendGroupChat sent text => c.onGroups (.sendGroupChat sent text)
  | .broadcastOwnedAdvert sent => c.onGroups (.broadcastOwnedAdvert sent)
  | .inviteUser draw now sent target => c.onDirect (.inviteUser c.users draw now sent target)
  | .acceptInvite now room => c.onDirect (.acceptInvite now room)
  | .declineInvite room reason => c.onDirect (.declineInvite room reason)
  | .sendPrivateChat sent sid text => c.onDirect (.sendPrivateChat sent sid text)
  | .prunePending maxAge now => c.onDirect (.prunePending maxAge now)
  | .resendOutgoingPending minInterval maxAge now sent =>
    c.onDirect (.resendOutgoingPending minInterval maxAge now sent)

def step (c : Client) (op : ClientOp) : Client := (c.perform op).1

def effects (c : Client) (op : ClientOp) : List Effect := (c.perform op).2

end Client

end SecpChat
