import SecpChat.Protocol.Secp
import SecpChat.State.UserDirectory

/-!
# The lobby and discovery (`services/lobby_service.cpp`, `services/discovery_service.cpp`)

The lobby keeps no state beyond its socket and its callback, which `main` installs
before any thread starts.
-/

namespace SecpChat

/-- The global room. -/
def usnChat : Bytes := lit "USN Chat"

namespace LobbyService

def sendChat (sent : Bool) (username text : Bytes) : Bool × List Effect :=
  let u := trimInPlace username
  let t := trimInPlace text
  if u = [] ∨ t = [] then (false, [])
  else if u.length > kMaxUsernameBytes ∨ t.length > kMaxChatMessageBytes then (false, [])
  else
    let line := buildSecpLine .Chat usnChat u t
    if line = [] then (false, []) else (sent, [.sendTo broadcastDest line sent])

def onLobbyChat (sender text : Bytes) : List Effect :=
  if sender = [] ∨ text = [] then []
  else if sender.length > kMaxUsernameBytes ∨ text.length > kMaxChatMessageBytes then []
  else [.lobbyMessage sender text]

/-- **`send_chat`** fails, or hands the line of two fields to the socket that the receiver's
handler accepts. -/
theorem sendChat_cases (sent : Bool) (username text : Bytes) :
    let u := trimInPlace username
    let t := trimInPlace text
    let line := buildSecpLine .Chat usnChat u t
    sendChat sent username text = (false, []) ∨
    (t ≠ [] ∧ t.length ≤ kMaxChatMessageBytes ∧ onLobbyChat u t = [.lobbyMessage u t] ∧
      line ≠ [] ∧ sendChat sent username text = (sent, [.sendTo broadcastDest line sent])) := by
  intro u t line
  unfold sendChat
  simp only
  split
  · exact .inl rfl
  next nonempty =>
  split
  · exact .inl rfl
  next short =>
  split
  · exact .inl rfl
  next built =>
  have heard : onLobbyChat u t = [.lobbyMessage u t] := by
    rw [onLobbyChat, if_neg nonempty, if_neg short]
  exact .inr ⟨(not_or.1 nonempty).2, not_lt.1 (not_or.1 short).2, heard, built, rfl⟩

end LobbyService

def kDiscoveryPeerStaleAge : Int := seconds 18

structure DiscoveryService where
  username : Bytes
  ipv4 : InAddr
  identityReady : Bool

namespace DiscoveryService

def setIdentity (username : Bytes) (localIpv4 : InAddr) : DiscoveryService :=
  ⟨username, localIpv4, username != []⟩

def sendPresenceBroadcast (d : DiscoveryService) (sent : Bool) : Bool × List Effect :=
  if d.identityReady = false then (false, [])
  else
    let line := buildSecpLine .Presence (lit "-") d.username (inetNtop d.ipv4)
    if line = [] then (false, []) else (sent, [.sendTo broadcastDest line sent])

def onPresence (users : UserDirectory) (username ipPayload : Bytes) (src : SockaddrIn) (now : Int) :
    UserDirectory :=
  if username = [] ∨ username.length > kMaxUsernameBytes then users
  else if ipPayload ≠ [] ∧ ipPayload ≠ lit "-" ∧ ipPayload ≠ inetNtop src.sinAddr then users
  else users.upsert username src now

def pruneStalePeers (users : UserDirectory) (now : Int) : UserDirectory :=
  users.pruneStale kDiscoveryPeerStaleAge now

end DiscoveryService

end SecpChat
