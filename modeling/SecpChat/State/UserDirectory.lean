import SecpChat.Net.Address

/-!
# The user directory (`state/user_directory.cpp`)
-/

namespace SecpChat

structure PeerInfo where
  username : Bytes
  address : SockaddrIn
  lastSeen : Int
  deriving DecidableEq, Repr

structure PeerListEntry where
  username : Bytes
  ipv4 : Bytes
  lastSeen : Int
  deriving DecidableEq, Repr

structure UserDirectory where
  selfUsername : Bytes
  peers : Table PeerInfo

namespace UserDirectory

def empty : UserDirectory := ⟨[], ∅⟩

def setSelfUsername (d : UserDirectory) (name : Bytes) : UserDirectory :=
  { d with selfUsername := name }

def upsert (d : UserDirectory) (username : Bytes) (src : SockaddrIn) (now : Int) : UserDirectory :=
  if username = [] then d
  else if d.selfUsername ≠ [] ∧ username = d.selfUsername then d
  else { d with peers := d.peers.insert username ⟨username, src, now⟩ }

def pruneStale (d : UserDirectory) (maxAge now : Int) : UserDirectory :=
  { d with peers := d.peers.filter fun _ info => !decide (now - info.lastSeen > maxAge) }

def findAddress (d : UserDirectory) (username : Bytes) : Option SockaddrIn :=
  d.peers[username]?.map PeerInfo.address

def snapshotPeers (d : UserDirectory) : List PeerListEntry :=
  (d.peers.toList.map fun (name, info) =>
    (⟨name, inetNtop info.address.sinAddr, info.lastSeen⟩ : PeerListEntry)).mergeSort
    fun a b => !decide (b.username < a.username)

end UserDirectory

end SecpChat
