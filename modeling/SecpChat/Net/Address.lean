import SecpChat.Protocol.Bytes

/-!
# Socket addresses and the effects of a call

`in_addr` is its four octets; `sin_port` is kept in host byte order, so `htons` is
absorbed. What a service does to its surroundings is a list of `Effect`s: a `sendto`
with its outcome, or the invocation of a callback installed by `main`.
-/

namespace SecpChat

structure InAddr where
  a : UInt8
  b : UInt8
  c : UInt8
  d : UInt8
  deriving DecidableEq, Repr

def AF_INET : UInt16 := 2

structure SockaddrIn where
  sinFamily : UInt16
  sinPort : UInt16
  sinAddr : InAddr
  deriving DecidableEq, Repr

/-- `INADDR_BROADCAST` -/
def inaddrBroadcast : InAddr := ⟨255, 255, 255, 255⟩

/-- Decimal digits of an octet, without leading zeros. -/
def octetDigits (n : UInt8) : Bytes :=
  if n < 10 then [48 + n]
  else if n < 100 then [48 + n / 10, 48 + n % 10]
  else [48 + n / 100, 48 + n / 10 % 10, 48 + n % 10]

/-- `inet_ntop(AF_INET, ..)`: the canonical dotted quad. -/
def inetNtop (addr : InAddr) : Bytes :=
  octetDigits addr.a ++ 46 :: (octetDigits addr.b ++ 46 :: (octetDigits addr.c ++
    46 :: octetDigits addr.d))

/-- One octet of `inet_pton`: one to three digits without a leading zero, at most 255. -/
def parseOctet (s : Bytes) : Option UInt8 :=
  if s = [] ∨ s.length > 3 ∨ (s.length > 1 ∧ s.head? = some 48) then none
  else if s.all (fun b => 48 ≤ b && b ≤ 57) = false then none
  else
    let n := s.foldl (fun n b => 10 * n + (b - 48).toNat) 0
    if n > 255 then none else some (UInt8.ofNat n)

/-- `inet_pton(AF_INET, ..)` -/
def inetPton (s : Bytes) : Option InAddr :=
  match (s.splitOn 46).map parseOctet with
  | [some a, some b, some c, some d] => some ⟨a, b, c, d⟩
  | _ => none

/-- The destination of a broadcast on the SECP port. -/
def broadcastDest : SockaddrIn := ⟨AF_INET, kUdpPort, inaddrBroadcast⟩

inductive Effect where
  /-- `send_to(bytes, dest)` and whether it succeeded. -/
  | sendTo (dest : SockaddrIn) (bytes : Bytes) (ok : Bool)
  /-- `IP_DROP_MEMBERSHIP` and whether it succeeded. -/
  | dropMembership (group localIf : InAddr) (ok : Bool)
  /-- `on_status_(msg)` -/
  | status (msg : Bytes)
  /-- `on_private_(session_id, sender, text)` -/
  | privateMessage (sid sender text : Bytes)
  /-- `on_group_msg_(room_name, sender, text)` -/
  | groupMessage (room sender text : Bytes)
  /-- `on_message_(sender, text)` of the lobby -/
  | lobbyMessage (sender text : Bytes)
  deriving DecidableEq, Repr

/-- What a call returns: the new state of the service, its value and its effects. -/
structure Outcome (σ ρ : Type) where
  state : σ
  value : ρ
  effects : List Effect

end SecpChat
