import Mathlib
import SecpChat.Lib.Utf8

/-!
# Byte strings, clock readings and the limits of the protocol

`std::string` and `std::string_view` are lists of bytes. An `unordered_map` keyed by
strings is a `Std.ExtTreeMap`: its iteration order is fixed here (byte order) where the
source leaves it open, and nothing proved depends on it. A `steady_clock` reading is a
number of nanoseconds, zero being the epoch of a default-constructed `time_point`.
-/

namespace SecpChat

abbrev Bytes := List UInt8

/-- The bytes of a string literal of the source (UTF-8 source encoding). -/
def lit (s : String) : Bytes := Utf8.encode s.toList

/-- `std::unordered_map<std::string, ν>`. -/
abbrev Table (ν : Type) := Std.ExtTreeMap Bytes ν

/-- `std::chrono::seconds{n}` in nanoseconds. -/
def seconds (n : Int) : Int := n * 1000000000

/-- `std::chrono::milliseconds{n}` in nanoseconds. -/
def milliseconds (n : Int) : Int := n * 1000000

/-! ## `limits.hpp` and `ports.hpp` -/

def kMaxUsernameBytes : Nat := 32
def kMaxChatMessageBytes : Nat := 512
def kMaxRoomNameBytes : Nat := 32
def kMaxPacketBytes : Nat := 1024
def kOpenRoomMulticastGroup : Bytes := lit "239.0.0.1"
def kUdpPort : UInt16 := 50000

/-! ## `string_trim.hpp` -/

def isTrailingBlank (b : UInt8) : Bool := b == 13 || b == 32 || b == 9

def isLeadingBlank (b : UInt8) : Bool := b == 32 || b == 9

/-- `trim_in_place`: CR, space and tab off the end, then space and tab off the front. -/
def trimInPlace (s : Bytes) : Bytes :=
  (s.rdropWhile isTrailingBlank).dropWhile isLeadingBlank

end SecpChat
