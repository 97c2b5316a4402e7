import SecpChat.Lib.Calls
import SecpChat.Net.Address

/-!
# What the kernel keeps of the sockets of a process

The descriptor table, with what a call has set of each socket, and the calls that the
program makes. A call may fail whenever the kernel likes, and then changes nothing, except
that `close` gives the descriptor back in any case. A call names a descriptor that is open:
that is required of the program. `poll` is left out: it takes closed descriptors as well, and
tells of them.
-/

namespace SecpChat

open Calls

/-- `errno`; the numbers are those of Linux. -/
abbrev Errno := Nat

def EBADF : Errno := 9
def EINTR : Errno := 4
def EIO : Errno := 5
def EMFILE : Errno := 24
def EMSGSIZE : Errno := 90
def EAFNOSUPPORT : Errno := 97

/-- The options that `setsockopt` is called with. -/
inductive SocketOption where
  | soReuseaddr (on : Bool)
  | soBroadcast (on : Bool)
  | ipMulticastTtl (ttl : UInt8)
  | ipMulticastLoop (on : Bool)
  | ipMulticastIf (interface : InAddr)
  | ipAddMembership (group interface : InAddr)
  | ipDropMembership (group interface : InAddr)
  deriving DecidableEq, Repr

inductive Syscall where
  | socket
  | close (fd : Nat)
  | bind (fd : Nat) (port : UInt16)
  | setsockopt (fd : Nat) (option : SocketOption)
  | connect (fd : Nat) (dest : SockaddrIn)
  | getsockname (fd : Nat)
  | sendto (fd : Nat) (line : Bytes) (dest : SockaddrIn)
  | recvfrom (fd size : Nat)
  deriving DecidableEq, Repr

namespace Syscall

/-- What the call yields when it succeeds. -/
def Value : Syscall → Type
  | socket => Nat
  | getsockname _ => InAddr
  | sendto _ _ _ => Nat
  | recvfrom _ _ => Bytes × SockaddrIn
  | _ => Unit

/-- Where it fails there is an `errno`. -/
abbrev Result (c : Syscall) : Type := Except Errno c.Value

/-- The descriptor that the call names. -/
def fd? : Syscall → Option Nat
  | socket => none
  | close fd | bind fd _ | setsockopt fd _ | connect fd _ | getsockname fd | sendto fd _ _
  | recvfrom fd _ => some fd

end Syscall

/-- What has been set of a socket. -/
structure KernelSocket where
  reuseaddr : Bool
  broadcast : Bool
  port : Option UInt16
  multicastTtl : UInt8
  multicastLoop : Bool
  multicastIf : Option InAddr
  /-- The groups it is a member of, with the interfaces. -/
  memberships : List (InAddr × InAddr)
  deriving DecidableEq, Repr

namespace KernelSocket

/-- A socket as `socket` returns it. -/
def fresh : KernelSocket := ⟨false, false, none, 1, true, none, []⟩

def set (k : KernelSocket) : SocketOption → KernelSocket
  | .soReuseaddr on => { k with reuseaddr := on }
  | .soBroadcast on => { k with broadcast := on }
  | .ipMulticastTtl ttl => { k with multicastTtl := ttl }
  | .ipMulticastLoop on => { k with multicastLoop := on }
  | .ipMulticastIf interface => { k with multicastIf := some interface }
  | .ipAddMembership group interface =>
    { k with memberships := (group, interface) :: k.memberships }
  | .ipDropMembership group interface =>
    { k with memberships := k.memberships.erase (group, interface) }

end KernelSocket

/-- The descriptor table of a process. -/
abbrev Descriptors := Nat → Option KernelSocket

namespace Descriptors

variable (d : Descriptors)

def isOpen (fd : Nat) : Prop := (d fd).isSome

def put (fd : Nat) (k : KernelSocket) : Descriptors := Function.update d fd (some k)

def drop (fd : Nat) : Descriptors := Function.update d fd none

def modify (fd : Nat) (f : KernelSocket → KernelSocket) : Descriptors :=
  Function.update d fd ((d fd).map f)

/-- What the call does where it succeeds, as far as the table shows it. -/
def after : (c : Syscall) → c.Value → Descriptors
  | .socket, fd => d.put fd .fresh
  | .close fd, _ => d.drop fd
  | .bind fd port, _ => d.modify fd fun k => { k with port := some port }
  | .setsockopt fd option, _ => d.modify fd (·.set option)
  | .connect _ _, _ | .getsockname _, _ | .sendto _ _ _, _ | .recvfrom _ _, _ => d

/-- `socket` returns a descriptor that is not in use; no more is sent than there is, and no more
received than the buffer takes. -/
def Fits : (c : Syscall) → c.Value → Prop
  | .socket, fd => d fd = none
  | .sendto _ line _, (sent : Nat) => sent ≤ line.length
  | .recvfrom _ size, (bytes, _) => bytes.length ≤ size
  | _, _ => True

/-- What the call does where it fails. -/
def failed : Syscall → Descriptors
  | .close fd => d.drop fd
  | _ => d

theorem isOpen_put (fd : Nat) (k : KernelSocket) : (d.put fd k).isOpen fd := by
  simp [isOpen, put]

@[simp] theorem modify_put (fd : Nat) (k : KernelSocket) (f : KernelSocket → KernelSocket) :
    (d.put fd k).modify fd f = d.put fd (f k) := by
  simp [modify, put]

/-- A descriptor that was free is free again. -/
theorem drop_put {fd : Nat} (free : d fd = none) (k : KernelSocket) : (d.put fd k).drop fd = d := by
  simp [drop, put, free]

end Descriptors

/-- The kernel as it answers the calls of one process. -/
def kernel : World Descriptors Syscall Syscall.Result where
  requires d c := ∀ fd ∈ c.fd?, d.isOpen fd
  allows d c r d' := match r with
    | .ok v => d.Fits c v ∧ d' = d.after c v
    | .error _ => d' = d.failed c

/-- A kernel that refuses only to give a second socket; `name` is the address of the host. -/
def Descriptors.oblige (fd : Nat) (name : InAddr) (d : Descriptors) :
    (c : Syscall) → c.Result × Descriptors
  | .socket => if d fd = none then (.ok fd, d.put fd .fresh) else (.error EMFILE, d)
  | .getsockname _ => (.ok name, d)
  | .close fd => (.ok (), d.after (.close fd) ())
  | .bind fd port => (.ok (), d.after (.bind fd port) ())
  | .setsockopt fd option => (.ok (), d.after (.setsockopt fd option) ())
  | .connect _ _ => (.ok (), d)
  | .sendto _ line _ => (.ok line.length, d)
  | .recvfrom _ _ => (.ok ([], ⟨AF_INET, kUdpPort, name⟩), d)

theorem oblige_keeps (fd : Nat) (name : InAddr) : kernel.Keeps (Descriptors.oblige fd name) := by
  intro d c
  cases c with
  | socket =>
    by_cases free : d fd = none
    · simp only [Descriptors.oblige, if_pos free]
      exact ⟨free, rfl⟩
    · simp only [Descriptors.oblige, if_neg free]
      exact rfl
  | sendto fd line dest => exact ⟨le_refl line.length, rfl⟩
  | recvfrom fd size => exact ⟨Nat.zero_le size, rfl⟩
  | _ => exact ⟨trivial, rfl⟩

end SecpChat
