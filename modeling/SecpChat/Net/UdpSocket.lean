import SecpChat.Lib.Ownership
import SecpChat.Net.Kernel

/-!
# `UdpSocket` (`net/udp_socket.cpp`)

The class with its descriptor and its last error; a method is a program of system calls that
returns the object as it leaves it. The methods that need an open descriptor and make one
call of it are `request` with the call. Whatever is done to any number of objects, and
whatever fails, a descriptor that one of them has opened is open and no other's, and what no
object holds is as it was at the start (`Owns`).
-/

namespace SecpChat.Net

open Calls

abbrev Sys := Prog Syscall Syscall.Result

structure UdpSocket where
  fd : Int
  lastErrno : Errno
  deriving DecidableEq, Repr

namespace UdpSocket

/-- `UdpSocket()` -/
def closed : UdpSocket := ⟨-1, 0⟩

variable (s : UdpSocket)

/-- `open` -/
def open_ : Sys (UdpSocket × Bool) := do
  if s.fd ≥ 0 then
    return (s, true)
  match ← .perform .socket with
  | .error errno => return (⟨-1, errno⟩, false)
  | .ok fd => return (⟨Int.ofNat fd, 0⟩, true)

/-- `close`, and the destructor. -/
def close : Sys UdpSocket := do
  if s.fd ≥ 0 then
    match ← .perform (.close s.fd.toNat) with
    | .error errno => return ⟨-1, errno⟩
    | .ok _ => return { s with fd := -1 }
  else
    return s

/-- A method that makes one call on the descriptor. -/
def request (call : Nat → Syscall) : Sys (UdpSocket × Bool) := do
  if s.fd < 0 then
    return ({ s with lastErrno := EBADF }, false)
  match ← .perform (call s.fd.toNat) with
  | .error errno => return ({ s with lastErrno := errno }, false)
  | .ok _ => return ({ s with lastErrno := 0 }, true)

def bind (port : UInt16) : Sys (UdpSocket × Bool) := s.request (.bind · port)

def setBroadcast (enable : Bool) : Sys (UdpSocket × Bool) :=
  s.request (.setsockopt · (.soBroadcast enable))

def setReuseAddress (enable : Bool) : Sys (UdpSocket × Bool) :=
  s.request (.setsockopt · (.soReuseaddr enable))

def multicastAddMembership (group interfaceAddr : InAddr) : Sys (UdpSocket × Bool) :=
  s.request (.setsockopt · (.ipAddMembership group interfaceAddr))

def multicastDropMembership (group interfaceAddr : InAddr) : Sys (UdpSocket × Bool) :=
  s.request (.setsockopt · (.ipDropMembership group interfaceAddr))

def setMulticastTtl (ttl : UInt8) : Sys (UdpSocket × Bool) :=
  s.request (.setsockopt · (.ipMulticastTtl ttl))

def setMulticastLoop (enable : Bool) : Sys (UdpSocket × Bool) :=
  s.request (.setsockopt · (.ipMulticastLoop enable))

def setMulticastOutboundInterface (interfaceAddr : InAddr) : Sys (UdpSocket × Bool) :=
  s.request (.setsockopt · (.ipMulticastIf interfaceAddr))

/-- `r < 0 && errno == EINTR` -/
def interrupted {α : Type} : Except Errno α → Bool
  | .error errno => errno == EINTR
  | .ok _ => false

/-- `do r = call while (r < 0 && errno == EINTR)`, followed for `tries` repetitions at most: every
end of the loop is the end of it for some `tries`. -/
def untilDone (call : Syscall) : Nat → Sys call.Result
  | 0 => .perform call
  | tries + 1 => do
    let r ← .perform call
    if interrupted r then untilDone call tries else return r

/-- The largest `ssize_t`. -/
def ssizeMax : Nat := 2 ^ 63 - 1

/-- What `send_to` makes of the end of its loop, for `n` bytes. -/
def sent (n : Nat) : Except Errno Nat → UdpSocket × Bool
  | .error errno => ({ s with lastErrno := errno }, false)
  | .ok r => ({ s with lastErrno := 0 }, r == n)

def sendTo (tries : Nat) (line : Bytes) (dest : SockaddrIn) : Sys (UdpSocket × Bool) := do
  if s.fd < 0 then
    return ({ s with lastErrno := EBADF }, false)
  if line.length > ssizeMax then
    return ({ s with lastErrno := EMSGSIZE }, false)
  return s.sent line.length (← untilDone (.sendto s.fd.toNat line dest) tries)

/-- What `recv_from` makes of the end of its loop. -/
def received : Except Errno (Bytes × SockaddrIn) → UdpSocket × Option (Bytes × SockaddrIn)
  | .error errno => ({ s with lastErrno := errno }, none)
  | .ok (bytes, src) =>
    if src.sinFamily ≠ AF_INET then ({ s with lastErrno := EAFNOSUPPORT }, none)
    else ({ s with lastErrno := 0 }, some (bytes, src))

/-- `recv_from` into a buffer of `size` bytes. -/
def recvFrom (tries size : Nat) : Sys (UdpSocket × Option (Bytes × SockaddrIn)) := do
  if s.fd < 0 then
    return ({ s with lastErrno := EBADF }, none)
  return s.received (← untilDone (.recvfrom s.fd.toNat size) tries)

/-- `UdpSocket(UdpSocket&&)`: the new object, and the other. -/
def moveFrom (other : UdpSocket) : UdpSocket × UdpSocket :=
  (⟨other.fd, 0⟩, { other with fd := -1 })

/-- `operator=(UdpSocket&&)` of two objects. -/
def moveAssign (other : UdpSocket) : Sys (UdpSocket × UdpSocket) := do
  let s ← s.close
  return ({ s with fd := other.fd }, { other with fd := -1 })

/-- The descriptor that the object holds. -/
def descriptor : Option Nat := if 0 ≤ s.fd then some s.fd.toNat else none

/-! ## What the methods do -/

section Specs

variable {s : UdpSocket} {fd : Nat} {d : Descriptors}

theorem wp_open {Q : UdpSocket × Bool → Descriptors → Prop} (closed : s.fd < 0)
    (opens : ∀ fd : Nat, d fd = none → Q (⟨fd, 0⟩, true) (d.put fd .fresh))
    (fails : ∀ errno, Q (⟨-1, errno⟩, false) d) : kernel.wp s.open_ Q d := by
  unfold open_
  rw [if_neg (by omega)]
  refine (World.wp_bind _ _).2 ⟨nofun, fun r d' answered => ?_⟩
  cases r with
  | error errno =>
    obtain rfl : d' = d := answered
    exact fails errno
  | ok fd =>
    obtain ⟨free, rfl⟩ := answered
    exact opens fd free

theorem wp_close {Q : UdpSocket → Descriptors → Prop} (held : s.fd = fd) (isOpen : d.isOpen fd)
    (closes : ∀ errno, Q ⟨-1, errno⟩ (d.drop fd)) : kernel.wp s.close Q d := by
  unfold close
  rw [if_pos (by omega), held, Int.toNat_natCast]
  refine (World.wp_bind _ _).2 ⟨?_, fun r d' answered => ?_⟩
  · rintro _ ⟨⟩
    exact isOpen
  cases r with
  | error errno =>
    obtain rfl : d' = d.drop fd := answered
    exact closes errno
  | ok v =>
    obtain ⟨-, rfl⟩ := answered
    exact closes s.lastErrno

theorem wp_close_closed {Q : UdpSocket → Descriptors → Prop} (closed : s.fd < 0) (same : Q s d) :
    kernel.wp s.close Q d := by
  unfold close
  rw [if_neg (by omega)]
  exact same

/-- A call on a descriptor that changes nothing else, and nothing where it fails. -/
structure Sets (call : Nat → Syscall) (f : KernelSocket → KernelSocket) : Prop where
  names : ∀ fd, (call fd).fd? = some fd
  after : ∀ (d : Descriptors) fd v, d.after (call fd) v = d.modify fd f
  failed : ∀ (d : Descriptors) fd, d.failed (call fd) = d

theorem sets_bind (port : UInt16) :
    Sets (.bind · port) fun k => { k with port := some port } :=
  ⟨fun _ => rfl, fun _ _ _ => rfl, fun _ _ => rfl⟩

theorem sets_setsockopt (option : SocketOption) :
    Sets (.setsockopt · option) (·.set option) :=
  ⟨fun _ => rfl, fun _ _ _ => rfl, fun _ _ => rfl⟩

theorem wp_request {Q : UdpSocket × Bool → Descriptors → Prop} {call : Nat → Syscall}
    {f : KernelSocket → KernelSocket} (sets : Sets call f) (held : s.fd = fd)
    (isOpen : d.isOpen fd) (done : Q ({ s with lastErrno := 0 }, true) (d.modify fd f))
    (fails : ∀ errno, Q ({ s with lastErrno := errno }, false) d) :
    kernel.wp (s.request call) Q d := by
  obtain ⟨_, lastErrno⟩ := s
  subst held
  unfold request
  rw [if_neg (by simp)]
  refine (World.wp_bind _ _).2 ⟨?_, fun r d' answered => ?_⟩
  · intro fd' named
    obtain rfl : fd = fd' := Option.some.inj ((sets.names fd).symm.trans named)
    exact isOpen
  cases r with
  | error errno =>
    obtain rfl : d' = d := Eq.trans answered (sets.failed d fd)
    exact fails errno
  | ok v =>
    obtain rfl : d' = d.modify fd f := answered.2.trans (sets.after d fd v)
    exact done

theorem wp_request_closed {Q : UdpSocket × Bool → Descriptors → Prop} {call : Nat → Syscall}
    (closed : s.fd < 0) (refuses : Q ({ s with lastErrno := EBADF }, false) d) :
    kernel.wp (s.request call) Q d := by
  unfold request
  rw [if_pos closed]
  exact refuses

/-- The descriptor of the object is open, or the object is closed. -/
def Usable (s : UdpSocket) (d : Descriptors) : Prop := ∀ fd : Nat, s.fd = fd → d.isOpen fd

theorem usable_of_fd {s' : UdpSocket} (h : s.Usable d) (same : s'.fd = s.fd) : s'.Usable d :=
  fun fd held => h fd (same.symm.trans held)

theorem usable_of_closed (closed : s.fd < 0) : s.Usable d := by
  intro fd held
  omega

/-- A call that leaves the table as it is may be repeated. -/
theorem wp_untilDone {call : Syscall} {Q : call.Result → Descriptors → Prop}
    (names : call.fd? = some fd) (isOpen : d.isOpen fd) (after : ∀ v, d.after call v = d)
    (failed : d.failed call = d) (ends : ∀ r, Q r d) (tries : Nat) :
    kernel.wp (untilDone call tries) Q d := by
  have required : kernel.requires d call := by
    intro fd' named
    obtain rfl : fd = fd' := Option.some.inj (names.symm.trans named)
    exact isOpen
  have same {r : call.Result} {d' : Descriptors} (answered : kernel.allows d call r d') : d' = d := by
    cases r with
    | error errno => exact Eq.trans answered failed
    | ok v => exact answered.2.trans (after v)
  induction tries with
  | zero =>
    refine ⟨required, fun r d' answered => ?_⟩
    rw [same answered]
    exact ends r
  | succ tries ih =>
    refine (World.wp_bind _ _).2 ⟨required, fun r d' answered => ?_⟩
    rw [same answered]
    show kernel.wp (if interrupted r = true then untilDone call tries else pure r) Q d
    split
    · exact ih
    · exact ends r

theorem sent_fd (n : Nat) (r : Except Errno Nat) : (s.sent n r).1.fd = s.fd := by
  cases r with
  | error errno => rfl
  | ok r => rfl

theorem received_fd (r : Except Errno (Bytes × SockaddrIn)) : (s.received r).1.fd = s.fd := by
  unfold received
  split
  · rfl
  · split_ifs
    · rfl
    · rfl

/-- **Sending** leaves the descriptors as they are. -/
theorem wp_sendTo {Q : UdpSocket × Bool → Descriptors → Prop} (usable : s.Usable d)
    (done : ∀ r, r.1.fd = s.fd → Q r d) (tries : Nat) (line : Bytes) (dest : SockaddrIn) :
    kernel.wp (s.sendTo tries line dest) Q d := by
  unfold sendTo
  split
  · exact done _ rfl
  next opened =>
  split
  · exact done _ rfl
  refine (World.wp_bind _ _).2 (wp_untilDone rfl (usable s.fd.toNat (by omega)) (fun _ => rfl) rfl
    (fun r => ?_) tries)
  exact done _ (sent_fd line.length r)

/-- **Receiving** leaves the descriptors as they are. -/
theorem wp_recvFrom {Q : UdpSocket × Option (Bytes × SockaddrIn) → Descriptors → Prop}
    (usable : s.Usable d) (done : ∀ r, r.1.fd = s.fd → Q r d) (tries size : Nat) :
    kernel.wp (s.recvFrom tries size) Q d := by
  unfold recvFrom
  split
  · exact done _ rfl
  next opened =>
  refine (World.wp_bind _ _).2 (wp_untilDone rfl (usable s.fd.toNat (by omega)) (fun _ => rfl) rfl
    (fun r => ?_) tries)
  exact done _ (received_fd r)

end Specs

end UdpSocket

/-! ## Any number of objects -/

/-- What a program does with objects of the class. -/
inductive SocketOp (ι : Type) where
  | construct (i : ι)
  | destroy (i : ι)
  | moveConstruct (i j : ι)
  | moveAssign (i j : ι)
  | open_ (i : ι)
  | close (i : ι)
  | bind (i : ι) (port : UInt16)
  | setsockopt (i : ι) (option : SocketOption)
  deriving DecidableEq, Repr

/-- The objects that there are. -/
abbrev Sockets (ι : Type) := ι → Option UdpSocket

namespace Sockets

variable {ι : Type} [DecidableEq ι] (o : Sockets ι)

/-- A method of an object. -/
def invoke (i : ι) (method : UdpSocket → Sys UdpSocket) : Sys (Sockets ι) :=
  match o i with
  | none => return o
  | some s => do
    let s ← method s
    return Function.update o i (some s)

/-- What the language does not allow, such as a method of an object that there is not, does
nothing. -/
def perform (op : SocketOp ι) (o : Sockets ι) : Sys (Sockets ι) :=
  match op with
  | .construct i => return if (o i).isNone then Function.update o i (some .closed) else o
  | .destroy i =>
    match o i with
    | none => return o
    | some s => do
      let _ ← s.close
      return Function.update o i none
  | .moveConstruct i j =>
    match o i, o j with
    | none, some other =>
      let (s, other) := UdpSocket.moveFrom other
      return Function.update (Function.update o i (some s)) j (some other)
    | _, _ => return o
  | .moveAssign i j =>
    if i = j then
      return o
    else
      match o i, o j with
      | some s, some other => do
        let (s, other) ← s.moveAssign other
        return Function.update (Function.update o i (some s)) j (some other)
      | _, _ => return o
  | .open_ i => o.invoke i fun s => do return (← s.open_).1
  | .close i => o.invoke i UdpSocket.close
  | .bind i port => o.invoke i fun s => do return (← s.bind port).1
  | .setsockopt i option => o.invoke i fun s => do return (← s.request (.setsockopt · option)).1

/-- The descriptor that an object holds. -/
def held (i : ι) : Option Nat := (o i).bind UdpSocket.descriptor

variable {o} {before d : Descriptors}

theorem held_update (i : ι) (s : Option UdpSocket) :
    held (Function.update o i s) = Function.update o.held i (s.bind UdpSocket.descriptor) := by
  funext j
  by_cases own : j = i
  · subst own
    simp [held]
  · simp [held, own]

theorem held_of_same {i : ι} {s s' : UdpSocket} (here : o i = some s) (same : s'.fd = s.fd) :
    held (Function.update o i (some s')) = o.held := by
  have descriptor : s'.descriptor = s.descriptor := by
    simp only [UdpSocket.descriptor, same]
  rw [held_update, Option.bind_some, descriptor]
  have still : s.descriptor = o.held i := by simp [held, here]
  rw [still, Function.update_eq_self]

omit [DecidableEq ι] in
/-- The descriptor of an object is open, or the object is closed. -/
theorem held_cases {i : ι} {s : UdpSocket} (owns : Owns before o.held d) (here : o i = some s) :
    (∃ fd : Nat, s.fd = fd ∧ o.held i = some fd ∧ d.isOpen fd) ∨ s.fd < 0 ∧ o.held i = none := by
  have descriptor : o.held i = s.descriptor := by simp [held, here]
  by_cases open_ : 0 ≤ s.fd
  · have mine : o.held i = some s.fd.toNat := by
      rw [descriptor, UdpSocket.descriptor, if_pos open_]
    exact .inl ⟨s.fd.toNat, by omega, mine, owns.inUse mine⟩
  · have idle : o.held i = none := by
      rw [descriptor, UdpSocket.descriptor, if_neg open_]
    exact .inr ⟨by omega, idle⟩

/-- `close` gives back what the object held. -/
theorem wp_close_held {i : ι} {s : UdpSocket} (owns : Owns before o.held d) (here : o i = some s) :
    kernel.wp s.close (fun s' d' => s'.fd < 0 ∧ Owns before (Function.update o.held i none) d') d := by
  rcases held_cases owns here with ⟨fd, same, mine, isOpen⟩ | ⟨closed, idle⟩
  · exact UdpSocket.wp_close same isOpen fun errno => ⟨Int.negSucc_lt_zero 0, owns.release mine⟩
  · refine UdpSocket.wp_close_closed closed ⟨closed, ?_⟩
    rw [Function.update_eq_self_iff.2 idle.symm]
    exact owns

/-- `open` acquires a free descriptor, unless there is one already. -/
theorem wp_open_held {i : ι} {s : UdpSocket} (owns : Owns before o.held d) (here : o i = some s) :
    kernel.wp s.open_ (fun r d' => Owns before (held (Function.update o i (some r.1))) d') d := by
  rcases held_cases owns here with ⟨fd, same, mine, isOpen⟩ | ⟨closed, idle⟩
  · unfold UdpSocket.open_
    rw [if_pos (by omega)]
    show Owns before (held (Function.update o i (some s))) d
    rw [held_of_same here rfl]
    exact owns
  · refine UdpSocket.wp_open closed (fun fd free => ?_) fun errno => ?_
    · rw [held_update]
      exact owns.acquire idle free .fresh
    · rw [held_update]
      show Owns before (Function.update o.held i none) d
      rw [Function.update_eq_self_iff.2 idle.symm]
      exact owns

/-- A method that makes a call on the descriptor changes nothing of what anyone else holds. -/
theorem wp_request_held {i : ι} {s : UdpSocket} {call : Nat → Syscall}
    {f : KernelSocket → KernelSocket} (sets : UdpSocket.Sets call f) (owns : Owns before o.held d)
    (here : o i = some s) :
    kernel.wp (s.request call)
      (fun r d' => Owns before (held (Function.update o i (some r.1))) d') d := by
  have kept {r : UdpSocket} (same : r.fd = s.fd) :
      Owns before (held (Function.update o i (some r))) d := by
    rw [held_of_same here same]
    exact owns
  rcases held_cases owns here with ⟨fd, same, mine, isOpen⟩ | ⟨closed, -⟩
  · refine UdpSocket.wp_request sets same isOpen ?_ fun errno => kept rfl
    have still : held (Function.update o i (some { s with lastErrno := 0 })) = o.held :=
      held_of_same here rfl
    rw [still]
    obtain ⟨k, used⟩ := Option.isSome_iff_exists.1 isOpen
    have modified : d.modify fd f = Function.update d fd (some (f k)) := by
      simp [Descriptors.modify, used]
    rw [modified]
    exact owns.change mine (f k)
  · exact UdpSocket.wp_request_closed closed (kept rfl)

theorem wp_invoke {i : ι} {method : UdpSocket → Sys UdpSocket} (owns : Owns before o.held d)
    (keeps : ∀ s, o i = some s → kernel.wp (method s)
      (fun s' d' => Owns before (held (Function.update o i (some s'))) d') d) :
    kernel.wp (o.invoke i method) (fun o' d' => Owns before o'.held d') d := by
  unfold invoke
  split
  · exact owns
  next s here => exact World.wp_seq (keeps s here) fun s' d' owns' => owns'

/-- **Whatever is done with the objects**, every call names a descriptor that is open, and who
holds what stays clear. -/
theorem wp_perform (op : SocketOp ι) (owns : Owns before o.held d) :
    kernel.wp (o.perform op) (fun o' d' => Owns before o'.held d') d := by
  cases op with
  | construct i =>
    show Owns before (held (if (o i).isNone then Function.update o i (some .closed) else o)) d
    split
    next none_ =>
      have idle : o.held i = none := by simp [held, Option.isNone_iff_eq_none.1 none_]
      rw [held_update]
      show Owns before (Function.update o.held i none) d
      rw [Function.update_eq_self_iff.2 idle.symm]
      exact owns
    · exact owns
  | destroy i =>
    simp only [perform]
    split
    · exact owns
    next s here =>
      refine World.wp_seq (wp_close_held owns here) fun s' d' closed => ?_
      show Owns before (held (Function.update o i none)) d'
      rw [held_update]
      exact closed.2
  | moveConstruct i j =>
    simp only [perform]
    split
    next other none_ there =>
      have idle : o.held i = none := by simp [held, none_]
      have theirs : o.held j = other.descriptor := by simp [held, there]
      show Owns before (held (Function.update (Function.update o i (some ⟨other.fd, 0⟩)) j
        (some { other with fd := -1 }))) d
      rw [held_update, held_update]
      show Owns before (Function.update (Function.update o.held i other.descriptor) j none) d
      rw [← theirs]
      exact owns.transfer idle
    · exact owns
  | moveAssign i j =>
    simp only [perform]
    split
    · exact owns
    next apart =>
    split
    next s other here there =>
      have theirs : Function.update o.held i none j = other.descriptor := by
        rw [Function.update_of_ne (Ne.symm apart)]
        simp [held, there]
      refine World.wp_seq (World.wp_seq (wp_close_held owns here) fun s' d' closed => ?_)
        fun r d' owns' => owns'
      have moved := closed.2.transfer (j := j) (Function.update_self i none o.held)
      rw [theirs, Function.update_idem] at moved
      show Owns before (held (Function.update (Function.update o i (some { s' with fd := other.fd })) j
        (some { other with fd := -1 }))) d'
      rw [held_update, held_update]
      exact moved
    · exact owns
  | open_ i =>
    exact wp_invoke owns fun s here => World.wp_seq (wp_open_held owns here) fun _ _ owns' => owns'
  | close i =>
    refine wp_invoke owns fun s here => World.wp_mono (wp_close_held owns here) fun s' d' closed => ?_
    have descriptor : s'.descriptor = none := if_neg (by omega)
    rw [held_update, Option.bind_some, descriptor]
    exact closed.2
  | bind i port =>
    exact wp_invoke owns fun s here =>
      World.wp_seq (wp_request_held (UdpSocket.sets_bind port) owns here) fun _ _ owns' => owns'
  | setsockopt i option =>
    exact wp_invoke owns fun s here =>
      World.wp_seq (wp_request_held (UdpSocket.sets_setsockopt option) owns here)
        fun _ _ owns' => owns'

end Sockets

/-- **Descriptors have one owner.** In every run of any number of objects of the class, whatever
fails, the descriptors they hold are open and each is held once, the others are as they were,
every call names an open one, and when no object is left neither is a descriptor. -/
theorem sockets_own {ι : Type} [DecidableEq ι] {before d : Descriptors} {run : List (SocketOp ι)}
    {o : Sockets ι} (h : kernel.Runs Sockets.perform (fun _ => none) before run o d) :
    Owns before o.held d ∧ (∀ op, kernel.wp (o.perform op) (fun _ _ => True) d) ∧
      ((∀ i, o i = none) → d = before) := by
  have owns : Owns before o.held d :=
    h.induct (I := fun _ o d => Owns before o.held d) (Owns.start before)
      fun run op o d owns => Sockets.wp_perform op owns
  refine ⟨owns, fun op => World.wp_mono (Sockets.wp_perform op owns) fun _ _ _ => trivial,
    fun gone => owns.empty fun i => ?_⟩
  simp [Sockets.held, gone i]

/-- A socket that is opened and then moved is held by the second object only. -/
theorem sockets_own_moved :
    let run : List (SocketOp Bool) := [.construct false, .open_ false, .moveConstruct true false]
    ∃ o d, kernel.Runs Sockets.perform (fun _ => none) (fun _ => none) run o d ∧
      o.held false = none ∧ o.held true = some 3 ∧ Owns (fun _ => none) o.held d := by
  intro run
  have runs := World.runAll_runs Sockets.perform (oblige_keeps 3 ⟨10, 0, 0, 1⟩) run
    (fun _ => none) (fun _ => none)
  exact ⟨_, _, runs, by decide, by decide, (sockets_own runs).1⟩

end SecpChat.Net
