import SecpChat.App.Host
import SecpChat.Net.UdpSocket

/-!
# What `send_to` and `recv_from` make of interruptions (`net/udp_socket.cpp`)

Both repeat their call for as long as it is interrupted. Here the call is answered from a
list, which is continued by interruptions. For the receive loop the interruptions make no
difference: `recv_from` yields what has arrived (`recvFrom_arrived`).
-/

namespace SecpChat.Net

open Calls

/-- The repetitions of `call` are answered from a list. -/
def script (call : Syscall) (answers : List call.Result) (c : Syscall) :
    c.Result × List call.Result :=
  if same : call = c then
    match answers with
    | [] => (.error EINTR, [])
    | r :: later => (same ▸ r, later)
  else
    (.error EIO, answers)

namespace UdpSocket

theorem script_nil (call : Syscall) : script call [] call = (.error EINTR, []) := by
  simp [script]

theorem script_cons (call : Syscall) (r : call.Result) (answers : List call.Result) :
    script call (r :: answers) call = (r, answers) := by
  simp [script]

theorem run_untilDone {call : Syscall} (tries : Nat) {answers later : List call.Result}
    {r : call.Result} (answered : script call answers call = (r, later)) :
    (untilDone call (tries + 1)).run (script call) answers =
      (if interrupted r then untilDone call tries else pure r).run (script call) later := by
  have defn : (untilDone call (tries + 1)).run (script call) answers =
      (if interrupted (script call answers call).1 then untilDone call tries
        else pure (script call answers call).1).run (script call) (script call answers call).2 := rfl
  rw [defn, answered]

theorem run_untilDone_nil (call : Syscall) (tries : Nat) :
    ((untilDone call tries).run (script call) []).1 = .error EINTR := by
  induction tries with
  | zero => exact congrArg Prod.fst (script_nil call)
  | succ tries ih =>
    rw [run_untilDone tries (script_nil call)]
    exact ih

/-- **The loop ends with the first answer that is not an interruption.** -/
theorem untilDone_eq_iff (call : Syscall) (r : call.Result) (done : interrupted r = false)
    {answers : List call.Result} {tries : Nat} (enough : answers.length ≤ tries) :
    ((untilDone call tries).run (script call) answers).1 = r ↔
      ∃ before later, answers = before ++ r :: later ∧ ∀ c ∈ before, interrupted c = true := by
  induction answers generalizing tries with
  | nil =>
    rw [run_untilDone_nil]
    have other : .error EINTR ≠ r := by
      rintro rfl
      cases done
    simp [other]
  | cons c answers ih =>
    obtain ⟨tries, rfl⟩ : ∃ n, tries = n + 1 := ⟨tries - 1, by simp at enough; omega⟩
    rw [run_untilDone tries (script_cons call c answers)]
    by_cases again : interrupted c = true
    · rw [if_pos again, ih (by simpa using enough)]
      constructor
      · rintro ⟨before, later, rfl, all⟩
        exact ⟨c :: before, later, rfl, List.forall_mem_cons.2 ⟨again, all⟩⟩
      · rintro ⟨before, later, split, all⟩
        cases before with
        | nil =>
          rw [(List.cons.inj split).1, done] at again
          cases again
        | cons first before =>
          exact ⟨before, later, (List.cons.inj split).2, (List.forall_mem_cons.1 all).2⟩
    · rw [if_neg again]
      constructor
      · rintro rfl
        exact ⟨[], answers, rfl, List.forall_mem_nil _⟩
      · rintro ⟨before, later, split, all⟩
        cases before with
        | nil => exact (List.cons.inj split).1
        | cons first before =>
          rw [(List.cons.inj split).1] at again
          exact (again ((List.forall_mem_cons.1 all).1)).elim

variable {s : UdpSocket}

/-- **`send_to` is true** where the first call that is not interrupted sends everything. A call that
sends less makes it false, with no error. -/
theorem sendTo_true_iff {line : Bytes} {dest : SockaddrIn}
    (answers : List (Syscall.sendto s.fd.toNat line dest).Result) :
    ((s.sendTo answers.length line dest).run (script _) answers).1.2 = true ↔
      0 ≤ s.fd ∧ line.length ≤ ssizeMax ∧ ∃ before later,
        answers = before ++ .ok line.length :: later ∧ ∀ c ∈ before, interrupted c = true := by
  have done := untilDone_eq_iff (.sendto s.fd.toNat line dest) (.ok line.length) rfl
    (le_refl answers.length)
  rw [← done]
  unfold sendTo
  split
  next closed => simp [not_le.2 closed, Prog.run, pure]
  next opened =>
  split
  next long => simp [not_le.2 long, Prog.run, pure]
  next short =>
  rw [and_iff_right (not_lt.1 opened), and_iff_right (not_lt.1 short), Prog.run_bind]
  have outcome : ∀ r : Except Errno Nat,
      (s.sent line.length r).2 = true ↔ r = .ok line.length := by
    intro r
    cases r with
    | error errno => simp [sent]
    | ok r => simp [sent]
  exact outcome _

/-- **What `recv_from` yields is what has arrived**, cut to the buffer of the receive loop. -/
theorem recvFrom_arrived (isOpen : 0 ≤ s.fd) (d : Arrived) {tries : Nat}
    {before later : List (Syscall.recvfrom s.fd.toNat kMaxPacketBytes).Result}
    (all : ∀ c ∈ before, interrupted c = true)
    (enough : (before ++ .ok (d.bytes.take kMaxPacketBytes, d.src) :: later).length ≤ tries) :
    ((s.recvFrom tries kMaxPacketBytes).run (script _)
        (before ++ .ok (d.bytes.take kMaxPacketBytes, d.src) :: later)).1.2 =
      d.recvFrom.map (·, d.src) := by
  have done := (untilDone_eq_iff _ _ rfl enough).2 ⟨before, later, rfl, all⟩
  rw [recvFrom, if_neg (not_lt.2 isOpen), Prog.run_bind, done, Arrived.recvFrom]
  show (s.received (.ok (d.bytes.take kMaxPacketBytes, d.src))).2 = _
  by_cases family : d.src.sinFamily = AF_INET
  · simp [received, family]
  · simp [received, family]

end UdpSocket

end SecpChat.Net
