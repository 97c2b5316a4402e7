import SecpChat.App.Shutdown
import SecpChat.Lib.Loans

/-!
# The socket under `recv_multicast` (`services/group_room_coordinator.cpp`)

`recv_multicast` takes the pointer of the channel's socket under the mutex and reads from the socket
after it has let the mutex go, while `leave_multicast_membership_unlocked` destroys the
socket. The loops never get there, but the menu does with every room it creates, joins or leaves,
and `main` does as it shuts down. `recv_dangles_iff` says which runs end in a `recv_from` of a socket
that is gone.
-/

namespace SecpChat

open Runs

variable (username : Bytes) (localIp : InAddr)

namespace Process

variable (p : Process)

/-- The channel that `recv_multicast` has taken the socket of. -/
def taken : Option Nat :=
  match p.receiver with
  | .recv .multicast captured _ _ => some captured
  | _ => none

/-- The receiver is in the `recv_from` of a socket that is destroyed. -/
def Dangles : Prop := ∃ captured, p.taken = some captured ∧ captured < p.givenUp

/-- The next step of `main` destroys the socket of the channel. -/
def givesUp (line : Option Bytes) (e : Surroundings) : Bool :=
  match p.main with
  | .menu (.returned _) => false
  | .menu pc => (p.client.onLine e pc line).op.elim false fun op =>
    op.groups.elim false p.client.groups.closesChannel
  | .leaveRoom => true
  | _ => false

variable {p}

theorem call_givenUp (op : Option ClientOp) :
    (op.elim p p.call).givenUp =
      if (op.elim false fun op => op.groups.elim false p.client.groups.closesChannel) = true then
        p.givenUp + 1
      else p.givenUp := by
  cases op <;> rfl

theorem stepMain_givenUp (line : Option Bytes) (e : Surroundings) :
    (p.stepMain line e).givenUp = if p.givesUp line e = true then p.givenUp + 1 else p.givenUp := by
  unfold stepMain givesUp
  cases p.main with
  | menu pc =>
    cases pc with
    | returned quit => rfl
    | _ => exact call_givenUp _
  | leaveRoom => rfl
  | joinReceiver =>
    simp only
    split <;> rfl
  | joinHeartbeat =>
    simp only
    split <;> rfl
  | joinGroupAdvert =>
    simp only
    split <;> rfl
  | _ => rfl

theorem stepLoop_givenUp (t : BackgroundThread) (i : LoopInputs) :
    (p.stepLoop t i).givenUp = p.givenUp := by
  unfold stepLoop
  split
  · split <;> rfl
  · split <;> rfl
  · split
    next op called =>
      have kept := calls_keep (List.mem_of_getElem? called) p.client.groups
      exact (call_givenUp (some op)).trans (by simp [kept])
    · rfl
  · rfl

theorem stepReceiver_givenUp (result : PollResult) (t₁ t₂ : Int) :
    (p.stepReceiver result t₁ t₂).givenUp = p.givenUp := by
  unfold stepReceiver
  split
  · rfl
  · rfl
  · rfl
  · split <;> rfl
  · rfl

/-- Only `main` destroys the socket. -/
theorem step_givenUp {a : ProcessAct} (other : ∀ line e, a ≠ .main line e) :
    (p.step a).givenUp = p.givenUp := by
  cases a with
  | main line e => exact (other line e rfl).elim
  | receiver result t₁ t₂ => exact stepReceiver_givenUp result t₁ t₂
  | loop t i => exact stepLoop_givenUp t i
  | recvEnds =>
    simp only [step]
    split <;> rfl
  | _ => rfl

theorem taken_of_receiver {p p' : Process} (same : p'.receiver = p.receiver) :
    p'.taken = p.taken := by
  rw [taken, taken, same]

/-- In the loop over `pfds` a socket is taken where the next entry is read. -/
theorem serve_taken (polled : Nat) (pfds : List (HostSocket × Revents)) :
    ({ p with receiver := p.serve polled pfds } : Process).taken = none ∨
      ({ p with receiver := p.serve polled pfds } : Process).taken = some p.givenUp := by
  cases pfds with
  | nil => exact .inl rfl
  | cons entry pfds =>
    obtain ⟨socket, revents⟩ := entry
    cases revents with
    | none => exact .inl rfl
    | error =>
      simp only [serve]
      split <;> exact .inl rfl
    | pollin =>
      simp only [serve]
      split
      · cases socket
        · exact .inl rfl
        · exact .inr rfl
      · exact .inl rfl

theorem stepReceiver_taken (result : PollResult) (t₁ t₂ : Int) :
    (p.stepReceiver result t₁ t₂).taken = p.taken ∨ (p.stepReceiver result t₁ t₂).taken = none ∨
      (p.stepReceiver result t₁ t₂).taken = some p.givenUp := by
  unfold stepReceiver
  cases at_ : p.receiver with
  | head =>
    right
    left
    by_cases running : p.running = true <;> simp [taken, running]
  | poll pfds => cases result <;> exact .inr (.inl rfl)
  | serve polled pfds => exact .inr (serve_taken polled pfds)
  | recv socket captured polled pfds =>
    simp only
    split
    · exact .inr (.inl rfl)
    · exact .inl rfl
  | ended => exact .inl rfl

/-- What the other steps do to the socket that is taken. -/
theorem step_taken {a : ProcessAct} (other : ∀ line e, a ≠ .main line e) :
    (p.step a).taken = p.taken ∨ (p.step a).taken = none ∨ (p.step a).taken = some p.givenUp := by
  cases a with
  | main line e => exact (other line e rfl).elim
  | receiver result t₁ t₂ => exact stepReceiver_taken result t₁ t₂
  | loop t i => exact .inl (taken_of_receiver (stepLoop_leaves t i).receiver)
  | recvEnds =>
    simp only [step]
    split
    · exact .inr (.inl rfl)
    · exact .inl rfl
  | _ => exact .inl rfl

/-- **The socket of the channel is on loan to the receiver**, and `main` may replace it. -/
def loans : Loans (processMachine username localIp) where
  version := givenUp
  loan := taken
  start := rfl
  step p a := by
    cases a with
    | main line e =>
      have kept : (p.stepMain line e).taken = p.taken :=
        taken_of_receiver (stepMain_leaves line e).receiver
      have counted := p.stepMain_givenUp line e
      by_cases destroys : p.givesUp line e = true
      · rw [if_pos destroys] at counted
        exact .inl ⟨counted, kept⟩
      · rw [if_neg destroys] at counted
        exact .inr ⟨counted, .inl kept⟩
    | _ => exact .inr ⟨step_givenUp (by simp), step_taken (by simp)⟩

/-- A step destroys the socket exactly when it is one of `main` that gives the channel up. -/
theorem loans_replaces {a : ProcessAct} :
    (loans username localIp).Replaces p a ↔
      ∃ line e, a = .main line e ∧ p.givesUp line e = true := by
  have same : (loans username localIp).Replaces p a ↔ (p.step a).givenUp = p.givenUp + 1 := Iff.rfl
  rw [same]
  by_cases main : ∃ line e, a = .main line e
  · obtain ⟨line, e, rfl⟩ := main
    have counted : (p.step (.main line e)).givenUp =
      if p.givesUp line e = true then p.givenUp + 1 else p.givenUp := p.stepMain_givenUp line e
    rw [counted]
    constructor
    · intro more
      refine ⟨line, e, rfl, ?_⟩
      by_contra keeps
      rw [if_neg keeps] at more
      omega
    · rintro ⟨_, _, act, destroys⟩
      cases act
      exact if_pos destroys
  · have other : ∀ line e, a ≠ .main line e := fun line e act => main ⟨line, e, act⟩
    rw [step_givenUp other]
    constructor
    · intro more
      omega
    · rintro ⟨line, e, act, -⟩
      exact (other line e act).elim

end Process

/-- **The receiver reads from a destroyed socket** exactly where `main` gave the channel up while the
receiver was in the `recv_from` of its socket, and it has not returned from it since. No other thread,
and nothing that arrives, can bring this about. -/
theorem recv_dangles_iff (run : List ProcessAct) :
    ((processMachine username localIp).exec run).Dangles ↔
      ∃ pre line e post, run = pre ++ .main line e :: post ∧
        let p := (processMachine username localIp).exec pre
        p.taken = some p.givenUp ∧ p.givesUp line e = true ∧
          (processMachine username localIp).Since (fun q => q.taken = some p.givenUp)
            (pre ++ [.main line e]) post := by
  refine ((Process.loans username localIp).stale_iff run).trans ?_
  constructor
  · rintro ⟨pre, a, post, rfl, current, replaces, since⟩
    obtain ⟨line, e, rfl, destroys⟩ := (Process.loans_replaces username localIp).1 replaces
    exact ⟨pre, line, e, post, rfl, current, destroys, since⟩
  · rintro ⟨pre, line, e, post, rfl, current, destroys, since⟩
    exact ⟨pre, .main line e, post, rfl, current,
      (Process.loans_replaces username localIp).2 ⟨line, e, rfl, destroys⟩, since⟩

/-- A line in `r1` is there to be read, and alice leaves the room before it is. -/
example :
    let e : Surroundings := ⟨0, 0, true, ⟨true, some 4, true, true, true, true, true, true⟩, true⟩
    let typed (line : Bytes) : ProcessAct := .main (some line) e
    let receiver : ProcessAct := .receiver
      (.ready fun s => if s = .multicast then .pollin else .none) 1 1
    let run : List ProcessAct := [typed (lit "3"), typed (lit "r1"),
      .arrive .multicast (lit "CHAT|r1|bob|hei\n") ⟨AF_INET, kUdpPort, ⟨10, 0, 0, 2⟩⟩,
      receiver, receiver, receiver, receiver, typed (lit "7")]
    let M := processMachine (lit "alice") ⟨10, 0, 0, 1⟩
    M.Along Process.Sound run ∧ (M.exec run).receiver = .recv .multicast 1 1 [] ∧
      (M.exec run).givenUp = 2 := by
  decide +kernel

end SecpChat
