import SecpChat.App.Process

/-!
# How far the threads have to go (`main.cpp`, `app/interruptible_sleep.hpp`)

After the menu `main` lets `running` go and stops the sleeper. Once the stop is stored no
thread turns back: the receiver polls no more, a sleeper finds `stopped_` set and a loop ends
at its head. Every step of a thread then lowers `rank`, and nothing else raises it
(`step_rank`).
-/

namespace SecpChat

open Runs

/-- The thread can go on in `sleep_for`. -/
def InterruptibleSleep.canRun {ι : Type*} (s : InterruptibleSleep ι) (i : ι) : Bool :=
  match s.pc i with
  | .out _ => false
  | .lock => s.mu.owner.isNone
  | .wait _ => !s.mu.waiting i && s.mu.owner.isNone
  | _ => true

/-- The thread is blocked, and its time is not up. -/
def InterruptibleSleep.waits {ι : Type*} (s : InterruptibleSleep ι) (i : ι) : Bool :=
  match s.pc i with
  | .wait _ => s.mu.waiting i
  | _ => false

namespace Process

variable (p : Process)

/-- A thread can take its next step. -/
def Moves : ProcessAct → Bool
  | .main _ _ => match p.main with
    | .joinReceiver => p.receiver = .ended
    | .joinHeartbeat => p.loop .heartbeat = .ended
    | .joinGroupAdvert => p.loop .groupAdvertLoop = .ended
    | .returned => false
    | _ => true
  | .receiver _ _ _ => match p.receiver with
    | .recv socket captured _ _ => p.recvReturns socket captured
    | .ended => false
    | _ => true
  | .loop t _ => match p.loop t with
    | .sleep => match p.sleeper.pc t with
      | .out _ => true
      | _ => p.sleeper.canRun t
    | .ended => false
    | _ => true
  -- a wait ends by itself
  | .timeout t => p.sleeper.waits t
  | .spurious _ | .recvEnds | .arrive _ _ _ => false

/-- The stop is stored. -/
structure Stopping : Prop where
  running : p.running = false
  stopped : p.sleeper.stopped = true

end Process

/-! ## The rank -/

def SleeperPc.rank : SleeperPc → Nat
  | .out _ => 0
  | .unlock _ => 1
  | .last => 2
  | .check | .recheck => 3
  | .pred => 4
  | .lock | .wait true => 5
  | .wait false => 6
  | .block => 8

/-- How far a thread in `sleep_for` has to go; to be blocked is a step. -/
def InterruptibleSleep.rank {ι : Type*} (s : InterruptibleSleep ι) (i : ι) : Nat :=
  (s.pc i).rank + if s.waits i then 1 else 0

def LoopPc.rank : LoopPc → Nat
  | .ended => 0
  | .head => 1
  | .body done => 2 + (4 - done)
  | .sleep => 7

def ReceiverPc.rank : ReceiverPc → Nat
  | .ended => 0
  | .head => 1
  | .serve _ pfds => 2 + 2 * pfds.length
  | .recv _ _ _ pfds => 3 + 2 * pfds.length
  | .poll pfds => 3 + 2 * pfds.length

/-- The menu is not counted: it is over by then. -/
def MainPc.rank : MainPc → Nat
  | .menu _ | .returned => 0
  | .joinGroupAdvert => 1
  | .joinHeartbeat => 2
  | .joinReceiver => 3
  | .leaveRoom => 4
  | .closeUdp => 5
  | .requestStop => 6

namespace Process

def loopRank (p : Process) (t : BackgroundThread) : Nat :=
  (p.loop t).rank + p.sleeper.rank t

/-- How far the threads still have to go. -/
def rank (p : Process) : Nat :=
  p.main.rank + p.receiver.rank + (p.loopRank .heartbeat + p.loopRank .groupAdvertLoop)

end Process

/-! ## A step of the sleeper -/

namespace InterruptibleSleep

variable {ι : Type*} {s : InterruptibleSleep ι}

theorem stop_pc : s.stop.pc = s.pc := by
  unfold stop
  split <;> rfl

theorem stop_rank (i : ι) : s.stop.rank i ≤ s.rank i := by
  have waits : s.stop.waits i = true → s.waits i = true := by
    unfold waits
    rw [stop_pc]
    unfold stop
    cases s.stopper <;> cases s.pc i <;> simp [Monitor.notifyAll]
  unfold rank
  rw [stop_pc]
  cases still : s.stop.waits i with
  | false => simp
  | true => simp [waits still]

/-- The thread that holds the mutex can go on. -/
theorem canRun_of_inside {i : ι} (h : inside (s.pc i)) : s.canRun i = true := by
  unfold canRun
  cases at_ : s.pc i with
  | out => simp [at_, inside] at h
  | lock => simp [at_, inside] at h
  | wait => simp [at_, inside] at h
  | _ => rfl

theorem SameFor.rank {s' : InterruptibleSleep ι} {i : ι} (h : SameFor s s' i) :
    s'.rank i = s.rank i := by
  unfold InterruptibleSleep.rank waits
  rw [h.pc, h.waiting]

variable [DecidableEq ι]

theorem acquire_rank (i : ι) {pc : SleeperPc} (awake : ∀ timedOut, pc ≠ .wait timedOut)
    (lower : pc.rank < (s.pc i).rank) :
    (if s.mu.owner.isNone then 1 else 0) + (s.acquire i pc).rank i ≤ s.rank i := by
  unfold acquire Monitor.acquire
  cases s.mu.owner with
  | none =>
    cases pc with
    | wait timedOut => exact (awake timedOut rfl).elim
    | _ =>
      simp only [rank, waits, goto, Function.update_self, Option.isNone_none, if_true,
        Bool.false_eq_true, if_false]
      omega
  | some j => simp

/-- **Once the stop is stored a sleeper only goes forward.** -/
theorem run_rank (stopped : s.stopped = true) (i : ι) :
    (if s.canRun i then 1 else 0) + (s.run i).rank i ≤ s.rank i := by
  cases at_ : s.pc i with
  | out result => simp [canRun, run, at_]
  | lock =>
    have lower : SleeperPc.rank .check < (s.pc i).rank := by
      rw [at_]
      decide
    have awake (timedOut : Bool) : SleeperPc.check ≠ .wait timedOut := by simp
    simpa [canRun, run, at_] using acquire_rank i awake lower
  | check => simp [canRun, run, rank, waits, at_, stopped, goto, SleeperPc.rank]
  | pred => simp [canRun, run, rank, waits, at_, stopped, goto, SleeperPc.rank]
  | block => simp [canRun, run, rank, waits, at_, goto, SleeperPc.rank]
  | wait timedOut =>
    cases waiting : s.mu.waiting i with
    | true => simp [canRun, run, at_, waiting]
    | false =>
      have lower : SleeperPc.rank (if timedOut then .recheck else .pred) < (s.pc i).rank := by
        rw [at_]
        cases timedOut <;> decide
      have awake (t : Bool) : (if timedOut then SleeperPc.recheck else .pred) ≠ .wait t := by
        cases timedOut <;> simp
      simpa [canRun, run, at_, waiting] using acquire_rank i awake lower
  | recheck => simp [canRun, run, rank, waits, at_, goto, SleeperPc.rank]
  | last => simp [canRun, run, rank, waits, at_, goto, SleeperPc.rank]
  | unlock result => simp [canRun, run, rank, waits, at_, goto, SleeperPc.rank]

theorem timeout_rank (i : ι) :
    (if s.waits i then 1 else 0) + (s.step (.timeout i)).rank i ≤ s.rank i := by
  cases at_ : s.pc i with
  | wait timedOut =>
    cases timedOut <;> cases waiting : s.mu.waiting i <;>
      simp [rank, waits, step, at_, waiting, goto, Monitor.wake, SleeperPc.rank]
  | _ => simp [waits, step, at_]

theorem spurious_pc (i : ι) : (s.step (.spurious i)).pc = s.pc := by
  simp only [step]
  split <;> rfl

theorem spurious_rank (i : ι) : (s.step (.spurious i)).rank i ≤ s.rank i := by
  cases at_ : s.pc i with
  | wait timedOut => simp [rank, waits, step, at_, Monitor.wake]
  | _ => simp [step, at_]

/-- A step of one thread is none of another. -/
theorem timeout_same {i j : ι} (other : j ≠ i) : SameFor s (s.step (.timeout i)) j := by
  simp only [step]
  split
  · exact (wake_same other).goto other _
  · exact ⟨rfl, rfl, rfl⟩

theorem spurious_same {i j : ι} (other : j ≠ i) : SameFor s (s.step (.spurious i)) j := by
  simp only [step]
  split
  · exact wake_same other
  · exact ⟨rfl, rfl, rfl⟩

/-- Sleeping stops nobody. -/
theorem run_stop (i : ι) : (s.run i).stopped = s.stopped ∧ (s.run i).stopper = s.stopper := by
  have acquired (pc : SleeperPc) :
      (s.acquire i pc).stopped = s.stopped ∧ (s.acquire i pc).stopper = s.stopper := by
    unfold acquire
    split <;> exact ⟨rfl, rfl⟩
  unfold run
  split
  · exact ⟨rfl, rfl⟩
  · exact acquired _
  · exact ⟨rfl, rfl⟩
  · exact ⟨rfl, rfl⟩
  · exact ⟨rfl, rfl⟩
  · split
    · exact ⟨rfl, rfl⟩
    · exact acquired _
  · exact ⟨rfl, rfl⟩
  · exact ⟨rfl, rfl⟩
  · exact ⟨rfl, rfl⟩

theorem step_stop {a : SleepAct ι} (sleeping : a ≠ .stop) :
    (s.step a).stopped = s.stopped ∧ (s.step a).stopper = s.stopper := by
  cases a with
  | call i =>
    simp only [step]
    split <;> exact ⟨rfl, rfl⟩
  | run i => exact run_stop i
  | timeout i =>
    simp only [step]
    split <;> exact ⟨rfl, rfl⟩
  | spurious i =>
    simp only [step]
    split <;> exact ⟨rfl, rfl⟩
  | stop => exact (sleeping rfl).elim

theorem step_stopped (stopped : s.stopped = true) (a : SleepAct ι) :
    (s.step a).stopped = true := by
  by_cases stop_ : a = .stop
  · subst stop_
    simp only [step, stop]
    split
    · rfl
    · exact stopped
    · exact stopped
  · exact (step_stop stop_).1.trans stopped

theorem exec_stopper (run : List (SleepAct ι)) :
    ((sleepMachine ι).exec run).stopped = true → ((sleepMachine ι).exec run).stopper ≠ .idle := by
  refine (sleepMachine ι).invariant (I := fun s => s.stopped = true → s.stopper ≠ .idle)
    (by simp [sleepMachine]) (fun s a h => ?_) run
  show (s.step a).stopped = true → (s.step a).stopper ≠ .idle
  by_cases stop_ : a = .stop
  · subst stop_
    simp only [step, stop]
    split
    · intro _ idle
      cases idle
    · intro _ idle
      cases idle
    next returned =>
      intro _
      simp [returned]
  · rw [(step_stop stop_).1, (step_stop stop_).2]
    exact h

end InterruptibleSleep

theorem BackgroundThread.calls_length (t : BackgroundThread) (i : LoopInputs) (udpOpen : Bool) :
    (t.calls i udpOpen).length ≤ 4 := by
  cases t with
  | heartbeat => exact le_rfl
  | groupAdvertLoop => exact Nat.succ_le_succ (Nat.zero_le 3)

namespace Process

variable {p : Process}

/-! ## A step lowers the rank -/

theorem stepMain_rank (past : ∀ pc, p.main ≠ .menu pc) (stored : p.sleeper.stopper ≠ .idle)
    (line : Option Bytes) (e : Surroundings) :
    (if p.Moves (.main line e) then 1 else 0) + (p.stepMain line e).rank ≤ p.rank := by
  unfold stepMain Moves
  cases at_ : p.main with
  | menu pc => exact (past pc at_).elim
  | requestStop =>
    have first := p.sleeper.stop_rank .heartbeat
    have second := p.sleeper.stop_rank .groupAdvertLoop
    simp only [rank, loopRank, at_, if_neg stored, MainPc.rank, if_true]
    omega
  | closeUdp =>
    simp only [rank, loopRank, at_, MainPc.rank, if_true]
    omega
  | leaveRoom =>
    simp only [rank, loopRank, at_, MainPc.rank, call, if_true]
    omega
  | joinReceiver =>
    by_cases ended : p.receiver = .ended
    · simp only [rank, loopRank, at_, ended, decide_true, MainPc.rank, if_true]
      omega
    · simp [ended]
  | joinHeartbeat =>
    by_cases ended : p.loop .heartbeat = .ended
    · simp only [rank, loopRank, at_, ended, decide_true, MainPc.rank, if_true]
      omega
    · simp [ended]
  | joinGroupAdvert =>
    by_cases ended : p.loop .groupAdvertLoop = .ended
    · simp only [rank, loopRank, at_, ended, decide_true, MainPc.rank, if_true]
      omega
    · simp [ended]
  | returned => simp

section Stopping

variable (stopping : p.Stopping)

include stopping

theorem serve_rank (polled : Nat) (pfds : List (HostSocket × Revents)) :
    (p.serve polled pfds).rank < (ReceiverPc.serve polled pfds).rank := by
  cases pfds with
  | nil => simp [serve, ReceiverPc.rank]
  | cons entry pfds =>
    obtain ⟨socket, revents⟩ := entry
    cases revents with
    | none =>
      simp only [serve, ReceiverPc.rank, List.length_cons]
      omega
    | error =>
      simp only [serve, stopping.running, if_true, ReceiverPc.rank, List.length_cons]
      omega
    | pollin =>
      simp only [serve]
      split
      · simp only [ReceiverPc.rank, List.length_cons]
        omega
      · simp only [ReceiverPc.rank, List.length_cons]
        omega

/-- The receiver polls no more. -/
theorem stepReceiver_rank (result : PollResult) (t₁ t₂ : Int) :
    (if p.Moves (.receiver result t₁ t₂) then 1 else 0) + (p.stepReceiver result t₁ t₂).rank ≤
      p.rank := by
  unfold stepReceiver Moves
  cases at_ : p.receiver with
  | head =>
    simp only [rank, loopRank, at_, stopping.running, ReceiverPc.rank, if_true, Bool.false_eq_true,
      if_false]
    omega
  | poll pfds =>
    cases result with
    | interrupted =>
      simp only [rank, loopRank, at_, ReceiverPc.rank, if_true]
      omega
    | failed =>
      simp only [rank, loopRank, at_, ReceiverPc.rank, if_true]
      omega
    | ready revents =>
      simp only [rank, loopRank, at_, ReceiverPc.rank, if_true, List.length_map]
      omega
  | serve polled pfds =>
    have lower := serve_rank stopping polled pfds
    simp only [rank, loopRank, at_, if_true]
    omega
  | recv socket captured polled pfds =>
    by_cases returns : p.recvReturns socket captured = true
    · simp only [rank, loopRank, at_, returns, ReceiverPc.rank, if_true]
      omega
    · simp [returns]
  | ended => simp

/-- A thread that sleeps no more calls at most what is left of its body. -/
theorem stepLoop_rank (t : BackgroundThread) (i : LoopInputs) :
    (if p.Moves (.loop t i) then 1 else 0) + (p.stepLoop t i).loopRank t ≤ p.loopRank t := by
  unfold stepLoop Moves
  cases at_ : p.loop t with
  | head =>
    simp [loopRank, gotoLoop, at_, stopping.running, LoopPc.rank]
  | sleep =>
    have lower := p.sleeper.run_rank stopping.stopped t
    cases asleep : p.sleeper.pc t with
    | out result =>
      simp only [loopRank, gotoLoop, at_, asleep, Function.update_self, if_true]
      split <;> simp only [LoopPc.rank] <;> omega
    | _ =>
      simp only [loopRank, at_, asleep]
      omega
  | body done =>
    have short := t.calls_length i p.udpOpen
    cases call_ : (t.calls i p.udpOpen)[done]? with
    | none =>
      simp only [loopRank, gotoLoop, at_, call_, Function.update_self, LoopPc.rank, if_true]
      omega
    | some op =>
      have more := (List.getElem?_eq_some_iff.1 call_).1
      simp only [loopRank, gotoLoop, call, at_, call_, Function.update_self, LoopPc.rank, if_true]
      omega
  | ended => simp [loopRank, at_]

omit stopping in
theorem gotoLoop_others (t : BackgroundThread) (pc : LoopPc) {t' : BackgroundThread}
    (other : t' ≠ t) : (p.gotoLoop t pc).loopRank t' = p.loopRank t' := by
  simp only [loopRank, gotoLoop, Function.update_of_ne other]

/-- A loop leaves the other threads where they are. -/
theorem stepLoop_others (t : BackgroundThread) (i : LoopInputs) :
    (p.stepLoop t i).main = p.main ∧ (p.stepLoop t i).receiver = p.receiver ∧
      ∀ t', t' ≠ t → (p.stepLoop t i).loopRank t' = p.loopRank t' := by
  unfold stepLoop
  split
  · rw [if_neg (by simp [stopping.running])]
    exact ⟨rfl, rfl, fun t' other => gotoLoop_others t .ended other⟩
  · split
    · exact ⟨rfl, rfl, fun t' other => gotoLoop_others t _ other⟩
    · refine ⟨rfl, rfl, fun t' other => ?_⟩
      simp only [loopRank, (InterruptibleSleep.run_same other).rank]
  · split
    next op _ =>
      have called : (p.call op).loopRank = p.loopRank := rfl
      exact ⟨rfl, rfl, fun t' other => called ▸ gotoLoop_others t _ other⟩
    · exact ⟨rfl, rfl, fun t' other => gotoLoop_others t .head other⟩
  · exact ⟨rfl, rfl, fun t' other => rfl⟩

omit stopping in
/-- Where one loop goes on, the rank falls with that of the loop. -/
theorem rank_of_loop {p' : Process} {t : BackgroundThread} {moved : Nat} (main : p'.main = p.main)
    (receiver : p'.receiver = p.receiver) (lower : moved + p'.loopRank t ≤ p.loopRank t)
    (others : ∀ t', t' ≠ t → p'.loopRank t' = p.loopRank t') : moved + p'.rank ≤ p.rank := by
  cases t with
  | heartbeat =>
    have other := others .groupAdvertLoop (by decide)
    simp only [rank, main, receiver, other]
    omega
  | groupAdvertLoop =>
    have other := others .heartbeat (by decide)
    simp only [rank, main, receiver, other]
    omega

/-- **A step of a thread lowers the rank, and nothing raises it.** -/
theorem step_rank (past : ∀ pc, p.main ≠ .menu pc) (stored : p.sleeper.stopper ≠ .idle)
    (a : ProcessAct) : (if p.Moves a then 1 else 0) + (p.step a).rank ≤ p.rank := by
  cases a with
  | main line e => exact stepMain_rank past stored line e
  | receiver result t₁ t₂ => exact stepReceiver_rank stopping result t₁ t₂
  | loop t i =>
    obtain ⟨main, receiver, others⟩ := stepLoop_others stopping t i
    exact rank_of_loop main receiver (stepLoop_rank stopping t i) others
  | timeout t =>
    have lower : (if p.Moves (.timeout t) then 1 else 0) +
        (p.sleeper.step (.timeout t)).rank t ≤ p.sleeper.rank t := p.sleeper.timeout_rank t
    refine rank_of_loop (t := t) rfl rfl ?_ fun t' other => ?_
    · simp only [loopRank, step]
      omega
    · simp only [loopRank, step, (InterruptibleSleep.timeout_same other).rank]
  | spurious t =>
    have lower := p.sleeper.spurious_rank t
    refine rank_of_loop (t := t) rfl rfl ?_ fun t' other => ?_
    · simp only [Moves, loopRank, step, Bool.false_eq_true, if_false]
      omega
    · simp only [loopRank, step, (InterruptibleSleep.spurious_same other).rank]
  | recvEnds =>
    cases at_ : p.receiver with
    | recv socket captured polled pfds =>
      simp only [Moves, rank, loopRank, step, at_, ReceiverPc.rank, Bool.false_eq_true, if_false]
      omega
    | _ => simp [Moves, step, at_]
  | arrive cast bytes src => simp [Moves, rank, loopRank, step]

end Stopping

/-! ## The bound -/

theorem loopRank_le (t : BackgroundThread) : p.loopRank t ≤ 16 := by
  have place : (p.loop t).rank ≤ 7 := by
    cases p.loop t with
    | body done =>
      simp only [LoopPc.rank]
      omega
    | _ => decide
  have sleeper : p.sleeper.rank t ≤ 9 := by
    have pc : (p.sleeper.pc t).rank ≤ 8 := by
      cases p.sleeper.pc t with
      | wait timedOut => cases timedOut <;> decide
      | _ => exact Nat.le_of_ble_eq_true rfl
    unfold InterruptibleSleep.rank
    split <;> omega
  simp only [loopRank]
  omega

theorem receiverRank_le {pc : ReceiverPc} (inTurn : p.InTurn pc) : pc.rank ≤ 7 := by
  cases pc with
  | head => decide
  | ended => decide
  | poll pfds =>
    have few := inTurn.length_le
    simp only [ReceiverPc.rank, List.length_cons, List.length_nil] at few ⊢
    omega
  | serve polled pfds =>
    have few := inTurn.sockets.length_le
    simp only [ReceiverPc.rank, List.length_map, List.length_cons, List.length_nil] at few ⊢
    omega
  | recv socket captured polled pfds =>
    have few := inTurn.entries.tail.sockets.length_le
    simp only [ReceiverPc.rank, List.length_map, List.length_cons, List.length_nil] at few ⊢
    omega

theorem mainRank_le (pc : MainPc) : pc.rank ≤ 6 := by
  cases pc <;> exact Nat.le_of_ble_eq_true rfl

theorem rank_le (inTurn : p.InTurn p.receiver) : p.rank ≤ 45 := by
  have main := mainRank_le p.main
  have receiver := receiverRank_le inTurn
  have heartbeat := p.loopRank_le .heartbeat
  have advert := p.loopRank_le .groupAdvertLoop
  unfold rank
  omega

end Process

end SecpChat
