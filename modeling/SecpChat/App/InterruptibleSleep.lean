import SecpChat.Lib.Monitor
import SecpChat.Lib.Runs

/-!
# Stoppable sleeps (`app/interruptible_sleep.hpp`)

`sleep_for` is cut into its atomic steps, those of `wait_for` with a predicate among them;
time is what the environment does, so a wait may end at any step. `request_stop` stores
and notifies without the mutex. Between a sleeper's look at `stopped_` and its block there
is a moment at which both can have happened (`Misses`): nobody will wake that sleeper then,
and there is no other way to lose a wake-up.
-/

namespace SecpChat

open Runs

/-- Where a thread is in `sleep_for`. -/
inductive SleeperPc where
  /-- Not in `sleep_for`; what the last call returned. -/
  | out (result : Option Bool)
  /-- `std::unique_lock lock{mu_}` -/
  | lock
  /-- `if (stopped_.load())` -/
  | check
  /-- `while (!pred())` of `wait_for` -/
  | pred
  /-- The predicate was false. -/
  | block
  /-- In the wait of the condition variable, until it has the mutex again. -/
  | wait (timedOut : Bool)
  /-- `return pred()` of a `wait_for` that timed out; the value is not used. -/
  | recheck
  /-- `return !stopped_.load()` -/
  | last
  /-- The destructor of `lock`. -/
  | unlock (result : Bool)
  deriving DecidableEq, Repr

/-- Where the stopping thread is in `request_stop`. -/
inductive StopperPc where
  | idle | stored | returned
  deriving DecidableEq, Repr

structure InterruptibleSleep (ι : Type*) where
  stopped : Bool
  /-- `mu_` and `cv_` -/
  mu : Monitor ι
  pc : ι → SleeperPc
  stopper : StopperPc

inductive SleepAct (ι : Type*) where
  /-- The thread calls `sleep_for`. -/
  | call (i : ι)
  /-- It takes its next step, if it can. -/
  | run (i : ι)
  /-- The time of its wait is up. -/
  | timeout (i : ι)
  | spurious (i : ι)
  /-- The next step of `request_stop`. -/
  | stop
  deriving DecidableEq, Repr

namespace InterruptibleSleep

variable {ι : Type*}

/-- `request_stop` -/
def stop (s : InterruptibleSleep ι) : InterruptibleSleep ι :=
  match s.stopper with
  | .idle => { s with stopped := true, stopper := .stored }
  | .stored => { s with mu := s.mu.notifyAll, stopper := .returned }
  | .returned => s

variable [DecidableEq ι]

def goto (s : InterruptibleSleep ι) (i : ι) (pc : SleeperPc) : InterruptibleSleep ι :=
  { s with pc := Function.update s.pc i pc }

/-- The thread goes on when it has the mutex. -/
def acquire (s : InterruptibleSleep ι) (i : ι) (pc : SleeperPc) : InterruptibleSleep ι :=
  match s.mu.acquire i with
  | none => s
  | some mu => { s with mu }.goto i pc

/-- `sleep_for` -/
def run (s : InterruptibleSleep ι) (i : ι) : InterruptibleSleep ι :=
  match s.pc i with
  | .out _ => s
  | .lock => s.acquire i .check
  | .check => s.goto i (if s.stopped then .unlock false else .pred)
  | .pred => s.goto i (if s.stopped then .last else .block)
  | .block => { s with mu := s.mu.block i }.goto i (.wait false)
  | .wait timedOut =>
    if s.mu.waiting i then s else s.acquire i (if timedOut then .recheck else .pred)
  | .recheck => s.goto i .last
  | .last => s.goto i (.unlock !s.stopped)
  | .unlock result => { s with mu := s.mu.release }.goto i (.out (some result))

def step (s : InterruptibleSleep ι) : SleepAct ι → InterruptibleSleep ι
  | .call i => match s.pc i with
    | .out _ => s.goto i .lock
    | _ => s
  | .run i => s.run i
  | .timeout i => match s.pc i with
    | .wait _ => { s with mu := s.mu.wake i }.goto i (.wait true)
    | _ => s
  | .spurious i => match s.pc i with
    | .wait _ => { s with mu := s.mu.wake i }
    | _ => s
  | .stop => s.stop

end InterruptibleSleep

/-- The interleavings of any sleepers and one `request_stop`. -/
def sleepMachine (ι : Type*) [DecidableEq ι] : Machine (InterruptibleSleep ι) (SleepAct ι) :=
  ⟨⟨false, .free, fun _ => .out none, .idle⟩, InterruptibleSleep.step⟩

namespace InterruptibleSleep

variable {ι : Type*}

/-- A sleeper is blocked, not notified, and `request_stop` is over. -/
def Missed (s : InterruptibleSleep ι) (i : ι) : Prop :=
  s.stopper = .returned ∧ s.mu.waiting i = true

/-- `notify_all` while a sleeper has found the predicate false and is not blocked yet. -/
def Misses (s : InterruptibleSleep ι) (a : SleepAct ι) : Prop :=
  a = .stop ∧ s.stopper = .stored ∧ ∃ i, s.pc i = .block

/-- **The invariant**: after the store the predicate is true, and after the notification nobody
is blocked or about to be. -/
structure Awake (s : InterruptibleSleep ι) : Prop where
  stored : s.stopper ≠ .idle → s.stopped = true
  ready : s.stopper = .returned → ∀ i, s.pc i ≠ .block
  awake : s.stopper = .returned → ∀ i, s.mu.waiting i = false

/-- The sleeper is in the wait, and `request_stop` has passed it by. -/
structure Stranded (s : InterruptibleSleep ι) (i : ι) : Prop where
  pc : s.pc i = .wait false
  missed : s.Missed i

/-- Two states are the same for a thread. -/
structure SameFor (s s' : InterruptibleSleep ι) (i : ι) : Prop where
  pc : s'.pc i = s.pc i
  waiting : s'.mu.waiting i = s.mu.waiting i
  stopper : s'.stopper = s.stopper

theorem Stranded.of_same {s s' : InterruptibleSleep ι} {i : ι} (h : s.Stranded i)
    (same : SameFor s s' i) : s'.Stranded i :=
  ⟨same.pc.trans h.pc, same.stopper.trans h.missed.1, same.waiting.trans h.missed.2⟩

variable [DecidableEq ι] {s : InterruptibleSleep ι}

/-! ## The mutex -/

/-- The places at which a thread holds `mu_`. -/
def inside : SleeperPc → Prop
  | .check | .pred | .block | .recheck | .last | .unlock _ => True
  | .out _ | .lock | .wait _ => False

theorem acquire_exclusive (h : s.mu.Exclusive inside s.pc) (i : ι) {pc : SleeperPc}
    (enters : inside pc) : (s.acquire i pc).mu.Exclusive inside (s.acquire i pc).pc := by
  unfold acquire
  split
  · exact h
  next mu taken => exact h.acquire taken enters

theorem run_exclusive (h : s.mu.Exclusive inside s.pc) (i : ι) :
    (s.run i).mu.Exclusive inside (s.run i).pc := by
  unfold run
  split
  · exact h
  · exact acquire_exclusive h i trivial
  next at_check =>
    apply h.move
    rw [at_check]
    split <;> exact Iff.rfl
  next at_pred =>
    apply h.move
    rw [at_pred]
    split <;> exact Iff.rfl
  next at_block => exact h.leave (by rw [at_block]; trivial) rfl id
  · split
    · exact h
    · apply acquire_exclusive h i
      split <;> trivial
  next at_recheck => exact h.move (by rw [at_recheck]; exact Iff.rfl)
  next at_last => exact h.move (by rw [at_last]; exact Iff.rfl)
  next at_unlock => exact h.leave (by rw [at_unlock]; trivial) rfl id

theorem step_exclusive (h : s.mu.Exclusive inside s.pc) (a : SleepAct ι) :
    (s.step a).mu.Exclusive inside (s.step a).pc := by
  cases a with
  | call i =>
    simp only [step]
    split
    next at_out => exact h.move (by rw [at_out]; exact Iff.rfl)
    · exact h
  | run i => exact run_exclusive h i
  | timeout i =>
    simp only [step]
    split
    next at_wait =>
      have woken : (s.mu.wake i).Exclusive inside s.pc := h.of_owner rfl
      exact woken.move (by rw [at_wait]; exact Iff.rfl)
    · exact h
  | spurious i =>
    simp only [step]
    split
    · exact h.of_owner rfl
    · exact h
  | stop =>
    simp only [step, stop]
    split
    · exact h
    · exact h.of_owner rfl
    · exact h

/-- **A thread between its look at `stopped_` and its block holds `mu_`**, like any that is inside,
and there is one at most. -/
theorem exec_exclusive (run : List (SleepAct ι)) :
    ((sleepMachine ι).exec run).mu.Exclusive inside ((sleepMachine ι).exec run).pc := by
  refine (sleepMachine ι).invariant (I := fun s => s.mu.Exclusive inside s.pc) (fun i => ?_)
    (fun s a h => step_exclusive h a) run
  simp [sleepMachine, inside, Monitor.free]

/-! ## No lost wake-up -/

theorem Awake.goto (h : s.Awake) (i : ι) {pc : SleeperPc}
    (ready : s.stopper = .returned → pc ≠ .block) : (s.goto i pc).Awake := by
  refine ⟨h.stored, fun returned j => ?_, h.awake⟩
  by_cases own : j = i
  · subst own
    simpa [InterruptibleSleep.goto] using ready returned
  · simpa [InterruptibleSleep.goto, own] using h.ready returned j

theorem Awake.acquire (h : s.Awake) (i : ι) {pc : SleeperPc} (ready : pc ≠ .block) :
    (s.acquire i pc).Awake := by
  unfold InterruptibleSleep.acquire
  split
  · exact h
  next mu taken =>
  obtain ⟨-, rfl⟩ := Monitor.acquire_eq_some.1 taken
  have inside : Awake { s with mu := { s.mu with owner := some i } } :=
    ⟨h.stored, h.ready, h.awake⟩
  exact inside.goto i fun _ => ready

theorem Awake.wake (h : s.Awake) (i : ι) : Awake { s with mu := s.mu.wake i } :=
  ⟨h.stored, h.ready, fun returned j => Monitor.waiting_wake (h.awake returned j)⟩

/-- Once the stop is stored, nobody finds the predicate false. -/
theorem run_awake (h : s.Awake) (i : ι) : (s.run i).Awake := by
  have stopped (returned : s.stopper = .returned) : s.stopped = true :=
    h.stored (by simp [returned])
  unfold run
  split
  · exact h
  · exact h.acquire i nofun
  · apply h.goto
    intro _
    split <;> nofun
  · apply h.goto
    intro returned
    simp [stopped returned]
  next at_block =>
    -- a thread about to block shows that the notification is still to come
    have early : s.stopper ≠ .returned := fun returned => h.ready returned i at_block
    have blocked : Awake { s with mu := s.mu.block i } :=
      ⟨h.stored, h.ready, fun returned => (early returned).elim⟩
    exact blocked.goto i fun _ => nofun
  · split
    · exact h
    · apply h.acquire
      split <;> nofun
  · exact h.goto i fun _ => nofun
  · exact h.goto i fun _ => nofun
  · have released : Awake { s with mu := s.mu.release } := ⟨h.stored, h.ready, h.awake⟩
    exact released.goto i fun _ => nofun

theorem step_awake {a : SleepAct ι} (hits : ¬ s.Misses a) (h : s.Awake) : (s.step a).Awake := by
  cases a with
  | call i =>
    simp only [step]
    split
    · exact h.goto i fun _ => nofun
    · exact h
  | run i => exact run_awake h i
  | timeout i =>
    simp only [step]
    split
    · exact (h.wake i).goto i fun _ => nofun
    · exact h
  | spurious i =>
    simp only [step]
    split
    · exact h.wake i
    · exact h
  | stop =>
    simp only [step, stop]
    split
    · exact ⟨fun _ => rfl, nofun, nofun⟩
    next stored =>
      have ready (i : ι) : s.pc i ≠ .block := fun at_block => hits ⟨rfl, stored, i, at_block⟩
      exact ⟨fun _ => h.stored (by simp [stored]), fun _ => ready, fun _ _ => rfl⟩
    · exact h

/-! ## A lost wake-up -/

section Other

variable {i j : ι} (other : j ≠ i)

include other

theorem SameFor.goto {s' : InterruptibleSleep ι} (h : SameFor s s' j) (pc : SleeperPc) :
    SameFor s (s'.goto i pc) j := by
  refine ⟨?_, h.waiting, h.stopper⟩
  show Function.update s'.pc i pc j = s.pc j
  rw [Function.update_of_ne other]
  exact h.pc

theorem acquire_same (pc : SleeperPc) : SameFor s (s.acquire i pc) j := by
  unfold acquire
  split
  · exact ⟨rfl, rfl, rfl⟩
  next mu taken =>
  obtain ⟨-, rfl⟩ := Monitor.acquire_eq_some.1 taken
  have inside : SameFor s { s with mu := { s.mu with owner := some i } } j := ⟨rfl, rfl, rfl⟩
  exact inside.goto other pc

theorem run_same : SameFor s (s.run i) j := by
  have self : SameFor s s j := ⟨rfl, rfl, rfl⟩
  unfold run
  split
  · exact self
  · exact acquire_same other _
  · exact self.goto other _
  · exact self.goto other _
  · have blocked : SameFor s { s with mu := s.mu.block i } j :=
      ⟨rfl, Function.update_of_ne other _ _, rfl⟩
    exact blocked.goto other _
  · split
    · exact self
    · exact acquire_same other _
  · exact self.goto other _
  · exact self.goto other _
  · have released : SameFor s { s with mu := s.mu.release } j := ⟨rfl, rfl, rfl⟩
    exact released.goto other _

theorem wake_same : SameFor s { s with mu := s.mu.wake i } j :=
  ⟨rfl, Monitor.waiting_wake_other other, rfl⟩

end Other

/-- **Only its time or chance wakes a stranded sleeper.** -/
theorem step_stranded {i : ι} {a : SleepAct ι} (h : s.Stranded i) (timeout : a ≠ .timeout i)
    (spurious : a ≠ .spurious i) : (s.step a).Stranded i := by
  cases a with
  | call j =>
    simp only [step]
    split
    next result out =>
      have other : i ≠ j := by
        rintro rfl
        rw [h.pc] at out
        cases out
      exact h.of_same (SameFor.goto other ⟨rfl, rfl, rfl⟩ _)
    · exact h
  | run j =>
    by_cases own : i = j
    · subst own
      simpa [step, run, h.pc, h.missed.2] using h
    · exact h.of_same (run_same own)
  | timeout j =>
    have other : i ≠ j := fun same => timeout (same ▸ rfl)
    simp only [step]
    split
    · exact h.of_same ((wake_same other).goto other _)
    · exact h
  | spurious j =>
    have other : i ≠ j := fun same => spurious (same ▸ rfl)
    simp only [step]
    split
    · exact h.of_same (wake_same other)
    · exact h
  | stop =>
    simp only [step, stop, h.missed.1]
    exact h

theorem run_stranded {i : ι} {more : List (SleepAct ι)} (h : s.Stranded i)
    (timeout : .timeout i ∉ more) (spurious : .spurious i ∉ more) :
    (more.foldl step s).Stranded i := by
  induction more generalizing s with
  | nil => exact h
  | cons a more ih =>
    obtain ⟨first, timeouts⟩ := not_or.1 (List.mem_cons.not.1 timeout)
    obtain ⟨first', spurious'⟩ := not_or.1 (List.mem_cons.not.1 spurious)
    exact ih (step_stranded h (Ne.symm first) (Ne.symm first')) timeouts spurious'

/-- The sleeper that a notification misses blocks right after it. -/
theorem stranded_of_misses {i : ι} (stored : s.stopper = .stored) (at_block : s.pc i = .block) :
    ((s.step .stop).step (.run i)).Stranded i := by
  have returned : s.step .stop = { s with mu := s.mu.notifyAll, stopper := .returned } := by
    simp [step, stop, stored]
  rw [returned]
  simp only [step, run, at_block]
  exact ⟨by simp [goto], rfl, by simp [goto]⟩

end InterruptibleSleep

open InterruptibleSleep in
/-- **No wake-up is lost** in a run unless it notifies while a sleeper is about to block, and then
one can be: the sleeper, which holds the mutex, blocks and has to run into its timeout. -/
theorem no_lost_wakeup (ι : Type*) [DecidableEq ι] :
    (∀ run, (sleepMachine ι).Along (fun s a => ¬ s.Misses a) run →
      ∀ i, ¬ ((sleepMachine ι).exec run).Missed i) ∧
    ∀ run a, ((sleepMachine ι).exec run).Misses a →
      ∃ i, ((sleepMachine ι).exec run).mu.owner = some i ∧
        ∀ more : List (SleepAct ι), .timeout i ∉ more → .spurious i ∉ more →
          ((sleepMachine ι).exec (run ++ a :: .run i :: more)).Missed i := by
  refine ⟨fun run hits i missed => ?_, fun run a misses => ?_⟩
  · have awake : ((sleepMachine ι).exec run).Awake := by
      refine (sleepMachine ι).invariant_along (I := Awake) ⟨?_, nofun, nofun⟩ ?_ run hits
      · exact fun started => (started rfl).elim
      · exact fun s a hits h => step_awake hits h
    have asleep := awake.awake missed.1 i
    rw [missed.2] at asleep
    cases asleep
  · obtain ⟨rfl, stored, i, at_block⟩ := misses
    have owner := (exec_exclusive run i).1 (by rw [at_block]; trivial)
    refine ⟨i, owner, fun more timeout spurious => ?_⟩
    have stranded : ((sleepMachine ι).exec (run ++ [.stop, .run i])).Stranded i := by
      rw [Machine.exec_append]
      exact stranded_of_misses stored at_block
    have split : run ++ .stop :: .run i :: more = (run ++ [.stop, .run i]) ++ more := by simp
    rw [split, Machine.exec_append]
    exact (run_stranded stranded timeout spurious).missed

/-- The two threads of `main` that sleep. -/
inductive BackgroundThread where
  | heartbeat | groupAdvertLoop
  deriving DecidableEq, Repr

/-- The heartbeat finds `stopped_` false twice, `request_stop` stores and notifies, and the
heartbeat blocks. -/
theorem heartbeat_misses_stop :
    ((sleepMachine BackgroundThread).exec [.call .heartbeat, .run .heartbeat, .run .heartbeat,
      .run .heartbeat, .stop, .stop, .run .heartbeat]).Missed .heartbeat := by
  constructor <;> decide

end SecpChat
