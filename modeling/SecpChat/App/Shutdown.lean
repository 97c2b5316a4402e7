import SecpChat.App.ShutdownRank

/-!
# The end of the program (`main.cpp`)

Behind the menu `main` stops the sleeper, closes its socket, leaves the room and joins its
threads. After the stop the threads have few steps left (`ShutdownRank.lean`). When none can
be taken the program is over, or the receiver is in the `recv` of a channel that was given up
after `poll` had found something on it, and then `main` waits for it in `join`.
-/

namespace SecpChat

open Runs

namespace Process

variable (p : Process)

/-- Every thread has ended. -/
structure Finished : Prop where
  main : p.main = .returned
  receiver : p.receiver = .ended
  loops : ∀ t, p.loop t = .ended

/-- The receiver waits in a channel that is gone, and `main` for the receiver. -/
structure Stuck : Prop where
  main : p.main = .joinReceiver
  loops : ∀ t, p.loop t = .ended
  receiver : ∃ captured polled pfds, p.receiver = .recv .multicast captured polled pfds ∧
    captured < p.givenUp

/-- What `main` has given back before it joins the threads. -/
structure Gone : Prop where
  closed : p.udpOpen = false
  left : p.client.groups.mcastSock = none
  inactive : p.client.groups.activeRoomName = []

variable {p}

/-! ## What `main` has done -/

/-- What is behind `main` when it is there. -/
def Behind (p : Process) : MainPc → Prop
  | .menu _ => p.running = true
  | .requestStop | .closeUdp => True
  | .leaveRoom => p.udpOpen = false
  | .joinReceiver => p.Gone
  | .joinHeartbeat => p.Gone ∧ p.receiver = .ended
  | .joinGroupAdvert => p.Gone ∧ p.receiver = .ended ∧ p.loop .heartbeat = .ended
  | .returned => p.Gone ∧ p.receiver = .ended ∧ ∀ t, p.loop t = .ended

/-- What the other threads do not undo. -/
structure Rest (p p' : Process) : Prop where
  main : p'.main = p.main
  running : p'.running = p.running
  udpOpen : p'.udpOpen = p.udpOpen
  membership : GroupRoomCoordinator.SameMembership p.client.groups p'.client.groups
  receiver : p.receiver = .ended → p'.receiver = .ended
  loops : ∀ t, p.loop t = .ended → p'.loop t = .ended

theorem Rest.gone {p p' : Process} (h : Rest p p') (gone : p.Gone) : p'.Gone :=
  ⟨h.udpOpen.trans gone.closed, h.membership.socket.trans gone.left,
    h.membership.active.trans gone.inactive⟩

theorem Rest.behind {p p' : Process} (h : Rest p p') (before : p.Behind p.main) :
    p'.Behind p'.main := by
  rw [h.main]
  cases at_ : p.main with
  | menu pc =>
    rw [at_] at before
    exact h.running.trans before
  | requestStop => exact trivial
  | closeUdp => exact trivial
  | leaveRoom =>
    rw [at_] at before
    exact h.udpOpen.trans before
  | joinReceiver =>
    rw [at_] at before
    exact h.gone before
  | joinHeartbeat =>
    rw [at_] at before
    exact ⟨h.gone before.1, h.receiver before.2⟩
  | joinGroupAdvert =>
    rw [at_] at before
    exact ⟨h.gone before.1, h.receiver before.2.1, h.loops .heartbeat before.2.2⟩
  | returned =>
    rw [at_] at before
    exact ⟨h.gone before.1, h.receiver before.2.1, fun t => h.loops t (before.2.2 t)⟩

/-- Reading a datagram leaves the client in its room. -/
theorem read_sameMembership (h : Host) (socket : HostSocket) (t₁ t₂ : Int) :
    GroupRoomCoordinator.SameMembership h.client.groups
      (h.step (.read socket t₁ t₂)).client.groups := by
  cases head : h.queue socket with
  | nil =>
    rw [show h.step (.read socket t₁ t₂) = h by simp only [Host.step, head]]
    exact ⟨rfl, rfl, rfl⟩
  | cons d rest =>
    have handled : (h.step (.read socket t₁ t₂)).client = (Host.handle h.client d t₁ t₂).1 := by
      simp only [Host.step, head]
    rw [handled]
    unfold Host.handle
    cases d.recvFrom with
    | none => exact ⟨rfl, rfl, rfl⟩
    | some bytes =>
      have keeps := received_keeps h.client bytes d.src t₁ t₂
      show GroupRoomCoordinator.SameMembership h.client.groups
        (h.client.step (.received bytes d.src t₁ t₂)).groups
      exact step_sameMembership keeps

theorem stepReceiver_rest (result : PollResult) (t₁ t₂ : Int) :
    Rest p (p.stepReceiver result t₁ t₂) := by
  have same : GroupRoomCoordinator.SameMembership p.client.groups p.client.groups :=
    ⟨rfl, rfl, rfl⟩
  unfold stepReceiver
  split
  next at_ => exact ⟨rfl, rfl, rfl, same, by simp [at_], fun _ => id⟩
  next at_ => exact ⟨rfl, rfl, rfl, same, by simp [at_], fun _ => id⟩
  next at_ => exact ⟨rfl, rfl, rfl, same, by simp [at_], fun _ => id⟩
  next socket _ _ _ at_ =>
    split
    · refine ⟨rfl, rfl, rfl, ?_, by simp [at_], fun _ => id⟩
      by_cases closed : socket = .udp ∧ p.udpOpen = false
      · simp only [if_pos closed, client]
        exact same
      · simp only [if_neg closed, client]
        exact read_sameMembership p.host socket t₁ t₂
    · exact ⟨rfl, rfl, rfl, same, id, fun _ => id⟩
  · exact ⟨rfl, rfl, rfl, same, id, fun _ => id⟩

theorem gotoLoop_ended {t : BackgroundThread} (on : p.loop t ≠ .ended) (pc : LoopPc)
    (t' : BackgroundThread) (ended : p.loop t' = .ended) : (p.gotoLoop t pc).loop t' = .ended := by
  have other : t' ≠ t := by
    rintro rfl
    exact on ended
  simp only [gotoLoop, Function.update_of_ne other, ended]

/-- The timers never leave a room. -/
theorem calls_keep {t : BackgroundThread} {i : LoopInputs} {udpOpen : Bool} {op : ClientOp}
    (mem : op ∈ t.calls i udpOpen) (g : GroupRoomCoordinator) :
    op.groups.elim false g.closesChannel = false := by
  cases t with
  | heartbeat =>
    simp only [BackgroundThread.calls, List.mem_cons, List.not_mem_nil, or_false] at mem
    rcases mem with rfl | rfl | rfl | rfl <;> rfl
  | groupAdvertLoop =>
    simp only [BackgroundThread.calls, List.mem_singleton] at mem
    subst mem
    rfl

theorem stepLoop_rest (t : BackgroundThread) (i : LoopInputs) : Rest p (p.stepLoop t i) := by
  have same : GroupRoomCoordinator.SameMembership p.client.groups p.client.groups :=
    ⟨rfl, rfl, rfl⟩
  unfold stepLoop
  split
  next at_ =>
    have on : p.loop t ≠ .ended := by simp [at_]
    split
    · exact ⟨rfl, rfl, rfl, same, id, gotoLoop_ended on .sleep⟩
    · exact ⟨rfl, rfl, rfl, same, id, gotoLoop_ended on .ended⟩
  next at_ =>
    have on : p.loop t ≠ .ended := by simp [at_]
    split
    · exact ⟨rfl, rfl, rfl, same, id, gotoLoop_ended on _⟩
    · exact ⟨rfl, rfl, rfl, same, id, fun _ => id⟩
  next done at_ =>
    have on : p.loop t ≠ .ended := by simp [at_]
    split
    next op call_ =>
      have keeps := calls_keep (List.mem_of_getElem? call_) p.client.groups
      exact ⟨rfl, rfl, rfl, call_sameMembership keeps, id, gotoLoop_ended on _⟩
    · exact ⟨rfl, rfl, rfl, same, id, gotoLoop_ended on .head⟩
  · exact ⟨rfl, rfl, rfl, same, id, fun _ => id⟩

/-- The threads other than `main`, time and the network. -/
theorem step_rest {a : ProcessAct} (other : ∀ line e, a ≠ .main line e) : Rest p (p.step a) := by
  have same : GroupRoomCoordinator.SameMembership p.client.groups p.client.groups :=
    ⟨rfl, rfl, rfl⟩
  cases a with
  | main line e => exact (other line e rfl).elim
  | receiver result t₁ t₂ => exact stepReceiver_rest result t₁ t₂
  | loop t i => exact stepLoop_rest t i
  | timeout t => exact ⟨rfl, rfl, rfl, same, id, fun _ => id⟩
  | spurious t => exact ⟨rfl, rfl, rfl, same, id, fun _ => id⟩
  | recvEnds =>
    simp only [step]
    split
    next at_ => exact ⟨rfl, rfl, rfl, same, by simp [at_], fun _ => id⟩
    · exact ⟨rfl, rfl, rfl, same, id, fun _ => id⟩
  | arrive cast bytes src => exact ⟨rfl, rfl, rfl, same, id, fun _ => id⟩

theorem stepMain_behind (before : p.Behind p.main) (line : Option Bytes) (e : Surroundings) :
    (p.stepMain line e).Behind (p.stepMain line e).main := by
  unfold stepMain
  cases at_ : p.main with
  | menu pc =>
    rw [at_] at before
    cases pc with
    | returned quit => exact trivial
    | _ =>
      simp only
      cases (p.client.onLine e _ line).op <;> exact before
  | requestStop =>
    simp only
    split <;> exact trivial
  | closeUdp => exact rfl
  | leaveRoom =>
    rw [at_] at before
    have left := p.client.groups.leaveRoom_state e.dropped
    refine ⟨before, ?_, ?_⟩
    · show (p.client.groups.leaveRoom e.dropped).state.mcastSock = none
      rw [left]
      rfl
    · show (p.client.groups.leaveRoom e.dropped).state.activeRoomName = []
      rw [left]
      rfl
  | joinReceiver =>
    rw [at_] at before
    simp only
    split
    next ended => exact ⟨⟨before.closed, before.left, before.inactive⟩, ended⟩
    · rw [at_]
      exact before
  | joinHeartbeat =>
    rw [at_] at before
    simp only
    split
    next ended =>
      exact ⟨⟨before.1.closed, before.1.left, before.1.inactive⟩, before.2, ended⟩
    · rw [at_]
      exact before
  | joinGroupAdvert =>
    rw [at_] at before
    simp only
    split
    next ended =>
      refine ⟨⟨before.1.closed, before.1.left, before.1.inactive⟩, before.2.1, fun t => ?_⟩
      cases t with
      | heartbeat => exact before.2.2
      | groupAdvertLoop => exact ended
    · rw [at_]
      exact before
  | returned =>
    simp only
    rw [at_] at before ⊢
    exact before

variable (username : Bytes) (localIp : InAddr)

theorem exec_behind (run : List ProcessAct) :
    ((processMachine username localIp).exec run).Behind
      ((processMachine username localIp).exec run).main := by
  refine (processMachine username localIp).invariant (I := fun p => p.Behind p.main) rfl
    (fun p a before => ?_) run
  by_cases mine : ∃ line e, a = .main line e
  · obtain ⟨line, e, rfl⟩ := mine
    exact stepMain_behind before line e
  · exact (step_rest fun line e same => mine ⟨line, e, same⟩).behind before

/-- The stop is never taken back. -/
theorem Stopping.step (h : p.Stopping) (a : ProcessAct) : (p.step a).Stopping := by
  constructor
  · by_cases mine : ∃ line e, a = .main line e
    · obtain ⟨line, e, rfl⟩ := mine
      simp only [Process.step, stepMain]
      split
      · rfl
      · cases (p.client.onLine e _ line).op <;> exact h.running
      · exact h.running
      · exact h.running
      · exact h.running
      · split <;> exact h.running
      · split <;> exact h.running
      · split <;> exact h.running
      · exact h.running
    · exact (step_rest fun line e same => mine ⟨line, e, same⟩).running.trans h.running
  · rcases p.step_sleeper a with same | ⟨act, stepped⟩
    · rw [same]
      exact h.stopped
    · rw [stepped]
      exact InterruptibleSleep.step_stopped h.stopped act

/-- A thread that is in `sleep_for` is in its loop. -/
def Asleep (p : Process) (t : BackgroundThread) : Prop :=
  p.loop t = .sleep ∨ ∃ result, p.sleeper.pc t = .out result

theorem Asleep.of_same {p' : Process} {t : BackgroundThread} (h : p.Asleep t)
    (loop : p'.loop t = p.loop t) (pc : p'.sleeper.pc t = p.sleeper.pc t) : p'.Asleep t := by
  unfold Asleep
  rw [loop, pc]
  exact h

theorem stepLoop_asleep {t : BackgroundThread} (h : p.Asleep t) (i : LoopInputs) :
    (p.stepLoop t i).Asleep t := by
  unfold stepLoop
  split
  next at_ =>
    have out : ∃ result, p.sleeper.pc t = .out result := h.resolve_left (by simp [at_])
    split
    · exact .inl (Function.update_self ..)
    · exact .inr out
  next at_ =>
    split
    next result out => exact .inr ⟨result, out⟩
    · exact .inl at_
  next at_ =>
    have out : ∃ result, p.sleeper.pc t = .out result := h.resolve_left (by simp [at_])
    split
    · exact .inr out
    · exact .inr out
  · exact h

theorem stepLoop_asleep_other {t t' : BackgroundThread} (other : t' ≠ t) (h : p.Asleep t')
    (i : LoopInputs) : (p.stepLoop t i).Asleep t' := by
  unfold stepLoop
  split
  · split
    · refine h.of_same (Function.update_of_ne other _ _) ?_
      show (p.sleeper.step (.call t)).pc t' = p.sleeper.pc t'
      simp only [InterruptibleSleep.step]
      split
      · exact Function.update_of_ne other _ _
      · rfl
    · exact h.of_same (Function.update_of_ne other _ _) rfl
  · split
    · exact h.of_same (Function.update_of_ne other _ _) rfl
    · exact h.of_same rfl (InterruptibleSleep.run_same other).pc
  · split
    · exact h.of_same (Function.update_of_ne other _ _) rfl
    · exact h.of_same (Function.update_of_ne other _ _) rfl
  · exact h

theorem step_asleep {t : BackgroundThread} (h : p.Asleep t) (a : ProcessAct) :
    (p.step a).Asleep t := by
  cases a with
  | main line e =>
    simp only [step, stepMain]
    split
    · exact h
    · cases (p.client.onLine e _ line).op <;> exact h
    · exact h.of_same rfl (congrFun p.sleeper.stop_pc t)
    · exact h
    · exact h
    · split <;> exact h
    · split <;> exact h
    · split <;> exact h
    · exact h
  | receiver result t₁ t₂ =>
    simp only [step, stepReceiver]
    split
    · exact h
    · exact h
    · exact h
    · split <;> exact h
    · exact h
  | loop t' i =>
    by_cases own : t = t'
    · subst own
      exact stepLoop_asleep h i
    · exact stepLoop_asleep_other own h i
  | timeout t' =>
    rcases h with sleeping | ⟨result, out⟩
    · exact .inl sleeping
    · right
      refine ⟨result, ?_⟩
      by_cases own : t = t'
      · subst own
        simp [step, InterruptibleSleep.step, out]
      · exact (InterruptibleSleep.timeout_same own).pc.trans out
  | spurious t' => exact h.of_same rfl (congrFun (p.sleeper.spurious_pc t') t)
  | recvEnds =>
    simp only [step]
    split <;> exact h
  | arrive cast bytes src => exact h

theorem exec_asleep (run : List ProcessAct) (t : BackgroundThread) :
    ((processMachine username localIp).exec run).Asleep t :=
  (processMachine username localIp).invariant (I := fun p => p.Asleep t) (.inr ⟨none, rfl⟩)
    (fun _ a h => step_asleep h a) run

/-! ## When nothing moves -/

/-- A blocked sleeper's time comes, and who holds the mutex goes on. -/
theorem loops_ended {p : Process} (exclusive : p.sleeper.mu.Exclusive InterruptibleSleep.inside p.sleeper.pc)
    (asleep : ∀ t, p.Asleep t) (still : ∀ a, p.Moves a = false) (t : BackgroundThread) :
    p.loop t = .ended := by
  have stuck (t : BackgroundThread) (at_ : p.loop t = .sleep) : p.sleeper.canRun t = false ∧
      ∀ result, p.sleeper.pc t ≠ .out result := by
    have still := still (.loop t ⟨0, false, fun _ => false⟩)
    simp only [Moves, at_] at still
    cases asleep : p.sleeper.pc t with
    | out result => simp [asleep] at still
    | _ =>
      simp only [asleep] at still
      refine ⟨still, fun result out => ?_⟩
      cases out
  -- whoever is inside `sleep_for` with the mutex can go on
  have nobody (t : BackgroundThread) : ¬ InterruptibleSleep.inside (p.sleeper.pc t) := by
    intro inside
    rcases asleep t with at_ | ⟨result, out⟩
    · have goes := InterruptibleSleep.canRun_of_inside inside
      rw [(stuck t at_).1] at goes
      cases goes
    · rw [out] at inside
      exact inside
  have free : p.sleeper.mu.owner = none := by
    cases owner : p.sleeper.mu.owner with
    | none => rfl
    | some holder => exact (nobody holder ((exclusive holder).2 owner)).elim
  have waits := still (.timeout t)
  have goes := still (.loop t ⟨0, false, fun _ => false⟩)
  cases at_ : p.loop t with
  | ended => rfl
  | sleep =>
    obtain ⟨blocked, on⟩ := stuck t at_
    have outside := nobody t
    cases pc : p.sleeper.pc t with
    | out result => exact (on result pc).elim
    | lock => simp [InterruptibleSleep.canRun, pc, free] at blocked
    | wait timedOut =>
      simp only [Moves, InterruptibleSleep.waits, pc] at waits
      simp [InterruptibleSleep.canRun, pc, free, waits] at blocked
    | _ =>
      rw [pc] at outside
      exact (outside trivial).elim
  | _ => simp [Moves, at_] at goes

/-- The receiver has ended, or it is in a `recv` that does not return. -/
theorem receiver_still (inTurn : p.InTurn p.receiver) (gone : p.Gone)
    (still : ∀ a, p.Moves a = false) :
    p.receiver = .ended ∨ ∃ captured polled pfds,
      p.receiver = .recv .multicast captured polled pfds ∧ captured < p.givenUp := by
  have waits := still (.receiver .interrupted 0 0)
  cases at_ : p.receiver with
  | ended => exact .inl rfl
  | recv socket captured polled pfds =>
    rw [at_] at inTurn
    simp only [Moves, at_] at waits
    rcases inTurn.ready with returns | ⟨rfl, -⟩
    · rw [waits] at returns
      cases returns
    · refine .inr ⟨captured, polled, pfds, rfl, lt_of_le_of_ne inTurn.past fun same => ?_⟩
      -- the channel that was captured is gone by now
      have channel := inTurn.current rfl same
      simp [isOpen, gone.left] at channel
  | _ => simp [Moves, at_] at waits

/-- **Where the threads come to rest.** -/
theorem main_still (inTurn : p.InTurn p.receiver) (behind : p.Behind p.main)
    (past : ∀ pc, p.main ≠ .menu pc) (ended : ∀ t, p.loop t = .ended)
    (still : ∀ a, p.Moves a = false) : p.Gone ∧ (p.Finished ∨ p.Stuck) := by
  have waits := still (.main none ⟨0, 0, false, ⟨false, none, false, false, false, false, false, false⟩, false⟩)
  cases at_ : p.main with
  | menu pc => exact (past pc at_).elim
  | requestStop => simp [Moves, at_] at waits
  | closeUdp => simp [Moves, at_] at waits
  | leaveRoom => simp [Moves, at_] at waits
  | joinReceiver =>
    rw [at_] at behind
    refine ⟨behind, .inr ⟨at_, ended, ?_⟩⟩
    rcases receiver_still inTurn behind still with over_ | blocked
    · simp [Moves, at_, over_] at waits
    · exact blocked
  | joinHeartbeat => simp [Moves, at_, ended] at waits
  | joinGroupAdvert => simp [Moves, at_, ended] at waits
  | returned =>
    rw [at_] at behind
    exact ⟨behind.1, .inl ⟨at_, behind.2.1, behind.2.2⟩⟩

/-- Nothing that the threads do ends the `recv`. -/
theorem Stuck.step (h : p.Stuck) {a : ProcessAct} (stays : a ≠ .recvEnds) : (p.step a).Stuck := by
  obtain ⟨main, loops, captured, polled, pfds, receiver, less⟩ := h
  have blocked : p.recvReturns .multicast captured = false := by
    simp [recvReturns, less.ne]
  cases a with
  | main line e =>
    have same : p.step (.main line e) = p := by
      simp [Process.step, stepMain, main, receiver]
    rw [same]
    exact ⟨main, loops, captured, polled, pfds, receiver, less⟩
  | receiver result t₁ t₂ =>
    have same : p.step (.receiver result t₁ t₂) = p := by
      simp [Process.step, stepReceiver, receiver, blocked]
    rw [same]
    exact ⟨main, loops, captured, polled, pfds, receiver, less⟩
  | loop t i =>
    have same : p.step (.loop t i) = p := by
      simp [Process.step, stepLoop, loops]
    rw [same]
    exact ⟨main, loops, captured, polled, pfds, receiver, less⟩
  | timeout t => exact ⟨main, loops, captured, polled, pfds, receiver, less⟩
  | spurious t => exact ⟨main, loops, captured, polled, pfds, receiver, less⟩
  | recvEnds => exact (stays rfl).elim
  | arrive cast bytes src => exact ⟨main, loops, captured, polled, pfds, receiver, less⟩

theorem Stuck.run {rest : List ProcessAct} (h : p.Stuck) (stays : .recvEnds ∉ rest) :
    (rest.foldl Process.step p).Stuck := by
  induction rest generalizing p with
  | nil => exact h
  | cons a rest ih =>
    obtain ⟨first, others⟩ := not_or.1 (List.mem_cons.not.1 stays)
    exact ih (h.step (Ne.symm first)) others

end Process

/-- **The program comes to its end.** Once the stop is stored the threads take at most 45 steps,
whatever comes between them. When none can take one, `main` has left the room and closed its
socket, and either everything has ended, or the receiver is in the `recv` of a channel that was
given up, and `main` never returns unless the environment ends that `recv`. -/
theorem shutdown_completes (username : Bytes) (localIp : InAddr) {run : List ProcessAct}
    (sound : (processMachine username localIp).Along Process.Sound run)
    (stopping : ((processMachine username localIp).exec run).Stopping) :
    (∀ more, (processMachine username localIp).count (fun p a => p.Moves a = true)
      ((processMachine username localIp).exec run) more ≤ 45) ∧
    ∀ more, (processMachine username localIp).Along Process.Sound (run ++ more) →
      (∀ a, ((processMachine username localIp).exec (run ++ more)).Moves a = false) →
      ((processMachine username localIp).exec (run ++ more)).Gone ∧
      (((processMachine username localIp).exec (run ++ more)).Finished ∨
        ∀ rest, .recvEnds ∉ rest →
          ((processMachine username localIp).exec (run ++ more ++ rest)).Stuck) := by
  let M := processMachine username localIp
  -- a reachable state after the stop: the run goes on, and the stop stays
  let I (p : Process) : Prop := p.Stopping ∧ ∃ run, p = M.exec run
  have inv (p : Process) (a : ProcessAct) : I p → I (M.next p a) := by
    rintro ⟨stopping, run, rfl⟩
    exact ⟨stopping.step a, run ++ [a], (M.exec_snoc run a).symm⟩
  have past {p : Process} : I p → ∀ pc, p.main ≠ .menu pc := by
    rintro ⟨stopping, run, rfl⟩ pc at_
    have behind := Process.exec_behind username localIp run
    rw [at_] at behind
    have running : (M.exec run).running = false := stopping.running
    rw [show (M.exec run).running = true from behind] at running
    cases running
  have stored {p : Process} : I p → p.sleeper.stopper ≠ .idle := by
    rintro ⟨stopping, run, rfl⟩
    obtain ⟨own, same⟩ := (Process.sleeper_part username localIp).exec run
    have stopped := stopping.stopped
    rw [same] at stopped ⊢
    exact InterruptibleSleep.exec_stopper own stopped
  have here : I (M.exec run) := ⟨stopping, run, rfl⟩
  refine ⟨fun more => ?_, fun more sound' still => ?_⟩
  · have count := Machine.count_le inv
      (fun p a h => Process.step_rank h.1 (past h) (stored h) a) more here
    have bound := Process.rank_le (Process.exec_inTurn username localIp sound)
    exact (Nat.le_of_add_right_le count).trans bound
  · have later : I (M.exec (run ++ more)) := M.stable inv here more
    obtain ⟨own, same⟩ := (Process.sleeper_part username localIp).exec (run ++ more)
    have exclusive := InterruptibleSleep.exec_exclusive own
    rw [← same] at exclusive
    have ended := Process.loops_ended exclusive
      (Process.exec_asleep username localIp (run ++ more)) still
    obtain ⟨gone, rest⟩ := Process.main_still (Process.exec_inTurn username localIp sound')
      (Process.exec_behind username localIp (run ++ more)) (past later) ended still
    refine ⟨gone, rest.imp_right fun stuck rest stays => ?_⟩
    rw [Machine.exec_append]
    exact stuck.run stays

/-- alice quits, and every thread ends. -/
theorem shutdown_completes_quit :
    let e : Surroundings := ⟨0, 0, true, ⟨true, some 4, true, true, true, true, true, true⟩, true⟩
    let goesOn : ProcessAct := .main none e
    let quiet : LoopInputs := ⟨0, true, fun _ => true⟩
    let run : List ProcessAct := [.main (some (lit "12")) e, goesOn, goesOn]
    let more : List ProcessAct := [goesOn, goesOn, goesOn, .receiver .interrupted 1 1,
      .loop .heartbeat quiet, .loop .groupAdvertLoop quiet, goesOn, goesOn, goesOn]
    let M := processMachine (lit "alice") ⟨10, 0, 0, 1⟩
    (M.exec run).Stopping ∧
      (∀ more, M.count (fun p a => p.Moves a = true) (M.exec run) more ≤ 45) ∧
      (∀ a, (M.exec (run ++ more)).Moves a = false) ∧ (M.exec (run ++ more)).Gone ∧
      (M.exec (run ++ more)).Finished := by
  intro e goesOn quiet run more M
  have sound : M.Along Process.Sound run := by decide +kernel
  have sound' : M.Along Process.Sound (run ++ more) := by decide +kernel
  have stopping : (M.exec run).Stopping := ⟨by decide +kernel, by decide +kernel⟩
  have main : (M.exec (run ++ more)).main = .returned := by decide +kernel
  have receiver : (M.exec (run ++ more)).receiver = .ended := by decide +kernel
  have loops (t : BackgroundThread) : (M.exec (run ++ more)).loop t = .ended ∧
      (M.exec (run ++ more)).sleeper.pc t = .out none := by
    cases t <;> decide +kernel
  have still (a : ProcessAct) : (M.exec (run ++ more)).Moves a = false := by
    cases a with
    | main line e => simp only [Process.Moves, main]
    | receiver result t₁ t₂ => simp only [Process.Moves, receiver]
    | loop t i => simp only [Process.Moves, loops]
    | timeout t => simp only [Process.Moves, InterruptibleSleep.waits, loops]
    | _ => rfl
  obtain ⟨few, rest⟩ := shutdown_completes (lit "alice") ⟨10, 0, 0, 1⟩ sound stopping
  obtain ⟨gone, finished | stuck⟩ := rest more sound' still
  · exact ⟨stopping, few, still, gone, finished⟩
  · have waits : (M.exec (run ++ more)).main = .joinReceiver :=
      (stuck [] List.not_mem_nil).main
    rw [main] at waits
    cases waits

/-- Between the `poll` that finds a datagram in `r1` and the `recv` of it alice leaves `r1` and
creates `r2`; the receiver waits in `r2`, and she cannot quit. -/
example :
    let e : Surroundings := ⟨0, 0, true, ⟨true, some 4, true, true, true, true, true, true⟩, true⟩
    let typed (line : Bytes) : ProcessAct := .main (some line) e
    let receiver : ProcessAct := .receiver (.ready fun _ => .pollin) 1 1
    let quiet : LoopInputs := ⟨0, true, fun _ => true⟩
    let run : List ProcessAct := [typed (lit "3"), typed (lit "r1"),
      .arrive .broadcast (lit "CHAT|USN Chat|bob|hei\n") ⟨AF_INET, kUdpPort, ⟨10, 0, 0, 2⟩⟩,
      receiver, receiver, receiver, receiver, typed (lit "7"), typed (lit "3"), typed (lit "r2"),
      receiver, typed (lit "12"), .main none e, .main none e, .main none e, .main none e,
      .main none e, .loop .heartbeat quiet, .loop .groupAdvertLoop quiet]
    let M := processMachine (lit "alice") ⟨10, 0, 0, 1⟩
    M.Along Process.Sound run ∧ (M.exec run).main = .joinReceiver ∧
      (∀ t ∈ [BackgroundThread.heartbeat, .groupAdvertLoop], (M.exec run).loop t = .ended) ∧
      (M.exec run).receiver = .recv .multicast 3 1 [] ∧ (M.exec run).givenUp = 4 := by
  decide +kernel

end SecpChat
