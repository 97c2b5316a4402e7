import SecpChat.App.Process
import SecpChat.Lib.Locks

/-!
# The locks of the program

Each function of the source as its use of the mutexes: the scopes of its locks, its system
calls, what it calls, and where it may return. A branch is left to the environment, so the
threads do more here than in the program. A channel is set up and given up under the mutex
of the coordinator, with calls that return by themselves; there alone a mutex is held over
another, where the logger writes under `cout_mutex`. The callbacks run after the service has
let go of its own mutex. That the terminal takes what is printed is not counted as a wait.
-/

namespace SecpChat

open Runs

/-- The mutexes that the threads share. -/
inductive Mutex where
  /-- `cout_mutex` -/
  | cout
  /-- `UserDirectory::mutex_` -/
  | users
  /-- `GroupRoomCoordinator::mutex_` -/
  | groups
  /-- `DirectMessageService::mutex_` -/
  | direct
  /-- `InterruptibleSleep::mu_` -/
  | sleeper
  deriving DecidableEq, Repr

/-- The calls of the threads, beside those of a mutex. -/
inductive SystemCall where
  | getline | poll | recvfrom | sendto
  /-- The wait of a condition variable, which has let go of its mutex. -/
  | waitFor
  | join
  | socket | setsockopt | bind | close
  deriving DecidableEq, Repr

/-- The call may wait for something outside. -/
def SystemCall.mayWait : SystemCall → Bool
  | getline | poll | recvfrom | sendto | waitFor | join => true
  | socket | setsockopt | bind | close => false

namespace Locks

open Routine

abbrev LockUse := Routine Mutex SystemCall

def call (c : SystemCall) : LockUse := if c.mayWait then .waits c else .does c

/-! ## Output -/

/-- `Logger::log`, in which every other function of the logger ends. -/
def log : LockUse := maybe (lock .cout)

/-- `print_menu`, `print_line`, `print_error`, a prompt, or a block that prints. -/
def print : LockUse := lock .cout

/-! ## `UserDirectory` -/

def upsert : LockUse := maybe (lock .users)

def pruneStale : LockUse := lock .users

def findAddress : LockUse := lock .users

def snapshotPeers : LockUse := lock .users

/-! ## Sockets -/

/-- `UdpSocket::send_to` -/
def sendTo : LockUse := maybe (call .sendto)

/-- `UdpSocket::recv_from` -/
def recvFrom : LockUse := maybe (call .recvfrom)

/-- `UdpSocket::close`, and the destructor. -/
def close : LockUse := maybe (call .close)

/-! ## `DiscoveryService` and `LobbyService` -/

def sendPresenceBroadcast : LockUse := maybe (.alt log (steps [sendTo, log]))

def onPresence : LockUse := maybe upsert

def pruneStalePeers : LockUse := pruneStale

def sendChat : LockUse := maybe (steps [sendTo, log])

/-- With the callback of `main`. -/
def onLobbyChat : LockUse := maybe print

/-! ## `GroupRoomCoordinator` -/

def leaveMulticastMembershipUnlocked : LockUse :=
  steps [maybe (steps [log, call .setsockopt, maybe log]), close]

/-- A step of `bind_multicast_channel` that may fail; then `sk` is closed as the function returns. -/
def orClose (next : LockUse) : LockUse := .alt close next

def bindMulticastChannel : LockUse :=
  steps [leaveMulticastMembershipUnlocked, call .socket, orClose (
    steps [call .setsockopt, orClose (
      steps [call .bind, orClose (
        steps [call .setsockopt, orClose (
          steps [call .setsockopt, orClose (
            steps [log, call .setsockopt, orClose (
              steps [call .setsockopt, orClose .skip])])])])])])]

def broadcastOwnedAdvert : LockUse := steps [lock .groups, maybe (steps [sendTo, log])]

def createRoom : LockUse :=
  maybe (steps [
    .guarded .groups (steps [leaveMulticastMembershipUnlocked, bindMulticastChannel]),
    maybe broadcastOwnedAdvert])

def listAdvertisedRooms : LockUse := lock .groups

def joinRoom : LockUse :=
  maybe (.guarded .groups (maybe (steps [leaveMulticastMembershipUnlocked, bindMulticastChannel])))

def leaveRoom : LockUse := .guarded .groups leaveMulticastMembershipUnlocked

def sendGroupChat : LockUse := maybe (steps [lock .groups, maybe (steps [sendTo, log])])

def hasActiveMembership : LockUse := lock .groups

def activeRoomId : LockUse := lock .groups

def onRoomAnnounce : LockUse := maybe (lock .groups)

def onGroupChat : LockUse := maybe (steps [lock .groups, maybe (steps [log, print])])

def multicastFd : LockUse := lock .groups

def recvMulticast : LockUse := steps [lock .groups, recvFrom]

/-! ## `DirectMessageService` -/

/-- With the callback of `main`. -/
def status : LockUse := steps [lock .direct, maybe print]

def inviteUser : LockUse :=
  maybe (steps [findAddress, .alt status
    (steps [lock .direct, maybe (steps [sendTo, log, status])])])

def acceptInvite : LockUse := maybe (steps [lock .direct, maybe status])

def declineInvite : LockUse := maybe (steps [lock .direct, maybe status])

def sendPrivateChat : LockUse := maybe (steps [lock .direct, maybe (steps [sendTo, log])])

def onInvite : LockUse := maybe (steps [lock .direct, maybe (steps [log, status])])

def onPrivateChat : LockUse := maybe (steps [lock .direct, maybe print])

def snapshotPendingInvites : LockUse := lock .direct

def snapshotActiveSessions : LockUse := lock .direct

def prunePending : LockUse := steps [lock .direct, .star status]

def resendOutgoingPending : LockUse :=
  maybe (steps [lock .direct, .star (.alt log (steps [sendTo, log])), .star status])

/-! ## The menu -/

/-- `read_trimmed_line`, or a prompt and the `getline` after it. -/
def readTrimmedLine : LockUse := steps [print, call .getline]

def printActiveUsers : LockUse := steps [snapshotPeers, print]

def printAdvertisedRooms : LockUse := steps [listAdvertisedRooms, print]

def promptLobbyMessage : LockUse :=
  steps [readTrimmedLine, maybe (.alt print (steps [sendChat, print]))]

def promptCreateGroup : LockUse :=
  steps [readTrimmedLine,
    maybe (.alt print (steps [createRoom, .alt print (steps [activeRoomId, maybe print])]))]

def promptJoinGroup : LockUse :=
  steps [readTrimmedLine, maybe (.alt print (steps [joinRoom, print]))]

def promptGroupChat : LockUse :=
  steps [hasActiveMembership, .alt print (steps [readTrimmedLine, maybe (.alt print
    (steps [activeRoomId, .alt print (steps [sendGroupChat, print])]))])]

/-- Choice 7. -/
def chooseLeave : LockUse := steps [hasActiveMembership, .alt print (steps [leaveRoom, print])]

/-- Choice 8. -/
def chooseInvite : LockUse :=
  steps [readTrimmedLine, maybe (.alt print (steps [inviteUser, print]))]

/-- Choice 9. -/
def chooseAnswer : LockUse :=
  steps [snapshotPendingInvites, print, maybe (steps [readTrimmedLine, maybe (.alt print
    (steps [readTrimmedLine, oneOf [
      steps [acceptInvite, maybe print],
      steps [readTrimmedLine, maybe (steps [declineInvite, maybe print])],
      print]]))])]

/-- Choice 10. -/
def choosePrivate : LockUse :=
  steps [snapshotActiveSessions, print, maybe (steps [readTrimmedLine, maybe (.alt print
    (steps [readTrimmedLine, maybe (.alt print (steps [sendPrivateChat, print]))]))])]

/-- Choice 11. -/
def printActiveSessions : LockUse := steps [snapshotActiveSessions, print]

def runTextMenuLoop : LockUse :=
  .star (steps [print, call .getline, .alt print (oneOf [printActiveUsers, promptLobbyMessage,
    promptCreateGroup, printAdvertisedRooms, promptJoinGroup, promptGroupChat, chooseLeave,
    chooseInvite, chooseAnswer, choosePrivate, printActiveSessions])])

/-! ## The threads -/

def handleDatagram : LockUse :=
  maybe (steps [log, .alt log (oneOf [
    steps [onPresence, pruneStalePeers],
    onRoomAnnounce,
    onInvite,
    steps [onLobbyChat, onGroupChat, onPrivateChat]])])

def runReceiveMultiplexLoop : LockUse :=
  .star (steps [multicastFd, call .poll, .alt log (.star (oneOf [
    steps [recvFrom, .alt log handleDatagram],
    steps [recvMulticast, maybe handleDatagram]]))])

/-- `InterruptibleSleep::sleep_for` -/
def sleepFor : LockUse :=
  steps [lock .sleeper, .star (steps [call .waitFor, lock .sleeper])]

/-- The loops of `main` that sleep. -/
def backgroundLoop : BackgroundThread → LockUse
  | .heartbeat => .star (steps [sleepFor, maybe (steps [sendPresenceBroadcast, pruneStalePeers,
      prunePending, resendOutgoingPending])])
  | .groupAdvertLoop => .star (steps [sleepFor, maybe broadcastOwnedAdvert])

/-- `main`, from the menu on. -/
def main : LockUse :=
  steps [runTextMenuLoop, close, leaveRoom, call .join, call .join, call .join, print]

end Locks

inductive ProgramThread where
  | main | receiver
  | background (t : BackgroundThread)
  deriving DecidableEq, Repr

namespace ProgramThread

def lockUse : ProgramThread → Locks.LockUse
  | .main => Locks.main
  | .receiver => Locks.runReceiveMultiplexLoop
  | .background t => Locks.backgroundLoop t

end ProgramThread

/-- `cout_mutex` is the last that a thread takes. -/
def Mutex.rank : Mutex → Nat
  | .cout => 1
  | _ => 0

theorem Mutex.rank_le (m : Mutex) : m.rank ≤ 1 := by
  cases m <;> decide

theorem Mutex.eq_cout_of_lt {m m' : Mutex} (higher : m.rank < m'.rank) : m ≠ .cout ∧ m' = .cout := by
  cases m <;> cases m' <;> simp_all [rank]

theorem ProgramThread.ordered (t : ProgramThread) : t.lockUse.Ordered Mutex.rank [] := by
  cases t with
  | main => decide
  | receiver => decide
  | background t => cases t <;> decide

/-- **No deadlock.** However the threads of the program are scheduled, none of them is in `getline`,
`poll`, `sendto`, `recvfrom`, a sleep or a `join` with a mutex in its hands; and a thread that waits
for a mutex waits for one that goes on, or that waits for `cout_mutex` alone, behind a thread that
goes on. -/
theorem no_deadlock (run : List (LockAct ProgramThread)) :
    let s := (lockMachine ProgramThread.lockUse).exec run
    (∀ t, s.InCall t → ∀ m, s.owner m ≠ some t) ∧
    ∀ t m, s.WaitsFor t m → ∃ u, s.owner m = some u ∧ (s.Goes u ∨
      m ≠ .cout ∧ s.WaitsFor u .cout ∧ ∃ v, s.owner .cout = some v ∧ s.Goes v) := by
  intro s
  have h : s.Disciplined Mutex.rank := Locking.exec_disciplined ProgramThread.ordered run
  refine ⟨fun t call m => h.inCall call m, fun t m waits => ?_⟩
  obtain ⟨u, holds⟩ := Option.ne_none_iff_exists'.1 waits.2
  refine ⟨u, holds, ?_⟩
  rcases h.holder holds with goes | ⟨m', higher, behind⟩
  · exact .inl goes
  · obtain ⟨other, rfl⟩ := Mutex.eq_cout_of_lt higher
    obtain ⟨v, m', above, last, goes⟩ := h.exists_goes Mutex.rank_le behind
    have lowest : Mutex.rank m < m'.rank := higher.trans_le above
    obtain rfl : m' = .cout := (Mutex.eq_cout_of_lt lowest).2
    exact .inr ⟨other, behind, v, last, goes⟩

/-- Choice 7 waits for the receiver, which is in `multicast_fd`. -/
example :
    let menu := [true, true, true, true, true, true, true, true, true, false, false, false, false,
      false, false, false, true, true]
    let s := (lockMachine ProgramThread.lockUse).exec
      (menu.map (⟨.main, ·⟩) ++ List.replicate 3 ⟨.receiver, true⟩)
    s.WaitsFor .main .groups ∧ s.owner .groups = some .receiver :=
  ⟨⟨⟨_, _, rfl⟩, by decide⟩, rfl⟩

end SecpChat
