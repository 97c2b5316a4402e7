import SecpChat.Lib.Threads
import SecpChat.System.Agreement

/-!
# Private sessions under real threads

`main` runs the menu, the receive loop and the heartbeat in threads of their own. Every
operation of `DirectMessageService` has one section under `mutex_`; what it sends, it sends
when it has left it, and `invite_user` has looked up its target before it entered. In
between the other threads do what they do. Such clients are those of `Clients.network`
with threads, so a session that is active was accepted, and a CHAT that is still to be
sent belongs to a session that is active.
-/

namespace SecpChat

open Runs

/-- The threads that call the service: `main` itself, `receiver` and `heartbeat`. -/
inductive ServiceThread where
  | menu | receiver | heartbeat
  deriving DecidableEq, Repr

namespace Clients

variable {ι : Type*}

/-- The clients with their threads, over the same network. -/
def threads (C : Clients ι) :
    Network ι (Threaded DirectMessageService (Datagram ι) ServiceThread)
      (ThreadAct DirectOp ServiceThread) (Datagram ι) :=
  C.network.threaded ServiceThread

variable [DecidableEq ι] (C : Clients ι)

/-- A step that the network and the directories allow. The directory is the one that
`invite_user` has looked into. -/
def ThreadLegal (g : Global ι (Threaded DirectMessageService (Datagram ι) ServiceThread) (Datagram ι))
    (a : Act ι (ThreadAct DirectOp ServiceThread)) : Prop :=
  C.threads.Legal g a ∧ Network.OnPerform (fun _ _ op => C.Faithful op) g a

/-- A run with threads that is possible. -/
def Threadable (run : List (Act ι (ThreadAct DirectOp ServiceThread))) : Prop :=
  C.threads.machine.Along C.ThreadLegal run

/-- The service of client `i` after a run with threads. -/
def threadService (run : List (Act ι (ThreadAct DirectOp ServiceThread))) (i : ι) :
    DirectMessageService :=
  ((C.threads.machine.exec run).node i).state

/-- The datagrams sent so far, and those that a thread has still to send. -/
def Issued (run : List (Act ι (ThreadAct DirectOp ServiceThread))) (p : Datagram ι) : Prop :=
  p ∈ (C.threads.machine.exec run).flight ∨
    ∃ i t, p ∈ ((C.threads.machine.exec run).node i).outbox t

/-- A thread of client `i` has accepted the invitation `k`. -/
def ThreadAccepted (run : List (Act ι (ThreadAct DirectOp ServiceThread))) (i : ι) (k : Bytes) :
    Prop :=
  ∃ pre t now room n post, run = pre ++ ⟨i, .perform t (.acceptInvite now room), n⟩ :: post ∧
    trimInPlace room = k ∧ ((C.threadService pre i).acceptInvite now room).value = true

variable {C} {run : List (Act ι (ThreadAct DirectOp ServiceThread))} {ops : List (Act ι DirectOp)}

theorem threadService_eq (run : List (Act ι (ThreadAct DirectOp ServiceThread))) (i : ι) :
    C.threadService run i = (directMachine (C.username i)).exec (Network.performed i run) :=
  Network.threaded_state run i

/-- The atomic run that a run with threads amounts to. -/
theorem exists_atomic (legal : C.Threadable run) :
    ∃ ops, C.network.machine.Along C.Legal ops ∧ C.network.Atomic run ops :=
  Network.exists_atomic legal

theorem service_atomic (h : C.network.Atomic run ops) (i : ι) :
    C.service ops i = C.threadService run i :=
  h.node i

/-- An acceptance in the atomic run is one by a thread. -/
theorem accepted_atomic (h : C.network.Atomic run ops) {i : ι} {k : Bytes}
    (accepted : C.Accepted ops i k) : C.ThreadAccepted run i k := by
  obtain ⟨pre, now, room, n, post, rfl, key, value⟩ := accepted
  have done := h.acts i
  have mine : Network.acts i (⟨i, .acceptInvite now room, n⟩ :: post) =
      DirectOp.acceptInvite now room :: Network.acts i post :=
    Network.acts_cons_self ⟨i, .acceptInvite now room, n⟩ post
  rw [Network.acts_append, mine] at done
  obtain ⟨before, t, m, after, rfl, same⟩ := Network.exists_perform done.symm
  refine ⟨before, t, now, room, m, after, rfl, key, ?_⟩
  rw [threadService_eq, same, ← service_eq]
  exact value

/-- **Threads keep the agreement on private sessions.** An active session was accepted by its
client, or its peer accepted it and holds the other end; and a CHAT that was sent or is
still to be sent belongs to a session that is active and with its addressee, whatever the
other threads have done since the lock was released. -/
theorem threads_agree (C : Clients ι) (run : List (Act ι (ThreadAct DirectOp ServiceThread)))
    (legal : C.Threadable run) :
    (∀ i (sid : Bytes) s, (C.threadService run i).sessions[sid]? = some s → s.state = .Active →
      ∃ j, C.BoundTo s j ∧ (C.ThreadAccepted run i sid ∨ C.ThreadAccepted run j sid ∧
        ∃ s', (C.threadService run j).sessions[sid]? = some s' ∧ s'.state = .Active ∧
          C.BoundTo s' i)) ∧
    ∀ p msg, C.Issued run p → parseSecpLine p.bytes = some msg → msg.type = .Chat →
      ∃ s, (C.threadService run p.origin).sessions[msg.room]? = some s ∧ s.state = .Active ∧
        s.peerAddr = p.dest := by
  obtain ⟨ops, along, h⟩ := exists_atomic legal
  refine ⟨fun i sid s found active => ?_, fun p msg issued parsed chat => ?_⟩
  · have session : C.session ops i sid = some s := by
      rw [session, service_atomic h]
      exact found
    obtain ⟨j, bound⟩ := session_boundTo along i sid s session
    rcases active_accepted along i sid s session active with accepted | ⟨j', answered⟩
    · exact ⟨j, bound, .inl (accepted_atomic h accepted)⟩
    · obtain ⟨bound', accepted, s', found', active', back⟩ := answered
      rw [Clients.session, service_atomic h] at found'
      exact ⟨j', bound', .inr ⟨accepted_atomic h accepted, s', found', active', back⟩⟩
  · obtain ⟨n, inFlight⟩ := List.mem_iff_getElem?.1 (h.flight p issued)
    obtain ⟨s, found, active, dest⟩ := chat_active inFlight parsed chat
    rw [session, service_atomic h] at found
    exact ⟨s, found, active, dest⟩

/-- bob accepts and writes while alice's heartbeat has her invitation still to repeat: it sends it
when the session is active. -/
theorem threads_agree_alice_bob :
    let invite := lit "INVITE|00002a|alice|CLOSED;to=bob\n"
    let chat := lit "CHAT|00002a|bob|hei\n"
    let run : List (Act Bool (ThreadAct DirectOp ServiceThread)) :=
      [⟨false, .perform .menu (.inviteUser bobKnown 42 (seconds 1) true (lit "bob")), 0⟩,
        ⟨false, .send .menu, 0⟩,
        ⟨false, .perform .heartbeat
          (.resendOutgoingPending (seconds 6) (seconds 45) (seconds 10) fun _ => true), 0⟩,
        ⟨true, .perform .receiver (.received invite (aliceAndBob.endpoint false) 2 2), 0⟩,
        ⟨true, .perform .menu (.acceptInvite 3 (lit "00002a")), 0⟩,
        ⟨true, .perform .menu (.sendPrivateChat true (lit "00002a") (lit "hei")), 0⟩,
        ⟨true, .send .menu, 0⟩,
        ⟨false, .perform .receiver (.received chat (aliceAndBob.endpoint true) 4 4), 1⟩,
        ⟨false, .send .heartbeat, 0⟩]
    aliceAndBob.Threadable run ∧
      (aliceAndBob.threads.machine.exec run).flight.map Datagram.bytes = [invite, chat, invite] ∧
      ∃ j, aliceAndBob.ThreadAccepted run false (lit "00002a") ∨
        aliceAndBob.ThreadAccepted run j (lit "00002a") := by
  intro invite chat run
  have other {g : Global Bool (Threaded DirectMessageService (Datagram Bool) ServiceThread)
      (Datagram Bool)} {i : Bool} {t : ServiceThread} {op : DirectOp} {n : Nat}
      (faithful : aliceAndBob.Faithful op) :
      Network.OnPerform (fun _ _ op => aliceAndBob.Faithful op) g ⟨i, .perform t op, n⟩ := by
    rintro t' op' same
    cases same
    exact faithful
  have sends {g : Global Bool (Threaded DirectMessageService (Datagram Bool) ServiceThread)
      (Datagram Bool)} {i : Bool} {t : ServiceThread} {n : Nat} :
      aliceAndBob.ThreadLegal g ⟨i, .send t, n⟩ := ⟨trivial, nofun⟩
  have legal : aliceAndBob.Threadable run := by
    refine ⟨⟨trivial, other (bobKnown_faithful _ _ _ _)⟩, sends, ⟨trivial, other trivial⟩,
      ⟨.inr ?_, other trivial⟩, ⟨trivial, other trivial⟩, ⟨trivial, other trivial⟩, sends,
      ⟨.inr ?_, other trivial⟩, sends, trivial⟩
    · exact ⟨⟨false, aliceAndBob.endpoint true, invite⟩, by decide +kernel, rfl,
        ⟨rfl, rfl, rfl, rfl⟩⟩
    · exact ⟨⟨true, aliceAndBob.endpoint false, chat⟩, by decide +kernel, rfl, ⟨rfl, rfl, rfl, rfl⟩⟩
  let s : Session := ⟨.Active, lit "00002a", lit "bob", aliceAndBob.endpoint true, seconds 1,
    seconds 10, 4⟩
  have found : (aliceAndBob.threadService run false).sessions[lit "00002a"]? = some s := by
    decide +kernel
  obtain ⟨j, -, accepted⟩ := (threads_agree aliceAndBob run legal).1 false (lit "00002a") s found rfl
  exact ⟨legal, by decide +kernel, j, accepted.imp_right And.left⟩

end Clients

end SecpChat
