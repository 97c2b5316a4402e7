import SecpChat.Lib.Network
import SecpChat.Services.DirectAuthenticity

/-!
# Clients exchanging private sessions

Any number of clients, each a `DirectMessageService`, over a network that carries the
INVITE and CHAT datagrams they send and no others. A reception names the datagram it
takes; a datagram whose `sendto` failed was never in flight. `flight_carries` traces a
datagram to the session on whose behalf it was sent.
-/

namespace SecpChat

open Runs

/-- Clients with their distinct usernames and addresses. -/
structure Clients (ι : Type*) where
  username : ι → Bytes
  ip : ι → InAddr
  username_injective : Function.Injective username
  ip_injective : Function.Injective ip

structure Datagram (ι : Type*) where
  origin : ι
  dest : SockaddrIn
  bytes : Bytes
  deriving DecidableEq

/-- A datagram that is neither CHAT nor INVITE. -/
def Unrelated (bytes : Bytes) : Prop :=
  ∀ msg, parseSecpLine bytes = some msg → msg.type ≠ .Chat ∧ msg.type ≠ .Invite

namespace Clients

variable {ι : Type*}

/-- The address of a client's socket. -/
def endpoint (C : Clients ι) (j : ι) : SockaddrIn := ⟨AF_INET, kUdpPort, C.ip j⟩

/-- The session `s` is with client `j`. -/
structure BoundTo (C : Clients ι) (s : Session) (j : ι) : Prop where
  peerUsername : s.peerUsername = C.username j
  peerAddr : s.peerAddr = C.endpoint j

theorem BoundTo.trans {C : Clients ι} {j : ι} {s s' : Session} (h : C.BoundTo s j)
    (b : SameBinding s s') : C.BoundTo s' j :=
  ⟨b.peerUsername.trans h.peerUsername, b.peerAddr.trans h.peerAddr⟩

/-- The address alone tells whom a session is with. -/
theorem BoundTo.eq_of_ip {C : Clients ι} {i j : ι} {s : Session} (h : C.BoundTo s j)
    (ip : s.peerAddr.sinAddr = C.ip i) : j = i := by
  rw [h.peerAddr] at ip
  exact C.ip_injective ip

/-- The datagrams among a client's effects. -/
def posts (i : ι) (effects : List Effect) : List (Datagram ι) :=
  effects.filterMap fun
    | .sendTo dest bytes true => some ⟨i, dest, bytes⟩
    | _ => none

theorem mem_posts {i : ι} {effects : List Effect} {p : Datagram ι} :
    p ∈ posts i effects ↔ p.origin = i ∧ .sendTo p.dest p.bytes true ∈ effects := by
  simp only [posts, List.mem_filterMap]
  constructor
  · intro h
    obtain ⟨e, he, hp⟩ := h
    split at hp
    · cases hp
      exact ⟨rfl, he⟩
    · cases hp
  · intro h
    obtain ⟨rfl, he⟩ := h
    exact ⟨_, he, rfl⟩

/-- The datagram `p` reaches client `i`, which sees its sender as `src`. -/
structure Reaches (C : Clients ι) (p : Datagram ι) (i : ι) (src : SockaddrIn) : Prop where
  family : p.dest.sinFamily = AF_INET
  dest : p.dest.sinAddr = C.ip i
  srcFamily : src.sinFamily = AF_INET
  src : src.sinAddr = C.ip p.origin

def fits (C : Clients ι) (i : ι) : DirectOp → Option (Datagram ι) → Prop
  | .received bytes src _ _, p =>
    Unrelated bytes ∨ ∃ p', p = some p' ∧ p'.bytes = bytes ∧ C.Reaches p' i src
  | _, _ => True

/-- The clients over their network. -/
def network (C : Clients ι) : Network ι DirectMessageService DirectOp (Datagram ι) where
  party i := directMachine (C.username i)
  posts i d op := posts i (d.effects op)
  fits := C.fits

/-- A directory maps a username only to that client's address. -/
def Faithful (C : Clients ι) : DirectOp → Prop
  | .inviteUser users _ _ _ _ => ∀ u addr, users.findAddress u = some addr →
      ∃ j, C.username j = u ∧ addr.sinFamily = AF_INET ∧ addr.sinAddr = C.ip j
  | _ => True

variable [DecidableEq ι] (C : Clients ι)

/-- A step that the network and the directories allow. -/
def Legal (g : Global ι DirectMessageService (Datagram ι)) (a : Act ι DirectOp) : Prop :=
  C.network.Legal g a ∧ C.Faithful a.act

/-- The service of client `i` after a run. -/
def service (run : List (Act ι DirectOp)) (i : ι) : DirectMessageService :=
  (C.network.machine.exec run).node i

/-- Its session `k`. -/
def session (run : List (Act ι DirectOp)) (i : ι) (k : Bytes) : Option Session :=
  (C.service run i).sessions[k]?

/-- The datagrams sent so far. -/
def flight (run : List (Act ι DirectOp)) : List (Datagram ι) :=
  (C.network.machine.exec run).flight

/-- Client `i` has accepted the invitation `k`. -/
def Accepted (run : List (Act ι DirectOp)) (i : ι) (k : Bytes) : Prop :=
  ∃ pre now room n post, run = pre ++ ⟨i, .acceptInvite now room, n⟩ :: post ∧
    trimInPlace room = k ∧ ((C.service pre i).acceptInvite now room).value = true

variable {C} {run : List (Act ι DirectOp)} {i : ι} {k : Bytes} {s : Session}

theorem Accepted.extend (h : C.Accepted run i k) (more : List (Act ι DirectOp)) :
    C.Accepted (run ++ more) i k := by
  obtain ⟨pre, now, room, n, post, rfl, key, accepted⟩ := h
  exact ⟨pre, now, room, n, post ++ more, by simp, key, accepted⟩

theorem service_eq (run : List (Act ι DirectOp)) (i : ι) :
    C.service run i = (directMachine (C.username i)).exec (Network.acts i run) :=
  Network.node_exec run i

@[simp] theorem service_selfUsername (run : List (Act ι DirectOp)) (i : ι) :
    (C.service run i).selfUsername = C.username i := by
  rw [service_eq]
  exact exec_selfUsername _ _

theorem service_snoc (run : List (Act ι DirectOp)) (a : Act ι DirectOp) :
    C.service (run ++ [a]) a.party = (C.service run a.party).step a.act :=
  Network.node_snoc run a

theorem session_snoc_ne {a : Act ι DirectOp} (h : a.party ≠ i) (run : List (Act ι DirectOp))
    (k : Bytes) : C.session (run ++ [a]) i k = C.session run i k := by
  rw [session, service, Network.node_snoc_ne h]
  rfl

/-- The move of a client's next operation. -/
theorem session_move (C : Clients ι) (run : List (Act ι DirectOp)) (a : Act ι DirectOp)
    (k : Bytes) :
    Move (C.username a.party) k a.act (C.session run a.party k)
      (C.session (run ++ [a]) a.party k) := by
  have m := (C.service run a.party).step_move a.act k
  rw [service_selfUsername] at m
  rw [session, session, service_snoc]
  exact m

theorem session_bound (h : C.session run i k = some s) : Bound k s := by
  rw [session, service_eq] at h
  exact exec_bound _ _ k s h

/-- An active session stays as it is. -/
theorem session_active (h : C.session run i k = some s) (active : s.state = .Active)
    (more : List (Act ι DirectOp)) : C.session (run ++ more) i k = some s := by
  rw [session, service_eq] at h ⊢
  rw [Network.acts_append]
  exact exec_active _ _ k s h active _

/-- A session that has existed throughout keeps its binding. -/
theorem session_since {pre post : List (Act ι DirectOp)} (start : C.session pre i k = some s)
    (since : C.network.machine.Since (fun g => HasSession k (g.node i)) pre post) :
    ∃ s', C.session (pre ++ post) i k = some s' ∧ SameBinding s s' := by
  rw [session, service_eq] at start
  obtain ⟨s', found, binding⟩ := since_sameBinding start (Network.since_node since)
  rw [← Network.acts_append, ← service_eq] at found
  exact ⟨s', found, binding⟩

/-- What the moves keep of its state still holds of it. -/
theorem inState_since {P : DirectSessionState → Prop}
    (kept : ∀ {self k op s s'}, Move self k op (some s) (some s') → P s.state → P s'.state)
    {pre post : List (Act ι DirectOp)} (start : InState P k (C.service pre i))
    (since : C.network.machine.Since (fun g => HasSession k (g.node i)) pre post) :
    InState P k (C.service (pre ++ post) i) := by
  rw [service_eq] at start ⊢
  rw [Network.acts_append]
  exact since_inState kept start (Network.since_node since)

/-- **Every datagram in flight was sent on behalf of a session** of its origin. -/
theorem flight_carries {n : Nat} {p : Datagram ι} (h : (C.flight run)[n]? = some p) :
    ∃ pre a post msg s, run = pre ++ a :: post ∧ a.party = p.origin ∧
      (C.flight pre).length ≤ n ∧ n < (C.flight (pre ++ [a])).length ∧
      parseSecpLine p.bytes = some msg ∧
      (C.service (pre ++ [a]) p.origin).Carries p.dest msg s := by
  obtain ⟨pre, a, post, rfl, posted, lower, upper⟩ := Network.exists_post h
  obtain ⟨origin, sent⟩ := mem_posts.1 posted
  obtain ⟨msg, s, parsed, carries⟩ := DirectMessageService.step_sends sent
  refine ⟨pre, a, post, msg, s, rfl, origin.symm, lower, upper, parsed, ?_⟩
  rw [origin, service_snoc]
  exact carries

/-- The datagram that a client takes in, when it is a CHAT or an INVITE. -/
theorem exists_datagram {bytes : Bytes} {src : SockaddrIn} {t₁ t₂ : Int} {n : Nat}
    {msg : SecpMessage}
    (legal : C.network.Legal (C.network.machine.exec run) ⟨i, .received bytes src t₁ t₂, n⟩)
    (parsed : parseSecpLine bytes = some msg) (related : msg.type = .Chat ∨ msg.type = .Invite) :
    ∃ p, (C.flight run)[n]? = some p ∧ p.bytes = bytes ∧ C.Reaches p i src := by
  rcases legal with unrelated | taken
  · obtain ⟨chat, invite⟩ := unrelated msg parsed
    exact (related.elim chat invite).elim
  · exact taken

end Clients

/-! ## Two clients -/

/-- alice (`false`) at 10.0.0.1 and bob (`true`) at 10.0.0.2. -/
def aliceAndBob : Clients Bool where
  username i := if i then lit "bob" else lit "alice"
  ip i := if i then ⟨10, 0, 0, 2⟩ else ⟨10, 0, 0, 1⟩
  username_injective := by
    unfold Function.Injective
    decide +kernel
  ip_injective := by
    unfold Function.Injective
    decide +kernel

/-- A directory that knows bob. -/
def bobKnown : UserDirectory := UserDirectory.empty.upsert (lit "bob") (aliceAndBob.endpoint true) 0

theorem bobKnown_faithful (draw : Fin 0x1000000) (now : Int) (sent : Bool) (target : Bytes) :
    aliceAndBob.Faithful (.inviteUser bobKnown draw now sent target) := by
  intro u addr known
  have entry : bobKnown.findAddress u =
      if lit "bob" = u then some (aliceAndBob.endpoint true) else none := by
    have named : lit "bob" ≠ [] := by decide +kernel
    by_cases h : lit "bob" = u
    · simp [UserDirectory.findAddress, bobKnown, UserDirectory.upsert, UserDirectory.empty, h,
        h ▸ named]
    · simp [UserDirectory.findAddress, bobKnown, UserDirectory.upsert, UserDirectory.empty, h,
        named]
  rw [entry] at known
  split at known
  · next h =>
    cases known
    exact ⟨true, h, rfl, rfl⟩
  · cases known

end SecpChat
