import SecpChat.App.Outgoing
import SecpChat.System.PrivateNet

/-!
# Whole clients on one network

Clients with all their services on a network that carries what they send and nothing else
that parses. A unicast datagram reaches the host it is addressed to; a broadcast and a
multicast may reach anyone, their sender too. What a client takes in was sent by another
one or by itself (`exists_sender`), so what the services keep of the network can be traced
to the clients: a user in a directory is a client at its address, every session is with a
client and has a drawn id (`traced`), a listed room was announced by its owner.
-/

namespace SecpChat

open Runs

/-- Clients on hosts of their own, under names as `main` leaves them. -/
structure Lan (ι : Type*) extends Clients ι where
  trimmed : ∀ i, trimInPlace (username i) = username i
  ip_host : ∀ i, ip i ≠ inaddrBroadcast ∧ ip i ≠ ⟨239, 0, 0, 1⟩

/-- alice and bob with all their services. -/
def aliceAndBobLan : Lan Bool where
  toClients := aliceAndBob
  trimmed := by decide +kernel
  ip_host := by decide +kernel

namespace Lan

variable {ι : Type*}

/-- A datagram for `dest` can reach client `i`. -/
def Addressed (L : Lan ι) (dest : SockaddrIn) (i : ι) : Prop :=
  dest.sinAddr = inaddrBroadcast ∨ dest.sinAddr = ⟨239, 0, 0, 1⟩ ∨ dest.sinAddr = L.ip i

/-- A socket is that of one client. -/
theorem Addressed.unicast {L : Lan ι} {i j : ι} (h : L.Addressed (L.endpoint j) i) : i = j := by
  rcases h with broadcast | group | host
  · exact ((L.ip_host j).1 broadcast).elim
  · exact ((L.ip_host j).2 group).elim
  · exact (L.ip_injective host).symm

/-- The datagram `p` arrives at client `i`, which sees its sender as `src`. -/
structure Arrives (L : Lan ι) (p : Datagram ι) (i : ι) (src : SockaddrIn) : Prop where
  family : p.dest.sinFamily = AF_INET
  dest : L.Addressed p.dest i
  srcFamily : src.sinFamily = AF_INET
  src : src.sinAddr = L.ip p.origin

def fits (L : Lan ι) (i : ι) : ClientOp → Option (Datagram ι) → Prop
  | .received bytes src _ _, p =>
    parseSecpLine bytes = none ∨ ∃ p', p = some p' ∧ p'.bytes = bytes ∧ L.Arrives p' i src
  | _, _ => True

/-- The clients over their network. -/
def network (L : Lan ι) : Network ι Client ClientOp (Datagram ι) where
  party i := clientMachine (L.username i) (L.ip i)
  posts i c op := Clients.posts i (c.effects op)
  fits := L.fits

variable [DecidableEq ι] (L : Lan ι)

/-- A run that the network allows. -/
def Legal (run : List (Act ι ClientOp)) : Prop := L.network.machine.Along L.network.Legal run

/-- Client `i` after a run. -/
def client (run : List (Act ι ClientOp)) (i : ι) : Client := (L.network.machine.exec run).node i

/-- The datagrams sent so far. -/
def flight (run : List (Act ι ClientOp)) : List (Datagram ι) := (L.network.machine.exec run).flight

/-- Client `j` has sent `msg` to `dest`, as the line `bytes`. -/
def HasSent (run : List (Act ι ClientOp)) (j : ι) (dest : SockaddrIn) (bytes : Bytes)
    (msg : SecpMessage) : Prop :=
  ∃ pre op n post, run = pre ++ ⟨j, op, n⟩ :: post ∧
    .sendTo dest bytes true ∈ (L.client pre j).effects op ∧ (L.client pre j).Emits op dest msg

variable {L} {run : List (Act ι ClientOp)} {i j : ι} {dest : SockaddrIn} {msg : SecpMessage}

/-! ## A client of the network -/

theorem client_eq (run : List (Act ι ClientOp)) (i : ι) :
    L.client run i = (clientMachine (L.username i) (L.ip i)).exec (Network.acts i run) :=
  Network.node_exec run i

theorem client_snoc (run : List (Act ι ClientOp)) (a : Act ι ClientOp) :
    L.client (run ++ [a]) a.party = (L.client run a.party).step a.act :=
  Network.node_snoc run a

theorem client_snoc_ne {a : Act ι ClientOp} (h : a.party ≠ i) (run : List (Act ι ClientOp)) :
    L.client (run ++ [a]) i = L.client run i :=
  Network.node_snoc_ne h run

@[simp] theorem client_username (run : List (Act ι ClientOp)) (i : ι) :
    (L.client run i).username = L.username i := by
  rw [client_eq, exec_username]

@[simp] theorem client_groups_username (run : List (Act ι ClientOp)) (i : ι) :
    (L.client run i).groups.username = L.username i := by
  rw [client_eq, exec_groups_username]

@[simp] theorem client_direct_username (run : List (Act ι ClientOp)) (i : ι) :
    (L.client run i).direct.selfUsername = L.username i := by
  rw [client_eq, exec_direct_username]

@[simp] theorem client_discovery (run : List (Act ι ClientOp)) (i : ι) :
    (L.client run i).discovery = .setIdentity (L.username i) (L.ip i) := by
  rw [client_eq]
  refine (clientMachine (L.username i) (L.ip i)).invariant
    (I := fun c => c.discovery = .setIdentity (L.username i) (L.ip i)) rfl (fun c op same => ?_) _
  rw [← same]
  cases op with
  | received bytes src t₁ t₂ => exact (c.handleDatagram_untouched ⟨bytes, src, t₁, t₂⟩).discovery
  | _ => rfl

/-! ## Where a datagram comes from -/

/-- A datagram in flight was sent by its origin. -/
theorem flight_sent {p : Datagram ι} (h : p ∈ L.flight run) :
    ∃ msg, parseSecpLine p.bytes = some msg ∧ L.HasSent run p.origin p.dest p.bytes msg := by
  obtain ⟨n, inFlight⟩ := List.mem_iff_getElem?.1 h
  obtain ⟨pre, ⟨party, op, m⟩, post, rfl, posted, -, -⟩ := Network.exists_post inFlight
  obtain ⟨rfl, sent⟩ := Clients.mem_posts.1 posted
  obtain ⟨msg, parsed, emits⟩ := Client.emits_of_sends sent
  exact ⟨msg, parsed, pre, op, m, post, rfl, sent, emits⟩

/-- **What a client takes in was sent by a client.** -/
theorem exists_sender {bytes : Bytes} {src : SockaddrIn} {t₁ t₂ : Int} {n : Nat}
    (legal : L.network.Legal (L.network.machine.exec run) ⟨i, .received bytes src t₁ t₂, n⟩)
    (parsed : parseSecpLine bytes = some msg) :
    ∃ j dest, L.HasSent run j dest bytes msg ∧ src.sinFamily = AF_INET ∧ src.sinAddr = L.ip j ∧
      L.Addressed dest i := by
  rcases legal with noise | ⟨p, inFlight, rfl, arrives⟩
  · rw [noise] at parsed
    cases parsed
  · obtain ⟨msg', parsed', sent⟩ := flight_sent (List.mem_of_getElem? inFlight)
    rw [parsed'] at parsed
    cases parsed
    exact ⟨p.origin, p.dest, sent, arrives.srcFamily, arrives.src, arrives.dest⟩

/-- The same of a datagram taken in at some time of a run. -/
theorem exists_sender_of_mem (legal : L.Legal run) {bytes : Bytes} {src : SockaddrIn} {t₁ t₂ : Int}
    (taken : .received bytes src t₁ t₂ ∈ Network.acts i run)
    (parsed : parseSecpLine bytes = some msg) :
    ∃ pre n post j dest, run = pre ++ ⟨i, .received bytes src t₁ t₂, n⟩ :: post ∧
      L.HasSent pre j dest bytes msg ∧ src.sinFamily = AF_INET ∧ src.sinAddr = L.ip j ∧
      L.Addressed dest i := by
  obtain ⟨pre, n, post, rfl⟩ := Network.mem_acts taken
  obtain ⟨j, dest, sent⟩ := exists_sender (Machine.Along.at _ legal) parsed
  exact ⟨pre, n, post, j, dest, rfl, sent⟩

/-! ## Users -/

/-- **A user in a directory is a client at its address.** -/
theorem findAddress_client (legal : L.Legal run) {u : Bytes} {addr : SockaddrIn}
    (known : (L.client run i).users.findAddress u = some addr) :
    ∃ j, j ≠ i ∧ L.username j = u ∧ addr.sinFamily = AF_INET ∧ addr.sinAddr = L.ip j := by
  rw [client_eq] at known
  obtain ⟨bytes, t₁, t₂, msg, taken, parsed, type, rfl, other⟩ := findAddress_received known
  obtain ⟨pre, n, post, j, dest, rfl, ⟨pre', op, m, mid, rfl, -, emits⟩, family, addr, -⟩ :=
    exists_sender_of_mem legal taken parsed
  rw [emits.of_presence type] at other ⊢
  simp only [client_discovery, DiscoveryService.setIdentity] at other ⊢
  exact ⟨j, fun same => other (by rw [same]), rfl, family, addr⟩

/-! ## Sessions -/

/-- What the network lets a client know of its sessions. -/
structure Traced (L : Lan ι) (run : List (Act ι ClientOp)) : Prop where
  /-- Every session is with another client. -/
  boundTo : ∀ i (k : Bytes) s, (L.client run i).direct.sessions[k]? = some s →
    ∃ j, j ≠ i ∧ L.BoundTo s j
  /-- Its id was drawn. -/
  drawn : ∀ i (k : Bytes) s, (L.client run i).direct.sessions[k]? = some s →
    ∃ draw, makeSessionId draw = k
  /-- So was that of every invitation on the way, which is to another client. -/
  invites : ∀ p ∈ L.flight run, ∀ msg, parseSecpLine p.bytes = some msg → msg.type = .Invite →
    (∃ j, j ≠ p.origin ∧ p.dest = L.endpoint j) ∧ ∃ draw, makeSessionId draw = msg.room

/-- The moves of one session in a step of its client. -/
theorem session_move (L : Lan ι) (run : List (Act ι ClientOp)) (a : Act ι ClientOp) (k : Bytes) :
    (L.client (run ++ [a]) a.party).direct.sessions[k]? =
        (L.client run a.party).direct.sessions[k]? ∨
    ∃ dop, a.act.direct (L.client run a.party).users = some dop ∧
      Move (L.username a.party) k dop (L.client run a.party).direct.sessions[k]?
        (L.client (run ++ [a]) a.party).direct.sessions[k]? := by
  rw [client_snoc, Client.step_direct]
  cases contained : a.act.direct (L.client run a.party).users with
  | none => exact .inl rfl
  | some dop =>
    have m := (L.client run a.party).direct.step_move dop k
    rw [client_direct_username] at m
    exact .inr ⟨dop, rfl, m⟩

/-- A session that an operation opens is with another client, and has a drawn id. -/
theorem opened_known (legal : L.Legal run) (traced : L.Traced run) {a : Act ι ClientOp}
    (step : L.network.Legal (L.network.machine.exec run) a) {dop : DirectOp} {k : Bytes}
    {s : Session} (contained : a.act.direct (L.client run a.party).users = some dop)
    (m : Move (L.username a.party) k dop none (some s)) :
    (∃ j, j ≠ a.party ∧ L.BoundTo s j) ∧ ∃ draw, makeSessionId draw = k := by
  obtain ⟨i, op, n⟩ := a
  cases m with
  | invite valid other known key =>
    cases op <;> cases contained
    obtain ⟨j, different, name, family, addr⟩ := findAddress_client legal known
    refine ⟨⟨j, different, name.symm, ?_⟩, _, key⟩
    simp [Clients.endpoint, makeUnicastDest, family, addr]
  | invited parsed type key named payload =>
    cases op <;> cases contained
    rcases step with noise | ⟨p, inFlight, rfl, arrives⟩
    · rw [noise] at parsed
      cases parsed
    have mem := List.mem_of_getElem? inFlight
    obtain ⟨msg', parsed', pre, op', m', post, rfl, -, emits⟩ := flight_sent mem
    rw [parsed'] at parsed
    cases parsed
    obtain ⟨⟨j, different, dest⟩, drawn⟩ := traced.invites p mem _ parsed' type
    refine ⟨⟨p.origin, ?_, ?_, ?_⟩, ?_⟩
    · -- it was sent to another client than its origin, and it is here
      have addressed := arrives.dest
      rw [dest] at addressed
      rw [addressed.unicast]
      exact different.symm
    · obtain ⟨s, carries⟩ := emits.of_invite type
      rw [← client_snoc pre ⟨p.origin, op', m'⟩] at carries
      exact carries.sender.trans (client_direct_username _ _)
    · simp [Clients.endpoint, makeUnicastDest, arrives.srcFamily, arrives.src]
    · rw [← key]
      exact drawn

/-- **Every session of a client is with another one, under a drawn id.** -/
theorem traced (legal : L.Legal run) : L.Traced run := by
  refine L.network.machine.history_induct (I := L.Traced) ?_ (fun run a legal step ih => ?_) run
    legal
  · refine ⟨fun i k s found => ?_, fun i k s found => ?_, fun p inFlight => ?_⟩
    · simp [client, network, Network.machine, clientMachine, Client.init,
        DirectMessageService.init] at found
    · simp [client, network, Network.machine, clientMachine, Client.init,
        DirectMessageService.init] at found
    · simp [flight, Network.machine] at inFlight
  have sessions (i : ι) (k : Bytes) (s : Session)
      (found : (L.client (run ++ [a]) i).direct.sessions[k]? = some s) :
      (∃ j, j ≠ i ∧ L.BoundTo s j) ∧ ∃ draw, makeSessionId draw = k := by
    by_cases mine : a.party = i
    swap
    · rw [client_snoc_ne mine] at found
      exact ⟨ih.boundTo i k s found, ih.drawn i k s found⟩
    subst mine
    rcases session_move L run a k with same | ⟨dop, contained, m⟩
    · rw [same] at found
      exact ⟨ih.boundTo _ k s found, ih.drawn _ k s found⟩
    · rw [found] at m
      cases before : (L.client run a.party).direct.sessions[k]? with
      | none =>
        rw [before] at m
        exact opened_known legal ih step contained m
      | some s₀ =>
        obtain ⟨j, different, bound⟩ := ih.boundTo _ k s₀ before
        exact ⟨⟨j, different, bound.trans (m.sameBinding before rfl)⟩, ih.drawn _ k s₀ before⟩
  refine ⟨fun i k s found => (sessions i k s found).1, fun i k s found => (sessions i k s found).2,
    fun p inFlight msg parsed type => ?_⟩
  rw [flight, Network.flight_snoc] at inFlight
  rcases List.mem_append.1 inFlight with old | new
  · exact ih.invites p old msg parsed type
  · obtain ⟨origin, sent⟩ := Clients.mem_posts.1 new
    obtain ⟨msg', parsed', emits⟩ := Client.emits_of_sends sent
    rw [parsed'] at parsed
    cases parsed
    obtain ⟨s, carries⟩ := emits.of_invite type
    have found := carries.found
    rw [← client, ← client_snoc run a] at found
    obtain ⟨⟨j, different, bound⟩, drawn⟩ := sessions a.party _ _ found
    exact ⟨⟨j, by rw [origin]; exact different, carries.dest.trans bound.peerAddr⟩, drawn⟩

/-- **Whom a client knows is a client.** A user in its directory is another client at its address,
a session is with another client and under a drawn id, and an invitation on the way is for
the socket of one client, which is not its sender. -/
theorem known_are_clients (L : Lan ι) (run : List (Act ι ClientOp)) (legal : L.Legal run) (i : ι) :
    (∀ u addr, (L.client run i).users.findAddress u = some addr →
      ∃ j, j ≠ i ∧ L.username j = u ∧ makeUnicastDest addr kUdpPort = L.endpoint j) ∧
    (∀ (sid : Bytes) s, (L.client run i).direct.sessions[sid]? = some s →
      (∃ draw, makeSessionId draw = sid) ∧ ∃ j, j ≠ i ∧ L.BoundTo s j) ∧
    ∀ p ∈ L.flight run, ∀ msg, parseSecpLine p.bytes = some msg → msg.type = .Invite →
      ∃ j, j ≠ p.origin ∧ p.dest = L.endpoint j ∧ ∀ x src, L.Arrives p x src → x = j := by
  have traced := traced legal
  refine ⟨fun u addr known => ?_, fun sid s found => ⟨traced.drawn i sid s found,
    traced.boundTo i sid s found⟩, fun p inFlight msg parsed type => ?_⟩
  · obtain ⟨j, different, name, family, ip⟩ := findAddress_client legal known
    exact ⟨j, different, name, by simp [Clients.endpoint, makeUnicastDest, family, ip]⟩
  · obtain ⟨⟨j, different, dest⟩, -⟩ := traced.invites p inFlight msg parsed type
    refine ⟨j, different, dest, fun x src arrives => ?_⟩
    have addressed := arrives.dest
    rw [dest] at addressed
    exact addressed.unicast

/-- alice has heard of bob. -/
theorem known_are_clients_alice :
    let run : List (Act Bool ClientOp) := [⟨true, .sendPresence true, 0⟩,
      ⟨false, .received (lit "PRESENCE|-|bob|10.0.0.2\n") (aliceAndBob.endpoint true) 1 1, 0⟩]
    aliceAndBobLan.Legal run ∧ ∃ j, j ≠ false ∧ aliceAndBobLan.username j = lit "bob" ∧
      makeUnicastDest (aliceAndBob.endpoint true) kUdpPort = aliceAndBobLan.endpoint j := by
  intro run
  have legal : aliceAndBobLan.Legal run := by
    refine ⟨trivial, .inr ?_, trivial⟩
    exact ⟨⟨true, broadcastDest, lit "PRESENCE|-|bob|10.0.0.2\n"⟩, by decide +kernel, rfl,
      ⟨rfl, .inl rfl, rfl, rfl⟩⟩
  exact ⟨legal,
    (known_are_clients aliceAndBobLan run legal false).1 (lit "bob") _ (by decide +kernel)⟩

end Lan

end SecpChat
