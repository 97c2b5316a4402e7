import SecpChat.App.Fidelity
import SecpChat.System.Agreement
import SecpChat.System.Channels
import SecpChat.System.Lan

/-!
# The private sessions of whole clients

The results about private sessions are about services that run by themselves: their
directories are faithful and their network carries no other CHATs. Whole clients meet both.
Their directories are filled by discovery, and where names are kept apart a public CHAT
leaves the sessions alone, so the steps of the clients that touch sessions are a run of
`Clients.network` (`exists_projection`), and what holds of its sessions holds of theirs.
-/

namespace SecpChat.Lan

open Runs

variable {ι : Type*} [DecidableEq ι]

/-- The clients as those whose channels are to be kept apart. -/
def chatNet (L : Lan ι) : ChatNet ι := ⟨L.username, L.ip⟩

variable (L : Lan ι)

/-- No step of the run admits a name that another channel uses. -/
def NamesApart (run : List (Act ι ClientOp)) : Prop :=
  L.chatNet.network.machine.Along L.chatNet.NamesApart run

/-- Client `i` has accepted the invitation `k`. -/
def HasAccepted (run : List (Act ι ClientOp)) (i : ι) (k : Bytes) : Prop :=
  ∃ pre now room n post, run = pre ++ ⟨i, .acceptInvite now room, n⟩ :: post ∧
    trimInPlace room = k ∧ ((L.client pre i).direct.acceptInvite now room).value = true

/-- The public CHATs in flight after a run. -/
def publicFlight (run : List (Act ι ClientOp)) : List (PublicChat ι) :=
  (L.chatNet.network.machine.exec run).flight

/-- `ops` is what `run` does to the private sessions. -/
structure Projection (run : List (Act ι ClientOp)) (ops : List (Act ι DirectOp)) : Prop where
  legal : L.toClients.network.machine.Along L.toClients.Legal ops
  service : ∀ i, L.service ops i = (L.client run i).direct
  /-- The network of the sessions carries their datagrams. -/
  carries : ∀ p ∈ L.flight run, p ∈ Clients.flight L.toClients ops ∨ Unrelated p.bytes ∨
    ⟨p.origin, p.bytes⟩ ∈ L.publicFlight run
  accepted : ∀ i k, L.Accepted ops i k → L.HasAccepted run i k

variable {L} {run : List (Act ι ClientOp)} {ops : List (Act ι DirectOp)} {i : ι} {k : Bytes}

theorem HasAccepted.extend (h : L.HasAccepted run i k) (more : List (Act ι ClientOp)) :
    L.HasAccepted (run ++ more) i k := by
  obtain ⟨pre, now, room, n, post, rfl, key, accepted⟩ := h
  exact ⟨pre, now, room, n, post ++ more, by simp, key, accepted⟩

/-- A client does the same in both networks. -/
theorem chatNet_client (run : List (Act ι ClientOp)) (i : ι) :
    (L.chatNet.network.machine.exec run).node i = L.client run i := by
  rw [client_eq, Network.node_exec]
  rfl

theorem separate (apart : L.NamesApart run) :
    L.chatNet.Separate (L.chatNet.network.machine.exec run) :=
  L.chatNet.network.machine.invariant_along ChatNet.separate_start
    (fun _ _ apart h => ChatNet.separate_next apart h) run apart

/-- A public CHAT leaves the sessions of a client as they are. -/
theorem public_ignored (apart : L.NamesApart run) {p : Datagram ι}
    (inFlight : ⟨p.origin, p.bytes⟩ ∈ L.publicFlight run) {src : SockaddrIn}
    (source : src.sinAddr = L.ip p.origin) (t₁ t₂ : Int) :
    ((L.client run i).step (.received p.bytes src t₁ t₂)).direct = (L.client run i).direct := by
  have same := ((separate apart).public_ignored inFlight i source t₁ t₂).1
  rw [chatNet_client] at same
  have untouched := (L.client run i).handleDatagram_untouched ⟨p.bytes, src, t₁, t₂⟩
  have sessions := Std.ExtTreeMap.ext_getElem? fun k => same k
  show ((L.client run i).handleDatagram p.bytes src t₁ t₂).1.direct = (L.client run i).direct
  cases h : ((L.client run i).handleDatagram p.bytes src t₁ t₂).1.direct with
  | mk self' sessions' =>
    have self := untouched.direct
    rw [h] at sessions self
    subst sessions self
    rfl

/-! ## What a step of a client sends -/

theorem unrelated_of_type {bytes : Bytes} {msg : SecpMessage} (parsed : parseSecpLine bytes = some msg)
    (type : msg.type ≠ .Chat ∧ msg.type ≠ .Invite) : Unrelated bytes := by
  intro msg' parsed'
  rw [parsed] at parsed'
  cases parsed'
  exact type

/-- What an operation on the private sessions sends, they send. -/
theorem sends_direct {c : Client} {op : ClientOp} {dop : DirectOp} {dest : SockaddrIn}
    {line : Bytes} {ok : Bool} (contained : op.direct c.users = some dop)
    (h : .sendTo dest line ok ∈ c.effects op) : .sendTo dest line ok ∈ c.direct.effects dop := by
  cases op with
  | received bytes src t₁ t₂ =>
    have silent := c.handleDatagram_silent ⟨bytes, src, t₁, t₂⟩ _ h
    cases silent
  | _ => cases contained <;> exact h

omit [DecidableEq ι] in
/-- The datagrams of a step are those of the private sessions, public CHATs, or neither. -/
theorem posted_cases {c : Client} {op : ClientOp} {p : Datagram ι}
    (posted : p ∈ Clients.posts i (c.effects op)) :
    (∃ dop, op.direct c.users = some dop ∧ p ∈ Clients.posts i (c.direct.effects dop)) ∨
      Unrelated p.bytes ∨ ⟨p.origin, p.bytes⟩ ∈ ChatNet.publicChats i op (c.effects op) := by
  obtain ⟨origin, dest, bytes⟩ := p
  obtain ⟨rfl, sent⟩ := Clients.mem_posts.1 posted
  obtain ⟨msg, parsed, emits⟩ := Client.emits_of_sends sent
  cases emits with
  | presence => exact .inr (.inl (unrelated_of_type parsed (by simp)))
  | announce mine => exact .inr (.inl (unrelated_of_type parsed (by simp)))
  | invite contained =>
    exact .inl ⟨_, contained, Clients.mem_posts.2 ⟨rfl, sends_direct contained sent⟩⟩
  | lobbyChat => exact .inr (.inr (List.mem_filterMap.2 ⟨_, sent, rfl⟩))
  | groupChat => exact .inr (.inr (List.mem_filterMap.2 ⟨_, sent, rfl⟩))
  | privateChat => exact .inl ⟨_, rfl, Clients.mem_posts.2 ⟨rfl, sends_direct rfl sent⟩⟩

/-! ## The projection -/

/-- An acceptance is one of before, or the last operation. -/
theorem accepted_snoc {C : Clients ι} {a : Act ι DirectOp} (h : C.Accepted (ops ++ [a]) i k) :
    C.Accepted ops i k ∨ a.party = i ∧ ∃ now room, a.act = .acceptInvite now room ∧
      trimInPlace room = k ∧ ((C.service ops i).acceptInvite now room).value = true := by
  obtain ⟨pre, now, room, n, post, split, key, accepted⟩ := h
  rcases split_snoc split with ⟨rfl, rfl, -⟩ | ⟨mid, -, rfl⟩
  · exact .inr ⟨rfl, now, room, rfl, key, accepted⟩
  · exact .inl ⟨pre, now, room, n, mid, rfl, key, accepted⟩

theorem publicFlight_snoc (run : List (Act ι ClientOp)) (a : Act ι ClientOp) :
    L.publicFlight (run ++ [a]) = L.publicFlight run ++
      ChatNet.publicChats a.party a.act ((L.client run a.party).effects a.act) := by
  rw [publicFlight, Network.flight_snoc, chatNet_client]
  rfl

namespace Projection

theorem start : L.Projection [] [] := by
  refine ⟨trivial, fun i => rfl, fun p inFlight => ?_, fun i k accepted => ?_⟩
  · simp [flight, Network.machine] at inFlight
  · obtain ⟨pre, now, room, n, post, split, -⟩ := accepted
    simp at split

/-- A step that leaves the sessions alone and sends nothing for them. -/
theorem skip {a : Act ι ClientOp} (h : L.Projection run ops)
    (same : (L.client (run ++ [a]) a.party).direct = (L.client run a.party).direct)
    (sends : ∀ p ∈ Clients.posts a.party ((L.client run a.party).effects a.act),
      Unrelated p.bytes ∨ ⟨p.origin, p.bytes⟩ ∈
        ChatNet.publicChats a.party a.act ((L.client run a.party).effects a.act)) :
    L.Projection (run ++ [a]) ops := by
  refine ⟨h.legal, fun i => ?_, fun p inFlight => ?_, fun i k accepted =>
    (h.accepted i k accepted).extend [a]⟩
  · by_cases mine : a.party = i
    · subst mine
      rw [same, h.service]
    · rw [client_snoc_ne mine, h.service]
  · rw [flight, Network.flight_snoc] at inFlight
    rw [publicFlight_snoc, List.mem_append]
    rcases List.mem_append.1 inFlight with old | new
    · rcases h.carries p old with carried | unrelated | chat
      · exact .inl carried
      · exact .inr (.inl unrelated)
      · exact .inr (.inr (.inl chat))
    · rcases sends p new with unrelated | chat
      · exact .inr (.inl unrelated)
      · exact .inr (.inr (.inr chat))

/-- A step on the sessions that their network and the directories allow. -/
theorem take {a : Act ι ClientOp} {dop : DirectOp} {m : Nat} (h : L.Projection run ops)
    (contained : a.act.direct (L.client run a.party).users = some dop)
    (legal : L.toClients.Legal (L.toClients.network.machine.exec ops) ⟨a.party, dop, m⟩) :
    L.Projection (run ++ [a]) (ops ++ [⟨a.party, dop, m⟩]) := by
  refine ⟨(Machine.along_snoc _ ops _).2 ⟨h.legal, legal⟩, fun i => ?_, fun p inFlight => ?_,
    fun i k accepted => ?_⟩
  · by_cases mine : a.party = i
    · subst mine
      rw [Clients.service_snoc ops ⟨a.party, dop, m⟩, h.service, client_snoc, Client.step_direct,
        contained]
      rfl
    · rw [client_snoc_ne mine, ← h.service]
      exact Network.node_snoc_ne (a := ⟨a.party, dop, m⟩) mine ops
  · rw [flight, Network.flight_snoc] at inFlight
    rw [publicFlight_snoc, List.mem_append, Clients.flight, Network.flight_snoc, List.mem_append]
    rcases List.mem_append.1 inFlight with old | new
    · rcases h.carries p old with carried | unrelated | chat
      · exact .inl (.inl carried)
      · exact .inr (.inl unrelated)
      · exact .inr (.inr (.inl chat))
    · rcases posted_cases new with ⟨dop', contained', posted⟩ | unrelated | chat
      · obtain rfl : dop' = dop := Option.some.inj (contained'.symm.trans contained)
        have service : (L.toClients.network.machine.exec ops).node a.party =
            (L.client run a.party).direct := h.service a.party
        exact .inl (.inr (by rw [service]; exact posted))
      · exact .inr (.inl unrelated)
      · exact .inr (.inr (.inr chat))
  · rcases accepted_snoc accepted with before | ⟨rfl, now, room, rfl, key, value⟩
    · exact (h.accepted i k before).extend [a]
    · rw [h.service] at value
      obtain ⟨party, op, n⟩ := a
      cases op <;> cases contained
      exact ⟨run, now, room, n, [], rfl, key, value⟩

end Projection

/-- Nothing of the sessions' own is sent by an operation that is none of theirs. -/
theorem sends_none {a : Act ι ClientOp} (contained : a.act.direct (L.client run a.party).users = none)
    (p : Datagram ι) (posted : p ∈ Clients.posts a.party ((L.client run a.party).effects a.act)) :
    Unrelated p.bytes ∨ ⟨p.origin, p.bytes⟩ ∈
      ChatNet.publicChats a.party a.act ((L.client run a.party).effects a.act) := by
  rcases posted_cases posted with ⟨dop, contained', -⟩ | unrelated | chat
  · rw [contained] at contained'
    cases contained'
  · exact .inl unrelated
  · exact .inr chat

/-- What a client takes in for its sessions was addressed to it. -/
theorem reaches_of_arrives (h : L.Projection run ops) {p : Datagram ι} {src : SockaddrIn} {n : Nat}
    (carried : (Clients.flight L.toClients ops)[n]? = some p) (arrives : L.Arrives p i src) :
    L.Reaches p i src := by
  obtain ⟨pre, a, post, msg, s, rfl, -, -, -, -, carries⟩ := Clients.flight_carries carried
  have front : L.toClients.network.machine.Along L.toClients.Legal (pre ++ [a]) := by
    have legal := h.legal
    rw [← List.singleton_append, ← List.append_assoc] at legal
    exact legal.front
  obtain ⟨j, bound⟩ := Clients.session_boundTo front p.origin _ s carries.found
  have dest : p.dest = L.endpoint j := carries.dest.trans bound.peerAddr
  refine ⟨arrives.family, ?_, arrives.srcFamily, arrives.src⟩
  rcases arrives.dest with broadcast | group | host
  · rw [dest] at broadcast
    exact ((L.ip_host j).1 broadcast).elim
  · rw [dest] at group
    exact ((L.ip_host j).2 group).elim
  · exact host

/-- **The private sessions of whole clients run as those of `Clients.network`**, as long as the
names of the channels are kept apart. -/
theorem exists_projection (legal : L.Legal run) (apart : L.NamesApart run) :
    ∃ ops, L.Projection run ops := by
  induction run using List.reverseRecOn with
  | nil => exact ⟨[], .start⟩
  | append_singleton run a ih =>
    obtain ⟨before, step⟩ := (Machine.along_snoc _ run a).1 legal
    have apart' : L.NamesApart run := apart.front
    obtain ⟨ops, h⟩ := ih before apart'
    cases contained : a.act.direct (L.client run a.party).users with
    | none =>
      refine ⟨ops, h.skip ?_ (sends_none contained)⟩
      rw [client_snoc, Client.step_direct, contained]
      rfl
    | some dop =>
      obtain ⟨i, op, n⟩ := a
      cases op with
      | received bytes src t₁ t₂ =>
        cases contained
        have silent (p : Datagram ι)
            (posted : p ∈ Clients.posts i ((L.client run i).effects (.received bytes src t₁ t₂))) :
            False := by
          obtain ⟨-, sent⟩ := Clients.mem_posts.1 posted
          have silent := (L.client run i).handleDatagram_silent ⟨bytes, src, t₁, t₂⟩ _ sent
          cases silent
        rcases step with noise | ⟨p, inFlight, rfl, arrives⟩
        · have unrelated : Unrelated bytes := by
            intro msg parsed
            rw [noise] at parsed
            cases parsed
          exact ⟨_, h.take (m := 0) rfl ⟨.inl unrelated, trivial⟩⟩
        · rcases h.carries p (List.mem_of_getElem? inFlight) with carried | unrelated | chat
          · obtain ⟨m, carried⟩ := List.mem_iff_getElem?.1 carried
            exact ⟨_, h.take (m := m) rfl ⟨.inr ⟨p, carried, rfl, reaches_of_arrives h carried arrives⟩,
              trivial⟩⟩
          · exact ⟨_, h.take (m := 0) rfl ⟨.inl unrelated, trivial⟩⟩
          · refine ⟨ops, h.skip ?_ fun p' posted => (silent p' posted).elim⟩
            rw [client_snoc]
            exact public_ignored apart' chat arrives.src t₁ t₂
      | inviteUser draw now sent target =>
        cases contained
        refine ⟨_, h.take (m := 0) rfl ⟨trivial, fun u addr known => ?_⟩⟩
        obtain ⟨j, -, client⟩ := findAddress_client before known
        exact ⟨j, client⟩
      | _ =>
        cases contained <;> exact ⟨_, h.take (m := 0) rfl ⟨trivial, trivial⟩⟩

/-! ## Agreement and delivery -/

/-- Both clients hold the session `sid` active, each bound to the other. -/
def Conversation (L : Lan ι) (run : List (Act ι ClientOp)) (i j : ι) (sid : Bytes) : Prop :=
  ∃ s s', (L.client run i).direct.sessions[sid]? = some s ∧ s.state = .Active ∧ L.BoundTo s j ∧
    (L.client run j).direct.sessions[sid]? = some s' ∧ s'.state = .Active ∧ L.BoundTo s' i

theorem session_active {s : Session} (found : (L.client run i).direct.sessions[k]? = some s)
    (active : s.state = .Active) (more : List (Act ι ClientOp)) :
    (L.client (run ++ more) i).direct.sessions[k]? = some s := by
  induction more using List.reverseRecOn with
  | nil => simpa using found
  | append_singleton more a ih =>
    rw [← List.append_assoc]
    by_cases mine : a.party = i
    · subst mine
      rcases session_move L (run ++ more) a k with same | ⟨dop, -, m⟩
      · exact same.trans ih
      · rw [ih] at m
        exact m.active active
    · rw [client_snoc_ne mine]
      exact ih

theorem Conversation.extend {i j : ι} (h : L.Conversation run i j k)
    (more : List (Act ι ClientOp)) : L.Conversation (run ++ more) i j k := by
  obtain ⟨s, s', here, active, bound, there, active', bound'⟩ := h
  exact ⟨s, s', session_active here active more, active, bound, session_active there active' more,
    active', bound'⟩

/-! ## alice and bob -/

/-- alice hears of bob and invites him; he accepts and writes. -/
def aliceInvitesBob : List (Act Bool ClientOp) :=
  [⟨true, .sendPresence true, 0⟩,
    ⟨false, .received (lit "PRESENCE|-|bob|10.0.0.2\n") (aliceAndBob.endpoint true) 1 1, 0⟩,
    ⟨false, .inviteUser 42 2 true (lit "bob"), 0⟩,
    ⟨true, .received (lit "INVITE|00002a|alice|CLOSED;to=bob\n") (aliceAndBob.endpoint false) 3 3, 1⟩,
    ⟨true, .acceptInvite 4 (lit "00002a"), 0⟩,
    ⟨true, .sendPrivateChat true (lit "00002a") (lit "hei"), 0⟩,
    ⟨false, .received (lit "CHAT|00002a|bob|hei\n") (aliceAndBob.endpoint true) 5 5, 2⟩]

theorem aliceInvitesBob_legal : aliceAndBobLan.Legal aliceInvitesBob := by
  refine ⟨trivial, .inr ?_, trivial, .inr ?_, trivial, trivial, .inr ?_, trivial⟩
  · exact ⟨⟨true, broadcastDest, lit "PRESENCE|-|bob|10.0.0.2\n"⟩, by decide +kernel, rfl,
      ⟨rfl, .inl rfl, rfl, rfl⟩⟩
  · exact ⟨⟨false, aliceAndBob.endpoint true, lit "INVITE|00002a|alice|CLOSED;to=bob\n"⟩,
      by decide +kernel, rfl, ⟨rfl, .inr (.inr rfl), rfl, rfl⟩⟩
  · exact ⟨⟨true, aliceAndBob.endpoint false, lit "CHAT|00002a|bob|hei\n"⟩, by decide +kernel, rfl,
      ⟨rfl, .inr (.inr rfl), rfl, rfl⟩⟩

theorem aliceInvitesBob_apart : aliceAndBobLan.NamesApart aliceInvitesBob := by
  have silent (n : Nat) (early : n ≤ 4) :
      (aliceAndBobLan.chatNet.network.machine.exec (aliceInvitesBob.take n)).flight = [] := by
    interval_cases n <;> decide +kernel
  refine ⟨trivial, trivial, fun addr known fresh => ⟨by decide +kernel, fun p inFlight => ?_⟩, trivial,
    fun s found pending => ⟨by decide +kernel, by decide +kernel, fun p inFlight => ?_⟩, trivial,
    trivial, trivial⟩
  · have none := silent 2 (by omega)
    exact absurd (none ▸ inFlight) (List.not_mem_nil)
  · have none := silent 4 (by omega)
    exact absurd (none ▸ inFlight) (List.not_mem_nil)

/-- **Whole clients agree on their private sessions.** An active session was accepted by its
client, or its peer accepted it and holds the other end. -/
theorem whole_clients_agree (L : Lan ι) (run : List (Act ι ClientOp)) (legal : L.Legal run)
    (apart : L.NamesApart run) (i : ι) (sid : Bytes) (s : Session)
    (found : (L.client run i).direct.sessions[sid]? = some s) (active : s.state = .Active) :
    ∃ j, L.BoundTo s j ∧
      (L.HasAccepted run i sid ∨ L.HasAccepted run j sid ∧ L.Conversation run i j sid) := by
  obtain ⟨ops, h⟩ := exists_projection legal apart
  have session : L.session ops i sid = some s := by
    rw [Clients.session, h.service]
    exact found
  obtain ⟨j, bound⟩ := Clients.session_boundTo h.legal i sid s session
  rcases Clients.active_accepted h.legal i sid s session active with accepted | ⟨j', answered⟩
  · exact ⟨j, bound, .inl (h.accepted i sid accepted)⟩
  · obtain ⟨bound', accepted, s', found', active', back⟩ := answered
    rw [Clients.session, h.service] at found'
    exact ⟨j', bound', .inr ⟨h.accepted j' sid accepted, s, s', found, active, bound', found',
      active', back⟩⟩

/-- bob has accepted, and both ends are open. -/
theorem whole_clients_agree_alice :
    ∃ j, aliceAndBobLan.HasAccepted aliceInvitesBob false (lit "00002a") ∨
      aliceAndBobLan.HasAccepted aliceInvitesBob j (lit "00002a") ∧
        aliceAndBobLan.Conversation aliceInvitesBob false j (lit "00002a") := by
  let s : Session := ⟨.Active, lit "00002a", lit "bob", aliceAndBob.endpoint true, 2, 2, 5⟩
  have found : (aliceAndBobLan.client aliceInvitesBob false).direct.sessions[lit "00002a"]? =
      some s := by decide +kernel
  obtain ⟨j, -, agreed⟩ := whole_clients_agree aliceAndBobLan aliceInvitesBob aliceInvitesBob_legal
    aliceInvitesBob_apart false (lit "00002a") s found rfl
  exact ⟨j, agreed⟩

/-- The datagram of a line typed into a conversation. -/
theorem conversation_line {i j : ι} {sid room typed : Bytes} {m : Nat}
    (h : L.Conversation run i j sid) (key : trimInPlace room = sid)
    (ok : ((L.client run j).direct.sendPrivateChat true room typed).value = true)
    (rest : List (Act ι ClientOp)) :
    trimInPlace typed ≠ [] ∧ ∃ line,
      parseSecpLine line = some ⟨.Chat, sid, L.username j, trimInPlace typed⟩ ∧
      (L.flight (run ++ [⟨j, .sendPrivateChat true room typed, m⟩] ++ rest))[(L.flight run).length]? =
        some ⟨j, L.endpoint i, line⟩ := by
  obtain ⟨s, s', -, -, -, there, -, bound⟩ := h
  obtain ⟨nonempty, -, s'', line, found, -, sends, parsed⟩ := sendPrivateChat_sent ok
  rw [key] at found parsed
  obtain rfl : s' = s'' := Option.some.inj (there.symm.trans found)
  rw [client_direct_username] at parsed
  refine ⟨nonempty, line, parsed, ?_⟩
  obtain ⟨later, flight⟩ := L.network.flight_prefix (run ++ [⟨j, .sendPrivateChat true room typed, m⟩]) rest
  have posts : L.network.posts j (L.client run j) (.sendPrivateChat true room typed) =
      [⟨j, L.endpoint i, line⟩] := by
    show Clients.posts j ((L.client run j).direct.sendPrivateChat true room typed).effects = _
    rw [sends, bound.peerAddr]
    rfl
  rw [Lan.flight, ← flight, Network.flight_snoc]
  show (L.flight run ++ L.network.posts j (L.client run j) _ ++ later)[_]? = _
  rw [posts]
  simp

/-- **What is typed into a conversation is shown to the peer**, once for each time it arrives,
and to no one else, whatever has happened since. -/
theorem conversation_delivers (L : Lan ι) (run more rest : List (Act ι ClientOp)) (i j x : ι)
    (sid room typed bytes : Bytes) (src : SockaddrIn) (t₁ t₂ : Int) (m : Nat)
    (legal : L.Legal (run ++ more ++ [⟨j, .sendPrivateChat true room typed, m⟩] ++ rest ++
      [⟨x, .received bytes src t₁ t₂, (L.flight (run ++ more)).length⟩]))
    (apart : L.NamesApart (run ++ more ++ [⟨j, .sendPrivateChat true room typed, m⟩] ++ rest))
    (conversation : L.Conversation run i j sid) (key : trimInPlace room = sid)
    (ok : ((L.client (run ++ more) j).direct.sendPrivateChat true room typed).value = true)
    (parses : parseSecpLine bytes ≠ none) :
    x = i ∧ (L.client (run ++ more ++ [⟨j, .sendPrivateChat true room typed, m⟩] ++ rest) x).effects
      (.received bytes src t₁ t₂) = [.privateMessage sid (L.username j) (trimInPlace typed)] := by
  obtain ⟨nonempty, line, parsed, inFlight⟩ :=
    conversation_line (m := m) (conversation.extend more) key ok rest
  obtain ⟨s, s', here, active, bound, -⟩ := conversation.extend
    (more ++ [⟨j, .sendPrivateChat true room typed, m⟩] ++ rest)
  simp only [← List.append_assoc] at here
  obtain ⟨before, step⟩ := (Machine.along_snoc _ _ _).1 legal
  rcases step with noise | ⟨p, taken, rfl, arrives⟩
  · exact (parses noise).elim
  obtain rfl : p = ⟨j, L.endpoint i, line⟩ := Option.some.inj (taken.symm.trans inFlight)
  obtain rfl : x = i := arrives.dest.unicast
  refine ⟨rfl, ?_⟩
  have dash : sid ≠ lit "-" := by
    obtain ⟨draw, drawn⟩ := (traced before).drawn x sid s here
    rw [← drawn]
    exact makeSessionId_ne_dash draw
  have source : s.peerAddr = makeUnicastDest src kUdpPort := by
    rw [bound.peerAddr, Clients.endpoint, makeUnicastDest, arrives.srcFamily, arrives.src]
  have hears := hears_private (L.client _ x) src t₁ t₂ parsed nonempty dash here (by simp [active])
    bound.peerUsername source
  -- there is room for no other callback
  have one := (separate apart).at_most_one x parsed rfl src t₁ t₂
  rw [chatNet_client] at one
  have heard : .privateMessage sid (L.username j) (trimInPlace typed) ∈
      (L.client _ x).effects (.received line src t₁ t₂) :=
    List.mem_of_mem_filter (by rw [Client.hears] at hears; rw [hears]; exact List.mem_singleton_self _)
  obtain ⟨pre, post, split⟩ := List.append_of_mem heard
  have all : ((L.client _ x).effects (.received line src t₁ t₂)).length ≤ 1 := one
  rw [split, List.length_append, List.length_cons] at all
  obtain rfl : pre = [] := List.length_eq_zero_iff.1 (by omega)
  obtain rfl : post = [] := List.length_eq_zero_iff.1 (by omega)
  exact split

/-- alice answers, and bob reads it. -/
theorem conversation_delivers_alice :
    let said : Act Bool ClientOp := ⟨false, .sendPrivateChat true (lit "00002a") (lit "hei igjen "), 0⟩
    (aliceAndBobLan.client (aliceInvitesBob ++ [] ++ [said] ++ []) true).effects
        (.received (lit "CHAT|00002a|alice|hei igjen\n") (aliceAndBob.endpoint false) 6 6) =
      [.privateMessage (lit "00002a") (lit "alice") (lit "hei igjen")] := by
  intro said
  let heard : Act Bool ClientOp :=
    ⟨true, .received (lit "CHAT|00002a|alice|hei igjen\n") (aliceAndBob.endpoint false) 6 6, 3⟩
  let s : Session := ⟨.Active, lit "00002a", lit "bob", aliceAndBob.endpoint true, 2, 2, 5⟩
  let s' : Session := ⟨.Active, lit "00002a", lit "alice", aliceAndBob.endpoint false, 3, 0, 4⟩
  have conversation : aliceAndBobLan.Conversation aliceInvitesBob true false (lit "00002a") :=
    ⟨s', s, by decide +kernel, rfl, ⟨rfl, rfl⟩, by decide +kernel, rfl, ⟨rfl, rfl⟩⟩
  have spoken : aliceAndBobLan.Legal (aliceInvitesBob ++ [said]) :=
    (Machine.along_snoc _ _ said).2 ⟨aliceInvitesBob_legal, trivial⟩
  have arrives : aliceAndBobLan.network.Legal
      (aliceAndBobLan.network.machine.exec (aliceInvitesBob ++ [said])) heard :=
    .inr ⟨⟨false, aliceAndBob.endpoint true, lit "CHAT|00002a|alice|hei igjen\n"⟩,
      by decide +kernel, rfl, ⟨rfl, .inr (.inr rfl), rfl, rfl⟩⟩
  have legal : aliceAndBobLan.Legal (aliceInvitesBob ++ [said] ++ [heard]) :=
    (Machine.along_snoc _ _ heard).2 ⟨spoken, arrives⟩
  have apart : aliceAndBobLan.NamesApart (aliceInvitesBob ++ [said]) :=
    (Machine.along_snoc _ _ said).2 ⟨aliceInvitesBob_apart, trivial⟩
  have third : (aliceAndBobLan.flight (aliceInvitesBob ++ [])).length = 3 := by decide +kernel
  exact (conversation_delivers aliceAndBobLan aliceInvitesBob [] [] true false true (lit "00002a")
    (lit "00002a") (lit "hei igjen ") (lit "CHAT|00002a|alice|hei igjen\n")
    (aliceAndBob.endpoint false) 6 6 0 (by rw [third]; simpa using legal) (by simpa using apart)
    conversation (by decide +kernel) (by decide +kernel) (by decide +kernel)).2

end SecpChat.Lan
