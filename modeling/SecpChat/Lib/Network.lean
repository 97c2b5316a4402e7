import Mathlib.Data.List.Basic
import Mathlib.Logic.Function.Basic
import SecpChat.Lib.Runs

/-!
# Parties over a datagram network

Each party is a `Machine`; a step of one of them may post packets, which stay in flight
for ever, numbered in the order they were posted. A step that consumes a packet names
its number. Loss is a packet nobody consumes, duplication one consumed twice, and delay
and reordering are the order in which packets are consumed.

What a party does depends on its own actions only (`node_exec`), so what is proved of
one machine holds of each party, and stretches and events of a party's own run are
stretches and events of the whole one.
-/

namespace SecpChat.Runs

variable {ι σ α π : Type*}

structure Network (ι σ α π : Type*) where
  party : ι → Machine σ α
  /-- The packets that a step puts in flight. -/
  posts : ι → σ → α → List π
  /-- The step is possible when it consumes this packet, or none. -/
  fits : ι → α → Option π → Prop

structure Act (ι α : Type*) where
  party : ι
  act : α
  /-- The number of the packet it consumes; of no meaning to an action that consumes none. -/
  packet : Nat

structure Global (ι σ π : Type*) where
  node : ι → σ
  flight : List π

namespace Network

variable [DecidableEq ι] (N : Network ι σ α π)

def machine : Machine (Global ι σ π) (Act ι α) where
  start := ⟨fun i => (N.party i).start, []⟩
  next g a := ⟨Function.update g.node a.party ((N.party a.party).next (g.node a.party) a.act),
    g.flight ++ N.posts a.party (g.node a.party) a.act⟩

/-- The network can supply what the action consumes. -/
def Legal (g : Global ι σ π) (a : Act ι α) : Prop := N.fits a.party a.act g.flight[a.packet]?

/-- The actions of one party. -/
def acts (i : ι) (run : List (Act ι α)) : List α := (run.filter (·.party = i)).map Act.act

@[simp] theorem acts_nil (i : ι) : acts i ([] : List (Act ι α)) = [] := rfl

@[simp] theorem acts_append (i : ι) (pre post : List (Act ι α)) :
    acts i (pre ++ post) = acts i pre ++ acts i post := by
  simp [acts]

theorem acts_cons_self (a : Act ι α) (run : List (Act ι α)) :
    acts a.party (a :: run) = a.act :: acts a.party run := by
  simp [acts]

theorem acts_cons_ne {i : ι} {a : Act ι α} (h : a.party ≠ i) (run : List (Act ι α)) :
    acts i (a :: run) = acts i run := by
  simp [acts, h]

/-- An action of a party is a step of the run. -/
theorem mem_acts {i : ι} {a : α} {run : List (Act ι α)} (h : a ∈ acts i run) :
    ∃ pre n post, run = pre ++ ⟨i, a, n⟩ :: post := by
  obtain ⟨⟨party, act, n⟩, mine, rfl⟩ := List.mem_map.1 h
  obtain ⟨inRun, party_eq⟩ := List.mem_filter.1 mine
  obtain rfl : party = i := of_decide_eq_true party_eq
  obtain ⟨pre, post, split⟩ := List.append_of_mem inRun
  exact ⟨pre, n, post, split⟩

variable {N}

/-- **A party's state is the state of its own run.** -/
theorem node_exec (run : List (Act ι α)) (i : ι) :
    (N.machine.exec run).node i = (N.party i).exec (acts i run) := by
  induction run using List.reverseRecOn with
  | nil => rfl
  | append_singleton run a ih =>
    rw [Machine.exec_snoc, acts_append]
    by_cases h : a.party = i
    · subst h
      rw [acts_cons_self, acts_nil, Machine.exec_snoc, ← ih]
      simp [machine]
    · rw [acts_cons_ne h, acts_nil, List.append_nil, ← ih]
      simp [machine, Ne.symm h]

theorem node_snoc (run : List (Act ι α)) (a : Act ι α) :
    (N.machine.exec (run ++ [a])).node a.party =
      (N.party a.party).next ((N.machine.exec run).node a.party) a.act := by
  simp [machine]

theorem node_snoc_ne {i : ι} {a : Act ι α} (h : a.party ≠ i) (run : List (Act ι α)) :
    (N.machine.exec (run ++ [a])).node i = (N.machine.exec run).node i := by
  simp [machine, Ne.symm h]

/-- What a party's state satisfied throughout, it satisfied throughout its own run. -/
theorem since_node {Q : σ → Prop} {i : ι} {pre post : List (Act ι α)}
    (h : N.machine.Since (fun g => Q (g.node i)) pre post) :
    (N.party i).Since Q (acts i pre) (acts i post) := by
  intro mid hmid
  obtain ⟨l, hl, rfl⟩ := List.prefix_map_iff.1 hmid
  obtain ⟨front, hfront, rfl⟩ := List.prefix_filter_iff.1 hl
  have held : Q ((N.machine.exec (pre ++ front)).node i) := h front hfront
  rw [node_exec, acts_append] at held
  exact held

/-! ## Packets in flight -/

theorem flight_snoc (run : List (Act ι α)) (a : Act ι α) :
    (N.machine.exec (run ++ [a])).flight = (N.machine.exec run).flight ++
      N.posts a.party ((N.machine.exec run).node a.party) a.act := by
  simp [machine]

/-- Packets stay in flight, under their numbers. -/
theorem flight_prefix (pre post : List (Act ι α)) :
    (N.machine.exec pre).flight <+: (N.machine.exec (pre ++ post)).flight := by
  induction post using List.reverseRecOn with
  | nil => simp
  | append_singleton post a ih =>
    rw [← List.append_assoc, flight_snoc]
    exact ih.trans (List.prefix_append _ _)

/-- **Every packet was posted** by some step, which gave it its number. -/
theorem exists_post {run : List (Act ι α)} {n : Nat} {p : π}
    (h : (N.machine.exec run).flight[n]? = some p) :
    ∃ pre a post, run = pre ++ a :: post ∧
      p ∈ N.posts a.party ((N.machine.exec pre).node a.party) a.act ∧
      (N.machine.exec pre).flight.length ≤ n ∧ n < (N.machine.exec (pre ++ [a])).flight.length := by
  induction run using List.reverseRecOn with
  | nil => simp [machine] at h
  | append_singleton run a ih =>
    have bound : n < (N.machine.exec (run ++ [a])).flight.length :=
      (List.getElem?_eq_some_iff.1 h).1
    rw [flight_snoc] at h
    by_cases old : n < (N.machine.exec run).flight.length
    · rw [List.getElem?_append_left old] at h
      obtain ⟨pre, b, post, rfl, posted, lower, upper⟩ := ih h
      exact ⟨pre, b, post ++ [a], by simp, posted, lower, upper⟩
    · rw [List.getElem?_append_right (Nat.le_of_not_lt old)] at h
      exact ⟨run, a, [], rfl, List.mem_of_getElem? h, Nat.le_of_not_lt old, bound⟩

end Network

end SecpChat.Runs
