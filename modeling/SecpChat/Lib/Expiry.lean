import Mathlib.Algebra.Order.Group.Defs
import SecpChat.Lib.Runs

/-!
# Entries that expire

A store that keeps one value for each key with the time it was written, and is swept now
and then: a sweep with the reading `now` drops what is more than `age` old by it. Readings
need not be ordered. `exec_eq_some_iff` says what a history leaves under a key, and
`exec_prune_puts` that a sweep makes all sweeps with earlier readings unobservable. A
machine with a store inside is related to this one by `exec_eq_of_simulates`.
-/

namespace SecpChat.Expiry

open Runs

variable {κ ν τ : Type*}

/-- What happens to a store. -/
inductive Event (κ ν τ : Type*) where
  | put (key : κ) (value : ν) (time : τ)
  | prune (now : τ)

/-- The value under each key and the time it was written. -/
abbrev Store (κ ν τ : Type*) := κ → Option (ν × τ)

section Left

variable [Sub τ] [LE τ] {age : τ}

/-- `value`, written at `time`, is the last that the history put under `key`, and survives
the sweeps since. -/
def Left (age : τ) (history : List (Event κ ν τ)) (key : κ) (value : ν) (time : τ) : Prop :=
  ∃ before after, history = before ++ .put key value time :: after ∧
    (∀ value' time', .put key value' time' ∉ after) ∧
    ∀ now, .prune now ∈ after → now - time ≤ age

theorem left_put_self {history : List (Event κ ν τ)} {key : κ} {value value' : ν}
    {time time' : τ} :
    Left age (history ++ [.put key value' time']) key value time ↔
      value' = value ∧ time' = time := by
  constructor
  · rintro ⟨before, after, split, last, -⟩
    rcases List.eq_nil_or_concat after with rfl | ⟨after, e, rfl⟩
    · obtain ⟨-, same⟩ := List.append_inj' split rfl
      cases same
      exact ⟨rfl, rfl⟩
    · have split' : history ++ [.put key value' time'] =
          (before ++ .put key value time :: after) ++ [e] := by simpa using split
      obtain ⟨-, same⟩ := List.append_inj' split' rfl
      cases same
      exact (last value' time' (by simp)).elim
  · rintro ⟨rfl, rfl⟩
    exact ⟨history, [], rfl, by simp, by simp⟩

/-- An event that does not write the key is one more that the entry has to survive. -/
theorem left_snoc {history : List (Event κ ν τ)} {e : Event κ ν τ} {key : κ} {value : ν} {time : τ}
    (other : ∀ value' time', e ≠ .put key value' time') :
    Left age (history ++ [e]) key value time ↔
      Left age history key value time ∧ ∀ now, e = .prune now → now - time ≤ age := by
  constructor
  · rintro ⟨before, after, split, last, survives⟩
    rcases List.eq_nil_or_concat after with rfl | ⟨after, e', rfl⟩
    · obtain ⟨-, same⟩ := List.append_inj' split rfl
      cases same
      exact (other _ _ rfl).elim
    · have split' : history ++ [e] = (before ++ .put key value time :: after) ++ [e'] := by
        simpa using split
      obtain ⟨rfl, same⟩ := List.append_inj' split' rfl
      cases same
      refine ⟨⟨before, after, rfl, fun v t h => last v t (by simp [h]), fun now h => ?_⟩, ?_⟩
      · exact survives now (by simp [h])
      · rintro now rfl
        exact survives now (by simp)
  · rintro ⟨⟨before, after, rfl, last, survives⟩, this⟩
    refine ⟨before, after ++ [e], by simp, fun v t h => ?_, fun now h => ?_⟩
    · rcases List.mem_append.1 h with h | h
      · exact last v t h
      · exact other v t (List.mem_singleton.1 h).symm
    · rcases List.mem_append.1 h with h | h
      · exact survives now h
      · exact this now (List.mem_singleton.1 h).symm

@[simp] theorem left_nil {key : κ} {value : ν} {time : τ} : ¬ Left age [] key value time := by
  rintro ⟨before, after, split, -⟩
  simp at split

@[simp] theorem left_put_singleton {key key' : κ} {value value' : ν} {time time' : τ} :
    Left age [.put key' value' time'] key value time ↔
      key' = key ∧ value' = value ∧ time' = time := by
  have shape : [Event.put key' value' time'] = [] ++ [.put key' value' time'] := rfl
  rw [shape]
  by_cases same : key' = key
  · subst same
    rw [left_put_self]
    simp
  · rw [left_snoc (by simp [same])]
    simp [same]

@[simp] theorem left_prune_singleton {key : κ} {value : ν} {time now : τ} :
    ¬ Left age [.prune now] key value time := by
  have shape : [Event.prune now] = ([] : List (Event κ ν τ)) ++ [.prune now] := rfl
  rw [shape, left_snoc (by simp)]
  simp

/-- The history of a run whose actions do some events each. -/
theorem left_flatMap {α : Type*} {events : α → List (Event κ ν τ)} {run : List α} {key : κ}
    {value : ν} {time : τ} :
    Left age (run.flatMap events) key value time ↔
      ∃ pre a post, run = pre ++ a :: post ∧ Left age (events a) key value time ∧
        ∀ a' ∈ post, (∀ value' time', .put key value' time' ∉ events a') ∧
          ∀ now, .prune now ∈ events a' → now - time ≤ age := by
  constructor
  · intro h
    induction run with
    | nil =>
      obtain ⟨before, after, split, -⟩ := h
      simp at split
    | cons a run ih =>
      obtain ⟨before, after, split, last, survives⟩ := h
      rw [List.flatMap_cons] at split
      rcases List.append_eq_append_iff.1 split with ⟨rest, rfl, later⟩ | ⟨mine, own, split⟩
      · obtain ⟨pre, b, post, rfl, left, since⟩ := ih ⟨rest, after, later, last, survives⟩
        exact ⟨a :: pre, b, post, rfl, left, since⟩
      · cases mine with
        | nil =>
          have later : run.flatMap events = [] ++ .put key value time :: after := by
            simpa using split.symm
          obtain ⟨pre, b, post, rfl, left, since⟩ := ih ⟨[], after, later, last, survives⟩
          exact ⟨a :: pre, b, post, rfl, left, since⟩
        | cons e mine =>
          obtain ⟨rfl, rfl⟩ := List.cons.inj split
          refine ⟨[], a, run, rfl, ⟨before, mine, own, fun v t h => last v t ?_, fun now h => ?_⟩,
            fun a' ha' => ⟨fun v t h => last v t ?_, fun now h => survives now ?_⟩⟩
          · exact List.mem_append_left _ h
          · exact survives now (List.mem_append_left _ h)
          · exact List.mem_append_right _ (List.mem_flatMap.2 ⟨a', ha', h⟩)
          · exact List.mem_append_right _ (List.mem_flatMap.2 ⟨a', ha', h⟩)
  · rintro ⟨pre, a, post, rfl, ⟨before, after, own, last, survives⟩, since⟩
    refine ⟨pre.flatMap events ++ before, after ++ post.flatMap events, ?_, ?_, ?_⟩
    · simp [own]
    · intro v t h
      rcases List.mem_append.1 h with h | h
      · exact last v t h
      · obtain ⟨a', ha', h⟩ := List.mem_flatMap.1 h
        exact (since a' ha').1 v t h
    · intro now h
      rcases List.mem_append.1 h with h | h
      · exact survives now h
      · obtain ⟨a', ha', h⟩ := List.mem_flatMap.1 h
        exact (since a' ha').2 now h

end Left

section Store

variable [DecidableEq κ] [Sub τ] [LE τ] [DecidableLE τ] (age : τ)

/-- Not too old for a sweep at `now`. -/
def fresh (now : τ) (entry : ν × τ) : Bool := decide (now - entry.2 ≤ age)

def step (s : Store κ ν τ) : Event κ ν τ → Store κ ν τ
  | .put key value time => Function.update s key (some (value, time))
  | .prune now => fun key => (s key).filter (fresh age now)

/-- The histories of an empty store. -/
def store : Machine (Store κ ν τ) (Event κ ν τ) := ⟨fun _ => none, step age⟩

variable {age}

/-- **What a history leaves under a key.** -/
theorem exec_eq_some_iff {history : List (Event κ ν τ)} {key : κ} {value : ν} {time : τ} :
    (store age).exec history key = some (value, time) ↔ Left age history key value time := by
  induction history using List.reverseRecOn with
  | nil => simp [store, Left]
  | append_singleton history e ih =>
    rw [Machine.exec_snoc]
    cases e with
    | put key' value' time' =>
      by_cases same : key' = key
      · subst same
        rw [left_put_self]
        simp [store, step]
      · rw [left_snoc (by simp [same]), ← ih]
        simp [store, step, Ne.symm same]
    | prune now =>
      rw [left_snoc (by simp), ← ih]
      simp [store, step, Option.filter_eq_some_iff, fresh]

end Store

section Order

variable [AddCommGroup τ] [LinearOrder τ] {age : τ}

/-- A sweep of entries that hold their time among other things. -/
theorem filter_stale {β : Type*} (value : β → ν) (stamp : β → τ) (now : τ) (entry : Option β) :
    (entry.filter fun b => !decide (now - stamp b > age)).map (fun b => (value b, stamp b)) =
      (entry.map fun b => (value b, stamp b)).filter (fresh age now) := by
  cases entry with
  | none => rfl
  | some b =>
    by_cases old : now - stamp b > age
    · simp [Option.filter, fresh, old, not_le.2 old]
    · simp [Option.filter, fresh, old, not_lt.1 old]

variable [DecidableEq κ] [IsOrderedAddMonoid τ]

def Event.isPut : Event κ ν τ → Bool
  | .put _ _ _ => true
  | .prune _ => false

/-- What is fresh at a reading was fresh at the earlier ones. -/
theorem fresh_of_le {now now' : τ} {entry : ν × τ} (h : now' ≤ now)
    (still : fresh age now entry = true) : fresh age now' entry = true := by
  simp only [fresh, decide_eq_true_eq] at still ⊢
  exact (sub_le_sub_right h entry.2).trans still

/-- **A sweep makes the earlier ones unobservable.** -/
theorem exec_prune_puts {history : List (Event κ ν τ)} {now : τ}
    (earlier : ∀ now', .prune now' ∈ history → now' ≤ now) :
    (store age).exec (history ++ [.prune now]) =
      (store age).exec (history.filter Event.isPut ++ [.prune now]) := by
  funext key
  rw [Machine.exec_snoc, Machine.exec_snoc]
  show ((store age).exec history key).filter (fresh age now) =
    ((store age).exec (history.filter Event.isPut) key).filter (fresh age now)
  induction history using List.reverseRecOn with
  | nil => rfl
  | append_singleton history e ih =>
    have ih := ih fun now' h => earlier now' (by simp [h])
    cases e with
    | put key' value time =>
      have kept : (history ++ [Event.put key' value time]).filter Event.isPut =
          history.filter Event.isPut ++ [Event.put key' value time] := by simp [Event.isPut]
      rw [kept, Machine.exec_snoc, Machine.exec_snoc]
      by_cases same : key = key'
      · subst same
        simp [store, step]
      · simpa [store, step, same] using ih
    | prune now' =>
      have dropped : (history ++ [Event.prune now']).filter Event.isPut =
          history.filter Event.isPut := by simp [Event.isPut]
      have le : now' ≤ now := earlier now' (by simp)
      rw [dropped, ← ih, Machine.exec_snoc]
      show (((store age).exec history key).filter (fresh age now')).filter (fresh age now) = _
      rw [Option.filter_filter]
      congr 1
      funext entry
      cases h : fresh age now entry with
      | false => simp
      | true => simp [fresh_of_le le h]

end Order

section Simulation

variable {σ α : Type*} [DecidableEq κ] [Sub τ] [LE τ] [DecidableLE τ]

/-- A machine whose actions do certain events to a store inside its state, while `I` holds. -/
structure Simulates (age : τ) (M : Machine σ α) (I : σ → Prop) (view : σ → Store κ ν τ)
    (events : α → List (Event κ ν τ)) : Prop where
  start : I M.start ∧ view M.start = fun _ => none
  next : ∀ s a, I s → I (M.next s a) ∧ view (M.next s a) = (events a).foldl (step age) (view s)

/-- **That store holds what the events of the run leave.** -/
theorem exec_eq_of_simulates {age : τ} {M : Machine σ α} {I : σ → Prop} {view : σ → Store κ ν τ}
    {events : α → List (Event κ ν τ)} (h : Simulates age M I view events) (run : List α) :
    I (M.exec run) ∧ view (M.exec run) = (store age).exec (run.flatMap events) := by
  induction run using List.reverseRecOn with
  | nil => exact h.start
  | append_singleton run a ih =>
    obtain ⟨inv, same⟩ := ih
    obtain ⟨inv', same'⟩ := h.next (M.exec run) a inv
    rw [Machine.exec_snoc]
    refine ⟨inv', ?_⟩
    rw [same', same]
    simp [Machine.exec, store]

end Simulation

end SecpChat.Expiry
