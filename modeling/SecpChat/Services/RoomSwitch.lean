import SecpChat.Services.GroupMembership

/-!
# What a refused or failed switch of rooms leaves

`create_room` and `join_room` answer false in two ways. A name they refuse touches no
socket and leaves the room as it is. Past that the old channel is torn down before the
new one is set up, so when a socket call fails the client is in no room: nothing is owned
(`OwnsActive` holds in every reachable state, so what was owned was the room given up) and
there is no membership.
-/

namespace SecpChat

open Runs

namespace GroupRoomCoordinator

/-- An owned room is the active one. -/
def OwnsActive (g : GroupRoomCoordinator) : Prop :=
  ∀ owned, g.owned = some owned → g.activeRoomName = owned.roomName ∧ owned.roomName ≠ []

/-- The room of two states is the same, as far as the user and the network can tell. -/
structure SameRoom (g g' : GroupRoomCoordinator) : Prop where
  active : g'.activeRoomId = g.activeRoomId
  member : g'.hasActiveMembership = g.hasActiveMembership
  owned : g'.owned = g.owned
  group : g'.joinedGroup = g.joinedGroup

/-- The room is given up. -/
structure GivenUp (g g' : GroupRoomCoordinator) : Prop where
  member : g'.hasActiveMembership = false
  owned : g'.owned = none
  group : g'.joinedGroup = g.joinedGroup

variable {g : GroupRoomCoordinator}

/-! ## An owned room is the active one -/

/-- In a state that owns its active room, leaving for another one disowns it. -/
theorem disownOther_owned {room : Bytes} (inv : g.OwnsActive)
    (elsewhere : g.activeRoomName ≠ room) : (g.disownOther room).owned = none := by
  rw [disownOther_eq]
  refine Option.filter_eq_none_iff.2 fun owned mine => ?_
  rw [← (inv owned mine).1]
  simpa using elsewhere

/-- What `join_room` leaves on the way to another room is not owned. -/
theorem unowned_of_wanted {now : Int} {room : Bytes} (inv : g.OwnsActive)
    (wanted : g.Wanted now room) :
    ((g.pruneRegistryUnlocked now).disownOther room).owned = none :=
  disownOther_owned (g := g.pruneRegistryUnlocked now) inv wanted.2.2.1

/-- Nor is the room that is left. -/
theorem unowned_of_left (inv : g.OwnsActive) :
    (g.owned.filter fun owned => owned.roomName ≠ g.activeRoomName) = none := by
  refine Option.filter_eq_none_iff.2 fun owned mine => ?_
  simpa using (inv owned mine).1.symm

theorem step_ownsActive {op : GroupOp} (inv : g.OwnsActive) : (g.step op).OwnsActive := by
  intro owned mine
  have change := g.step_change op
  generalize g.step op = g' at change mine ⊢
  cases change with
  | keeps registry kept => exact inv owned mine
  | createFails fails => cases mine
  | creates named succeed created fd =>
    cases mine
    exact ⟨rfl, named⟩
  | joinFails wanted fails => cases (unowned_of_wanted inv wanted).symm.trans mine
  | joins wanted succeed fd => cases (unowned_of_wanted inv wanted).symm.trans mine
  | leaves => cases (unowned_of_left inv).symm.trans mine

theorem exec_ownsActive (localInterface : InAddr) (username : Bytes) (run : List GroupOp) :
    ((groupMachine localInterface username).exec run).OwnsActive :=
  (groupMachine localInterface username).invariant (I := OwnsActive) nofun
    (fun _ _ inv => step_ownsActive inv) run

/-- What the user sees of a membership. -/
theorem MemberOf.shown {room : Bytes} (h : g.MemberOf room) (named : room ≠ []) :
    g.activeRoomId = some room ∧ g.hasActiveMembership = true := by
  obtain ⟨rfl, socket, -⟩ := h
  simp [activeRoomId, hasActiveMembership, named, Option.isSome_iff_ne_none, socket]

theorem createRoom_unsuccessful {calls : ChannelCalls} {sent : Bool} {name : Bytes}
    (unsuccessful : (g.createRoom calls sent name).value = false) :
    ((trimInPlace name = [] ∨ (trimInPlace name).length > kMaxRoomNameBytes) ∧
      g.SameRoom (g.createRoom calls sent name).state) ∨
    (¬ calls.Succeed ∧ g.GivenUp (g.createRoom calls sent name).state ∧
      (g.createRoom calls sent name).state.activeRoomName = []) := by
  rcases g.createRoom_cases calls sent name with ⟨refused, -, state⟩ | ⟨-, fails, -, state⟩ |
    ⟨-, -, created, -⟩
  · rw [state]
    exact .inl ⟨refused, rfl, rfl, rfl, rfl⟩
  · rw [state]
    exact .inr ⟨fails, ⟨rfl, rfl, rfl⟩, rfl⟩
  · rw [created] at unsuccessful
    cases unsuccessful

theorem joinRoom_unsuccessful {now : Int} {calls : ChannelCalls} {room : Bytes}
    (inv : g.OwnsActive) (unsuccessful : (g.joinRoom now calls room).value = false) :
    (¬ g.Wanted now room ∧ g.SameRoom (g.joinRoom now calls room).state) ∨
    (¬ calls.Succeed ∧ g.GivenUp (g.joinRoom now calls room).state ∧
      (g.joinRoom now calls room).state.activeRoomName = g.activeRoomName) := by
  rcases g.joinRoom_cases now calls room with ⟨unwanted, -, state⟩ | ⟨wanted, fails, -, state⟩ |
    ⟨-, -, joined, -⟩
  · left
    rw [state]
    split <;> exact ⟨unwanted, rfl, rfl, rfl, rfl⟩
  · rw [state]
    refine .inr ⟨fails, ⟨?_, unowned_of_wanted inv wanted, ?_⟩, ?_⟩
    · simp [hasActiveMembership, channelless]
    · rw [disownOther_eq]
      rfl
    · rw [disownOther_eq]
      rfl
  · rw [joined] at unsuccessful
    cases unsuccessful

/-- A client in no room has none to give up. -/
theorem GivenUp.sameRoom {g' : GroupRoomCoordinator} (h : g.GivenUp g') (inv : g.OwnsActive)
    (inactive : g.activeRoomName = []) (inactive' : g'.activeRoomName = []) : g.SameRoom g' := by
  have unowned : g.owned = none := by
    cases mine : g.owned with
    | none => rfl
    | some owned =>
      obtain ⟨active, named⟩ := inv owned mine
      exact (named (active.symm.trans inactive)).elim
  refine ⟨?_, ?_, h.owned.trans unowned.symm, h.group⟩
  · simp [activeRoomId, inactive, inactive']
  · rw [h.member]
    simp [hasActiveMembership, inactive]

end GroupRoomCoordinator

open GroupRoomCoordinator in
/-- **A refused switch keeps the room, a failed one gives it up.** -/
theorem unsuccessful_switch (localInterface : InAddr) (username : Bytes) (run : List GroupOp) :
    let g := (groupMachine localInterface username).exec run
    (∀ calls sent name, (g.createRoom calls sent name).value = false →
      let g' := (g.createRoom calls sent name).state
      ((trimInPlace name = [] ∨ (trimInPlace name).length > kMaxRoomNameBytes) ∧ g.SameRoom g') ∨
        (¬ calls.Succeed ∧ g.GivenUp g' ∧ g'.activeRoomId = none)) ∧
    (∀ now calls room, (g.joinRoom now calls room).value = false →
      let g' := (g.joinRoom now calls room).state
      (¬ g.Wanted now room ∧ g.SameRoom g') ∨ (¬ calls.Succeed ∧ g.GivenUp g')) ∧
    (g.activeRoomId = none →
      (∀ calls sent name, (g.createRoom calls sent name).value = false →
        g.SameRoom (g.createRoom calls sent name).state) ∧
      ∀ now calls room, (g.joinRoom now calls room).value = false →
        g.SameRoom (g.joinRoom now calls room).state) := by
  intro g
  have inv : g.OwnsActive := exec_ownsActive localInterface username run
  refine ⟨fun calls sent name failed => ?_, fun now calls room failed => ?_, fun none => ?_⟩
  · rcases createRoom_unsuccessful failed with refused | ⟨fails, given, inactive⟩
    · exact .inl refused
    · exact .inr ⟨fails, given, by simp [activeRoomId, inactive]⟩
  · rcases joinRoom_unsuccessful inv failed with refused | ⟨fails, given, -⟩
    · exact .inl refused
    · exact .inr ⟨fails, given⟩
  · have inactive : g.activeRoomName = [] := by
      by_contra active
      simp [activeRoomId, active] at none
    refine ⟨fun calls sent name failed => ?_, fun now calls room failed => ?_⟩
    · rcases createRoom_unsuccessful failed with ⟨-, same⟩ | ⟨-, given, inactive'⟩
      · exact same
      · exact given.sameRoom inv inactive inactive'
    · rcases joinRoom_unsuccessful inv failed with ⟨-, same⟩ | ⟨-, given, active⟩
      · exact same
      · exact given.sameRoom inv inactive (active.trans inactive)

/-- A member of r1 tries to create r2, and the bind fails: no room is left. -/
theorem failed_create_gives_up_room :
    let calls : ChannelCalls := ⟨true, some 4, true, true, true, true, true, true⟩
    let g := (groupMachine ⟨10, 0, 0, 1⟩ (lit "alice")).exec [.createRoom calls true (lit "r1")]
    let o := g.createRoom { calls with bind := false } true (lit "r2")
    o.value = false ∧ g.activeRoomId = some (lit "r1") ∧ o.state.activeRoomId = none ∧
      g.hasActiveMembership = true ∧ o.state.hasActiveMembership = false ∧
      g.owned = some ⟨lit "r1"⟩ ∧ o.state.owned = none := by
  decide +kernel

end SecpChat
