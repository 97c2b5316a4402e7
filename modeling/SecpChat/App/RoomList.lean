import SecpChat.App.Dispatch
import SecpChat.Services.RoomRegistry

/-!
# The room list is exactly the fresh announcements

A client sweeps its registry whenever it hears an advert, joins or lists, so the registry
depends on what the user does. The list does not: at nondecreasing readings a sweep makes
the earlier ones unobservable.
-/

namespace SecpChat

open Runs Expiry GroupRoomCoordinator

/-- The room that a datagram advertises as open. -/
def announcedRoom (bytes : Bytes) : Option Bytes :=
  (parseSecpLine bytes).bind fun msg =>
    if msg.type = .RoomAnnounce ∧ msg.room ≠ lit "-" ∧ msg.payload = lit "OPEN" then some msg.room
    else none

/-- The advert that an operation receives, with the time. -/
def ClientOp.announcement : ClientOp → Option (Bytes × Int)
  | .received bytes _ t₁ _ => (announcedRoom bytes).map fun name => (name, t₁)
  | _ => none

/-- The clock readings that an operation takes for the registry. -/
def GroupOp.readings : GroupOp → List Int
  | .joinRoom now _ _ => [now]
  | .listAdvertisedRooms now => [now]
  | .onRoomAnnounce _ advertised pruned => [advertised, pruned]
  | _ => []

/-- The readings of the run for the registry, up to `now`, are nondecreasing. -/
def ReadInOrder (run : List ClientOp) (now : Int) : Prop :=
  (run.flatMap (fun op => op.groups.elim [] GroupOp.readings) ++ [now]).Pairwise (· ≤ ·)

instance (run : List ClientOp) (now : Int) : Decidable (ReadInOrder run now) :=
  inferInstanceAs (Decidable (List.Pairwise _ _))

/-- A client's operation as events of the store of adverts. -/
def ClientOp.events (op : ClientOp) : List (Event Bytes Unit Int) :=
  op.groups.elim [] GroupRoomCoordinator.events

theorem announces_iff {msg : SecpMessage} (ok : FieldsOk msg) :
    Announces msg ↔ msg.room ≠ lit "-" ∧ msg.payload = lit "OPEN" := by
  simp [Announces, ne_nil_of_isRoomOk ok.room, ne_nil_of_isUsernameOk ok.username]

theorem ClientOp.events_received (bytes : Bytes) (src : SockaddrIn) (t₁ t₂ : Int) :
    ClientOp.events (.received bytes src t₁ t₂) =
      (announcedRoom bytes).elim [] fun name => [.put name () t₁, .prune t₂] := by
  simp only [events, groups, announcedRoom]
  cases parsed : parseSecpLine bytes with
  | none => rfl
  | some msg =>
    have accepted := announces_iff (fieldsOk_of_parse parsed)
    simp only [Option.bind_some]
    cases type : msg.type <;> simp [GroupRoomCoordinator.events]
    by_cases h : msg.room ≠ lit "-" ∧ msg.payload = lit "OPEN"
    · rw [if_pos (accepted.2 h), if_pos h]
      rfl
    · rw [if_neg fun a => h (accepted.1 a), if_neg h]
      rfl

/-- The write of an operation. -/
def ClientOp.put (op : ClientOp) : List (Event Bytes Unit Int) :=
  op.announcement.toList.map fun advert => .put advert.1 () advert.2

theorem ClientOp.events_puts (op : ClientOp) : op.events.filter Event.isPut = op.put := by
  cases op with
  | received bytes src t₁ t₂ =>
    rw [events_received]
    simp only [put, announcement]
    cases announcedRoom bytes <;> rfl
  | joinRoom now calls room =>
    simp only [events, groups, Option.elim_some, GroupRoomCoordinator.events]
    split <;> rfl
  | _ => rfl

/-- An operation's events sweep with its own readings. -/
theorem ClientOp.prune_readings {op : ClientOp} {now : Int} (h : .prune now ∈ op.events) :
    now ∈ op.groups.elim [] GroupOp.readings := by
  simp only [events] at h
  cases contained : op.groups with
  | none => simp [contained] at h
  | some gop =>
    simp only [contained, Option.elim_some] at h ⊢
    cases gop with
    | joinRoom now' calls room =>
      simp only [GroupRoomCoordinator.events] at h
      split at h <;> simp_all [GroupOp.readings]
    | listAdvertisedRooms now' => simpa [GroupRoomCoordinator.events, GroupOp.readings] using h
    | onRoomAnnounce msg advertised pruned =>
      simp only [GroupRoomCoordinator.events] at h
      split at h <;> simp_all [GroupOp.readings]
    | _ => simp [GroupRoomCoordinator.events] at h

section List

variable {username : Bytes} {localIp : InAddr} {run : List ClientOp} {t : Int}

/-- Only the adverts matter for what a sweep leaves. -/
theorem adverts_at (ordered : ReadInOrder run t) :
    (((clientMachine username localIp).exec run).groups.pruneRegistryUnlocked t).adverts =
      (store (seconds 25)).exec (run.flatMap ClientOp.put ++ [.prune t]) := by
  have held := (exec_eq_of_simulates (registry_simulates localIp username)
    (run.filterMap ClientOp.groups)).2
  have events : (run.filterMap ClientOp.groups).flatMap GroupRoomCoordinator.events =
      run.flatMap ClientOp.events := by
    rw [List.filterMap_eq_flatMap_toList, List.flatMap_assoc]
    apply congrArg (run.flatMap ·)
    funext op
    cases contained : op.groups <;> simp [ClientOp.events, contained]
  have earlier : ∀ now, .prune now ∈ run.flatMap ClientOp.events → now ≤ t := by
    intro now swept
    obtain ⟨op, hop, swept⟩ := List.mem_flatMap.1 swept
    exact (List.pairwise_append.1 ordered).2.2 now
      (List.mem_flatMap.2 ⟨op, hop, ClientOp.prune_readings swept⟩) t (by simp)
  rw [adverts_pruned, exec_groups, held, events]
  have swept : (store (seconds 25)).exec (run.flatMap ClientOp.events ++ [.prune t]) =
      (store (seconds 25)).exec (run.flatMap ClientOp.put ++ [.prune t]) := by
    rw [exec_prune_puts earlier, List.filter_flatMap]
    simp only [ClientOp.events_puts]
  rw [← swept, Machine.exec_snoc]
  rfl

variable (username localIp) in
theorem advertised_exec (run : List ClientOp) :
    ((clientMachine username localIp).exec run).groups.Advertised := by
  rw [exec_groups]
  exact (exec_eq_of_simulates (registry_simulates localIp username) _).1

/-- What a sweep at `t` leaves of the adverts of a run. -/
theorem held_iff {name : Bytes} {t₁ : Int} :
    (store (seconds 25)).exec (run.flatMap ClientOp.put ++ [.prune t]) name = some ((), t₁) ↔
      (∃ pre op post, run = pre ++ op :: post ∧ op.announcement = some (name, t₁) ∧
        ∀ op' ∈ post, ∀ t', op'.announcement ≠ some (name, t')) ∧ t - t₁ ≤ seconds 25 := by
  have own (op : ClientOp) : Left (seconds 25) op.put name () t₁ ↔
      op.announcement = some (name, t₁) := by
    cases h : op.announcement with
    | none => simp [ClientOp.put, h]
    | some advert => simp [ClientOp.put, h, Prod.ext_iff]
  have written (op : ClientOp) (t' : Int) : .put name () t' ∈ op.put ↔
      op.announcement = some (name, t') := by
    cases h : op.announcement with
    | none => simp [ClientOp.put, h]
    | some advert => simp [ClientOp.put, h, Prod.ext_iff, eq_comm]
  have unswept (op : ClientOp) (now : Int) : .prune now ∉ op.put := by simp [ClientOp.put]
  rw [exec_eq_some_iff, left_snoc (by simp), left_flatMap]
  simp only [own, written, unswept]
  simp

end List

/-- **The room list is exactly the fresh announcements.** -/
theorem room_list_is_fresh_announcements (username : Bytes) (localIp : InAddr)
    (run : List ClientOp) (t : Int) (ordered : ReadInOrder run t) :
    let rooms (run : List ClientOp) :=
      (((clientMachine username localIp).exec run).groups.listAdvertisedRooms t).value
    (∀ name, name ∈ (rooms run).map AdvertisedGroupRoom.roomName ↔
      ∃ pre bytes src t₁ t₂ post, run = pre ++ .received bytes src t₁ t₂ :: post ∧
        announcedRoom bytes = some name ∧
        (∀ op ∈ post, ∀ t', op.announcement ≠ some (name, t')) ∧ t - t₁ ≤ seconds 25) ∧
      ((rooms run).map AdvertisedGroupRoom.roomName).Pairwise (· < ·) ∧
      (∀ room ∈ rooms run, room.roomId = room.roomName) ∧
      ∀ run', ReadInOrder run' t →
        run'.filterMap ClientOp.announcement = run.filterMap ClientOp.announcement →
        rooms run' = rooms run := by
  intro rooms
  have inv (run) := advertised_exec username localIp run
  refine ⟨fun name => ?_, names_strict (inv run), fun room listed => ?_,
    fun run' ordered' same => ?_⟩
  · rw [mem_names (inv run), adverts_at ordered]
    simp only [held_iff]
    constructor
    · rintro ⟨t₁, ⟨pre, op, post, split, advert, last⟩, fresh⟩
      cases op with
      | received bytes src t₁' t₂ =>
        obtain ⟨name', announced, named⟩ := Option.map_eq_some_iff.1 advert
        cases named
        exact ⟨pre, bytes, src, t₁, t₂, post, split, announced, last, fresh⟩
      | _ => cases advert
    · rintro ⟨pre, bytes, src, t₁, t₂, post, split, announced, last, fresh⟩
      refine ⟨t₁, ⟨pre, _, post, split, ?_, last⟩, fresh⟩
      simp [ClientOp.announcement, announced]
  · obtain ⟨k, found⟩ := mem_listAdvertisedRooms.1 listed
    rw [advertised_pruned t (inv run) k room found]
  · have puts (run : List ClientOp) : run.flatMap ClientOp.put =
        (run.filterMap ClientOp.announcement).map fun advert => .put advert.1 () advert.2 := by
      rw [List.filterMap_eq_flatMap_toList, List.map_flatMap]
      rfl
    have adverts : (((clientMachine username localIp).exec run').groups.pruneRegistryUnlocked
        t).adverts = (((clientMachine username localIp).exec run).groups.pruneRegistryUnlocked
        t).adverts := by
      rw [adverts_at ordered', adverts_at ordered, puts, puts, same]
    have registry := registry_eq (advertised_pruned t (inv run')) (advertised_pruned t (inv run))
      adverts
    simp only [rooms, listAdvertisedRooms, registry]

/-- 25 s after its advert, and with a sweep in between, r2 is still listed. -/
theorem room_list_is_fresh_announcements_r2 :
    let src : SockaddrIn := ⟨AF_INET, kUdpPort, ⟨10, 0, 0, 1⟩⟩
    let advert := ClientOp.received (lit "ROOM_ANNOUNCE|r2|alice|OPEN\n") src (seconds 2) (seconds 2)
    let run := [.joinRoom (seconds 1) ⟨true, none, true, true, true, true, true, true⟩ (lit "r1"),
      advert, .listAdvertisedRooms (seconds 20)]
    let rooms := (((clientMachine (lit "bob") ⟨10, 0, 0, 2⟩).exec run).groups.listAdvertisedRooms
      (seconds 27)).value
    ReadInOrder run (seconds 27) ∧ lit "r2" ∈ rooms.map AdvertisedGroupRoom.roomName ∧
      ∀ room ∈ rooms, room.roomId = room.roomName := by
  intro src advert run rooms
  have ordered : ReadInOrder run (seconds 27) := by decide +kernel
  obtain ⟨listed, -, same, -⟩ :=
    room_list_is_fresh_announcements (lit "bob") ⟨10, 0, 0, 2⟩ run (seconds 27) ordered
  refine ⟨ordered, (listed (lit "r2")).2 ⟨[.joinRoom (seconds 1) _ (lit "r1")],
    lit "ROOM_ANNOUNCE|r2|alice|OPEN\n", src, seconds 2, seconds 2,
    [.listAdvertisedRooms (seconds 20)], rfl, ?_, ?_, ?_⟩, same⟩
  · decide +kernel
  · simp [ClientOp.announcement]
  · decide

end SecpChat
