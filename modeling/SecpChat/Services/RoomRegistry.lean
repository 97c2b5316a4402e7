import SecpChat.Lib.Expiry
import SecpChat.Lib.Listing
import SecpChat.Services.GroupReach

/-!
# The room registry as a store of adverts

`on_room_announce` writes the registry and sweeps it, `list_advertised_rooms` and
`join_room` sweep it. What it holds is the store of `Lib.Expiry` with the advert times
(`registry_simulates`), and every entry is what its key says (`Advertised`), so the
listing is determined by the adverts.
-/

namespace SecpChat

open Runs Expiry Listing

namespace GroupRoomCoordinator

/-- Every entry is the open room that its key names. -/
def Advertised (g : GroupRoomCoordinator) : Prop :=
  ∀ (k : Bytes) (room : AdvertisedGroupRoom), g.registry[k]? = some room →
    room = ⟨k, k, kOpenRoomMulticastGroup, kUdpPort, room.lastAdvert⟩

/-- The time of each entry's advert. -/
def adverts (g : GroupRoomCoordinator) : Store Bytes Unit Int :=
  fun k => g.registry[k]?.map fun room => ((), room.lastAdvert)

/-- `on_room_announce` registers the room of the message. -/
def Announces (msg : SecpMessage) : Prop :=
  ¬ (msg.room = [] ∨ msg.room = lit "-" ∨ msg.username = []) ∧ msg.payload = lit "OPEN"

instance (msg : SecpMessage) : Decidable (Announces msg) := inferInstanceAs (Decidable (_ ∧ _))

/-- An operation as events of the store. -/
def events : GroupOp → List (Event Bytes Unit Int)
  | .joinRoom now _ roomName =>
    if roomName = [] ∨ roomName.length > kMaxRoomNameBytes then [] else [.prune now]
  | .listAdvertisedRooms now => [.prune now]
  | .onRoomAnnounce msg advertised pruned =>
    if Announces msg then [.put msg.room () advertised, .prune pruned] else []
  | _ => []

variable {g : GroupRoomCoordinator}

/-! ## The registry after each operation -/

theorem createRoom_registry (calls : ChannelCalls) (sent : Bool) (name : Bytes) :
    (g.createRoom calls sent name).state.registry = g.registry := by
  rcases g.createRoom_cases calls sent name with ⟨-, -, state⟩ | ⟨-, -, -, state⟩ |
    ⟨-, -, -, fd, state⟩
  · rw [state]
  · rw [state]
    rfl
  · rw [state]
    rfl

theorem joinRoom_registry (now : Int) (calls : ChannelCalls) (room : Bytes) :
    (g.joinRoom now calls room).state.registry =
      if room = [] ∨ room.length > kMaxRoomNameBytes then g.registry
      else (g.pruneRegistryUnlocked now).registry := by
  rcases g.joinRoom_cases now calls room with ⟨-, -, state⟩ | ⟨wanted, -, -, state⟩ |
    ⟨wanted, -, -, fd, state⟩
  · rw [state]
    split <;> rfl
  · rw [if_neg (not_or.2 ⟨wanted.1, not_lt.2 wanted.2.1⟩), state, disownOther_eq]
    rfl
  · rw [if_neg (not_or.2 ⟨wanted.1, not_lt.2 wanted.2.1⟩), state, disownOther_eq]
    rfl

theorem leaveRoom_registry (dropped : Bool) :
    (g.leaveRoom dropped).state.registry = g.registry := by
  rw [leaveRoom_state]
  rfl

/-! ## The registry as a store -/

theorem adverts_of_registry {g' : GroupRoomCoordinator} (same : g'.registry = g.registry) :
    g'.adverts = g.adverts := by
  unfold adverts
  rw [same]

theorem advertised_of_registry {g' : GroupRoomCoordinator} (same : g'.registry = g.registry)
    (h : g.Advertised) : g'.Advertised := by
  unfold Advertised
  rw [same]
  exact h

theorem adverts_pruned (now : Int) : (g.pruneRegistryUnlocked now).adverts =
    fun k => (g.adverts k).filter (fresh (seconds 25) now) := by
  funext k
  simp only [adverts, pruneRegistryUnlocked, Std.ExtTreeMap.getElem?_filter']
  exact filter_stale (fun _ => ()) AdvertisedGroupRoom.lastAdvert now _

theorem advertised_pruned (now : Int) (h : g.Advertised) :
    (g.pruneRegistryUnlocked now).Advertised := by
  intro k room found
  simp only [pruneRegistryUnlocked, Std.ExtTreeMap.getElem?_filter', Option.filter_eq_some_iff]
    at found
  exact h k room found.1

/-- The room `name`, advertised at `time`, in the registry. -/
def register (g : GroupRoomCoordinator) (name : Bytes) (time : Int) : GroupRoomCoordinator :=
  let room : AdvertisedGroupRoom := ⟨name, name, kOpenRoomMulticastGroup, kUdpPort, time⟩
  { g with registry := g.registry.insert name room }

theorem adverts_register (name : Bytes) (time : Int) :
    (g.register name time).adverts = Function.update g.adverts name (some ((), time)) := by
  funext k
  by_cases same : name = k
  · subst same
    simp [adverts, register]
  · simp [adverts, register, Std.ExtTreeMap.getElem?_insert, same, Ne.symm same]

theorem advertised_register (name : Bytes) (time : Int) (h : g.Advertised) :
    (g.register name time).Advertised := by
  intro k room found
  by_cases same : name = k
  · subst same
    simp only [register, Std.ExtTreeMap.getElem?_insert_self, Option.some.injEq] at found
    rw [← found]
  · simp only [register, Std.ExtTreeMap.getElem?_insert] at found
    rw [if_neg (by simpa using same)] at found
    exact h k room found

/-- The state after `on_room_announce`. -/
theorem onRoomAnnounce_cases (msg : SecpMessage) (advertised pruned : Int) :
    (g.onRoomAnnounce msg advertised pruned).state =
      if Announces msg then (g.register msg.room advertised).pruneRegistryUnlocked pruned
      else g := by
  unfold onRoomAnnounce
  split
  · next fields => simp [Announces, fields]
  next fields =>
  split
  · next payload => simp [Announces, payload]
  next payload => simp [Announces, register, fields, not_not.1 payload]

/-- **The registry is a store of adverts** that are swept after 25 s. -/
theorem registry_simulates (localInterface : InAddr) (username : Bytes) :
    Simulates (seconds 25) (groupMachine localInterface username) Advertised adverts events where
  start := by
    refine ⟨fun k room found => ?_, ?_⟩
    · simp [groupMachine, GroupRoomCoordinator.init] at found
    · funext k
      simp [groupMachine, GroupRoomCoordinator.init, adverts]
  next g op inv := by
    show (g.step op).Advertised ∧ (g.step op).adverts = _
    cases op with
    | createRoom calls sent name =>
      have same : (g.step (.createRoom calls sent name)).registry = g.registry :=
        createRoom_registry calls sent name
      exact ⟨advertised_of_registry same inv, adverts_of_registry same⟩
    | joinRoom now calls room =>
      have kept := g.joinRoom_registry now calls room
      by_cases refused : room = [] ∨ room.length > kMaxRoomNameBytes
      · have same : (g.step (.joinRoom now calls room)).registry = g.registry := by
          rw [step, perform, kept, if_pos refused]
        simp only [events, if_pos refused]
        exact ⟨advertised_of_registry same inv, adverts_of_registry same⟩
      · have same : (g.step (.joinRoom now calls room)).registry =
            (g.pruneRegistryUnlocked now).registry := by
          rw [step, perform, kept, if_neg refused]
        simp only [events, if_neg refused]
        exact ⟨advertised_of_registry same (advertised_pruned now inv),
          (adverts_of_registry same).trans (adverts_pruned now)⟩
    | leaveRoom dropped =>
      have same : (g.step (.leaveRoom dropped)).registry = g.registry := leaveRoom_registry dropped
      exact ⟨advertised_of_registry same inv, adverts_of_registry same⟩
    | sendGroupChat sent text =>
      rw [step, perform, g.sendGroupChat_state]
      exact ⟨inv, rfl⟩
    | broadcastOwnedAdvert sent =>
      rw [step, perform, g.broadcastOwnedAdvert_state]
      exact ⟨inv, rfl⟩
    | listAdvertisedRooms now => exact ⟨advertised_pruned now inv, adverts_pruned now⟩
    | onRoomAnnounce msg advertised pruned =>
      have state := g.onRoomAnnounce_cases msg advertised pruned
      rw [step, perform, state]
      by_cases accepted : Announces msg
      · simp only [events, if_pos accepted]
        refine ⟨advertised_pruned pruned (advertised_register msg.room advertised inv), ?_⟩
        rw [adverts_pruned, adverts_register]
        rfl
      · simp only [events, if_neg accepted]
        exact ⟨inv, rfl⟩
    | onRoomChat msg =>
      rw [step, perform, g.onRoomChat_state]
      exact ⟨inv, rfl⟩

/-! ## The listing -/

/-- Registries with the same adverts are the same. -/
theorem registry_eq {g g' : GroupRoomCoordinator} (inv : g.Advertised) (inv' : g'.Advertised)
    (same : g.adverts = g'.adverts) : g.registry = g'.registry := by
  apply Std.ExtTreeMap.ext_getElem?
  intro k
  have at_k := congrFun same k
  simp only [adverts] at at_k
  cases found : g.registry[k]? with
  | none =>
    rw [found] at at_k
    simpa [eq_comm] using at_k
  | some room =>
    rw [found, Option.map_some, eq_comm, Option.map_eq_some_iff] at at_k
    obtain ⟨room', found', times⟩ := at_k
    have advert : room'.lastAdvert = room.lastAdvert := by simpa using times
    rw [found', inv k room found, inv' k room' found', advert]

theorem mem_listAdvertisedRooms {now : Int} {room : AdvertisedGroupRoom} :
    room ∈ (g.listAdvertisedRooms now).value ↔
      ∃ k : Bytes, (g.pruneRegistryUnlocked now).registry[k]? = some room := by
  refine mem_listing.trans ?_
  simp only [List.mem_map, Prod.exists, Std.ExtTreeMap.mem_toList_iff_getElem?_eq_some,
    exists_eq_right]

/-- What is listed, by its names. -/
theorem mem_names {now : Int} (inv : g.Advertised) {name : Bytes} :
    name ∈ (g.listAdvertisedRooms now).value.map AdvertisedGroupRoom.roomName ↔
      ∃ t, (g.pruneRegistryUnlocked now).adverts name = some ((), t) := by
  have inv' := advertised_pruned now inv
  simp only [List.mem_map, mem_listAdvertisedRooms, adverts, Option.map_eq_some_iff]
  constructor
  · rintro ⟨room, ⟨k, found⟩, rfl⟩
    have named : room.roomName = k := by rw [inv' k room found]
    rw [named]
    exact ⟨room.lastAdvert, room, found, rfl⟩
  · rintro ⟨t, room, found, -⟩
    exact ⟨room, ⟨name, found⟩, by rw [inv' name room found]⟩

theorem names_strict {now : Int} (inv : g.Advertised) :
    ((g.listAdvertisedRooms now).value.map AdvertisedGroupRoom.roomName).Pairwise (· < ·) := by
  apply listing_strict
  have keys : ((g.pruneRegistryUnlocked now).registry.toList.map Prod.snd).map
      AdvertisedGroupRoom.roomName = (g.pruneRegistryUnlocked now).registry.keys := by
    rw [← Std.ExtTreeMap.map_fst_toList_eq_keys, List.map_map]
    apply List.map_congr_left
    rintro ⟨k, room⟩ listed
    have found := Std.ExtTreeMap.mem_toList_iff_getElem?_eq_some.1 listed
    show room.roomName = k
    rw [advertised_pruned now inv k room found]
  rw [keys]
  exact Std.ExtTreeMap.nodup_keys

end GroupRoomCoordinator

end SecpChat
