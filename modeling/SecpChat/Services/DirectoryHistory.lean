import SecpChat.Lib.Expiry
import SecpChat.Lib.Listing
import SecpChat.Protocol.Grammar
import SecpChat.Services.Lobby

/-!
# The user directory as the history of presences

The receiver writes the directory and sweeps it, the heartbeat sweeps it too; a sweep's
clock reading is taken before it has the lock, so readings come in any order. With the
self username fixed the table is the store of `Lib.Expiry` (`directory_simulates`), whose
history is that of the accepted presences.
-/

namespace SecpChat

open Runs Expiry Listing

/-- What the threads do to a directory: `on_presence` of a received datagram, and
`prune_stale_peers`. -/
inductive DirectoryOp where
  | presence (bytes : Bytes) (src : SockaddrIn) (seen : Int)
  | prune (now : Int)

namespace UserDirectory

def step (d : UserDirectory) : DirectoryOp → UserDirectory
  | .presence bytes src seen =>
    match parseSecpLine bytes with
    | none => d
    | some msg =>
      if msg.type = .Presence then DiscoveryService.onPresence d msg.username msg.payload src seen
      else d
  | .prune now => DiscoveryService.pruneStalePeers d now

end UserDirectory

/-- The runs of the directory of a client called `self`. -/
def directoryMachine (self : Bytes) : Machine UserDirectory DirectoryOp :=
  ⟨UserDirectory.empty.setSelfUsername self, UserDirectory.step⟩

/-- The user whose PRESENCE a client called `self` accepts from `src`. -/
def presenceOf (self bytes : Bytes) (src : SockaddrIn) : Option Bytes :=
  (parseSecpLine bytes).bind fun msg =>
    if msg.type = .Presence ∧ msg.username ≠ self ∧
        (msg.payload = [] ∨ msg.payload = lit "-" ∨ msg.payload = inetNtop src.sinAddr) then
      some msg.username
    else none

namespace UserDirectory

/-- Address and time of each entry. -/
def seen (d : UserDirectory) : Store Bytes SockaddrIn Int :=
  fun u => d.peers[u]?.map fun info => (info.address, info.lastSeen)

/-- An operation as events of the store. -/
def events (self : Bytes) : DirectoryOp → List (Event Bytes SockaddrIn Int)
  | .presence bytes src seen => (presenceOf self bytes src).toList.map fun u => .put u src seen
  | .prune now => [.prune now]

variable {self : Bytes} {d : UserDirectory}

/-- **A presence is accepted or ignored.** -/
theorem step_presence (named : d.selfUsername = self) (bytes : Bytes) (src : SockaddrIn)
    (seen : Int) :
    d.step (.presence bytes src seen) = (presenceOf self bytes src).elim d fun u =>
      { d with peers := d.peers.insert u ⟨u, src, seen⟩ } := by
  subst named
  simp only [step, presenceOf]
  cases parsed : parseSecpLine bytes with
  | none => rfl
  | some msg =>
    have ok : FieldsOk msg := fieldsOk_of_parse parsed
    simp only [Option.bind_some, DiscoveryService.onPresence, upsert]
    have fits : ¬ (msg.username = [] ∨ msg.username.length > kMaxUsernameBytes) := by
      have length := (isUsernameOk_iff.1 ok.username).2
      rintro (empty | long)
      · simp [empty] at length
      · exact absurd length.2 (not_le.2 long)
    have self_named : (d.selfUsername ≠ [] ∧ msg.username = d.selfUsername) ↔
        msg.username = d.selfUsername := by
      refine ⟨And.right, fun same => ⟨fun empty => ?_, same⟩⟩
      exact fits (.inl (same.trans empty))
    rw [if_neg fits, if_neg (fun h => fits (.inl h))]
    simp only [self_named]
    by_cases type : msg.type = .Presence
    swap
    · simp [type]
    by_cases mine : msg.username = d.selfUsername
    · simp [mine]
    by_cases payload : msg.payload = [] ∨ msg.payload = lit "-" ∨ msg.payload = inetNtop src.sinAddr
    · have accepted : ¬ (msg.payload ≠ [] ∧ msg.payload ≠ lit "-" ∧
          msg.payload ≠ inetNtop src.sinAddr) := by tauto
      simp [type, mine, payload, accepted]
    · have refused : msg.payload ≠ [] ∧ msg.payload ≠ lit "-" ∧
          msg.payload ≠ inetNtop src.sinAddr := by tauto
      simp [type, refused]

theorem seen_prune (now : Int) :
    (d.step (.prune now)).seen = fun u => (d.seen u).filter (fresh (seconds 18) now) := by
  funext u
  simp only [step, DiscoveryService.pruneStalePeers, pruneStale, seen,
    Std.ExtTreeMap.getElem?_filter']
  exact filter_stale PeerInfo.address PeerInfo.lastSeen now _

end UserDirectory

/-- **The directory is a store of presences** that are swept after 18 s. -/
theorem directory_simulates (self : Bytes) :
    Simulates (seconds 18) (directoryMachine self) (fun d => d.selfUsername = self)
      UserDirectory.seen (UserDirectory.events self) where
  start := ⟨rfl, by funext u; simp [directoryMachine, UserDirectory.setSelfUsername,
    UserDirectory.empty, UserDirectory.seen]⟩
  next d op named := by
    cases op with
    | presence bytes src seen =>
      have accepted := UserDirectory.step_presence named bytes src seen
      simp only [directoryMachine, accepted, UserDirectory.events]
      cases presenceOf self bytes src with
      | none => exact ⟨named, rfl⟩
      | some u =>
        refine ⟨named, ?_⟩
        funext v
        by_cases same : v = u
        · subst same
          simp [UserDirectory.seen, Expiry.step]
        · simp [UserDirectory.seen, Expiry.step, same, Ne.symm same, Std.ExtTreeMap.getElem?_insert]
    | prune now => exact ⟨named, UserDirectory.seen_prune now⟩

namespace UserDirectory

variable {self u : Bytes} {a : SockaddrIn} {t : Int}

theorem left_events {op : DirectoryOp} :
    Left (seconds 18) (events self op) u a t ↔
      ∃ bytes, op = .presence bytes a t ∧ presenceOf self bytes a = some u := by
  cases op with
  | presence bytes src seen =>
    have left : Left (seconds 18) (events self (.presence bytes src seen)) u a t ↔
        presenceOf self bytes src = some u ∧ src = a ∧ seen = t := by
      cases h : presenceOf self bytes src with
      | none => simp [events, h]
      | some v => simp [events, h]
    rw [left]
    constructor
    · rintro ⟨accepted, rfl, rfl⟩
      exact ⟨bytes, rfl, accepted⟩
    · rintro ⟨bytes, same, accepted⟩
      cases same
      exact ⟨accepted, rfl, rfl⟩
  | prune now => simp [events]

theorem put_mem_events {op : DirectoryOp} :
    .put u a t ∈ events self op ↔
      ∃ bytes, op = .presence bytes a t ∧ presenceOf self bytes a = some u := by
  cases op with
  | presence bytes src seen =>
    simp only [events, List.mem_map, Option.mem_toList, Event.put.injEq, DirectoryOp.presence.injEq]
    constructor
    · rintro ⟨v, accepted, rfl, rfl, rfl⟩
      exact ⟨bytes, ⟨rfl, rfl, rfl⟩, accepted⟩
    · rintro ⟨bytes', ⟨rfl, rfl, rfl⟩, accepted⟩
      exact ⟨u, accepted, rfl, rfl, rfl⟩
  | prune now => simp [events]

theorem prune_mem_events {op : DirectoryOp} : .prune t ∈ events self op ↔ op = .prune t := by
  cases op with
  | presence bytes src seen => simp [events]
  | prune now => simp [events, eq_comm]

/-- **Which address a run leaves for a user.** -/
theorem findAddress_iff (self : Bytes) (run : List DirectoryOp) (u : Bytes) (a : SockaddrIn) :
    ((directoryMachine self).exec run).findAddress u = some a ↔
      ∃ pre bytes t post, run = pre ++ .presence bytes a t :: post ∧
        presenceOf self bytes a = some u ∧
        (∀ bytes' src' t', .presence bytes' src' t' ∈ post → presenceOf self bytes' src' ≠ some u) ∧
        ∀ now, .prune now ∈ post → now - t ≤ seconds 18 := by
  have store := (exec_eq_of_simulates (directory_simulates self) run).2
  have address : ((directoryMachine self).exec run).findAddress u =
      (((directoryMachine self).exec run).seen u).map Prod.fst := by
    simp [findAddress, seen, Option.map_map, Function.comp_def]
  rw [address, store, Option.map_eq_some_iff]
  constructor
  · rintro ⟨⟨a, t⟩, held, rfl⟩
    rw [exec_eq_some_iff, left_flatMap] at held
    obtain ⟨pre, op, post, rfl, left, since⟩ := held
    obtain ⟨bytes, rfl, accepted⟩ := left_events.1 left
    refine ⟨pre, bytes, t, post, rfl, accepted, fun bytes' src' t' later again => ?_,
      fun now later => ?_⟩
    · exact (since _ later).1 src' t' (put_mem_events.2 ⟨bytes', rfl, again⟩)
    · exact (since _ later).2 now (prune_mem_events.2 rfl)
  · rintro ⟨pre, bytes, t, post, rfl, accepted, last, survives⟩
    refine ⟨(a, t), ?_, rfl⟩
    rw [exec_eq_some_iff, left_flatMap]
    refine ⟨pre, _, post, rfl, left_events.2 ⟨bytes, rfl, accepted⟩, fun op later =>
      ⟨fun src' t' again => ?_, fun now sweep => ?_⟩⟩
    · obtain ⟨bytes', rfl, accepted'⟩ := put_mem_events.1 again
      exact last bytes' src' t' later accepted'
    · obtain rfl := prune_mem_events.1 sweep
      exact survives now later

theorem snapshotPeers_strict (d : UserDirectory) :
    (d.snapshotPeers.map PeerListEntry.username).Pairwise (· < ·) := by
  apply listing_strict
  rw [List.map_map]
  change (d.peers.toList.map Prod.fst).Nodup
  rw [Std.ExtTreeMap.map_fst_toList_eq_keys]
  exact Std.ExtTreeMap.nodup_keys

theorem mem_snapshotPeers (d : UserDirectory) (u : Bytes) :
    u ∈ d.snapshotPeers.map PeerListEntry.username ↔ ∃ a, d.findAddress u = some a := by
  have listed (e : PeerListEntry) : e ∈ d.snapshotPeers ↔ ∃ name info, d.peers[name]? = some info ∧
      e = ⟨name, inetNtop info.address.sinAddr, info.lastSeen⟩ := by
    refine mem_listing.trans ?_
    simp only [List.mem_map, Prod.exists, Std.ExtTreeMap.mem_toList_iff_getElem?_eq_some, eq_comm]
  simp only [List.mem_map, listed, findAddress, Option.map_eq_some_iff]
  constructor
  · rintro ⟨-, ⟨name, info, found, rfl⟩, rfl⟩
    exact ⟨info.address, info, found, rfl⟩
  · rintro ⟨-, info, found, rfl⟩
    exact ⟨_, ⟨u, info, found, rfl⟩, rfl⟩

end UserDirectory

/-- **The user directory is the history of accepted presences.** -/
theorem directory_is_history (self : Bytes) (run : List DirectoryOp) :
    let d := (directoryMachine self).exec run
    (∀ u a, d.findAddress u = some a ↔
      ∃ pre bytes t post, run = pre ++ .presence bytes a t :: post ∧
        presenceOf self bytes a = some u ∧
        (∀ bytes' src' t', .presence bytes' src' t' ∈ post → presenceOf self bytes' src' ≠ some u) ∧
        ∀ now, .prune now ∈ post → now - t ≤ seconds 18) ∧
      (∀ u, u ∈ d.snapshotPeers.map PeerListEntry.username ↔ ∃ a, d.findAddress u = some a) ∧
      (d.snapshotPeers.map PeerListEntry.username).Pairwise (· < ·) ∧
      self ∉ d.snapshotPeers.map PeerListEntry.username := by
  intro d
  have address : ∀ u a, d.findAddress u = some a ↔ _ := UserDirectory.findAddress_iff self run
  refine ⟨address, d.mem_snapshotPeers, d.snapshotPeers_strict, fun mine => ?_⟩
  obtain ⟨a, known⟩ := (d.mem_snapshotPeers self).1 mine
  obtain ⟨-, bytes, t, -, -, accepted, -⟩ := (address self a).1 known
  obtain ⟨msg, -, accepted⟩ := Option.bind_eq_some_iff.1 accepted
  split at accepted
  next h => exact h.2.1 (Option.some.inj accepted)
  · cases accepted

end SecpChat
