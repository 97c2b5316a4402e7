import SecpChat.Protocol.RoundTrip
import SecpChat.Services.GroupMembership

/-!
# Which created rooms can be reached

`create_room` only bounds the length of a name. The line that announces the room, the
handler that registers it and the lines of its chat have their own conditions;
`Reachable` says that they are all met, and `created_room_reachable_iff` that they are
for exactly the names a SECP line can carry, `-` apart.
-/

namespace SecpChat

namespace GroupRoomCoordinator

/-- Every text that SECP admits is handed to the socket as a CHAT line of the room. -/
def Speaks (g : GroupRoomCoordinator) (name : Bytes) : Prop :=
  ∀ sent text, trimInPlace text ≠ [] → FieldText (trimInPlace text) →
    (trimInPlace text).length ≤ 512 →
    ∃ dest line, (g.sendGroupChat sent text).effects = [.sendTo dest line sent] ∧
      parseSecpLine line = some ⟨.Chat, name, g.username, trimInPlace text⟩

/-- As long as it is a member. -/
def SpeaksWhileMember (g : GroupRoomCoordinator) (name : Bytes) : Prop :=
  g.MemberOf name ∧ ∀ ops : List GroupOp, (ops.foldl step g).MemberOf name →
    (ops.foldl step g).Speaks name

/-- The room `name` of the client `created` is announced, registered, joined and spoken in. -/
structure Reachable (created : GroupRoomCoordinator) (name : Bytes) : Prop where
  /-- Every other client that hears the advert registers the room, and lists it until the
  advert is 25 s old. -/
  announced : ∃ line msg,
    (created.broadcastOwnedAdvert true).effects = [.sendTo broadcastDest line true] ∧
    parseSecpLine line = some msg ∧ msg.type = .RoomAnnounce ∧
    ∀ (other : GroupRoomCoordinator) (t₁ t₂ : Int), ∃ room : AdvertisedGroupRoom,
      room.roomName = name ∧ room.lastAdvert = t₁ ∧
      let heard := (other.onRoomAnnounce msg t₁ t₂).state
      heard = { other with
        registry := other.registry.insert name room }.pruneRegistryUnlocked t₂ ∧
        ∀ now, t₂ ≤ now → now - t₁ ≤ kGroupRegistryStaleAge →
          (heard.pruneRegistryUnlocked now).registry.contains name = true
  /-- Every client that lists the room and is not in it can join it, and then speaks in it. -/
  joined : ∀ (other : GroupRoomCoordinator) (now : Int) (calls : ChannelCalls),
    isUsernameOk other.username = true → calls.Succeed → other.activeRoomName ≠ name →
    (other.pruneRegistryUnlocked now).registry.contains name = true →
    (other.joinRoom now calls name).value = true ∧
      (other.joinRoom now calls name).state.SpeaksWhileMember name
  /-- The owner speaks in it. -/
  spoken : created.SpeaksWhileMember name

variable {g : GroupRoomCoordinator} {name : Bytes}

theorem step_username (op : GroupOp) : (g.step op).username = g.username := by
  have change := g.step_change op
  generalize g.step op = g' at change ⊢
  cases change with
  | joinFails wanted fails => rw [disownOther_eq]; rfl
  | joins wanted succeed fd => rw [disownOther_eq]; rfl
  | _ => rfl

theorem run_username (ops : List GroupOp) : (ops.foldl step g).username = g.username := by
  induction ops generalizing g with
  | nil => rfl
  | cons op ops ih => exact ih.trans (step_username op)

/-- A member of a room that SECP can name, under a name that SECP can carry, is heard. -/
theorem speaks_of_member (room : isRoomOk name = true) (username : isUsernameOk g.username = true)
    (member : g.MemberOf name) : g.Speaks name := by
  intro sent text nonempty clean short
  have built : buildSecpLine .Chat name g.username (trimInPlace text) ≠ [] := by
    rw [buildSecpLine_ne_nil_iff]
    exact ⟨nofun, room, username, isPayloadOk_iff.2 ⟨clean, short⟩⟩
  have named : name ≠ [] := ne_nil_of_isRoomOk room
  refine ⟨⟨AF_INET, g.joinedPort, g.joinedGroup⟩, _, ?_, parse_build built⟩
  have fits : ¬ (trimInPlace text).length > kMaxChatMessageBytes := not_lt.2 short
  simp [sendGroupChat, nonempty, fits, member.active, named, member.socket, built]

theorem speaksWhileMember_of_member (room : isRoomOk name = true)
    (username : isUsernameOk g.username = true) (member : g.MemberOf name) :
    g.SpeaksWhileMember name :=
  ⟨member, fun ops still => speaks_of_member room (by rw [run_username]; exact username) still⟩

/-- What `on_room_announce` makes of the advert of an open room. -/
theorem onRoomAnnounce_registers (other : GroupRoomCoordinator) (msg : SecpMessage)
    (named : msg.room ≠ []) (dash : msg.room ≠ lit "-") (owner : msg.username ≠ [])
    (payload : msg.payload = lit "OPEN") (t₁ t₂ : Int) :
    ∃ room : AdvertisedGroupRoom, room.roomName = msg.room ∧ room.lastAdvert = t₁ ∧
      (other.onRoomAnnounce msg t₁ t₂).state = { other with
        registry := other.registry.insert msg.room room }.pruneRegistryUnlocked t₂ := by
  refine ⟨⟨msg.room, msg.room, kOpenRoomMulticastGroup, kUdpPort, t₁⟩, rfl, rfl, ?_⟩
  simp [onRoomAnnounce, named, dash, owner, payload]

/-- A room stays registered until its advert is stale. -/
theorem pruned_keeps {room : AdvertisedGroupRoom} {now : Int} (h : g.registry[name]? = some room)
    (fresh : now - room.lastAdvert ≤ kGroupRegistryStaleAge) :
    (g.pruneRegistryUnlocked now).registry[name]? = some room := by
  have fresh' : ¬ now - room.lastAdvert > kGroupRegistryStaleAge := not_lt.2 fresh
  simp [pruneRegistryUnlocked, h, fresh']

end GroupRoomCoordinator

theorem open_payload : isPayloadOk (lit "OPEN") = true := by decide +kernel

open GroupRoomCoordinator in
/-- **A created room is reachable exactly when SECP can carry its name**, `-` apart. -/
theorem created_room_reachable_iff (g : GroupRoomCoordinator) (calls : ChannelCalls) (sent : Bool)
    (roomDisplayName : Bytes) (username : isUsernameOk g.username = true)
    (created : (g.createRoom calls sent roomDisplayName).value = true) :
    (g.createRoom calls sent roomDisplayName).state.Reachable (trimInPlace roomDisplayName) ↔
      isRoomOk (trimInPlace roomDisplayName) = true ∧ trimInPlace roomDisplayName ≠ lit "-" := by
  obtain ⟨named, member, owned, same⟩ : trimInPlace roomDisplayName ≠ [] ∧
      (g.createRoom calls sent roomDisplayName).state.MemberOf (trimInPlace roomDisplayName) ∧
      (g.createRoom calls sent roomDisplayName).state.owned = some ⟨trimInPlace roomDisplayName⟩ ∧
      (g.createRoom calls sent roomDisplayName).state.username = g.username := by
    rcases g.createRoom_cases calls sent roomDisplayName with ⟨-, refused, -⟩ |
      ⟨-, -, failed, -⟩ | ⟨valid, -, -, fd, state⟩
    · rw [created] at refused
      cases refused
    · rw [created] at failed
      cases failed
    · rw [state]
      exact ⟨(not_or.1 valid).1, ⟨rfl, nofun, rfl⟩, rfl, rfl⟩
  generalize (g.createRoom calls sent roomDisplayName).state = room at member owned same ⊢
  generalize trimInPlace roomDisplayName = name at named member owned ⊢
  constructor
  · intro reachable
    obtain ⟨line, msg, effects, parsed, type, heard⟩ := reachable.announced
    have built : buildSecpLine .RoomAnnounce name room.username (lit "OPEN") ≠ [] := by
      intro empty
      simp [broadcastOwnedAdvert, owned, empty] at effects
    refine ⟨(buildSecpLine_ne_nil_iff.1 built).room, ?_⟩
    -- an advert of `-` is dropped by a client that knows no rooms
    rintro rfl
    have parsed' := parse_build built
    simp only [broadcastOwnedAdvert, owned, built, if_false] at effects
    obtain ⟨⟨⟩⟩ := effects
    rw [parsed'] at parsed
    cases parsed
    obtain ⟨-, -, -, -, listed⟩ := heard (.init ⟨0, 0, 0, 0⟩ []) 0 0
    have found := listed 0 le_rfl (by decide)
    rw [Std.ExtTreeMap.contains_eq_isSome_getElem?] at found
    simp [onRoomAnnounce, GroupRoomCoordinator.init, pruneRegistryUnlocked] at found
  · rintro ⟨ok, dash⟩
    have username' : isUsernameOk room.username = true := by rw [same]; exact username
    have built : buildSecpLine .RoomAnnounce name room.username (lit "OPEN") ≠ [] := by
      rw [buildSecpLine_ne_nil_iff]
      exact ⟨nofun, ok, username', open_payload⟩
    refine ⟨⟨_, _, ?_, parse_build built, rfl, fun other t₁ t₂ => ?_⟩, ?_,
      speaksWhileMember_of_member ok username' member⟩
    · simp [broadcastOwnedAdvert, owned, built]
    · have owner : room.username ≠ [] := by
        intro empty
        rw [empty] at username'
        revert username'
        decide +kernel
      obtain ⟨entry, entryName, advert, state⟩ := onRoomAnnounce_registers other
        ⟨.RoomAnnounce, name, room.username, lit "OPEN"⟩ named dash owner rfl t₁ t₂
      refine ⟨entry, entryName, advert, state, fun now later fresh => ?_⟩
      have registered : ((other.onRoomAnnounce ⟨.RoomAnnounce, name, room.username, lit "OPEN"⟩
          t₁ t₂).state.pruneRegistryUnlocked now).registry[name]? = some entry := by
        rw [state]
        apply pruned_keeps
        · apply pruned_keeps
          · simp
          · omega
        · omega
      rw [Std.ExtTreeMap.contains_eq_isSome_getElem?, registered]
      rfl
    · intro other now calls' username'' succeed elsewhere listed
      rcases other.joinRoom_cases now calls' name with ⟨unwanted, -⟩ | ⟨-, fails, -⟩ |
        ⟨-, -, value, fd, state⟩
      · exact (unwanted ⟨named, (isRoomOk_iff.1 ok).2.2, elsewhere, listed⟩).elim
      · exact (fails succeed).elim
      · refine ⟨value, speaksWhileMember_of_member ok ?_ ?_⟩
        · rw [state, disownOther_eq]
          exact username''
        · rw [state]
          exact ⟨rfl, nofun, rfl⟩

/-- alice creates the room gruppe1. -/
theorem created_room_reachable_iff_gruppe1 :
    let calls : ChannelCalls := ⟨true, some 4, true, true, true, true, true, true⟩
    let o := (GroupRoomCoordinator.init ⟨10, 0, 0, 1⟩ (lit "alice")).createRoom calls true
      (lit "gruppe1 ")
    o.value = true ∧ o.state.Reachable (trimInPlace (lit "gruppe1 ")) := by
  intro calls o
  have created : o.value = true := by decide +kernel
  refine ⟨created, (created_room_reachable_iff (.init ⟨10, 0, 0, 1⟩ (lit "alice")) calls true
    (lit "gruppe1 ") (by decide +kernel) created).2 ⟨?_, ?_⟩⟩
  · decide +kernel
  · decide +kernel

/-- The name `a|b` is accepted, but no advert and no chat line can carry it. -/
theorem mute_room_created :
    let calls : ChannelCalls := ⟨true, some 4, true, true, true, true, true, true⟩
    let g := GroupRoomCoordinator.init ⟨10, 0, 0, 1⟩ (lit "alice")
    let o := g.createRoom calls true (lit "a|b")
    isUsernameOk (lit "alice") = true ∧ calls.Succeed ∧ o.value = true ∧
      (o.state.broadcastOwnedAdvert true).effects = [] ∧
      (o.state.sendGroupChat true (lit "hei")).effects = [] := by
  decide +kernel

end SecpChat
