import SecpChat.App.Dispatch
import SecpChat.App.RoomList

/-!
# Where a client's names and addresses come from

The username is that of the start. A user in the directory, a room in the registry and a
session come from datagrams of the run (`findAddress_received`, `registry_received`,
`session_origin`), an invitation's drawn id apart.
-/

namespace SecpChat

open Runs Expiry

/-! ## The username -/

theorem exec_username (username : Bytes) (localIp : InAddr) (run : List ClientOp) :
    ((clientMachine username localIp).exec run).username = username := by
  refine (clientMachine username localIp).invariant (I := fun c => c.username = username) rfl ?_ run
  intro c op same
  cases op with
  | received bytes src t₁ t₂ =>
    rw [← same]
    simp only [clientMachine, Client.step, Client.perform, Client.handleDatagram]
    repeat' split
    all_goals rfl
  | _ => exact same

theorem exec_groups_username (username : Bytes) (localIp : InAddr) (run : List ClientOp) :
    ((clientMachine username localIp).exec run).groups.username = username := by
  rw [exec_groups]
  exact GroupRoomCoordinator.run_username _

theorem exec_direct_username (username : Bytes) (localIp : InAddr) (run : List ClientOp) :
    ((clientMachine username localIp).exec run).direct.selfUsername = username := by
  obtain ⟨ops, same⟩ := exec_direct username localIp run
  rw [same, exec_selfUsername]

/-! ## Sessions, users and rooms -/

/-- An entry of the directory comes from a PRESENCE that was received. -/
theorem findAddress_received {username u : Bytes} {localIp : InAddr} {run : List ClientOp}
    {a : SockaddrIn}
    (known : ((clientMachine username localIp).exec run).users.findAddress u = some a) :
    ∃ bytes t₁ t₂ msg, .received bytes a t₁ t₂ ∈ run ∧ parseSecpLine bytes = some msg ∧
      msg.type = .Presence ∧ msg.username = u ∧ u ≠ username := by
  rw [exec_users] at known
  obtain ⟨pre, bytes, t, post, split, accepted, -⟩ :=
    (UserDirectory.findAddress_iff username _ u a).1 known
  obtain ⟨msg, parsed, accepted⟩ := Option.bind_eq_some_iff.1 accepted
  split at accepted
  next checks =>
    have here : DirectoryOp.presence bytes a t ∈ run.flatMap ClientOp.directory := by simp [split]
    obtain ⟨op, hop, here⟩ := List.mem_flatMap.1 here
    obtain rfl := Option.some.inj accepted
    cases op with
    | received bytes' src t₁ t₂ =>
      simp only [ClientOp.directory] at here
      cases parsed' : parseSecpLine bytes' with
      | none => simp [parsed'] at here
      | some msg' =>
        simp only [parsed', Option.elim_some] at here
        split at here
        · simp at here
          obtain ⟨rfl, rfl, rfl⟩ := here
          exact ⟨bytes, t, t₂, msg, hop, parsed, checks.1, rfl, checks.2.1⟩
        · simp at here
    | _ => simp [ClientOp.directory] at here
  · cases accepted

/-- Where a session comes from: its address is, up to the port, the source of a datagram, and
its id was drawn or is that of an INVITE. -/
structure SessionOrigin (run : List ClientOp) (k : Bytes) (s : Session) : Prop where
  received : ∃ bytes src t₁ t₂, .received bytes src t₁ t₂ ∈ run ∧
    s.peerAddr = makeUnicastDest src kUdpPort
  named : (∃ draw, makeSessionId draw = k) ∨ ∃ bytes src t₁ t₂ msg,
    .received bytes src t₁ t₂ ∈ run ∧ parseSecpLine bytes = some msg ∧ msg.type = .Invite ∧
      msg.room = k

theorem SessionOrigin.later {run : List ClientOp} {k : Bytes} {s : Session}
    (h : SessionOrigin run k s) (op : ClientOp) : SessionOrigin (run ++ [op]) k s := by
  obtain ⟨⟨bytes, src, t₁, t₂, got, same⟩, named⟩ := h
  refine ⟨⟨bytes, src, t₁, t₂, List.mem_append_left _ got, same⟩, ?_⟩
  rcases named with drawn | ⟨bytes, src, t₁, t₂, msg, got, rest⟩
  · exact .inl drawn
  · exact .inr ⟨bytes, src, t₁, t₂, msg, List.mem_append_left _ got, rest⟩

theorem session_origin (username : Bytes) (localIp : InAddr) (run : List ClientOp) :
    ∀ (k : Bytes) s, ((clientMachine username localIp).exec run).direct.sessions[k]? = some s →
      SessionOrigin run k s := by
  induction run using List.reverseRecOn with
  | nil =>
    intro k s found
    simp [clientMachine, Client.init, DirectMessageService.init] at found
  | append_singleton run op ih =>
    intro k s' found
    rw [Machine.exec_snoc] at found
    change (Client.step _ op).direct.sessions[k]? = some s' at found
    rw [Client.step_direct] at found
    have here : op ∈ run ++ [op] := List.mem_append_right run (List.mem_singleton_self op)
    cases contained : op.direct ((clientMachine username localIp).exec run).users with
    | none =>
      rw [contained] at found
      exact (ih k s' found).later op
    | some dop =>
      have m := ((clientMachine username localIp).exec run).direct.step_move dop k
      rw [contained, Option.elim_some] at found
      rw [found] at m
      cases before : ((clientMachine username localIp).exec run).direct.sessions[k]? with
      | some s =>
        rw [before] at m
        have same := (m.sameBinding rfl rfl).peerAddr
        obtain ⟨⟨bytes, src, t₁, t₂, got, addr⟩, named⟩ := (ih k s before).later op
        exact ⟨⟨bytes, src, t₁, t₂, got, same.trans addr⟩, named⟩
      | none =>
        rw [before] at m
        cases m with
        | invite valid other known key =>
          cases op <;> cases contained
          obtain ⟨bytes, t₁, t₂, -, got, -⟩ := findAddress_received known
          exact ⟨⟨bytes, _, t₁, t₂, List.mem_append_left _ got, rfl⟩, .inl ⟨_, key⟩⟩
        | invited parsed type key named payload =>
          cases op <;> cases contained
          exact ⟨⟨_, _, _, _, here, rfl⟩, .inr ⟨_, _, _, _, _, here, parsed, type, key⟩⟩

/-- An entry of the registry comes from a ROOM_ANNOUNCE that was received at the time it has. -/
theorem registry_advert {username k : Bytes} {localIp : InAddr} {run : List ClientOp}
    {room : AdvertisedGroupRoom}
    (found : ((clientMachine username localIp).exec run).groups.registry[k]? = some room) :
    ∃ bytes src t₂ msg, .received bytes src room.lastAdvert t₂ ∈ run ∧
      parseSecpLine bytes = some msg ∧ msg.type = .RoomAnnounce ∧ msg.room = k := by
  have held : ((clientMachine username localIp).exec run).groups.adverts k =
      some ((), room.lastAdvert) := by
    simp [GroupRoomCoordinator.adverts, found]
  rw [exec_groups,
    (exec_eq_of_simulates (GroupRoomCoordinator.registry_simulates localIp username) _).2,
    exec_eq_some_iff, left_flatMap] at held
  obtain ⟨pre, gop, post, split, ⟨before, after, put, -⟩, -⟩ := held
  have announced : .put k () room.lastAdvert ∈ GroupRoomCoordinator.events gop := by simp [put]
  have here : gop ∈ run.filterMap ClientOp.groups := by simp [split]
  obtain ⟨op, hop, contained⟩ := List.mem_filterMap.1 here
  cases gop with
  | onRoomAnnounce msg advertised pruned =>
    simp only [GroupRoomCoordinator.events] at announced
    split at announced
    · simp only [List.mem_cons, Event.put.injEq, reduceCtorEq, List.not_mem_nil, or_false]
        at announced
      cases op with
      | received bytes src t₁ t₂ =>
        obtain ⟨msg', parsed, contained⟩ := Option.bind_eq_some_iff.1 contained
        split at contained
        next type =>
          cases contained
          obtain ⟨key, -, time⟩ := announced
          rw [time]
          exact ⟨bytes, src, _, msg, hop, parsed, type, key.symm⟩
        · cases contained
        · cases contained
      | _ => cases contained
    · simp at announced
  | joinRoom now calls name =>
    simp only [GroupRoomCoordinator.events] at announced
    split at announced <;> simp at announced
  | _ => simp [GroupRoomCoordinator.events] at announced

theorem registry_received {username k : Bytes} {localIp : InAddr} {run : List ClientOp}
    {room : AdvertisedGroupRoom}
    (found : ((clientMachine username localIp).exec run).groups.registry[k]? = some room) :
    ∃ bytes src t₁ t₂ msg, .received bytes src t₁ t₂ ∈ run ∧ parseSecpLine bytes = some msg ∧
      msg.type = .RoomAnnounce ∧ msg.room = k := by
  obtain ⟨bytes, src, t₂, msg, received⟩ := registry_advert found
  exact ⟨bytes, src, _, t₂, msg, received⟩

end SecpChat
