import SecpChat.App.Origin
import SecpChat.App.RemoteLimits
import SecpChat.Services.OwnedRoom

/-!
# What a client sends

The datagrams of a whole client, from whichever thread: `Emits` lists the messages with the
operation that sends each, its destination and what the state must be for it.
`emits_of_sends` says that there are no others; in particular nothing that is received
makes a client answer.
-/

namespace SecpChat

open Runs

namespace GroupRoomCoordinator

theorem broadcastOwnedAdvert_sends {g : GroupRoomCoordinator} {sent ok : Bool} {dest : SockaddrIn}
    {line : Bytes} (h : .sendTo dest line ok ∈ (g.broadcastOwnedAdvert sent).effects) :
    dest = broadcastDest ∧ ∃ owned, g.owned = some owned ∧
      parseSecpLine line = some ⟨.RoomAnnounce, owned.roomName, g.username, lit "OPEN"⟩ := by
  unfold broadcastOwnedAdvert at h
  split at h
  · cases h
  next owned mine =>
  simp only at h
  split at h
  · cases h
  next built =>
  rw [List.mem_singleton, Effect.sendTo.injEq] at h
  obtain ⟨rfl, rfl, -⟩ := h
  exact ⟨rfl, owned, mine, parse_build built⟩

end GroupRoomCoordinator

namespace DiscoveryService

theorem sendPresenceBroadcast_sends {d : DiscoveryService} {sent ok : Bool} {dest : SockaddrIn}
    {line : Bytes} (h : .sendTo dest line ok ∈ (d.sendPresenceBroadcast sent).2) :
    dest = broadcastDest ∧
      parseSecpLine line = some ⟨.Presence, lit "-", d.username, inetNtop d.ipv4⟩ := by
  unfold sendPresenceBroadcast at h
  split at h
  · cases h
  simp only at h
  split at h
  · cases h
  next built =>
  rw [List.mem_singleton, Effect.sendTo.injEq] at h
  obtain ⟨rfl, rfl, -⟩ := h
  exact ⟨rfl, parse_build built⟩

end DiscoveryService

namespace DirectMessageService

/-- What `invite_user` sends is an INVITE. -/
theorem inviteUser_line {d : DirectMessageService} {users : UserDirectory} {draw : Fin 0x1000000}
    {now : Int} {sent ok : Bool} {target line : Bytes} {dest : SockaddrIn}
    (h : .sendTo dest line ok ∈ (d.inviteUser users draw now sent target).effects) :
    ∃ room username payload, parseSecpLine line = some ⟨.Invite, room, username, payload⟩ := by
  by_cases admitted : ∃ addr, d.Admits users draw target addr
  · obtain ⟨addr, admits⟩ := admitted
    obtain ⟨-, -, told, effects⟩ := d.inviteUser_admitted users draw now sent target admits
    rw [effects] at h
    split at h
    · cases h
    next built =>
    simp only [List.mem_cons, Effect.sendTo.injEq, reduceCtorEq, List.not_mem_nil, or_false] at h
    rw [h.2.1]
    exact ⟨_, _, _, parse_build built⟩
  · have quiet := (d.inviteUser_refused users draw now sent target (not_exists.1 admitted)).2.2
    exact (Quiet.not_sendTo quiet h).elim

end DirectMessageService

namespace Client

/-- The operation, in the state `c`, hands a line with the message to a socket for `dest`. -/
inductive Emits (c : Client) : ClientOp → SockaddrIn → SecpMessage → Prop where
  | presence {sent : Bool} : Emits c (.sendPresence sent) broadcastDest
      ⟨.Presence, lit "-", c.discovery.username, inetNtop c.discovery.ipv4⟩
  | announce {op : ClientOp} {owned : OwnedRoom} (mine : (c.step op).groups.owned = some owned) :
      Emits c op broadcastDest ⟨.RoomAnnounce, owned.roomName, c.groups.username, lit "OPEN"⟩
  | invite {op : ClientOp} {dop : DirectOp} {dest : SockaddrIn} {msg : SecpMessage} {s : Session}
      (contained : op.direct c.users = some dop) (type : msg.type = .Invite)
      (carries : (c.step op).direct.Carries dest msg s) : Emits c op dest msg
  | lobbyChat {sent : Bool} {text : Bytes} : Emits c (.lobbyChat sent text) broadcastDest
      ⟨.Chat, usnChat, trimInPlace c.username, trimInPlace text⟩
  | groupChat {sent : Bool} {text : Bytes} (active : c.groups.activeRoomName ≠ [])
      (socket : c.groups.mcastSock ≠ none) : Emits c (.sendGroupChat sent text)
      ⟨AF_INET, c.groups.joinedPort, c.groups.joinedGroup⟩
      ⟨.Chat, c.groups.activeRoomName, c.groups.username, trimInPlace text⟩
  | privateChat {sent : Bool} {sid text : Bytes} {s : Session}
      (found : c.direct.sessions[trimInPlace sid]? = some s) (active : s.state = .Active) :
      Emits c (.sendPrivateChat sent sid text) s.peerAddr
      ⟨.Chat, trimInPlace sid, c.direct.selfUsername, trimInPlace text⟩

variable {c : Client} {op : ClientOp} {dest : SockaddrIn} {line : Bytes} {ok : Bool}

section Kinds

variable {msg : SecpMessage} (h : c.Emits op dest msg)

include h

theorem Emits.of_presence (type : msg.type = .Presence) :
    msg = ⟨.Presence, lit "-", c.discovery.username, inetNtop c.discovery.ipv4⟩ := by
  cases h with
  | presence => rfl
  | invite _ invite => exact SecpType.noConfusion (invite.symm.trans type)
  | _ => cases type

theorem Emits.of_invite (type : msg.type = .Invite) :
    ∃ s, (c.step op).direct.Carries dest msg s := by
  cases h with
  | invite _ _ carries => exact ⟨_, carries⟩
  | _ => cases type

end Kinds

/-- An INVITE that the private sessions send, as they are after the operation. -/
theorem emits_invite {dop : DirectOp} (contained : op.direct c.users = some dop)
    {room username payload : Bytes}
    (built : parseSecpLine line = some ⟨.Invite, room, username, payload⟩)
    (carried : ∃ msg s, parseSecpLine line = some msg ∧ (c.step op).direct.Carries dest msg s) :
    ∃ msg, parseSecpLine line = some msg ∧ c.Emits op dest msg := by
  obtain ⟨msg, s, parsed, carries⟩ := carried
  rw [built] at parsed
  cases parsed
  exact ⟨_, built, .invite contained rfl carries⟩

/-- **A client sends nothing else.** -/
theorem emits_of_sends (h : .sendTo dest line ok ∈ c.effects op) :
    ∃ msg, parseSecpLine line = some msg ∧ c.Emits op dest msg := by
  cases op with
  | received bytes src t₁ t₂ =>
    have silent := c.handleDatagram_silent ⟨bytes, src, t₁, t₂⟩ _ h
    cases silent
  | sendPresence sent =>
    obtain ⟨rfl, parsed⟩ := DiscoveryService.sendPresenceBroadcast_sends h
    exact ⟨_, parsed, .presence⟩
  | pruneStalePeers now => cases h
  | lobbyChat sent text =>
    rcases LobbyService.sendChat_cases sent c.username text with fails | ⟨-, -, -, built, sends⟩
    · rw [effects, perform, fails] at h
      cases h
    · rw [effects, perform, sends, List.mem_singleton, Effect.sendTo.injEq] at h
      obtain ⟨rfl, rfl, -⟩ := h
      exact ⟨_, parse_build built, .lobbyChat⟩
  | createRoom calls sent name =>
    have advert := GroupRoomCoordinator.createRoom_sends h
    obtain ⟨rfl, owned, mine, parsed⟩ := GroupRoomCoordinator.broadcastOwnedAdvert_sends advert
    have username : (c.groups.createRoom calls sent name).state.username = c.groups.username :=
      GroupRoomCoordinator.step_username (.createRoom calls sent name)
    rw [username] at parsed
    exact ⟨_, parsed, .announce mine⟩
  | listAdvertisedRooms now => cases h
  | joinRoom now calls room => exact (GroupRoomCoordinator.joinRoom_sends h).elim
  | leaveRoom dropped =>
    have left : .sendTo dest line ok ∈ (c.groups.leaveMulticastMembershipUnlocked dropped).effects := by
      simp only [effects, perform, onGroups, GroupRoomCoordinator.perform,
        GroupRoomCoordinator.leaveRoom] at h
      split at h <;> exact h
    exact (GroupRoomCoordinator.leaveMulticastMembershipUnlocked_sends dropped left).elim
  | sendGroupChat sent text =>
    rcases c.groups.sendGroupChat_cases sent text with
      fails | ⟨-, -, active, socket, built, sends⟩
    · simp [effects, perform, onGroups, GroupRoomCoordinator.perform, fails] at h
    · simp only [effects, perform, onGroups, GroupRoomCoordinator.perform, sends,
        List.mem_singleton, Effect.sendTo.injEq] at h
      obtain ⟨rfl, rfl, -⟩ := h
      exact ⟨_, parse_build built, .groupChat active socket⟩
  | broadcastOwnedAdvert sent =>
    obtain ⟨rfl, owned, mine, parsed⟩ := GroupRoomCoordinator.broadcastOwnedAdvert_sends h
    refine ⟨_, parsed, .announce ?_⟩
    rw [step_groups]
    exact (congrArg GroupRoomCoordinator.owned
      (c.groups.broadcastOwnedAdvert_state sent)).trans mine
  | inviteUser draw now sent target =>
    obtain ⟨room, username, payload, built⟩ := DirectMessageService.inviteUser_line h
    exact emits_invite rfl built (DirectMessageService.inviteUser_sends h)
  | acceptInvite now room => exact ((c.direct.acceptInvite_quiet now room).not_sendTo h).elim
  | declineInvite room reason => exact ((c.direct.declineInvite_quiet room reason).not_sendTo h).elim
  | sendPrivateChat sent sid text =>
    rcases c.direct.sendPrivateChat_cases sent sid text with
      fails | ⟨-, -, built, s, found, active, sends⟩
    · simp [effects, perform, onDirect, DirectMessageService.perform, fails] at h
    · simp only [effects, perform, onDirect, DirectMessageService.perform, sends,
        List.mem_singleton, Effect.sendTo.injEq] at h
      obtain ⟨rfl, rfl, -⟩ := h
      exact ⟨_, parse_build built, .privateChat found active⟩
  | prunePending maxAge now => exact ((c.direct.prunePending_quiet maxAge now).not_sendTo h).elim
  | resendOutgoingPending minInterval maxAge now sent =>
    obtain ⟨sid, s, -, -, -, rfl, nonempty⟩ := DirectMessageService.resendOutgoingPending_line h
    exact emits_invite rfl (parse_build nonempty)
      (DirectMessageService.resendOutgoingPending_sends h)

end Client

end SecpChat
