import SecpChat.Protocol.Secp
import SecpChat.State.UserDirectory

/-!
# Private sessions (`services/direct_message_service.cpp`)

The session table of `DirectMessageService` and its operations, one definition each.
Clock readings, the random draw of `make_session_id` and the outcomes of `send_to` are
arguments. `socket_` and `users_` are bound to references by the constructor and never
null; `main` installs the callbacks before any thread starts. Log lines are left out.
-/

namespace SecpChat

inductive DirectSessionState where
  | OutgoingPending | IncomingPending | Active
  deriving DecidableEq, Repr

structure Session where
  state : DirectSessionState
  sessionId : Bytes
  peerUsername : Bytes
  peerAddr : SockaddrIn
  createdAt : Int
  lastSent : Int
  lastUpdate : Int
  deriving DecidableEq, Repr

structure PendingInviteInfo where
  sessionId : Bytes
  fromUsername : Bytes
  toUsername : Bytes
  deriving DecidableEq, Repr

structure ActiveDirectSessionInfo where
  sessionId : Bytes
  peerUsername : Bytes
  peerIp : Bytes
  deriving DecidableEq, Repr

structure DirectMessageService where
  selfUsername : Bytes
  sessions : Table Session

def makeUnicastDest (peer : SockaddrIn) (port : UInt16) : SockaddrIn :=
  { peer with sinPort := port }

def sameEndpoint (a b : SockaddrIn) : Bool :=
  a.sinFamily == b.sinFamily && a.sinPort == b.sinPort && a.sinAddr == b.sinAddr

/-- A digit of `%x`. -/
def hexDigit (n : Nat) : UInt8 := if n < 10 then UInt8.ofNat (48 + n) else UInt8.ofNat (87 + n)

/-- `make_session_id`: `%06x` of a draw from `0 .. 0xFFFFFF`. -/
def makeSessionId (draw : Fin 0x1000000) : Bytes :=
  [hexDigit (draw.val / 0x100000), hexDigit (draw.val / 0x10000 % 16),
    hexDigit (draw.val / 0x1000 % 16), hexDigit (draw.val / 0x100 % 16),
    hexDigit (draw.val / 0x10 % 16), hexDigit (draw.val % 16)]

def closedTo : Bytes := lit "CLOSED;to="

/-- What `on_invite` tells the user. -/
def invitationNotice (user room : Bytes) : Bytes :=
  lit "Innkommende INVITE (lukket rom) fra \"" ++ user ++ lit "\". Rom: " ++ room ++
    lit " (bruk meny for å svare)."

namespace DirectMessageService

def init (selfUsername : Bytes) : DirectMessageService := ⟨selfUsername, ∅⟩

/-- `invite_user`. The session is inserted before the line is built and sent, and stays
when either fails. -/
def inviteUser (d : DirectMessageService) (users : UserDirectory) (draw : Fin 0x1000000)
    (now : Int) (sent : Bool) (targetUsername : Bytes) :
    Outcome DirectMessageService (Option Bytes) :=
  let target := trimInPlace targetUsername
  if target = [] ∨ target.length > kMaxUsernameBytes ∨ target = d.selfUsername then ⟨d, none, []⟩
  else
    match users.findAddress target with
    | none =>
      ⟨d, none, [.status (lit "Fant ikke bruker \"" ++ target ++ lit "\" i aktiv bruker-liste.")]⟩
    | some addr =>
      let dest := makeUnicastDest addr kUdpPort
      let sid := makeSessionId draw
      if d.sessions.contains sid then ⟨d, none, []⟩
      else
        let s : Session := ⟨.OutgoingPending, sid, target, dest, now, now, now⟩
        let d' := { d with sessions := d.sessions.insert sid s }
        let line := buildSecpLine .Invite sid d.selfUsername (closedTo ++ target)
        if line = [] then ⟨d', none, []⟩
        else if sent = false then
          ⟨d', none, [.sendTo dest line false,
            .status (lit "Kunne ikke sende invitasjon (sendto feilet).")]⟩
        else
          ⟨d', some sid, [.sendTo dest line true,
            .status (lit "Sendte invitasjon til \"" ++ target ++ lit "\" (session " ++ sid ++
              lit ").")]⟩

def acceptInvite (d : DirectMessageService) (now : Int) (roomName : Bytes) :
    Outcome DirectMessageService Bool :=
  let room := trimInPlace roomName
  if room = [] ∨ room.length > kMaxRoomNameBytes then ⟨d, false, []⟩
  else
    match d.sessions[room]? with
    | none => ⟨d, false, []⟩
    | some s =>
      if s.state ≠ .IncomingPending then ⟨d, false, []⟩
      else
        let s' := { s with state := .Active, lastUpdate := now }
        ⟨{ d with sessions := d.sessions.insert room s' }, true,
          [.status (lit "Aksepterte INVITE fra \"" ++ s.peerUsername ++ lit "\" (rom " ++ room ++
            lit ").")]⟩

def declineInvite (d : DirectMessageService) (roomName reason : Bytes) :
    Outcome DirectMessageService Bool :=
  let room := trimInPlace roomName
  if room = [] ∨ room.length > kMaxRoomNameBytes then ⟨d, false, []⟩
  else
    let rs := (trimInPlace reason).take kMaxChatMessageBytes
    match d.sessions[room]? with
    | none => ⟨d, false, []⟩
    | some s =>
      if s.state ≠ .IncomingPending then ⟨d, false, []⟩
      else
        let head :=
          lit "Avslo INVITE fra \"" ++ s.peerUsername ++ lit "\" (rom " ++ room ++ lit ")."
        ⟨{ d with sessions := d.sessions.erase room }, true,
          [.status (if rs = [] then head else head ++ lit " Grunn: " ++ rs)]⟩

def sendPrivateChat (d : DirectMessageService) (sent : Bool) (sessionId text : Bytes) :
    Outcome DirectMessageService Bool :=
  let sid := trimInPlace sessionId
  if sid.length > 32 then ⟨d, false, []⟩
  else
    let msg := trimInPlace text
    if sid = [] ∨ msg = [] ∨ msg.length > kMaxChatMessageBytes then ⟨d, false, []⟩
    else
      match d.sessions[sid]? with
      | none => ⟨d, false, []⟩
      | some s =>
        if s.state ≠ .Active then ⟨d, false, []⟩
        else
          let line := buildSecpLine .Chat sid d.selfUsername msg
          if line = [] then ⟨d, false, []⟩ else ⟨d, sent, [.sendTo s.peerAddr line sent]⟩

/-- `on_invite`; `created` and `updated` are its two clock readings. -/
def onInvite (d : DirectMessageService) (msg : SecpMessage) (src : SockaddrIn)
    (created updated : Int) : Outcome DirectMessageService Unit :=
  if msg.type ≠ .Invite then ⟨d, (), []⟩
  else if msg.room = [] ∨ msg.room = lit "-" ∨ msg.username = [] ∨ msg.payload = [] then ⟨d, (), []⟩
  else if ¬ closedTo <+: msg.payload then ⟨d, (), []⟩
  else if msg.payload.drop closedTo.length ≠ d.selfUsername then ⟨d, (), []⟩
  else if d.sessions.contains msg.room then ⟨d, (), []⟩
  else
    let s : Session := ⟨.IncomingPending, msg.room, msg.username, makeUnicastDest src kUdpPort,
      created, 0, updated⟩
    ⟨{ d with sessions := d.sessions.insert msg.room s }, (),
      [.status (invitationNotice msg.username msg.room)]⟩

def onRoomChat (d : DirectMessageService) (msg : SecpMessage) (src : SockaddrIn) (now : Int) :
    Outcome DirectMessageService Unit :=
  if msg.type ≠ .Chat then ⟨d, (), []⟩
  else if msg.room = [] ∨ msg.room = lit "-" ∨ msg.username = [] ∨ msg.payload = [] then ⟨d, (), []⟩
  else
    match d.sessions[msg.room]? with
    | none => ⟨d, (), []⟩
    | some s =>
      if sameEndpoint s.peerAddr (makeUnicastDest src kUdpPort) = false then ⟨d, (), []⟩
      else if s.peerUsername ≠ [] ∧ msg.username ≠ s.peerUsername then ⟨d, (), []⟩
      else
        -- no explicit ACCEPT: the first valid CHAT from the peer is the acceptance
        let s' :=
          if s.state = .OutgoingPending then { s with state := .Active, lastUpdate := now } else s
        let d' := { d with sessions := d.sessions.insert msg.room s' }
        if s'.state ≠ .Active then ⟨d', (), []⟩
        else
          let sender := if s'.peerUsername = [] then msg.username else s'.peerUsername
          ⟨d', (), [.privateMessage msg.room sender msg.payload]⟩

def snapshotPendingInvites (d : DirectMessageService) : List PendingInviteInfo :=
  d.sessions.toList.filterMap fun (sid, s) =>
    if s.state = .IncomingPending then some ⟨sid, s.peerUsername, d.selfUsername⟩ else none

def snapshotActiveSessions (d : DirectMessageService) : List ActiveDirectSessionInfo :=
  d.sessions.toList.filterMap fun (sid, s) =>
    if s.state = .Active then some ⟨sid, s.peerUsername, inetNtop s.peerAddr.sinAddr⟩ else none

/-- `for (sid : expired) sessions_.erase(sid)` -/
def eraseAll (sessions : Table Session) (expired : List Bytes) : Table Session :=
  expired.foldl (fun t sid => t.erase sid) sessions

/-- The test of `prune_pending` on one session. -/
def isStale (maxAge now : Int) (s : Session) : Bool :=
  (s.state == .IncomingPending || s.state == .OutgoingPending) &&
    decide (now - s.lastUpdate > maxAge)

def prunePending (d : DirectMessageService) (maxAge now : Int) :
    Outcome DirectMessageService Unit :=
  let expired := (d.sessions.toList.filter fun e => isStale maxAge now e.2).map Prod.fst
  ⟨{ d with sessions := eraseAll d.sessions expired }, (),
    expired.map fun sid => .status (lit "Session utløpt (ingen svar): " ++ sid)⟩

/-- What `resend_outgoing_pending` does with one session of the table. -/
inductive ResendVisit where
  | skip | expire | resend
  deriving DecidableEq, Repr

def resendVisit (minInterval maxAge now : Int) (s : Session) : ResendVisit :=
  if s.state ≠ .OutgoingPending then .skip
  else if s.createdAt ≠ 0 ∧ now - s.createdAt > maxAge then .expire
  else if s.lastSent ≠ 0 ∧ now - s.lastSent < minInterval then .skip
  else .resend

/-- `resend_outgoing_pending`; `sent` is the outcome of each session's `send_to`. -/
def resendOutgoingPending (d : DirectMessageService) (minInterval maxAge now : Int)
    (sent : Bytes → Bool) : Outcome DirectMessageService Unit :=
  let visit := resendVisit minInterval maxAge now
  let expired := (d.sessions.toList.filter fun e => visit e.2 == .expire).map Prod.fst
  let resend := d.sessions.toList.filter fun e => visit e.2 == .resend
  let touched := d.sessions.map fun _ s =>
    if visit s = .resend then { s with lastSent := now, lastUpdate := now } else s
  ⟨{ d with sessions := eraseAll touched expired }, (),
    (resend.flatMap fun (sid, s) =>
      let line := buildSecpLine .Invite sid d.selfUsername (closedTo ++ s.peerUsername)
      if line = [] then [] else [.sendTo s.peerAddr line (sent sid)]) ++
    expired.map fun sid => .status (lit "Invitasjon utløpt (ingen svar): " ++ sid)⟩

/-- The part of `handle_datagram` that concerns private sessions. -/
def receive (d : DirectMessageService) (bytes : Bytes) (src : SockaddrIn) (t₁ t₂ : Int) :
    Outcome DirectMessageService Unit :=
  match parseSecpLine bytes with
  | none => ⟨d, (), []⟩
  | some msg =>
    match msg.type with
    | .Invite => d.onInvite msg src t₁ t₂
    | .Chat => d.onRoomChat msg src t₁
    | _ => ⟨d, (), []⟩

end DirectMessageService

/-- The operations on a client's sessions, with everything the environment decides. -/
inductive DirectOp where
  | inviteUser (users : UserDirectory) (draw : Fin 0x1000000) (now : Int) (sent : Bool)
      (target : Bytes)
  | acceptInvite (now : Int) (room : Bytes)
  | declineInvite (room reason : Bytes)
  | sendPrivateChat (sent : Bool) (sid text : Bytes)
  | prunePending (maxAge now : Int)
  | resendOutgoingPending (minInterval maxAge now : Int) (sent : Bytes → Bool)
  | received (bytes : Bytes) (src : SockaddrIn) (t₁ t₂ : Int)

namespace DirectMessageService

/-- The effect of an operation: the service after it and what it did. -/
def perform (d : DirectMessageService) : DirectOp → DirectMessageService × List Effect
  | .inviteUser users draw now sent target =>
    let o := d.inviteUser users draw now sent target; (o.state, o.effects)
  | .acceptInvite now room => let o := d.acceptInvite now room; (o.state, o.effects)
  | .declineInvite room reason => let o := d.declineInvite room reason; (o.state, o.effects)
  | .sendPrivateChat sent sid text => let o := d.sendPrivateChat sent sid text; (o.state, o.effects)
  | .prunePending maxAge now => let o := d.prunePending maxAge now; (o.state, o.effects)
  | .resendOutgoingPending minInterval maxAge now sent =>
    let o := d.resendOutgoingPending minInterval maxAge now sent; (o.state, o.effects)
  | .received bytes src t₁ t₂ => let o := d.receive bytes src t₁ t₂; (o.state, o.effects)

def step (d : DirectMessageService) (op : DirectOp) : DirectMessageService := (d.perform op).1

def effects (d : DirectMessageService) (op : DirectOp) : List Effect := (d.perform op).2

end DirectMessageService

end SecpChat
