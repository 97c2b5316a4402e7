import SecpChat.App.Client

/-!
# The dialogues of the menu (`app/text_menu.cpp`)

What a dialogue of the menu makes of the line that ends it is an `Answer`: one operation at
most, and what is printed. A prompt reads its lines in one go; standard input is the list of
the lines it still delivers, and the prompt returns false where `getline` fails. The loop of
`App/MenuLoop.lean` comes to the same answers one line at a time. The texts that ask for a
line are left out.
-/

namespace SecpChat

/-- `print_line` and `print_error`. -/
inductive Printed where
  | line (msg : Bytes)
  | error (msg : Bytes)
  deriving DecidableEq, Repr

/-- What a dialogue comes to. -/
structure Answer where
  op : Option ClientOp
  printed : List Printed

namespace Answer

/-- Nothing is done. -/
def say (printed : List Printed) : Answer := ⟨none, printed⟩

/-- A service is called, and its result told. -/
def call (op : ClientOp) (printed : List Printed) : Answer := ⟨some op, printed⟩

end Answer

/-- What a prompt leaves, does, prints and has not read; `continues` is what it returns. -/
structure Reply where
  client : Client
  effects : List Effect
  printed : List Printed
  stdin : List Bytes
  continues : Bool

/-- The reply, after something has been printed. -/
def Reply.after (printed : List Printed) (r : Reply) : Reply :=
  { r with printed := printed ++ r.printed }

namespace Client

variable (c : Client)

def say (printed : List Printed) (stdin : List Bytes) : Reply := ⟨c, [], printed, stdin, true⟩

/-- `return false` -/
def endOfInput (printed : List Printed) : Reply := ⟨c, [], printed, [], false⟩

/-- The answer is carried out. -/
def reply (a : Answer) (stdin : List Bytes) : Reply :=
  match a.op with
  | none => c.say a.printed stdin
  | some op => ⟨c.step op, c.effects op, a.printed, stdin, true⟩

/-! ## What becomes of the last line -/

/-- `prompt_lobby_message` -/
def onLobbyMessage (sent : Bool) (msg : Bytes) : Answer :=
  if msg = [] then .say [.line (lit "(Ingen melding sendt.)")]
  else if msg.length > kMaxChatMessageBytes then .say [.error (lit "Meldingen er for lang.")]
  else
    .call (.lobbyChat sent msg)
      [if (LobbyService.sendChat sent c.username msg).1 = false then
        .error (lit "Kunne ikke sende til USN Chat.")
      else .line (lit "[USN Chat] " ++ c.username ++ lit ": " ++ msg)]

/-- `prompt_create_group` -/
def onCreateGroup (calls : ChannelCalls) (sent : Bool) (name : Bytes) : Answer :=
  if name = [] then .say [.error (lit "Navn kan ikke være tomt.")]
  else if name.length > kMaxRoomNameBytes then .say [.error (lit "Navnet er for langt.")]
  else
    let o := c.groups.createRoom calls sent name
    .call (.createRoom calls sent name)
      (if o.value = false then
        [.error (lit "Kunne ikke opprette grupperom (nettverk/port opptatt?).")]
      else match o.state.activeRoomId with
        | some id => [.line (lit "Grupperom opprettet. Romnavn: " ++ id)]
        | none => [])

/-- `prompt_join_group` -/
def onJoinGroup (now : Int) (calls : ChannelCalls) (room : Bytes) : Answer :=
  if room = [] then .say [.error (lit "Romnavn kan ikke være tomt.")]
  else if room.length > kMaxRoomNameBytes then .say [.error (lit "Romnavn er for langt.")]
  else
    .call (.joinRoom now calls room)
      [if (c.groups.joinRoom now calls room).value = false then
        .error (lit "Kunne ikke bli med (ukjent rom, allerede medlem, eller nettverksfeil).")
      else .line (lit "Du er nå med i rom " ++ room ++ lit ".")]

/-- What `prompt_group_chat` says to a client in no room. -/
def noGroup : Printed := .error (lit "Du er ikke med i noe grupperom (bruk 5).")

/-- `prompt_group_chat`, once it has the message. -/
def onGroupChat (sent : Bool) (msg : Bytes) : Answer :=
  if msg = [] then .say [.line (lit "(Ingen melding sendt.)")]
  else if msg.length > kMaxChatMessageBytes then .say [.error (lit "Meldingen er for lang.")]
  else
    match c.groups.activeRoomId with
    | none => .say [.error (lit "Ingen aktiv gruppe.")]
    | some id =>
      .call (.sendGroupChat sent msg)
        [if (c.groups.sendGroupChat sent msg).value = false then
          .error (lit "Sending til multicast feilet.")
        else .line (lit "[Gruppe " ++ id ++ lit "] " ++ c.username ++ lit ": " ++ msg)]

/-- Choice 8. -/
def onInviteName (draw : Fin 0x1000000) (now : Int) (sent : Bool) (who : Bytes) : Answer :=
  if who = [] then .say [.error (lit "Tomt brukernavn.")]
  else if who.length > kMaxUsernameBytes then .say [.error (lit "Brukernavn er for langt.")]
  else
    .call (.inviteUser draw now sent who)
      [match (c.direct.inviteUser c.users draw now sent who).value with
        | none => .error (lit "Kunne ikke sende invitasjon (ukjent bruker / nettverksfeil).")
        | some sid => .line (lit "Invitasjon sendt. Session-ID: " ++ sid)]

/-- What choices 9 and 10 say of a session id that they do not take. -/
def sessionRefused (sid : Bytes) : Option (List Printed) :=
  if sid = [] then some []
  else if sid.length > 32 then some [.error (lit "Session-id er for lang.")]
  else none

/-- Choice 9, with the answer `a`. -/
def onAccept (now : Int) (sid : Bytes) : Answer :=
  .call (.acceptInvite now sid)
    (if (c.direct.acceptInvite now sid).value = false then
      [.error (lit "Kunne ikke akseptere (finnes session? er den pending?).")]
    else [])

/-- Choice 9, with the answer `d` and a reason. -/
def onDecline (sid reason : Bytes) : Answer :=
  .call (.declineInvite sid reason)
    (if (c.direct.declineInvite sid reason).value = false then
      [.error (lit "Kunne ikke avslå (finnes session? er den pending?).")]
    else [])

/-- Choice 10, once it has the message. -/
def onPrivateText (sent : Bool) (sid msg : Bytes) : Answer :=
  if msg = [] then .say []
  else if msg.length > kMaxChatMessageBytes then .say [.error (lit "Meldingen er for lang.")]
  else
    .call (.sendPrivateChat sent sid msg)
      [if (c.direct.sendPrivateChat sent sid msg).value = false then
        .error (lit "Kunne ikke sende (ukjent session eller ikke aktiv).")
      else .line (lit "[Privat " ++ sid ++ lit "] " ++ c.username ++ lit ": " ++ msg)]

/-- The list that choice 9 shows. -/
def printPending (pending : List PendingInviteInfo) : List Printed :=
  .line (lit "\n--- Pending invitasjoner (" ++ lit (toString pending.length) ++ lit ") ---") ::
    if pending = [] then [.line (lit "  (ingen)")]
    else pending.map fun p =>
      .line (lit "  Session " ++ p.sessionId ++ lit " fra " ++ p.fromUsername)

/-- The list that choices 10 and 11 show. -/
def printActive (active : List ActiveDirectSessionInfo) : List Printed :=
  .line (lit "\n--- Aktive private samtaler (" ++ lit (toString active.length) ++ lit ") ---") ::
    if active = [] then [.line (lit "  (ingen)")]
    else active.map fun s => .line (lit "  Session " ++ s.sessionId ++ lit " med " ++
      s.peerUsername ++ lit " @ " ++ s.peerIp)

/-! ## The prompts in one go -/

/-- A prompt that reads one line. -/
def prompt (answer : Bytes → Answer) : List Bytes → Reply
  | [] => c.endOfInput []
  | line :: stdin => c.reply (answer (trimInPlace line)) stdin

def promptLobbyMessage (sent : Bool) : List Bytes → Reply := c.prompt (c.onLobbyMessage sent)

def promptCreateGroup (calls : ChannelCalls) (sent : Bool) : List Bytes → Reply :=
  c.prompt (c.onCreateGroup calls sent)

def promptJoinGroup (now : Int) (calls : ChannelCalls) : List Bytes → Reply :=
  c.prompt (c.onJoinGroup now calls)

def promptGroupChat (sent : Bool) (stdin : List Bytes) : Reply :=
  if c.groups.hasActiveMembership = false then c.say [noGroup] stdin
  else c.prompt (c.onGroupChat sent) stdin

/-- Choice 10. -/
def choosePrivate (sent : Bool) (stdin : List Bytes) : Reply :=
  let active := c.direct.snapshotActiveSessions
  if active = [] then c.say (printActive active) stdin
  else
    Reply.after (printActive active) <| match stdin with
      | [] => c.endOfInput []
      | line :: stdin =>
        let sid := trimInPlace line
        match sessionRefused sid with
        | some printed => c.say printed stdin
        | none => c.prompt (c.onPrivateText sent sid) stdin

end Client

end SecpChat
