import SecpChat.App.Dispatch
import SecpChat.App.Menu
import SecpChat.App.MenuChoice

/-!
# The menu line by line (`run_text_menu_loop`)

While the menu waits for a line the other threads go on, so a line is answered in the
state they have left. `onLine` is the loop from one `getline` to the next; a line leads to
at most one operation and where the menu goes does not depend on what came of it. A prompt
in one go is its dialogue with nothing in between (`turn_eq_prompt`), and whatever the other
threads do, an operation of the menu is performed at the end of its own dialogue
(`menu_does_as_typed`).
-/

namespace SecpChat

open Runs

/-- The `getline` at which `run_text_menu_loop` waits, or that it has returned. -/
inductive MenuPc where
  | choice
  | lobbyMessage | createGroup | joinGroup | groupChat | invite
  | answerSession | answer (sid : Bytes) | reason (sid : Bytes)
  | privateSession | privateText (sid : Bytes)
  | returned (quit : Bool)
  deriving DecidableEq, Repr

/-- What the environment decides while a line is answered: the clock, the drawn session id
and the outcomes of the socket calls. -/
structure Surroundings where
  now : Int
  draw : Fin 0x1000000
  sent : Bool
  calls : ChannelCalls
  dropped : Bool
  deriving DecidableEq, Repr

/-- The operation that a line leads to, what is printed, and where the menu waits then. -/
structure LineReply where
  pc : MenuPc
  op : Option ClientOp
  printed : List Printed

namespace LineReply

/-- Back to the menu, having printed something. -/
def back (printed : List Printed) : LineReply := ⟨.choice, none, printed⟩

/-- The next line of the dialogue is read. -/
def ask (pc : MenuPc) (printed : List Printed) : LineReply := ⟨pc, none, printed⟩

/-- The dialogue is over. -/
def finish (a : Answer) : LineReply := ⟨.choice, a.op, a.printed⟩

end LineReply

namespace Client

open LineReply

variable (c : Client)

/-- `print_active_users` -/
def printUsers (now : Int) : List Printed :=
  let peers := c.users.snapshotPeers
  .line (lit "\n--- Aktive brukere (" ++ lit (toString peers.length) ++ lit ") ---") ::
    if peers = [] then [.line (lit "  (ingen andre oppdaget ennå)")]
    else peers.map fun p =>
      let ago := (now - p.lastSeen).tdiv (seconds 1)
      .line (lit "  " ++ p.username ++ lit " @ " ++ p.ipv4 ++ lit " — sist sett for " ++
        lit (toString ago) ++ lit " s siden")

/-- `print_advertised_rooms`, of the list that `list_advertised_rooms` returns. -/
def printRooms (rooms : List AdvertisedGroupRoom) : List Printed :=
  .line (lit "\n--- Tilgjengelige grupperom (" ++ lit (toString rooms.length) ++ lit ") ---") ::
    if rooms = [] then [.line (lit "  (ingen annonser ennå — vent noen sekunder)")]
    else rooms.map fun r => .line (lit "  Rom: " ++ r.roomName ++ lit " @ " ++ r.multicastIp ++
      lit ":" ++ lit (toString r.multicastPort.toNat))

/-- The `switch` of the loop, up to the first line it reads. -/
def onChoice (e : Surroundings) (line : Bytes) : LineReply :=
  match parseMenuChoice (trimInPlace line) with
  | none => back [.error (lit "Ugyldig valg. Skriv heltall 1–12.")]
  | some 1 => back (c.printUsers e.now)
  | some 2 => ask .lobbyMessage []
  | some 3 => ask .createGroup []
  | some 4 => finish (.call (.listAdvertisedRooms e.now)
      (printRooms (c.groups.listAdvertisedRooms e.now).value))
  | some 5 => ask .joinGroup []
  | some 6 =>
    if c.groups.hasActiveMembership = false then back [noGroup] else ask .groupChat []
  | some 7 =>
    if c.groups.hasActiveMembership = false then
      back [.error (lit "Du er ikke med i noe grupperom.")]
    else finish (.call (.leaveRoom e.dropped) [.line (lit "Du har forlatt grupperommet.")])
  | some 8 => ask .invite []
  | some 9 =>
    let pending := c.direct.snapshotPendingInvites
    if pending = [] then back (printPending pending) else ask .answerSession (printPending pending)
  | some 10 =>
    let active := c.direct.snapshotActiveSessions
    if active = [] then back (printActive active) else ask .privateSession (printActive active)
  | some 11 => back (printActive c.direct.snapshotActiveSessions)
  | some 12 => ⟨.returned true, none, []⟩
  | some _ => back []

/-- The session id of choices 9 and 10. -/
def onSession (next : Bytes → MenuPc) (sid : Bytes) : LineReply :=
  match sessionRefused sid with
  | some printed => back printed
  | none => ask (next sid) []

/-- Choice 9, once the answer is read. -/
def onAnswer (e : Surroundings) (sid ans : Bytes) : LineReply :=
  if ans = lit "a" ∨ ans = lit "A" then finish (c.onAccept e.now sid)
  else if ans = lit "d" ∨ ans = lit "D" then ask (.reason sid) []
  else back [.error (lit "Ugyldig svar (bruk a eller d).")]

/-- The loop from one `getline` to the next; a line is absent at the end of the input. -/
def onLine (e : Surroundings) : MenuPc → Option Bytes → LineReply
  | .returned quit, _ => ⟨.returned quit, none, []⟩
  | .choice, none => ⟨.returned false, none, [.error (lit "(stdin lukket — avslutter.)")]⟩
  | _, none => ⟨.returned false, none, []⟩
  | .choice, some line => c.onChoice e line
  | .lobbyMessage, some line => finish (c.onLobbyMessage e.sent (trimInPlace line))
  | .createGroup, some line => finish (c.onCreateGroup e.calls e.sent (trimInPlace line))
  | .joinGroup, some line => finish (c.onJoinGroup e.now e.calls (trimInPlace line))
  | .groupChat, some line => finish (c.onGroupChat e.sent (trimInPlace line))
  | .invite, some line => finish (c.onInviteName e.draw e.now e.sent (trimInPlace line))
  | .answerSession, some line => onSession .answer (trimInPlace line)
  | .answer sid, some line => c.onAnswer e sid (trimInPlace line)
  | .reason sid, some line => finish (c.onDecline sid (trimInPlace line))
  | .privateSession, some line => onSession .privateText (trimInPlace line)
  | .privateText sid, some line => finish (c.onPrivateText e.sent sid (trimInPlace line))

/-! ## A dialogue that nothing interrupts -/

/-- The reply to a line before `stdin`, and to those that it asks for. -/
def replyTo (r : LineReply) (stdin : List Bytes) (later : MenuPc → Reply) : Reply :=
  match r.pc with
  | .choice => c.reply ⟨r.op, r.printed⟩ stdin
  | .returned _ => { c.endOfInput r.printed with stdin }
  | pc => (later pc).after r.printed

/-- The lines are answered until the menu is back at its choice. -/
def turn (e : Surroundings) (pc : MenuPc) : List Bytes → Reply
  | [] => c.endOfInput (c.onLine e pc none).printed
  | line :: stdin => c.replyTo (c.onLine e pc (some line)) stdin fun pc => turn e pc stdin

/-- The prompts in one go, by their choices. -/
def promptOf (e : Surroundings) : Nat → Option (List Bytes → Reply)
  | 2 => some (c.promptLobbyMessage e.sent)
  | 3 => some (c.promptCreateGroup e.calls e.sent)
  | 5 => some (c.promptJoinGroup e.now e.calls)
  | 6 => some (c.promptGroupChat e.sent)
  | 10 => some (c.choosePrivate e.sent)
  | _ => none

section Turns

variable (e : Surroundings) (stdin : List Bytes)

theorem turn_cons (pc : MenuPc) (line : Bytes) :
    c.turn e pc (line :: stdin) =
      c.replyTo (c.onLine e pc (some line)) stdin fun pc => c.turn e pc stdin := rfl

theorem replyTo_finish (a : Answer) (later : MenuPc → Reply) :
    c.replyTo (.finish a) stdin later = c.reply a stdin := rfl

/-- A dialogue that its next line ends. -/
theorem turn_prompt {pc : MenuPc} {answer : Bytes → Answer}
    (ended : c.turn e pc [] = c.endOfInput [])
    (last : ∀ line, c.onLine e pc (some line) = .finish (answer (trimInPlace line))) :
    c.turn e pc stdin = c.prompt answer stdin := by
  cases stdin with
  | nil => exact ended
  | cons line stdin =>
    rw [turn_cons, last, replyTo_finish]
    rfl

/-- **A prompt in one go is a dialogue that nothing interrupts.** -/
theorem turn_eq_prompt {line : Bytes} {n : Nat} {p : List Bytes → Reply}
    (number : parseMenuChoice (trimInPlace line) = some n) (choice : c.promptOf e n = some p) :
    c.turn e .choice (line :: stdin) = p stdin := by
  rw [turn_cons]
  change c.replyTo (c.onChoice e line) stdin _ = _
  rw [onChoice, number]
  unfold promptOf at choice
  split at choice
  · cases choice
    exact c.turn_prompt e stdin rfl fun _ => rfl
  · cases choice
    exact c.turn_prompt e stdin rfl fun _ => rfl
  · cases choice
    exact c.turn_prompt e stdin rfl fun _ => rfl
  · cases choice
    show c.replyTo (if c.groups.hasActiveMembership = false then _ else _) stdin _ = _
    unfold promptGroupChat
    by_cases member : c.groups.hasActiveMembership = false
    · rw [if_pos member, if_pos member]
      rfl
    · rw [if_neg member, if_neg member]
      exact c.turn_prompt e stdin rfl fun _ => rfl
  · cases choice
    show c.replyTo (if c.direct.snapshotActiveSessions = [] then _ else _) stdin _ =
      if c.direct.snapshotActiveSessions = [] then _ else _
    by_cases empty : c.direct.snapshotActiveSessions = []
    · rw [if_pos empty, if_pos empty]
      rfl
    · rw [if_neg empty, if_neg empty]
      show (c.turn e .privateSession stdin).after _ = _
      congr 1
      cases stdin with
      | nil => rfl
      | cons line stdin =>
        rw [turn_cons]
        change c.replyTo (onSession .privateText (trimInPlace line)) stdin _ = _
        simp only [onSession]
        cases sessionRefused (trimInPlace line) with
        | some printed => rfl
        | none => exact c.turn_prompt e stdin rfl fun _ => rfl
  · cases choice

end Turns

end Client

/-! ## The menu among the other threads -/

structure Menu where
  pc : MenuPc
  client : Client

inductive MenuAct where
  /-- The menu reads a line, or finds the end of the input. -/
  | line (line : Option Bytes) (e : Surroundings)
  /-- Another thread performs an operation. -/
  | other (op : ClientOp)

namespace Menu

/-- The operation on the client in a step. -/
def op (m : Menu) : MenuAct → Option ClientOp
  | .line line e => (m.client.onLine e m.pc line).op
  | .other op => some op

def step (m : Menu) (a : MenuAct) : Menu where
  pc := match a with
    | .line line e => (m.client.onLine e m.pc line).pc
    | .other _ => m.pc
  client := (m.op a).elim m.client m.client.step

end Menu

/-- The runs of the menu, whatever the other threads do. -/
def menuMachine (username : Bytes) (localIp : InAddr) : Machine Menu MenuAct :=
  ⟨⟨.choice, .init username localIp⟩, Menu.step⟩

/-- The lines that the menu has read. -/
def typed (run : List MenuAct) : List Bytes :=
  run.filterMap fun
    | .line line _ => line
    | .other _ => none

/-- The lines of a dialogue that has come to where the menu waits. -/
inductive Dialogue : MenuPc → List Bytes → Prop where
  | choice : Dialogue .choice []
  | lobbyMessage {l : Bytes} (two : parseMenuChoice l = some 2) : Dialogue .lobbyMessage [l]
  | createGroup {l : Bytes} (three : parseMenuChoice l = some 3) : Dialogue .createGroup [l]
  | joinGroup {l : Bytes} (five : parseMenuChoice l = some 5) : Dialogue .joinGroup [l]
  | groupChat {l : Bytes} (six : parseMenuChoice l = some 6) : Dialogue .groupChat [l]
  | invite {l : Bytes} (eight : parseMenuChoice l = some 8) : Dialogue .invite [l]
  | answerSession {l : Bytes} (nine : parseMenuChoice l = some 9) : Dialogue .answerSession [l]
  | answer {l sid : Bytes} (nine : parseMenuChoice l = some 9) :
      Dialogue (.answer (trimInPlace sid)) [l, sid]
  | reason {l sid ans : Bytes} (nine : parseMenuChoice l = some 9)
      (no : trimInPlace ans = lit "d" ∨ trimInPlace ans = lit "D") :
      Dialogue (.reason (trimInPlace sid)) [l, sid, ans]
  | privateSession {l : Bytes} (ten : parseMenuChoice l = some 10) : Dialogue .privateSession [l]
  | privateText {l sid : Bytes} (ten : parseMenuChoice l = some 10) :
      Dialogue (.privateText (trimInPlace sid)) [l, sid]
  | returned {quit : Bool} : Dialogue (.returned quit) []

/-- The lines of the whole dialogue that asks for an operation. -/
inductive AsksFor (e : Surroundings) : List Bytes → ClientOp → Prop where
  | lobbyChat {l text : Bytes} (two : parseMenuChoice l = some 2) :
      AsksFor e [l, text] (.lobbyChat e.sent (trimInPlace text))
  | createRoom {l name : Bytes} (three : parseMenuChoice l = some 3) :
      AsksFor e [l, name] (.createRoom e.calls e.sent (trimInPlace name))
  | listRooms {l : Bytes} (four : parseMenuChoice l = some 4) :
      AsksFor e [l] (.listAdvertisedRooms e.now)
  | joinRoom {l name : Bytes} (five : parseMenuChoice l = some 5) :
      AsksFor e [l, name] (.joinRoom e.now e.calls (trimInPlace name))
  | groupChat {l text : Bytes} (six : parseMenuChoice l = some 6) :
      AsksFor e [l, text] (.sendGroupChat e.sent (trimInPlace text))
  | leaveRoom {l : Bytes} (seven : parseMenuChoice l = some 7) :
      AsksFor e [l] (.leaveRoom e.dropped)
  | invite {l who : Bytes} (eight : parseMenuChoice l = some 8) :
      AsksFor e [l, who] (.inviteUser e.draw e.now e.sent (trimInPlace who))
  | accept {l sid ans : Bytes} (nine : parseMenuChoice l = some 9)
      (yes : trimInPlace ans = lit "a" ∨ trimInPlace ans = lit "A") :
      AsksFor e [l, sid, ans] (.acceptInvite e.now (trimInPlace sid))
  | decline {l sid ans reason : Bytes} (nine : parseMenuChoice l = some 9)
      (no : trimInPlace ans = lit "d" ∨ trimInPlace ans = lit "D") :
      AsksFor e [l, sid, ans, reason] (.declineInvite (trimInPlace sid) (trimInPlace reason))
  | privateChat {l sid text : Bytes} (ten : parseMenuChoice l = some 10) :
      AsksFor e [l, sid, text]
        (.sendPrivateChat e.sent (trimInPlace sid) (trimInPlace text))

/-- What a reply does to the dialogue whose lines are `d`: it goes on, or it is over. -/
structure Continues (e : Surroundings) (d : List Bytes) (r : LineReply) : Prop where
  dialogue : ∃ before d', d = before ++ d' ∧ Dialogue r.pc d'
  asked : ∀ op, r.op = some op → AsksFor e d op

namespace Continues

variable {e : Surroundings} {d : List Bytes}

theorem back (printed : List Printed) : Continues e d (.back printed) :=
  ⟨⟨d, [], by simp, .choice⟩, nofun⟩

theorem ask {pc : MenuPc} (printed : List Printed) (h : Dialogue pc d) :
    Continues e d (.ask pc printed) :=
  ⟨⟨[], d, rfl, h⟩, nofun⟩

theorem finish {a : Answer} (h : ∀ op, a.op = some op → AsksFor e d op) :
    Continues e d (.finish a) :=
  ⟨⟨d, [], by simp, .choice⟩, h⟩

theorem call {op : ClientOp} (printed : List Printed) (h : AsksFor e d op) :
    Continues e d (.finish (.call op printed)) := by
  refine finish fun op' same => ?_
  cases same
  exact h

/-- An answer that may refuse the line. -/
theorem refuse {p : Prop} [Decidable p] {printed : List Printed} {a : Answer}
    (h : Continues e d (.finish a)) : Continues e d (.finish (if p then .say printed else a)) := by
  split
  · exact back printed
  · exact h

theorem ite {p : Prop} [Decidable p] {r r' : LineReply} (h : p → Continues e d r)
    (h' : ¬ p → Continues e d r') : Continues e d (if p then r else r') := by
  split
  next holds => exact h holds
  next fails => exact h' fails

end Continues

theorem parseMenuChoice_trimInPlace (line : Bytes) :
    parseMenuChoice (trimInPlace line) = parseMenuChoice line := by
  have once : trimInPlace (trimInPlace line) = trimInPlace line :=
    Delimited.trim_trim isTrailingBlank isLeadingBlank line
  rw [parseMenuChoice, once, parseMenuChoice]

namespace Client

variable (c : Client) (e : Surroundings) (line : Bytes)

theorem onChoice_continues : Continues e [line] (c.onChoice e line) := by
  unfold onChoice
  rw [parseMenuChoice_trimInPlace]
  split
  · exact .back _
  · exact .back _
  next two => exact .ask _ (.lobbyMessage two)
  next three => exact .ask _ (.createGroup three)
  next four => exact .call _ (.listRooms four)
  next five => exact .ask _ (.joinGroup five)
  next six => exact .ite (fun _ => .back _) fun _ => .ask _ (.groupChat six)
  next seven => exact .ite (fun _ => .back _) fun _ => .call _ (.leaveRoom seven)
  next eight => exact .ask _ (.invite eight)
  next nine => exact .ite (fun _ => .back _) fun _ => .ask _ (.answerSession nine)
  next ten => exact .ite (fun _ => .back _) fun _ => .ask _ (.privateSession ten)
  · exact .back _
  · exact ⟨⟨[line], [], rfl, .returned⟩, nofun⟩
  · exact .back _

variable {e} in
theorem onSession_continues {next : Bytes → MenuPc} {d : List Bytes} {sid : Bytes}
    (goesOn : Dialogue (next sid) d) : Continues e d (onSession next sid) := by
  unfold onSession
  split
  · exact .back _
  · exact .ask _ goesOn

/-- **A line continues its dialogue or ends it**, with the operation that the dialogue asks for if
with any. -/
theorem onLine_continues {pc : MenuPc} {d : List Bytes} (h : Dialogue pc d) :
    Continues e (d ++ [line]) (c.onLine e pc (some line)) := by
  cases h with
  | choice => exact c.onChoice_continues e line
  | lobbyMessage two => exact .refuse (.refuse (.call _ (.lobbyChat two)))
  | createGroup three => exact .refuse (.refuse (.call _ (.createRoom three)))
  | joinGroup five => exact .refuse (.refuse (.call _ (.joinRoom five)))
  | groupChat six =>
    refine .refuse (.refuse ?_)
    split
    · exact .back _
    · exact .call _ (.groupChat six)
  | invite eight => exact .refuse (.refuse (.call _ (.invite eight)))
  | answerSession nine => exact onSession_continues (.answer nine)
  | answer nine =>
    exact .ite (fun yes => .call _ (.accept nine yes)) fun _ =>
      .ite (fun no => .ask _ (.reason nine no)) fun _ => .back _
  | reason nine no => exact .call _ (.decline nine no)
  | privateSession ten => exact onSession_continues (.privateText ten)
  | privateText ten => exact .refuse (.refuse (.call _ (.privateChat ten)))
  | returned => exact ⟨⟨[line], [], rfl, .returned⟩, nofun⟩

theorem onLine_none (pc : MenuPc) :
    (c.onLine e pc none).op = none ∧ ∃ quit, (c.onLine e pc none).pc = .returned quit := by
  cases pc <;> exact ⟨rfl, _, rfl⟩

variable {line} in
theorem onChoice_returned {quit : Bool} (h : (c.onChoice e line).pc = .returned quit) :
    quit = true ∧ parseMenuChoice line = some 12 := by
  unfold onChoice at h
  rw [parseMenuChoice_trimInPlace] at h
  split at h
  case h_13 twelve =>
    cases h
    exact ⟨rfl, twelve⟩
  all_goals
    simp only [apply_ite LineReply.pc, LineReply.back, LineReply.ask, LineReply.finish, ite_self,
      reduceCtorEq] at h
  all_goals
    split at h <;> cases h

/-- **The menu returns at the end of the input and on choice 12**, nowhere else. -/
theorem onLine_returned {pc : MenuPc} {input : Option Bytes} {quit : Bool}
    (h : (c.onLine e pc input).pc = .returned quit) :
    pc = .returned quit ∨ quit = false ∧ input = none ∨
      quit = true ∧ pc = .choice ∧ ∃ l, input = some l ∧ parseMenuChoice l = some 12 := by
  cases input with
  | none =>
    cases pc with
    | returned quit' =>
      cases h
      exact .inl rfl
    | _ =>
      cases h
      exact .inr (.inl ⟨rfl, rfl⟩)
  | some l =>
    cases pc with
    | returned quit' =>
      cases h
      exact .inl rfl
    | choice =>
      obtain ⟨rfl, twelve⟩ := c.onChoice_returned e h
      exact .inr (.inr ⟨rfl, rfl, l, rfl, twelve⟩)
    | _ =>
      simp only [onLine, onSession, onAnswer] at h
      repeat' split at h
      all_goals cases h

end Client

section Runs

variable (username : Bytes) (localIp : InAddr)

/-- The last lines read are those of the dialogue that the menu is in. -/
theorem exec_dialogue (run : List MenuAct) :
    ∃ before d, typed run = before ++ d ∧ Dialogue ((menuMachine username localIp).exec run).pc d := by
  induction run using List.reverseRecOn with
  | nil => exact ⟨[], [], rfl, .choice⟩
  | append_singleton run a ih =>
    obtain ⟨before, d, lines, dialogue⟩ := ih
    rw [Machine.exec_snoc, typed, List.filterMap_append, ← typed, lines]
    cases a with
    | other op => exact ⟨before, d, by simp, dialogue⟩
    | line line e =>
      cases line with
      | none =>
        obtain ⟨-, quit, returned⟩ := Client.onLine_none
          ((menuMachine username localIp).exec run).client e ((menuMachine username localIp).exec run).pc
        refine ⟨before ++ d, [], by simp, ?_⟩
        show Dialogue (Client.onLine _ e _ none).pc []
        rw [returned]
        exact .returned
      | some l =>
        obtain ⟨⟨front, d', split, now⟩, -⟩ := Client.onLine_continues
          ((menuMachine username localIp).exec run).client e l dialogue
        exact ⟨before ++ front, d', by simp [split], now⟩

/-- How the menu returns. -/
theorem exec_returned (run : List MenuAct) {quit : Bool}
    (returned : ((menuMachine username localIp).exec run).pc = .returned quit) :
    ∃ pre line e post, run = pre ++ .line line e :: post ∧ (quit = false ∧ line = none ∨
      quit = true ∧ ((menuMachine username localIp).exec pre).pc = .choice ∧
        ∃ l, line = some l ∧ parseMenuChoice l = some 12) := by
  induction run using List.reverseRecOn with
  | nil => cases returned
  | append_singleton run a ih =>
    have before (same : ((menuMachine username localIp).exec run).pc = .returned quit) :
        ∃ pre line e post, run ++ [a] = pre ++ .line line e :: post ∧ (quit = false ∧ line = none ∨
          quit = true ∧ ((menuMachine username localIp).exec pre).pc = .choice ∧
            ∃ l, line = some l ∧ parseMenuChoice l = some 12) := by
      obtain ⟨pre, line, e, post, rfl, how⟩ := ih same
      exact ⟨pre, line, e, post ++ [a], by simp, how⟩
    rw [Machine.exec_snoc] at returned
    cases a with
    | other op => exact before returned
    | line line e =>
      rcases Client.onLine_returned _ e returned with same | ended | twelve
      · exact before same
      · exact ⟨run, line, e, [], rfl, .inl ended⟩
      · exact ⟨run, line, e, [], rfl, .inr twelve⟩

/-- The client does what the menu and the other threads ask of it. -/
theorem exec_client (run : List MenuAct) :
    ∃ ops, ((menuMachine username localIp).exec run).client =
      (clientMachine username localIp).exec ops := by
  induction run using List.reverseRecOn with
  | nil => exact ⟨[], rfl⟩
  | append_singleton run a ih =>
    obtain ⟨ops, same⟩ := ih
    rw [Machine.exec_snoc]
    generalize (menuMachine username localIp).exec run = m at same
    show ∃ ops, (m.op a).elim m.client m.client.step = _
    rw [same]
    cases m.op a with
    | none => exact ⟨ops, rfl⟩
    | some op => exact ⟨ops ++ [op], ((clientMachine username localIp).exec_snoc ops op).symm⟩

/-- **The menu does what is typed.** Whatever the other threads do between two lines, an operation
of the menu ends the dialogue that asks for it, and the loop returns true after the line of
choice 12 and false at the end of the input only. -/
theorem menu_does_as_typed (run : List MenuAct) :
    let m := (menuMachine username localIp).exec run
    (∃ ops, m.client = (clientMachine username localIp).exec ops) ∧
    (∀ line e op, m.op (.line line e) = some op →
      ∃ before d, typed (run ++ [.line line e]) = before ++ d ∧ AsksFor e d op) ∧
    ∀ quit, m.pc = .returned quit → ∃ pre line e post, run = pre ++ .line line e :: post ∧
      (quit = false ∧ line = none ∨
        quit = true ∧ ((menuMachine username localIp).exec pre).pc = .choice ∧
          ∃ l, line = some l ∧ parseMenuChoice l = some 12) := by
  intro m
  refine ⟨exec_client username localIp run, fun line e op asked => ?_,
    fun quit returned => exec_returned username localIp run returned⟩
  obtain ⟨before, d, lines, dialogue⟩ := exec_dialogue username localIp run
  cases line with
  | none =>
    have nothing : m.op (.line none e) = none := (m.client.onLine_none e m.pc).1
    rw [asked] at nothing
    cases nothing
  | some l =>
    have continues : Continues e (d ++ [l]) (m.client.onLine e m.pc (some l)) :=
      m.client.onLine_continues e l dialogue
    refine ⟨before, d ++ [l], ?_, continues.asked op asked⟩
    rw [typed, List.filterMap_append, ← typed, lines]
    simp

end Runs

end SecpChat
