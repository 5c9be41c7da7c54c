import RankSieve.Export
import RankSieve.FilterBar
import RankSieve.Report
import RankSieve.Sink

/-!
# `RankSieve.Session` — filtering line by line

In a session every line changes the query or gives a command. A line that changes the query is answered
with the query and the number of rows that it leaves.

## Contents
- **Commands.** `Command.ofLine` tells what a line asks for.
- **Answers.** `Session.answer` obeys a command: the session after it, and what to do about it.
- **Runs.** `Session.run` goes through octets line by line, with the files around it and a sink for
  what it writes. A change holds before its answer is written, so it holds even when that fails.
-/

namespace RankSieve

/-! ## Commands -/

/-- What a line asks for. -/
inductive Command where
  | edit (e : Edit)
  | help
  | menu
  /-- An entry of the menu under a number that none has. -/
  | pickNone
  | text
  | show
  /-- Write all rows to a file. -/
  | save (path : Text)
  | unknown (name : Text)
  | quit
  deriving DecidableEq, Repr

/-- The words that name commands. -/
inductive CommandWord where
  | quit
  | help
  | and
  | or
  | add
  | menu
  | pick
  | clear
  | text
  | show
  | save
  deriving DecidableEq, Repr

/-- How the words are written. -/
def commandWords : List (Text × CommandWord) := [
  ("q".toList,      .quit),
  ("quit".toList,   .quit),
  ("exit".toList,   .quit),
  ("help".toList,   .help),
  ("h".toList,      .help),
  ("and".toList,    .and),
  ("or".toList,     .or),
  ("add".toList,    .add),
  ("menu".toList,   .menu),
  ("pick".toList,   .pick),
  ("clear".toList,  .clear),
  ("text".toList,   .text),
  ("show".toList,   .show),
  ("export".toList, .save)]

/-- The word that a name is. -/
def CommandWord.ofName? (name : Text) : Option CommandWord :=
  (commandWords.find? fun entry => entry.1 == name).map (·.2)

namespace Command

/-- The greatest number that can be asked for. -/
def greatestPick : Nat := 18446744073709551615

/-- The entry of the menu to append. -/
def pick (menu : Menu) (argument : Text) : Command :=
  match (Decimal.readNat? argument).filter (· ≤ greatestPick) with
  | none        => .pickNone
  | some number =>
    match menu.entryAt? number with
    | none       => .pickNone
    | some entry => .edit (.ofQuickFilter entry)

/-- The command of a name and an argument. Some commands are none without an argument. -/
def ofName (menu : Menu) (name argument : Text) : Command :=
  match CommandWord.ofName? name with
  | some .quit   => .quit
  | some .help   => .help
  | some .and    => .edit (.connective .and)
  | some .or     => .edit (.connective .or)
  | some .add    => if argument.isEmpty then .unknown name else .edit (.condition argument)
  | some .menu   => .menu
  | some .pick   => pick menu argument
  | some .clear  => .edit .clear
  | some .text   => .text
  | some .show   => .show
  | some .save   => if argument.isEmpty then .unknown name else .save argument
  | none         => .unknown name

/-- What a line asks for: a command behind a colon, or else the line as the query. -/
def ofLine (menu : Menu) (line : Text) : Command :=
  match line.trimStart with
  | ':' :: command =>
    match Text.cutAt isBlank command with
    | some (name, argument) => ofName menu name argument.trim
    | none                  => ofName menu command []
  | _              => .edit (.replace line)

end Command

/-! ## Answers -/

/-- Rows, and the filter bar for them. -/
structure Session where
  rows     : List Row
  settings : Settings
  /-- Whether output may be styled. -/
  colored  : Bool
  bar      : FilterBar

/-- What to do about a line. -/
inductive Reply where
  | say (text : Text)
  /-- Write all rows to a file, and say what came of it. -/
  | save (path : Text)
  | leave
  deriving DecidableEq, Repr

namespace Session

/-- The menu of the session. -/
def menu (s : Session) : Menu := .ofSettings s.settings.menu

/-- What is said first. -/
def greeting (s : Session) : Text :=
  endLines [summaryLine s.rows.length s.rows.length false ++ " (type :help for commands)".toList]

/-- The commands. -/
def helpLines : List Text := [
  "Any line replaces the query. Commands:",
  "  :and / :or        append a logical keyword",
  "  :add TERM         append a condition (joined with AND)",
  "  :menu             list quick filters",
  "  :pick N           append quick filter N",
  "  :clear            remove the query",
  "  :text             print the current query",
  "  :show             print the visible rows",
  "  :export PATH      write all rows to CSV",
  "  :quit             leave"].map String.toList

/-- The visible rows. -/
def view (s : Session) : View := ⟨s.bar.visible s.rows, s.bar.isFiltered, s.colored⟩

/-- The line that shows the query. -/
def queryLine (s : Session) : Text := "query: ".toList ++ s.bar.text

/-- The query and the number of rows that it leaves. -/
def status (s : Session) : Text :=
  endLines [s.queryLine, summaryLine s.view.places.length s.rows.length s.view.filtered]

/-- What is said of a finished or failed export. -/
def exportReply (path : Text) (result : Except ExportError Nat) : Text :=
  match result with
  | .ok n    => endLines ["Exported ".toList ++ Decimal.ofNat n ++ " rows to ".toList ++ path]
  | .error e => endLines ["Export failed: ".toList ++ e.message]

/-- Obeys a command: the session after it, what to do, and what to report. -/
def answer (s : Session) : Command → Session × Reply × List Event
  | .edit e       =>
    let (bar, events) := s.bar.edit e
    let s := { s with bar := bar }
    (s, .say s.status, events)
  | .help         => (s, .say (endLines helpLines), [])
  | .menu         => (s, .say (endLines s.menu.numberedLines), [])
  | .pickNone     =>
    (s, .say (endLines ["Pick a number between 1 and ".toList ++ Decimal.ofNat s.menu.entries.length]), [])
  | .text         => (s, .say (endLines [s.queryLine]), [])
  | .show         => (s, .say (textReport s.settings.maxUrlWidth s.rows s.view), [])
  | .save path    => (s, .save path, [])
  | .unknown name =>
    (s, .say (endLines ["Unknown command ':".toList ++ name ++ "'. Type :help for commands.".toList]), [])
  | .quit         => (s, .leave, [])

/-- What is reported when the input gets the focus. -/
def focusEvent : Event :=
  ⟨.trace, "anomaly_rank::interactive".toList, "Query input focus requested".toList, []⟩

/-- Grants a wish for the focus, once an answer is given. -/
def grantFocus (s : Session) : Session × List Event :=
  let (wanted, bar) := s.bar.takeFocus
  ({ s with bar := bar }, if wanted then [focusEvent] else [])

end Session

/-! ## Runs -/

/-- Why a session broke off. -/
inductive SessionFault where
  /-- A line is no text. -/
  | invalidText
  /-- An answer could not be written. -/
  | unwritten (why : Text)
  deriving DecidableEq, Repr

/-- The text of a fault. -/
def SessionFault.message : SessionFault → Text
  | .invalidText   => FileFault.invalidText.message
  | .unwritten why => why

/-- A session on its way: the files around it, what it has written and what it has reported. -/
structure SessionRun where
  session   : Session
  directory : Directory
  sink      : Sink
  events    : List Event

/-- What follows a line. -/
inductive Turn where
  | more
  | left
  | failed (why : SessionFault)
  deriving DecidableEq, Repr

namespace SessionRun

/-- Writes an answer, and then grants the focus. -/
def say (r : SessionRun) (t : Text) : SessionRun × Turn :=
  let (sink, complete) := r.sink.write (Utf8.encode t)
  let r := { r with sink := sink }
  if complete then
    let (session, events) := r.session.grantFocus
    ({ r with session := session, events := r.events ++ events }, .more)
  else (r, .failed (.unwritten Sink.fullMessage))

/-- Writes all rows to a file, and says what came of it. -/
def saveAll (r : SessionRun) (path : Text) : SessionRun × Turn :=
  match exportToFile r.directory path r.session.rows with
  | .ok done =>
    let events := r.events ++ [exportedEvent path done.count]
    { r with directory := done.directory, events := events }.say (Session.exportReply path (.ok done.count))
  | .error e => r.say (Session.exportReply path (.error e))

/-- Goes through one line. -/
def line (r : SessionRun) (octets : Octets) : SessionRun × Turn :=
  match Utf8.decode? octets with
  | none   => (r, .failed .invalidText)
  | some t =>
    let (session, reply, events) := r.session.answer (.ofLine r.session.menu t)
    let r := { r with session := session, events := r.events ++ events }
    match reply with
    | .say t     => r.say t
    | .save path => r.saveAll path
    | .leave     => (r, .left)

/-- Goes through lines until the session is left or breaks off. -/
def lines : SessionRun → List Octets → SessionRun × Option SessionFault
  | r, []      => (r, none)
  | r, l :: ls =>
    match r.line l with
    | (r, .more)       => r.lines ls
    | (r, .left)       => (r, none)
    | (r, .failed why) => (r, some why)

end SessionRun

/-- The lines of octets. -/
def Octets.lines (bs : Octets) : List Octets := cutLines 10 13 bs

/-- Goes through a session from its greeting to its end. -/
def Session.run (s : Session) (directory : Directory) (sink : Sink) (input : Octets) :
    SessionRun × Option SessionFault :=
  let (sink, complete) := sink.write (Utf8.encode s.greeting)
  let r : SessionRun := ⟨s, directory, sink, []⟩
  if complete then r.lines input.lines else (r, some (.unwritten Sink.fullMessage))

end RankSieve
