import RankSieve.CommandLine.Reader
import RankSieve.Row.Load
import RankSieve.Script
import RankSieve.Settings.Load

/-!
# `RankSieve.Program` — the program as a whole

Settings are loaded first, then rows; only then is anything printed or written. So a program that fails
to start leaves everything as it was.

## Contents
- **Environment.** The variables that count.
- **Jobs.** Filtering, saving, sessions and the menu, each as a script.
- **The program.** `Program.script`, from the environment and the words of the command line.
-/

namespace RankSieve.Program

open CommandLine

/-! ## Environment -/

/-- The variables that count. -/
structure Environment where
  /-- Directives that choose the events to show, before any other choice. -/
  directives : Option Text
  /-- The file of settings, where the command line names none. -/
  settings   : Option Text
  /-- Whether output is to be styled although it is not shown on a terminal. -/
  forceColor : Option Text
  deriving DecidableEq, Repr

/-- The environment, given the value of each variable by its name. -/
def Environment.ofVariables (valueOf : Text → Option Text) : Environment where
  directives := valueOf "RUST_LOG".toList
  settings   := valueOf "ANOMALY_RANK_CONFIG".toList
  forceColor := valueOf "CLICOLOR_FORCE".toList

/-- Whether output is styled. -/
def colored (environment : Environment) : ColorMode → Bool
  | .always => true
  | .never  => false
  | .auto   => environment.forceColor.any (· ≠ ['0'])

/-! ## Steps -/

/-- What everything after the start depends on. -/
structure Context where
  settings : Settings
  shown    : EventFilter
  colored  : Bool
  quiet    : Bool

/-- Fails with a chain of reasons. -/
def fail (reasons : List Text) : Script :=
  .report ["Error: ".toList ++ List.intercalate ": ".toList reasons] (.finish 1)

/-- Reports those events that are shown. -/
def tell (c : Context) (events : List Event) (next : Script) : Script :=
  .report (c.shown.linesOf events) next

/-- Loads rows. -/
def withRows (c : Context) (file : Text) (next : List Row → Script) : Script :=
  .load file fun content =>
    match loadRows file content with
    | .error e => fail ["Failed to load results from '".toList ++ file ++ ['\''], e.message, e.cause]
    | .ok rows => tell c [loadedEvent file rows] (next rows)

/-! ## Jobs -/

/-- The rows that a query leaves, as printed. -/
def filterText (c : Context) (rows : List Row) (bar : FilterBar) : OutputFormat → Text
  | .text => textReport c.settings.maxUrlWidth rows ⟨bar.visible rows, bar.isFiltered, c.colored⟩
  | .json => jsonReport rows (bar.visible rows) ++ ['\n']

variable [PatternLibrary]

/-- Prints the rows that a query leaves, and writes the same to a file if one is named. -/
def filter (c : Context) (rows : List Row) (query : Option Text) (format : OutputFormat)
    (output : Option Text) : Script :=
  let (bar, events) := FilterBar.forQuery c.settings query
  let text := filterText c rows bar format
  tell c events <| .print text <|
    match output with
    | none      => .finish 0
    | some path => .save path (Utf8.encode text) fun result =>
      match result with
      | .ok _      => .finish 0
      | .error why => fail ["Failed to write output file '".toList ++ path ++ ['\''], why.message]

/-- Writes rows to a file: all, or those that a query leaves. -/
def save (c : Context) (rows : List Row) (output : Text) (query : Option Text) (visibleOnly : Bool) :
    Script :=
  let (bar, events) := FilterBar.forQuery c.settings query
  let (chosen, events) := if visibleOnly then (bar.filter.select rows, events) else (rows, [])
  tell c events <| .save output (Utf8.encode (Csv.ofRows chosen)) fun result =>
    match result with
    | .error why =>
      let e := ExportError.create output why
      fail ["Failed to export to '".toList ++ output ++ ['\''], e.message, e.cause]
    | .ok _      =>
      tell c [exportedEvent output chosen.length] <|
        if c.quiet then .finish 0
        else
          .report ["Exported ".toList ++ Decimal.ofNat chosen.length ++ " rows to ".toList ++ output]
            (.finish 0)

/-- Holds a session. -/
def converse (c : Context) (rows : List Row) (query : Option Text) : Script :=
  let (bar, events) := FilterBar.forQuery c.settings query
  tell c events <| .converse ⟨rows, c.settings, c.colored, bar⟩ c.shown fun fault =>
    match fault with
    | none     => .finish 0
    | some why => fail ["Interactive session failed".toList, why.message]

/-- Does a job. -/
def perform (c : Context) : Job → Script
  | .filter file query format output     => withRows c file fun rows => filter c rows query format output
  | .save file output query visibleOnly  => withRows c file fun rows => save c rows output query visibleOnly
  | .converse file query                 => withRows c file fun rows => converse c rows query
  | .menu                                =>
    .print (endLines (Menu.ofSettings c.settings.menu).lines) (.finish 0)

/-! ## The program -/

/-- What is reported first. -/
def startedEvent : Event :=
  ⟨.debug, "anomaly_rank::logging".toList, "Logging initialised".toList,
    [("version".toList, release.quoted)]⟩

/-- What is reported of the file of settings. -/
def settingsEvent (path : Text) : Event :=
  ⟨.debug, "anomaly_rank".toList, "Loaded config file".toList, [("path".toList, path)]⟩

/-- Goes on with settings. -/
def start (environment : Environment) (i : Invocation) (settings : Settings) : Script :=
  let directives := environment.directives.getD (levelDirective i.verbose i.quiet settings.logLevel)
  let c : Context := ⟨settings, .ofText directives, colored environment i.color, i.quiet⟩
  .report ((EventFilter.ignored directives).map IgnoredDirective.line) <|
    tell c (startedEvent :: (i.config.map settingsEvent).toList) (perform c i.job)

variable [TomlLibrary]

/-- Goes on with an invocation. -/
def invoke (environment : Environment) (i : Invocation) : Script :=
  match i.config with
  | none      => start environment i .standard
  | some path => .load path fun content =>
    match Settings.ofFile path content with
    | .ok settings => start environment i settings
    | .error e     => fail ["Failed to load config".toList, e.message, e.cause]

/-- The program. -/
def script (environment : Environment) (words : List Text) : Script :=
  match Invocation.read environment.settings words with
  | .ok i    => invoke environment i
  | .error r => .print (endLines r.output) (.report r.complaint (.finish r.exitCode))

end RankSieve.Program
