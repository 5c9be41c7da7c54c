import RankSieve.Proofs.CsvRoundTrip
import RankSieve.Proofs.DrawnTables
import RankSieve.Proofs.JsonRows
import RankSieve.Proofs.Lines
import RankSieve.Proofs.SessionRefinement
import RankSieve.Proofs.UrlColumn

/-!
# `RankSieve.Proofs.Surfaces` — every way to show the rows of a query shows the same rows

The rows that a query leaves are printed as a table or as JSON, written to a file as comma-separated values,
and shown in a session. These are different scripts, and they ask different questions of the filter: a
report wants the places of rows, an export the rows themselves, a session goes through its bar. Here each
script is run on a world, and what it leaves there is told in terms of one list of places.

Up to the rows, all scripts do the same: they report events, and load. Reports go where nothing else goes,
so `World.heard` is all the difference that the way there makes.

## Contents
- **Reports.** `Reported` says what a report shows, row by row, and `reported_textReport` that it is this.
- **Ways to the rows.** `start_run`: starting, and loading the rows, only adds reports.
- **Printing and writing.** `filter_output` and `save_run`.
- **Sessions.** `line_replace` and `line_show`, the two lines that matter; `run_show` puts them together.
- **The main result.** `Program.shows_agree`.
-/

namespace RankSieve

open CommandLine

/-! ## Reports -/

/-- What the table shows of a row: rank and status in the middle of their columns, the URL as far as its column is
    wide, and the status in colour where the output may be styled. -/
def ShowsRow (maxUrlWidth : Nat) (colored : Bool) (r : Row) (cells : List Cell) : Prop :=
  ∃ url, (maxUrlWidth = 0 → url = r.url) ∧ (0 < maxUrlWidth → Shows maxUrlWidth r.url url) ∧
    cells = [⟨Decimal.ofInt r.rank.toInt, true, none⟩, ⟨r.method, false, none⟩, ⟨url, false, none⟩,
      ⟨Decimal.ofNat r.status.toNat, true, if colored then statusColor? r.status r.method else none⟩]

/-- What is shown of rows: a table with the cells of each in its place, or a line that says that there are none. -/
inductive ShowsRows (maxUrlWidth : Nat) (colored : Bool) : List Row → List Text → Prop
  | none : ShowsRows maxUrlWidth colored [] ["No matching results.".toList]
  | table {rows : List Row} {cells : List (List Cell)} {lines : List Text} :
      rows ≠ [] → List.Forall₂ (ShowsRow maxUrlWidth colored) rows cells →
      Drawn (["Rank", "Method", "URL", "Status Code"].map String.toList) cells lines →
      ShowsRows maxUrlWidth colored rows lines

/-- A report of the rows that a filter leaves at some places: these rows, and how many they are, in italics where the
    output may be styled. -/
def Reported (maxUrlWidth : Nat) (colored : Bool) (f : Filter) (rows : List Row) (places : List Nat)
    (report : Text) : Prop :=
  ∃ lines, ShowsRows maxUrlWidth colored (rowsAt rows places) lines ∧
    report = lines.flatMap (· ++ ['\n']) ++
      (if colored then "\x1B[3m".toList else []) ++ countText f places.length rows.length ++
      (if colored then "\x1B[0m".toList else []) ++ ['\n']

/-- The cells of a row. -/
theorem showsRow_rowCells (maxUrlWidth : Nat) (colored : Bool) (r : Row) :
    ShowsRow maxUrlWidth colored r (rowCells maxUrlWidth colored r) := by
  refine ⟨shortenUrl maxUrlWidth r.url, ?_, fun hwidth => shows_shortenUrl hwidth r.url, rfl⟩
  rintro rfl
  rfl

/-- The table of rows, if there are any. -/
theorem showsRows_rowTable (maxUrlWidth : Nat) (colored : Bool) {rows : List Row} (hne : rows ≠ []) :
    ShowsRows maxUrlWidth colored rows (rowTable maxUrlWidth colored rows).lines := by
  have hcells : List.Forall₂ (ShowsRow maxUrlWidth colored) rows (rows.map (rowCells maxUrlWidth colored)) := by
    rw [List.forall₂_map_right_iff, List.forall₂_same]
    exact fun r _ => showsRow_rowCells maxUrlWidth colored r
  refine .table hne hcells (Table.drawn_lines (t := rowTable maxUrlWidth colored rows) ?_ ?_)
  · exact mt List.map_eq_nil_iff.mp hne
  · intro row hrow
    obtain ⟨r, -, rfl⟩ := List.mem_map.mp hrow
    rfl

/-- **A report** shows the rows at its places, which are to be places of rows, and counts them. -/
theorem reported_textReport (maxUrlWidth : Nat) (colored : Bool) (f : Filter) {rows : List Row} {places : List Nat}
    (hplaces : (rowsAt rows places).length = places.length) :
    Reported maxUrlWidth colored f rows places
      (textReport maxUrlWidth rows ⟨places, !f.isEverything, colored⟩) := by
  have hbody : ShowsRows maxUrlWidth colored (rowsAt rows places)
      (if places.isEmpty then ["No matching results.".toList]
        else (rowTable maxUrlWidth colored (rowsAt rows places)).lines) := by
    cases places with
    | nil => exact .none
    | cons i is =>
      apply showsRows_rowTable
      intro hnil
      rw [hnil] at hplaces
      cases hplaces
  refine ⟨_, hbody, ?_⟩
  unfold textReport endLines
  dsimp only
  rw [summaryLine_eq, List.flatMap_append, List.flatMap_singleton]
  cases colored with
  | true => simp only [if_true, italic, List.append_assoc]
  | false => simp only [Bool.false_eq_true, if_false, List.append_assoc, List.nil_append]

/-! ## Ways to the rows -/

/-- A world after some more lines were reported. -/
def World.heard (w : World) (ls : List Text) : World := { w with reports := w.reports ++ ls }

theorem World.heard_heard (w : World) (ls ls' : List Text) : (w.heard ls).heard ls' = w.heard (ls ++ ls') := by
  unfold heard
  rw [List.append_assoc]

namespace Program

/-- What everything after the start of an invocation depends on. -/
def contextOf (environment : Environment) (i : Invocation) (settings : Settings) : Context :=
  ⟨settings, .ofText (environment.directives.getD (levelDirective i.verbose i.quiet settings.logLevel)),
    colored environment i.color, i.quiet⟩

theorem run_tell (c : Context) (events : List Event) (next : Script) (w : World) :
    (tell c events next).run w = next.run (w.heard (c.shown.linesOf events)) := rfl

/-- **The way to the rows** leaves nothing but reports, whatever is done with the rows. -/
theorem start_run [PatternLibrary] (environment : Environment) (settings : Settings) (i : Invocation) {file : Text}
    (next : Context → List Row → Script) {rows : List Row} {w : World}
    (hjob : ∀ c, perform c i.job = withRows c file (next c))
    (hload : loadRows file (w.directory.readText file) = .ok rows) :
    ∃ ls, (start environment i settings).run w =
      (next (contextOf environment i settings) rows).run (w.heard ls) := by
  let c := contextOf environment i settings
  let ignored := (EventFilter.ignored
    (environment.directives.getD (levelDirective i.verbose i.quiet settings.logLevel))).map IgnoredDirective.line
  let started := c.shown.linesOf (startedEvent :: (i.config.map settingsEvent).toList)
  let loaded := c.shown.linesOf [loadedEvent file rows]
  have hrows (w' : World) (hdirectory : w'.directory = w.directory) :
      (withRows c file (next c)).run w' = (next c rows).run (w'.heard loaded) := by
    unfold withRows
    rw [Script.run, hdirectory]
    simp only [hload]
    rfl
  refine ⟨ignored ++ started ++ loaded, ?_⟩
  show (perform c i.job).run ((w.heard ignored).heard started) = _
  rw [hjob, hrows ((w.heard ignored).heard started) rfl]
  rw [World.heard_heard, World.heard_heard, List.append_assoc]

/-! ## Printing and writing -/

section

variable (c : Context) (rows : List Row) (w : World)

theorem run_save_ok {path : Text} {bs : Octets} {next : Except FileFault Unit → Script} {d : Directory}
    (h : w.directory.write path bs = .ok d) :
    (Script.save path bs next).run w = (next (.ok ())).run { w with directory := d } := by
  rw [Script.run, h]

theorem run_save_error {path : Text} {bs : Octets} {next : Except FileFault Unit → Script} {why : FileFault}
    (h : w.directory.write path bs = .error why) :
    (Script.save path bs next).run w = (next (.error why)).run w := by
  rw [Script.run, h]

/-- **A report is printed**, whether or not it is written to a file as well. -/
theorem filter_output [PatternLibrary] (query : Option Text) (format : OutputFormat) (output : Option Text) :
    ((filter c rows query format output).run w).1.output =
      (w.output.write (Utf8.encode (filterText c rows (FilterBar.forQuery c.settings query).1 format))).1 := by
  unfold filter
  cases FilterBar.forQuery c.settings query with
  | mk bar events =>
    cases output with
    | none => rfl
    | some path =>
      let text := filterText c rows bar format
      let printed : World :=
        { w.heard (c.shown.linesOf events) with output := (w.output.write (Utf8.encode text)).1 }
      show ((Script.save path (Utf8.encode text) _).run printed).1.output = _
      cases hwrite : printed.directory.write path (Utf8.encode text) with
      | ok d => rw [run_save_ok printed hwrite]; rfl
      | error why => rw [run_save_error printed hwrite]; rfl

/-- What is reported of an export of so many rows. -/
def exportReports (path : Text) (count : Nat) : List Text :=
  c.shown.linesOf [exportedEvent path count] ++
    if c.quiet then [] else ["Exported ".toList ++ Decimal.ofNat count ++ " rows to ".toList ++ path]

/-- **An export of the visible rows** writes what the filter selects, and reports how many rows that are.
    Where that cannot be written, the files stay as they were. -/
theorem save_run [PatternLibrary] (path query : Text) :
    let chosen := (Filter.ofQuery c.settings.patternSizeLimit query).select rows
    ∃ told failed, (save c rows path (some query) true).run w =
      match w.directory.write path (Utf8.encode (Csv.ofRows chosen)) with
      | .ok d    => (⟨d, w.input, w.output, w.reports ++ told ++ exportReports c path chosen.length⟩, 0)
      | .error _ => (w.heard failed, 1) := by
  intro chosen
  have hbar := forQuery_some c.settings query
  unfold save
  cases hquery : FilterBar.forQuery c.settings (some query) with
  | mk bar events =>
    have hchosen : bar.filter.select rows = chosen := by
      rw [hquery] at hbar
      rw [show bar = _ from hbar]
    let told := c.shown.linesOf events
    show ∃ told failed, (Script.save path (Utf8.encode (Csv.ofRows (bar.filter.select rows))) _).run
      (w.heard (c.shown.linesOf events)) = _
    rw [hchosen]
    cases hwrite : w.directory.write path (Utf8.encode (Csv.ofRows chosen)) with
    | ok d =>
      refine ⟨told, [], ?_⟩
      rw [run_save_ok (w.heard _) hwrite]
      unfold exportReports
      cases c.quiet with
      | true => simp [tell, Script.run, World.heard, told, chosen]
      | false => simp [tell, Script.run, World.heard, told, chosen]
    | error why =>
      have hfailed := w.heard_heard told
      exact ⟨told, _, (run_save_error (w.heard told) hwrite).trans (congrArg (·, 1) (hfailed _))⟩

end

end Program

/-! ## Sessions -/

/-- A line that gives no command is the query by itself. -/
theorem ofLine_replace (menu : Menu) {line : Text} (h : line.trimStart.head? ≠ some ':') :
    Command.ofLine menu line = .edit (.replace line) := by
  have hcommand : commandOf? line = none := by
    unfold Text.trimStart at h
    unfold commandOf?
    cases hline : line.dropWhile isBlank with
    | nil => rfl
    | cons c t =>
      rw [hline] at h
      have hc : c ≠ ':' := fun hc => h (congrArg some hc)
      simp [hc]
  rw [ofLine_eq, hcommand]
  rfl

/-- What a session says to a line that is a query by itself, and leaves so many of all rows. -/
def queryAnswer (query : Text) (f : Filter) (shown total : Nat) : Text :=
  "query: ".toList ++ query ++ ['\n'] ++ countText f shown total ++ ['\n']

namespace SessionRun

variable (r : SessionRun) (hroom : r.sink.room = none)

include hroom

/-- **A query on a line** is in force after it, and is answered with what it leaves. -/
theorem line_replace [PatternLibrary] {limit : Nat} {query : Text} (hbar : r.session.bar.compiler = .standard limit)
    (hquery : query.trimStart.head? ≠ some ':') :
    let f := Filter.ofQuery limit query
    ∃ r' : SessionRun, r.line (Utf8.encode query) = (r', .more) ∧
      r'.session = r.session.withBar ⟨.standard limit, query, f, false⟩ ∧
      r'.sink = ⟨r.sink.held ++
        Utf8.encode (queryAnswer query f (f.visible r.session.rows).length r.session.rows.length), none⟩ := by
  intro f
  obtain ⟨r', hobey, hsession, hsink⟩ := r.exists_say_of_edit (.replace query)
  have hanswer : statusText r.session.rows (r.session.bar.edit (.replace query)).1 =
      queryAnswer query f (f.visible r.session.rows).length r.session.rows.length := by
    rw [replace_standard hbar]
    unfold statusText queryAnswer
    rw [countP_keeps]
  rw [line_eq (Utf8.decode?_encode query), ofLine_replace _ hquery, hobey, say_eq (hsink ▸ hroom), hanswer,
    hsession, hsink, replace_standard hbar]
  exact ⟨_, rfl, rfl, rfl⟩

/-- **The command to show** prints the rows in view. -/
theorem line_show :
    ∃ r' : SessionRun, r.line (Utf8.encode ":show".toList) = (r', .more) ∧
      r'.session = r.session.withBar r.session.bar.granted ∧
      r'.sink = ⟨r.sink.held ++
        Utf8.encode (textReport r.session.settings.maxUrlWidth r.session.rows r.session.view), none⟩ := by
  have hline : Command.ofLine r.session.menu ":show".toList = .show := rfl
  rw [line_eq (Utf8.decode?_encode _), hline]
  -- the command itself changes nothing, so the answer is all there is
  let answered : SessionRun := { r with events := r.events ++ [] }
  have hobey : r.obey .show =
      answered.say (textReport r.session.settings.maxUrlWidth r.session.rows r.session.view) := rfl
  have hanswered : answered.sink.room = none := hroom
  rw [hobey, say_eq hanswered]
  exact ⟨_, rfl, rfl, rfl⟩

end SessionRun

/-- A session prints what its run writes, however it ends. -/
theorem Program.converse_output [PatternLibrary] (c : Program.Context) (rows : List Row) (first : Option Text)
    (w : World) :
    ((Program.converse c rows first).run w).1.output =
      ((Session.mk rows c.settings c.colored (FilterBar.forQuery c.settings first).1).run
        w.directory w.output w.input).1.sink := by
  have hconverse {s : Session} {shown : EventFilter} {next : Option SessionFault → Script} (w : World)
      (hnext : ∀ fault w', ((next fault).run w').1.output = w'.output) :
      ((Script.converse s shown next).run w).1.output = (s.run w.directory w.output w.input).1.sink := by
    rw [Script.run]
    exact hnext _ _
  unfold Program.converse
  cases FilterBar.forQuery c.settings first with
  | mk bar events =>
    dsimp only
    rw [Program.run_tell]
    refine (hconverse (w.heard (c.shown.linesOf events)) ?_).trans rfl
    intro fault w'
    cases fault with
    | none => rfl
    | some why => rfl

/-- **A query and the command to show**, at the beginning of a session. -/
theorem run_show [PatternLibrary] (s : Session) (directory : Directory) {sink : Sink} {input : Octets} {limit : Nat}
    {query : Text} {more : List Octets} (hbar : s.bar.compiler = .standard limit)
    (hroom : sink.room = none) (hquery : query.trimStart.head? ≠ some ':')
    (hinput : input.lines = Utf8.encode query :: Utf8.encode ":show".toList :: more) :
    let f := Filter.ofQuery limit query
    ∃ rest, (s.run directory sink input).1.sink.held = sink.held ++ (Utf8.encode (greetingText s.rows) ++
      (Utf8.encode (queryAnswer query f (f.visible s.rows).length s.rows.length) ++
        (Utf8.encode (textReport s.settings.maxUrlWidth s.rows ⟨f.visible s.rows, !f.isEverything, s.colored⟩) ++
          rest))) := by
  intro f
  let greeted : SessionRun := ⟨s, directory, ⟨sink.held ++ Utf8.encode (greetingText s.rows), none⟩, []⟩
  have hgreeted : s.run directory sink input = greeted.lines input.lines := by
    unfold Session.run
    rw [Sink.write_of_unbounded hroom, greeting_eq]
    rfl
  obtain ⟨r₁, hline₁, hsession₁, hsink₁⟩ := greeted.line_replace rfl hbar hquery
  have hroom₁ : r₁.sink.room = none := by rw [hsink₁]
  obtain ⟨r₂, hline₂, hsession₂, hsink₂⟩ := r₁.line_show hroom₁
  have hroom₂ : r₂.sink.room = none := by rw [hsink₂]
  have hfocus₂ : r₂.session.bar.wantsFocus = false := by rw [hsession₂]; rfl
  -- later lines may be anything, but what they are answered with comes behind
  obtain ⟨rest, hrest⟩ := r₂.lines_extends hroom₂ hfocus₂ more
  refine ⟨rest, ?_⟩
  have hheld : greeted.sink.held = sink.held ++ Utf8.encode (greetingText s.rows) := rfl
  rw [hgreeted, hinput, lines_of_more _ hline₁, lines_of_more _ hline₂, hrest, hsink₂, hsink₁, hsession₁, hheld]
  simp only [List.append_assoc]
  rfl

/-- What is typed on two lines, with anything behind them. -/
theorem lines_typed {query : Text} {e after : Octets} (hlf : '\n' ∉ query) (hcr : '\r' ∉ query)
    (he : EndsLine 10 13 e) (hafter : after = [] ∨ ∃ e' more, EndsLine 10 13 e' ∧ after = e' ++ more) :
    ∃ more, Octets.lines (Utf8.encode query ++ (e ++ (Utf8.encode ":show".toList ++ after))) =
      Utf8.encode query :: Utf8.encode ":show".toList :: more := by
  have hlf' : (10 : UInt8) ∉ Utf8.encode query := fun h => hlf (Utf8.mem_encode_ascii h (by decide))
  have hcr' : (13 : UInt8) ∉ Utf8.encode query := fun h => hcr (Utf8.mem_encode_ascii h (by decide))
  have hshow : (10 : UInt8) ∉ Utf8.encode ":show".toList := by decide
  have hshow' : (13 : UInt8) ∉ Utf8.encode ":show".toList := by decide
  have hfirst := cutLines_line (Utf8.encode ":show".toList ++ after) (by decide) hlf' hcr' he
  unfold Octets.lines
  rw [hfirst]
  rcases hafter with rfl | ⟨e', more, he', rfl⟩
  · rw [List.append_nil, cutLines_last hshow (by decide)]
    exact ⟨[], rfl⟩
  · rw [cutLines_line more (by decide) hshow hshow' he']
    exact ⟨_, rfl⟩

/-! ## The main result -/

namespace Program

/-- The world after a job, and the exit code. -/
def performed [PatternLibrary] (environment : Environment) (settings : Settings) (i : Invocation) (w : World)
    (job : Job) : World × Nat := (start environment { i with job := job } settings).run w

/-- **What the surfaces show** of a query that leaves the rows at some places. -/
structure Shows [PatternLibrary] (environment : Environment) (settings : Settings) (i : Invocation) (w : World)
    (file query : Text) (rows : List Row) (places : List Nat) : Prop where
  /-- As JSON the rows at the places are printed, and can be loaded again. -/
  json : ∀ output origin,
    (performed environment settings i w (.filter file (some query) .json output)).1.output.held =
        w.output.held ++ Utf8.encode (jsonReport rows places ++ ['\n']) ∧
      parseRows origin (jsonReport rows places ++ ['\n']) = .ok (rowsAt rows places)
  /-- As text they are drawn as a table and counted, against all rows if the query asks for anything. -/
  text : ∀ output, ∃ report,
    Reported settings.maxUrlWidth (colored environment i.color)
        (Filter.ofQuery settings.patternSizeLimit query) rows places report ∧
      (performed environment settings i w (.filter file (some query) .text output)).1.output.held =
        w.output.held ++ Utf8.encode report
  /-- A query that asks for nothing leaves all places. -/
  everything : (Filter.ofQuery settings.patternSizeLimit query).isEverything = true →
    places = List.range rows.length
  /-- An export writes a record for each of the rows and reports their number, or fails and writes
      nothing. -/
  save : ∀ path, ∃ csv told failed,
    Csv.decode? csv = some (["Rank", "Method", "URL", "Status Code"].map String.toList ::
      (rowsAt rows places).map fun r => [Decimal.ofInt r.rank.toInt, r.method, r.url,
        Decimal.ofNat r.status.toNat]) ∧
    performed environment settings i w (.save file path (some query) true) =
      match w.directory.write path csv with
      | .ok d    => (⟨d, w.input, w.output, w.reports ++ told ++
          exportReports (contextOf environment i settings) path places.length⟩, 0)
      | .error _ => (w.heard failed, 1)
  /-- In a session with the query on its first line and the command to show on its second, that command is
      answered as the query is printed as text. -/
  session : ∀ first e after, '\n' ∉ query → '\r' ∉ query → query.trimStart.head? ≠ some ':' →
    EndsLine 10 13 e → (after = [] ∨ ∃ e' more, EndsLine 10 13 e' ∧ after = e' ++ more) →
    w.input = Utf8.encode query ++ (e ++ (Utf8.encode ":show".toList ++ after)) →
    ∃ report rest,
      Reported settings.maxUrlWidth (colored environment i.color)
          (Filter.ofQuery settings.patternSizeLimit query) rows places report ∧
      (performed environment settings i w (.filter file (some query) .text none)).1.output.held =
        w.output.held ++ Utf8.encode report ∧
      (performed environment settings i w (.converse file first)).1.output.held =
        w.output.held ++ (Utf8.encode (greetingText rows) ++
          (Utf8.encode (queryAnswer query (Filter.ofQuery settings.patternSizeLimit query)
              places.length rows.length) ++
            (Utf8.encode report ++ rest)))

section

variable {environment : Environment} {settings : Settings} {i : Invocation} {w : World} {file : Text}
  {rows : List Row}

/-- What a report of a file prints. -/
theorem performed_filter [PatternLibrary] (hload : loadRows file (w.directory.readText file) = .ok rows)
    (hroom : w.output.room = none) (query : Option Text) (format : OutputFormat) (output : Option Text) :
    (performed environment settings i w (.filter file query format output)).1.output.held =
      w.output.held ++ Utf8.encode (filterText (contextOf environment i settings) rows
        (FilterBar.forQuery settings query).1 format) := by
  obtain ⟨ls, hrun⟩ := start_run environment settings { i with job := .filter file query format output }
    (fun c rows => filter c rows query format output) (fun c => rfl) hload
  have hheard : (w.heard ls).output.room = none := hroom
  have hwrite := Sink.write_of_unbounded hheard
  unfold performed
  rw [hrun, filter_output, hwrite]
  rfl

/-- What a session on a file prints. -/
theorem performed_converse [PatternLibrary] (hload : loadRows file (w.directory.readText file) = .ok rows)
    (first : Option Text) :
    (performed environment settings i w (.converse file first)).1.output =
      ((Session.mk rows settings (colored environment i.color) (FilterBar.forQuery settings first).1).run
        w.directory w.output w.input).1.sink := by
  obtain ⟨ls, hrun⟩ := start_run environment settings { i with job := .converse file first }
    (fun c rows => converse c rows first) (fun c => rfl) hload
  unfold performed
  rw [hrun, converse_output]
  rfl

/-- What an export of the visible rows of a file comes to. -/
theorem performed_save [PatternLibrary] (environment : Environment) (settings : Settings) (i : Invocation)
    (hload : loadRows file (w.directory.readText file) = .ok rows) (path query : Text) :
    let chosen := (Filter.ofQuery settings.patternSizeLimit query).select rows
    ∃ told failed, performed environment settings i w (.save file path (some query) true) =
      match w.directory.write path (Utf8.encode (Csv.ofRows chosen)) with
      | .ok d    => (⟨d, w.input, w.output, w.reports ++ told ++
          exportReports (contextOf environment i settings) path chosen.length⟩, 0)
      | .error _ => (w.heard failed, 1) := by
  intro chosen
  obtain ⟨ls, hrun⟩ := start_run environment settings
    { i with job := .save file path (some query) true } (fun c rows => save c rows path (some query) true)
    (fun c => rfl) hload
  obtain ⟨told, failed, hsave⟩ := save_run (contextOf environment i settings) rows (w.heard ls) path query
  refine ⟨ls ++ told, ls ++ failed, ?_⟩
  unfold performed
  rw [← World.heard_heard, ← List.append_assoc w.reports]
  exact hrun.trans hsave

/-- **All surfaces show the same rows.** Let a file of rows load, and let a list of places increase and hold
    just the places of the rows that a query keeps. Then reports, exports and sessions show the rows at
    these places, whatever the settings. -/
theorem shows_agree [PatternLibrary] (query : Text) (places : List Nat)
    (hload : loadRows file (w.directory.readText file) = .ok rows) (hroom : w.output.room = none)
    (hincreasing : places.Pairwise (· < ·))
    (hplaces : ∀ n, n ∈ places ↔
      ∃ r, rows[n]? = some r ∧ (Filter.ofQuery settings.patternSizeLimit query).keeps r = true) :
    Shows environment settings i w file query rows places := by
  let f := Filter.ofQuery settings.patternSizeLimit query
  obtain rfl : places = f.visible rows := f.eq_visible rows hincreasing hplaces
  have hbar : (FilterBar.forQuery settings (some query)).1 = ⟨.standard settings.patternSizeLimit, query, f, false⟩ :=
    forQuery_some settings query
  let report := textReport settings.maxUrlWidth rows ⟨f.visible rows, !f.isEverything, colored environment i.color⟩
  have hreport : Reported settings.maxUrlWidth (colored environment i.color) f rows (f.visible rows) report :=
    reported_textReport _ _ f (by rw [Filter.rowsAt_visible, visible_length])
  have htext : ∀ output, (performed environment settings i w (.filter file (some query) .text output)).1.output.held =
      w.output.held ++ Utf8.encode report := by
    intro output
    rw [performed_filter hload hroom, hbar]
    rfl
  refine ⟨?_, fun output => ⟨report, hreport, htext output⟩, ?_, ?_, ?_⟩
  · intro output origin
    rw [performed_filter hload hroom, hbar]
    exact ⟨rfl, parseRows_rows origin _ (by decide)⟩
  · intro heverything
    have hf : f = .everything := by
      cases hcase : f with
      | everything => rfl
      | expression clauses =>
        change f.isEverything = true at heverything
        rw [hcase] at heverything
        cases heverything
    rw [hf, Filter.visible_everything]
  · intro path
    obtain ⟨told, failed, hsave⟩ := performed_save environment settings i hload path query
    refine ⟨Utf8.encode (Csv.ofRows (rowsAt rows (f.visible rows))), told, failed, ?_, ?_⟩
    · exact Csv.decode?_ofRows (rowsAt rows (f.visible rows))
    · rw [Filter.rowsAt_visible, visible_length]
      exact hsave
  · intro first e after hlf hcr hquery he hafter hinput
    obtain ⟨more, hlines⟩ := lines_typed hlf hcr he hafter
    rw [← hinput] at hlines
    let s : Session := ⟨rows, settings, colored environment i.color, (FilterBar.forQuery settings first).1⟩
    obtain ⟨rest, hrest⟩ := run_show s w.directory (forQuery_compiler settings first) hroom hquery hlines
    refine ⟨report, rest, hreport, htext none, ?_⟩
    rw [performed_converse hload]
    exact hrest

end

/-- Two rows in a file that is named from the root, of which a query keeps the second: it is the only place shown, and
    a session shows it in the same table. -/
theorem shows_agree_second :
    let row₁ : Row := ⟨7, "GET".toList, "/a".toList, 200, none⟩
    let row₂ : Row := ⟨-3, "POST".toList, "/b".toList, 502, none⟩
    let query := "status:>=500".toList
    let content := Json.compactRow row₁ ++ '\n' :: Json.compactRow row₂
    let file := "/srv/../srv/r".toList
    let i : Invocation := ⟨none, 0, false, .never, .menu⟩
    let w := World.start ⟨["home".toList], [(["srv".toList, "r".toList], Utf8.encode content)]⟩
      (Utf8.encode (query ++ "\r\n:show".toList))
    let environment : Environment := ⟨none, none, none⟩
    let f := Filter.ofQuery Settings.standard.patternSizeLimit query
    loadRows file (w.directory.readText file) = .ok [row₁, row₂] ∧
      w.output.room = none ∧ [1].Pairwise (· < ·) ∧
      (∀ n, n ∈ [1] ↔ ∃ r, [row₁, row₂][n]? = some r ∧ f.keeps r = true) ∧
      Shows environment .standard i w file query [row₁, row₂] [1] ∧
      ∃ report rest, Reported 100 false f [row₁, row₂] [1] report ∧
        (performed environment .standard i w (.filter file (some query) .text none)).1.output.held =
          Utf8.encode report ∧
        (performed environment .standard i w (.converse file none)).1.output.held =
          Utf8.encode "2 items found (type :help for commands)\n".toList ++
            (Utf8.encode "query: status:>=500\nShowing 1 of 2 items\n".toList ++ (Utf8.encode report ++ rest)) := by
  intro row₁ row₂ query content file i w environment f
  have hload : loadRows file (w.directory.readText file) = .ok [row₁, row₂] := by decide +kernel
  have hvisible : f.visible [row₁, row₂] = [1] := by decide +kernel
  have hplaces : ∀ n, n ∈ [1] ↔ ∃ r, [row₁, row₂][n]? = some r ∧ f.keeps r = true := by
    intro n
    rw [← hvisible]
    exact Filter.mem_visible _ _
  have hshows : Shows environment .standard i w file query [row₁, row₂] [1] :=
    shows_agree query [1] hload rfl (by decide) hplaces
  have hgreeting : greetingText [row₁, row₂] = "2 items found (type :help for commands)\n".toList := by decide +kernel
  have hanswer : queryAnswer query f 1 2 = "query: status:>=500\nShowing 1 of 2 items\n".toList := by decide +kernel
  obtain ⟨report, rest, hreport, htext, hsession⟩ := hshows.session none [13, 10] [] (by decide) (by decide)
    (by decide) (.inr rfl) (.inl rfl) rfl
  refine ⟨hload, rfl, by decide, hplaces, hshows, report, rest, hreport, htext, ?_⟩
  rw [hsession, hgreeting]
  show [] ++ (_ ++ (Utf8.encode (queryAnswer query f 1 2) ++ _)) = _
  rw [hanswer]
  rfl

end Program

end RankSieve
