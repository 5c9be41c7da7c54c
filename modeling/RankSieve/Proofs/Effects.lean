import RankSieve.Proofs.Paths
import RankSieve.Proofs.Surfaces

/-!
# `RankSieve.Proofs.Effects` — what a run leaves behind

Settings and rows are loaded before anything is printed or written, and a run writes one file at most, after
it has printed. So a run that fails to start leaves the files and standard output as they were, and any
other that is no session changes no file but its destination.

A run is told by what it does to a world. One that fails on the way leaves reports and nothing else
(`Failed`), and each job is one of three things to the files (`Writes`). The way to the job is the same for
all of them (`invoke_cases`), so the theorem is put together from the job and the way.

## Contents
- **Failing.** `Failed`, and the starts that fail: `StartFails`, `script_failed`.
- **Writing.** `Writes`, for each job: `filter_writes`, `save_writes`, `perform_writes`.
- **Whole runs.** `script_leads` says what may change, `script_holds` what is written.
- **The main result.** `Program.run_changes_destination`.
-/

namespace RankSieve

open CommandLine

/-- The file of rows that a job begins with. -/
def CommandLine.Job.rows? : Job → Option Text
  | .filter file _ _ _ => some file
  | .save file _ _ _   => some file
  | .converse file _   => some file
  | .menu              => none

/-- The file that a job is to write, if it names one. -/
def CommandLine.Job.destination? : Job → Option Text
  | .filter _ _ _ output => output
  | .save _ output _ _   => some output
  | .converse _ _        => none
  | .menu                => none

/-! ## Failing -/

/-- The end of a run that failed and left nothing but reports. -/
def Failed (w : World) (done : World × Nat) : Prop := ∃ ls code, code ≠ 0 ∧ done = (w.heard ls, code)

theorem Failed.of_heard {w : World} {ls : List Text} {done : World × Nat} (h : Failed (w.heard ls) done) :
    Failed w done := by
  obtain ⟨ls', code, hcode, rfl⟩ := h
  exact ⟨ls ++ ls', code, hcode, by rw [World.heard_heard]⟩

theorem Failed.exitCode_ne_zero {w : World} {done : World × Nat} (h : Failed w done) : done.2 ≠ 0 := by
  obtain ⟨ls, code, hcode, rfl⟩ := h
  exact hcode

namespace Program

/-- Why nothing starts: the command line is wrong or says nothing, or there are no settings where it names a
    file of them, or no rows where it names a file of these. -/
inductive StartFails [TomlLibrary] (environment : Environment) (words : List Text) (d : Directory) : Prop where
  | usage {e : UsageError} :
      Invocation.read environment.settings words = .error (.usage e) → StartFails environment words d
  | nothingSaid : Invocation.read environment.settings words = .error .nothingSaid → StartFails environment words d
  | settings {i : Invocation} {path : Text} {e : SettingsError} :
      Invocation.read environment.settings words = .ok i → i.config = some path →
      Settings.ofFile path (d.readText path) = .error e → StartFails environment words d
  | rows {i : Invocation} {file : Text} {e : LoadError} :
      Invocation.read environment.settings words = .ok i → i.job.rows? = some file →
      loadRows file (d.readText file) = .error e → StartFails environment words d

theorem failed_fail (reasons : List Text) (w : World) : Failed w ((fail reasons).run w) :=
  ⟨_, 1, by decide, rfl⟩

theorem failed_withRows (c : Context) {file : Text} (next : List Row → Script) {w : World} {e : LoadError}
    (h : loadRows file (w.directory.readText file) = .error e) : Failed w ((withRows c file next).run w) := by
  unfold withRows
  rw [Script.run]
  simp only [h]
  exact failed_fail _ w

/-- A job without its rows fails. -/
theorem failed_perform [PatternLibrary] (c : Context) {job : Job} {file : Text} {w : World} {e : LoadError}
    (hfile : job.rows? = some file) (h : loadRows file (w.directory.readText file) = .error e) :
    Failed w ((perform c job).run w) := by
  cases job with
  | filter | save | converse =>
    obtain rfl := Option.some.inj hfile
    exact failed_withRows c _ h
  | menu => cases hfile

/-- Starting only makes reports on the way to the job. -/
theorem start_eq [PatternLibrary] (environment : Environment) (i : Invocation) (settings : Settings) (w : World) :
    ∃ ls, (start environment i settings).run w =
      (perform (contextOf environment i settings) i.job).run (w.heard ls) := by
  let c := contextOf environment i settings
  let directives := environment.directives.getD (levelDirective i.verbose i.quiet settings.logLevel)
  let ignored := (EventFilter.ignored directives).map IgnoredDirective.line
  let started := c.shown.linesOf (startedEvent :: (i.config.map settingsEvent).toList)
  refine ⟨ignored ++ started, ?_⟩
  rw [← World.heard_heard]
  rfl

section

variable [PatternLibrary] [TomlLibrary]

/-- **The way to a job**: it ends where there are no settings, or else it comes to the job with no more than
    reports made. -/
theorem invoke_cases (environment : Environment) (i : Invocation) (w : World) :
    (∃ path e, i.config = some path ∧ Settings.ofFile path (w.directory.readText path) = .error e ∧
      Failed w ((invoke environment i).run w)) ∨
    ((∀ path, i.config = some path → ∃ settings, Settings.ofFile path (w.directory.readText path) = .ok settings) ∧
      ∃ c ls, (invoke environment i).run w = (perform c i.job).run (w.heard ls)) := by
  unfold invoke
  cases i.config with
  | none => exact .inr ⟨fun path h => (nomatch h), _, start_eq environment i .standard w⟩
  | some path =>
    dsimp only
    rw [Script.run]
    cases h : Settings.ofFile path (w.directory.readText path) with
    | error e => exact .inl ⟨path, e, rfl, h, failed_fail _ w⟩
    | ok settings =>
      refine .inr ⟨fun path' hpath => ⟨settings, ?_⟩, _, start_eq environment i settings w⟩
      rw [← Option.some.inj hpath, h]

theorem script_ok {environment : Environment} {words : List Text} {i : Invocation}
    (h : Invocation.read environment.settings words = .ok i) : script environment words = invoke environment i := by
  unfold script
  rw [h]

/-- A command line that is refused without having asked for anything. -/
theorem script_refused {environment : Environment} {words : List Text} {r : Refusal} {w : World}
    (h : Invocation.read environment.settings words = .error r) (hsilent : r.output = []) (hcode : r.exitCode ≠ 0) :
    Failed w ((script environment words).run w) := by
  refine ⟨r.complaint, r.exitCode, hcode, ?_⟩
  unfold script
  rw [h]
  dsimp only
  rw [hsilent]
  show (Script.run _ { w with output := (w.output.write []).1 }) = _
  rw [Sink.write_nil]
  rfl

/-- **A start that fails** leaves nothing but reports. -/
theorem script_failed {environment : Environment} {words : List Text} {w : World}
    (h : StartFails environment words w.directory) : Failed w ((script environment words).run w) := by
  cases h with
  | usage hread => exact script_refused hread rfl (Nat.succ_ne_zero 1)
  | nothingSaid hread => exact script_refused hread rfl (Nat.succ_ne_zero 1)
  | @settings i path e hread hconfig hsettings =>
    rw [script_ok hread]
    rcases invoke_cases environment i w with ⟨-, -, -, -, hfailed⟩ | ⟨hloaded, -⟩
    · exact hfailed
    · obtain ⟨settings, hok⟩ := hloaded path hconfig
      rw [hsettings] at hok
      cases hok
  | @rows i file e hread hfile hrows =>
    rw [script_ok hread]
    rcases invoke_cases environment i w with ⟨-, -, -, -, hfailed⟩ | ⟨-, c, ls, hrun⟩
    · exact hfailed
    · rw [hrun]
      exact (failed_perform c (w := w.heard ls) hfile hrows).of_heard

end

/-! ## Writing -/

/-- **What a run does to the files**, with a text for a destination if there is one: it writes that, or it has
    none to write, or it fails and changes nothing. -/
inductive Writes (d : Directory) (destination : Option Text) (content : Octets) (done : World × Nat) : Prop where
  | written {path : Text} :
      destination = some path → d.write path content = .ok done.1.directory → Writes d destination content done
  | nothing : destination = none → done.1.directory = d → Writes d destination content done
  | failed : done.2 ≠ 0 → done.1.directory = d → Writes d destination content done

/-- What a script does that saves a file and then is finished, with or without success. -/
theorem save_writes_of {path : Text} {content : Octets} {next : Except FileFault Unit → Script} {w : World}
    (hok : ∀ w', ((next (.ok ())).run w').1.directory = w'.directory)
    (herror : ∀ why, Failed w ((next (.error why)).run w)) :
    Writes w.directory (some path) content ((Script.save path content next).run w) := by
  cases hwrite : w.directory.write path content with
  | ok d =>
    rw [run_save_ok w hwrite]
    exact .written rfl (by rw [hok]; exact hwrite)
  | error why =>
    obtain ⟨ls, code, hcode, hdone⟩ := herror why
    rw [run_save_error w hwrite, hdone]
    exact .failed hcode rfl

/-- A report is written to its destination, if it has one. -/
theorem filter_writes [PatternLibrary] (c : Context) (rows : List Row) (query : Option Text) (format : OutputFormat)
    (output : Option Text) (w : World) :
    Writes w.directory output (Utf8.encode (filterText c rows (FilterBar.forQuery c.settings query).1 format))
      ((filter c rows query format output).run w) := by
  unfold filter
  cases FilterBar.forQuery c.settings query with
  | mk bar events =>
    cases output with
    | none => exact .nothing rfl rfl
    | some path =>
      -- the report is printed first, and no file has changed when it is saved
      let text := filterText c rows bar format
      let printed : World :=
        { w.heard (c.shown.linesOf events) with output := (w.output.write (Utf8.encode text)).1 }
      show Writes printed.directory (some path) (Utf8.encode text) ((Script.save path (Utf8.encode text) _).run printed)
      exact save_writes_of (fun w' => rfl) fun why => failed_fail _ printed

/-- After an export has been written, only reports are made. -/
theorem finish_directory (c : Context) (events : List Event) (ls : List Text) (w : World) :
    ((tell c events (if c.quiet then .finish 0 else .report ls (.finish 0))).run w).1.directory = w.directory := by
  rw [run_tell]
  cases c.quiet with
  | true => rfl
  | false => rfl

/-- An export is written to its destination. -/
theorem save_writes [PatternLibrary] (c : Context) (rows : List Row) (output : Text) (query : Option Text)
    (visibleOnly : Bool) (w : World) :
    ∃ content, Writes w.directory (some output) content ((save c rows output query visibleOnly).run w) := by
  unfold save
  cases FilterBar.forQuery c.settings query with
  | mk bar events =>
    dsimp only
    cases if visibleOnly = true then (bar.filter.select rows, events) else (rows, []) with
    | mk chosen told =>
      let heard := w.heard (c.shown.linesOf told)
      refine ⟨Utf8.encode (Csv.ofRows chosen), ?_⟩
      show Writes heard.directory (some output) _ ((Script.save output _ _).run heard)
      exact save_writes_of (fun w' => finish_directory c _ _ w') fun why => failed_fail _ heard

/-- What is done with the rows of a file is done after they are loaded, or not at all. -/
theorem withRows_cases (c : Context) (file : Text) (next : List Row → Script) (w : World) :
    Failed w ((withRows c file next).run w) ∨
      ∃ rows ls, (withRows c file next).run w = (next rows).run (w.heard ls) := by
  cases h : loadRows file (w.directory.readText file) with
  | error e => exact .inl (failed_withRows c next h)
  | ok rows =>
    refine .inr ⟨rows, c.shown.linesOf [loadedEvent file rows], ?_⟩
    unfold withRows
    rw [Script.run]
    simp only [h]
    rfl

theorem writes_of_failed {w : World} {done : World × Nat} (h : Failed w done) (destination : Option Text)
    (content : Octets) : Writes w.directory destination content done := by
  obtain ⟨ls, code, hcode, rfl⟩ := h
  exact .failed hcode rfl

/-- Filtering writes what it prints, or fails. -/
theorem perform_filter [PatternLibrary] (c : Context) (file : Text) (query : Option Text) (format : OutputFormat)
    (output : Option Text) (w : World) :
    let done := (perform c (.filter file query format output)).run w
    ∃ content, Writes w.directory output content done ∧ (done.2 = 0 → done.1.output = (w.output.write content).1) := by
  dsimp only
  rcases withRows_cases c file (fun rows => filter c rows query format output) w with hfailed | ⟨rows, ls, hrun⟩
  · refine ⟨[], writes_of_failed hfailed _ _, fun hdone => ?_⟩
    exact absurd hdone hfailed.exitCode_ne_zero
  · refine ⟨Utf8.encode (filterText c rows (FilterBar.forQuery c.settings query).1 format), ?_, fun _ => ?_⟩
    · exact hrun ▸ filter_writes c rows query format output (w.heard ls)
    · exact (congrArg (·.1.output) hrun).trans (filter_output c rows (w.heard ls) query format output)

/-- **A job that is no session** writes to its destination only. -/
theorem perform_writes [PatternLibrary] (c : Context) {job : Job}
    (hjob : ∀ file query, job ≠ .converse file query) (w : World) :
    ∃ content, Writes w.directory job.destination? content ((perform c job).run w) := by
  cases job with
  | filter file query format output =>
    obtain ⟨content, hwrites, -⟩ := perform_filter c file query format output w
    exact ⟨content, hwrites⟩
  | save file output query visibleOnly =>
    rcases withRows_cases c file (fun rows => save c rows output query visibleOnly) w with hfailed | ⟨rows, ls, hrun⟩
    · exact ⟨[], writes_of_failed hfailed _ _⟩
    · obtain ⟨content, hwrites⟩ := save_writes c rows output query visibleOnly (w.heard ls)
      exact ⟨content, hrun ▸ hwrites⟩
  | converse file query => exact absurd rfl (hjob file query)
  | menu => exact ⟨[], .nothing rfl rfl⟩

/-- Only the destination changes. -/
theorem Writes.leads {d : Directory} {destination : Option Text} {content : Octets} {done : World × Nat}
    (h : Writes d destination content done) {names : Names}
    (hchanged : done.1.directory.contentAt? names ≠ d.contentAt? names) :
    ∃ path, destination = some path ∧ d.Leads names path := by
  cases h with
  | @written path hpath hwrite =>
    obtain ⟨place, hleads, hput⟩ := Directory.write_eq hwrite
    refine ⟨path, hpath, ?_⟩
    rw [hput, Directory.contentAt?_put] at hchanged
    by_cases hnames : names = place
    · exact hnames ▸ hleads
    · rw [if_neg hnames] at hchanged
      exact absurd rfl hchanged
  | nothing _ hsame => exact absurd (congrArg (Directory.contentAt? · names) hsame) hchanged
  | failed _ hsame => exact absurd (congrArg (Directory.contentAt? · names) hsame) hchanged

/-! ## Whole runs -/

section

variable [PatternLibrary] [TomlLibrary]

/-- **A run that is no session** changes the file that its destination leads to, if anything. -/
theorem script_leads {environment : Environment} {words : List Text} {w : World} {names : Names}
    (hjob : ∀ i file query, Invocation.read environment.settings words = .ok i → i.job ≠ .converse file query)
    (hchanged : ((script environment words).run w).1.directory.contentAt? names ≠ w.directory.contentAt? names) :
    ∃ i path, Invocation.read environment.settings words = .ok i ∧ i.job.destination? = some path ∧
      w.directory.Leads names path := by
  cases hread : Invocation.read environment.settings words with
  | error r =>
    -- what is refused is answered, and the answer is no file
    unfold script at hchanged
    rw [hread] at hchanged
    exact absurd rfl hchanged
  | ok i =>
    rw [script_ok hread] at hchanged
    refine ⟨i, ?_⟩
    have hleads : ∃ path, i.job.destination? = some path ∧ w.directory.Leads names path := by
      rcases invoke_cases environment i w with ⟨-, -, -, -, hfailed⟩ | ⟨-, c, ls, hrun⟩
      · exact (writes_of_failed hfailed i.job.destination? []).leads hchanged
      · obtain ⟨content, hwrites⟩ := perform_writes c (fun file query => hjob i file query hread) (w.heard ls)
        rw [hrun] at hchanged
        exact hwrites.leads hchanged
    obtain ⟨path, hpath, hnames⟩ := hleads
    exact ⟨path, rfl, hpath, hnames⟩

/-- **A report that is printed with success** is what its destination holds. -/
theorem script_holds {environment : Environment} {words : List Text} {i : Invocation}
    {file path : Text} {query : Option Text} {format : OutputFormat} {w : World}
    (hread : Invocation.read environment.settings words = .ok i)
    (hjob : i.job = .filter file query format (some path)) (hdone : ((script environment words).run w).2 = 0) :
    ∃ content, ((script environment words).run w).1.directory.read path = .ok content ∧
      ((script environment words).run w).1.output = (w.output.write content).1 := by
  rw [script_ok hread] at hdone ⊢
  rcases invoke_cases environment i w with ⟨-, -, -, -, hfailed⟩ | ⟨-, c, ls, hrun⟩
  · exact absurd hdone hfailed.exitCode_ne_zero
  · rw [hrun, hjob] at hdone ⊢
    obtain ⟨content, hwrites, houtput⟩ := perform_filter c file query format (some path) (w.heard ls)
    refine ⟨content, ?_, houtput hdone⟩
    cases hwrites with
    | written hpath hwrite =>
      obtain rfl := Option.some.inj hpath
      exact Directory.read_of_write hwrite
    | nothing hnone => cases hnone
    | failed hcode => exact absurd hdone hcode

/-! ## The main result -/

/-- **The effects of a run.** A start that fails exits with failure, prints nothing and changes nothing. What
    is no session changes the file that its destination leads to, and no other; and where a report has been
    printed with success, its destination holds what was printed, even if the rows were loaded from it. -/
theorem run_changes_destination (environment : Environment) (words : List Text) (directory : Directory)
    (input : Octets) :
    let done := (script environment words).run (World.start directory input)
    (StartFails environment words directory →
      done.2 ≠ 0 ∧ done.1.output.held = [] ∧ done.1.directory = directory) ∧
    ((∀ i file query, Invocation.read environment.settings words = .ok i → i.job ≠ .converse file query) →
      ∀ names, done.1.directory.contentAt? names ≠ directory.contentAt? names →
        ∃ i path, Invocation.read environment.settings words = .ok i ∧ i.job.destination? = some path ∧
          directory.Leads names path) ∧
    ∀ i file query format path, Invocation.read environment.settings words = .ok i →
      i.job = .filter file query format (some path) → done.2 = 0 →
        done.1.directory.read path = .ok done.1.output.held := by
  intro done
  refine ⟨fun hfails => ?_, fun hjob names hchanged => script_leads hjob hchanged, ?_⟩
  · obtain ⟨ls, code, hcode, hdone⟩ := script_failed (w := World.start directory input) hfails
    rw [show done = _ from hdone]
    exact ⟨hcode, rfl, rfl⟩
  · intro i file query format path hread hjob hdone
    obtain ⟨content, hholds, houtput⟩ := script_holds (w := World.start directory input) hread hjob hdone
    have hheld : done.1.output.held = content := congrArg Sink.held houtput
    rw [hheld]
    exact hholds

end

/-- Rows written over themselves, under a path from the root; and rows above the current directory that do not load,
    for which an export stays as it was. -/
theorem run_changes_destination_itself :
    let environment : Environment := ⟨none, none, none⟩
    let record := Json.compactRow ⟨7, "GET".toList, "/a".toList, 200, none⟩
    let here : Names := ["srv", "runs"].map String.toList
    let directory : Directory := ⟨here, [(here ++ ["r".toList], Utf8.encode record),
      (here ++ ["old".toList, "out.csv".toList], Utf8.encode "Rank".toList),
      (["srv".toList, "torn".toList], Utf8.encode (record ++ "\n\x7b".toList))]⟩
    let filter := ["filter", "r", "--format=json", "-o", "/srv/../srv/runs/old/.././/r"].map String.toList
    let filtered := (script environment filter).run (World.start directory [])
    let save := ["export", "../torn", "-o", "old/out.csv"].map String.toList
    let saved := (script environment save).run (World.start directory [])
    (filtered.2 = 0 ∧ filtered.1.output.held ≠ Utf8.encode record ∧
      filtered.1.directory.read "/srv/../srv/runs/old/.././/r".toList = .ok filtered.1.output.held ∧
      ∀ names, filtered.1.directory.contentAt? names ≠ directory.contentAt? names →
        names = here ++ ["r".toList]) ∧
    StartFails environment save directory ∧
      saved.2 ≠ 0 ∧ saved.1.output.held = [] ∧ saved.1.directory = directory := by
  intro environment record here directory filter filtered save saved
  have hfilter : Invocation.read none filter =
      .ok ⟨none, 0, false, .auto,
        .filter "r".toList none .json (some "/srv/../srv/runs/old/.././/r".toList)⟩ := by decide +kernel
  have hsave : Invocation.read none save =
      .ok ⟨none, 0, false, .auto, .save "../torn".toList "old/out.csv".toList none false⟩ := by decide +kernel
  have hdone : filtered.2 = 0 := by decide +kernel
  have hprinted : filtered.1.output.held ≠ Utf8.encode record := by decide +kernel
  obtain ⟨-, hchanged, hholds⟩ := run_changes_destination environment filter directory []
  have hreport : ∀ i file query, Invocation.read none filter = .ok i → i.job ≠ .converse file query := by
    intro i file query hread
    obtain rfl := Except.ok.inj (hfilter.symm.trans hread)
    exact fun h => nomatch h
  have htorn : ∃ e, loadRows "../torn".toList (directory.readText "../torn".toList) = .error e :=
    ⟨.record "../torn".toList 2 "EOF while parsing an object at line 1 column 1".toList, by decide +kernel⟩
  obtain ⟨e, htorn⟩ := htorn
  have hfails : StartFails environment save directory := .rows hsave rfl htorn
  refine ⟨⟨hdone, hprinted, hholds _ _ _ _ _ hfilter rfl hdone, fun names hnames => ?_⟩, hfails,
    (run_changes_destination environment save directory []).1 hfails⟩
  obtain ⟨i, path, hread, hpath, hleads⟩ := hchanged hreport names hnames
  obtain rfl := Except.ok.inj (hfilter.symm.trans hread)
  obtain rfl := Option.some.inj hpath
  have hresolve : directory.resolve "/srv/../srv/runs/old/.././/r".toList = .ok (.file (here ++ ["r".toList])) := by
    decide +kernel
  rcases hleads with h | h
  · exact Destination.file.inj (Except.ok.inj (h.symm.trans hresolve))
  · exact nomatch Except.ok.inj (h.symm.trans hresolve)

end Program

end RankSieve
