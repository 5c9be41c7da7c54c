import Mathlib.Data.List.TakeDrop
import RankSieve.Proofs.LastGoodFilter
import RankSieve.Proofs.Sinks
import RankSieve.Session

/-!
# `RankSieve.Proofs.SessionRefinement` — a session is operations on a bar

A session reads commands and writes answers, but for the filter bar it is a sequence of operations, at
most one for each line. This file reads those operations off the lines and shows that a session performs
them and nothing else.

## Contents
- **Lines.** `actOf?` is the operation that a line asks for and `isQuit` whether it ends the session, read
  off its name and argument; `ofLine_agrees` says that commands are the same reading.
- **Inputs.** `keptLines` is how far a session goes, `statusText` what it says of a bar, and `countText` of rows.
- **One line.** `line_kept` performs at most one operation and writes one answer.
- **Whole sessions.** `Performs` says what a session comes to. It holds for any number of lines
  (`lines_performs`) and so for a session from its greeting on (`Session.run_performs`).
-/

namespace RankSieve

/-! ## What the lines ask for -/

/-- The name and the argument on a line that gives a command: what follows the colon up to a blank, and
    the rest of the line without the blanks around it. -/
def commandOf? (line : Text) : Option (Text × Text) :=
  match line.dropWhile isBlank with
  | ':' :: t => some (t.takeWhile fun c => !isBlank c, Text.trim (t.dropWhile fun c => !isBlank c))
  | _        => none

/-- The entry of a menu under a number that counts from one and fits into 64 bits. -/
def pickedAt? (menu : Menu) (argument : Text) : Option QuickFilter :=
  (Decimal.readNat? argument).bind fun n =>
    if 1 ≤ n ∧ n < UInt64.size then menu.entries[n - 1]? else none

/-- The operation that a command asks for, by its name and its argument. -/
def actOfName? (menu : Menu) (name argument : Text) : Option Act :=
  if name = "and".toList then some (.edit (.connective .and))
  else if name = "or".toList then some (.edit (.connective .or))
  else if name = "add".toList ∧ argument ≠ [] then some (.edit (.condition argument))
  else if name = "clear".toList then some (.edit .clear)
  else if name = "pick".toList then (pickedAt? menu argument).map .quick
  else none

/-- The operation on the bar that a line asks for, if it asks for one: a line without a command replaces
    the text by itself. -/
def actOf? (menu : Menu) (line : Text) : Option Act :=
  (commandOf? line).elim (some (.edit (.replace line))) fun parts => actOfName? menu parts.1 parts.2

/-- Whether a name is that of the command to quit. -/
def isQuitName (name : Text) : Bool := name ∈ ["q".toList, "quit".toList, "exit".toList]

/-- Whether a line ends the session. -/
def isQuit (line : Text) : Bool := (commandOf? line).any fun parts => isQuitName parts.1

/-- Whether a command neither changes the text nor ends the session. -/
def Command.isIdle : Command → Bool
  | .edit _ => false
  | .quit   => false
  | _       => true

/-! ### Commands of lines -/

theorem trim_cons_blank {c : Char} {t : Text} (hc : isBlank c = true) : Text.trim (c :: t) = t.trim := by
  show Text.trimEnd ((c :: t).dropWhile isBlank) = Text.trimEnd (t.dropWhile isBlank)
  rw [List.dropWhile_cons_of_pos hc]

/-- Cutting at the first blank, where there is one: the blank is left out. -/
theorem cutAt_blank_cases (t : Text) :
    (Text.cutAt isBlank t = none ∧ (t.takeWhile fun c => !isBlank c) = t ∧
      (t.dropWhile fun c => !isBlank c) = []) ∨
    (∃ d rest, isBlank d = true ∧ (t.dropWhile fun c => !isBlank c) = d :: rest ∧
      Text.cutAt isBlank t = some (t.takeWhile fun c => !isBlank c, rest)) := by
  unfold Text.cutAt
  rw [List.span_eq_takeWhile_dropWhile]
  have hwhole := List.takeWhile_append_dropWhile (p := fun c => !isBlank c) (l := t)
  cases hrest : t.dropWhile fun c => !isBlank c with
  | nil =>
    rw [hrest, List.append_nil] at hwhole
    exact .inl ⟨rfl, hwhole, rfl⟩
  | cons d rest =>
    have hd := List.head?_dropWhile_not (fun c => !isBlank c) t
    rw [hrest] at hd
    exact .inr ⟨d, rest, by simpa using hd, rfl, rfl⟩

/-- The name and the argument are where the command is cut at its first blank. -/
theorem ofLine_eq (menu : Menu) (line : Text) :
    Command.ofLine menu line =
      (commandOf? line).elim (.edit (.replace line)) fun parts => .ofName menu parts.1 parts.2 := by
  unfold Command.ofLine commandOf? Text.trimStart
  cases line.dropWhile isBlank with
  | nil => rfl
  | cons c t =>
    by_cases hc : c = ':'
    · subst hc
      rcases cutAt_blank_cases t with ⟨hcut, hname, hrest⟩ | ⟨d, rest, hd, hrest, hcut⟩
      · simp only [hcut, hname, hrest]
        rfl
      · simp only [hcut, hrest, trim_cons_blank hd]
        rfl
    · simp [hc]

/-- A name is one of the words or none of them. -/
theorem ofName?_cases (name : Text) :
    (∃ w, (name, w) ∈ commandWords) ∨
      (CommandWord.ofName? name = none ∧ ∀ entry ∈ commandWords, entry.1 ≠ name) := by
  unfold CommandWord.ofName?
  cases h : commandWords.find? fun entry => entry.1 == name with
  | none =>
    refine .inr ⟨rfl, fun entry hentry he => ?_⟩
    exact List.find?_eq_none.mp h entry hentry (beq_iff_eq.mpr he)
  | some entry =>
    have hname := List.find?_some h
    obtain rfl : entry.1 = name := beq_iff_eq.mp hname
    exact .inl ⟨entry.2, List.mem_of_find?_eq_some h⟩

/-- A name that is no command asks for nothing. -/
theorem ofName_unknown {menu : Menu} {name argument : Text} (h : CommandWord.ofName? name = none) :
    Command.ofName menu name argument = .unknown name := by
  unfold Command.ofName
  rw [h]

/-- The two readings of a number that picks an entry. -/
theorem pick_eq (menu : Menu) (argument : Text) :
    Command.pick menu argument =
      (pickedAt? menu argument).elim .pickNone fun entry => .edit (.ofQuickFilter entry) := by
  unfold Command.pick pickedAt?
  cases Decimal.readNat? argument with
  | none => rfl
  | some n =>
    rw [Option.bind_some, Option.filter_some]
    by_cases hfits : n ≤ Command.greatestPick
    · rw [if_pos (decide_eq_true hfits)]
      dsimp only
      unfold Menu.entryAt?
      by_cases hzero : n = 0
      · rw [if_pos hzero, if_neg fun h => absurd hzero (Nat.ne_of_gt h.1)]
        rfl
      · rw [if_neg hzero, if_pos ⟨Nat.pos_of_ne_zero hzero, Nat.lt_succ_of_le hfits⟩]
        cases menu.entries[n - 1]? with
        | none => rfl
        | some entry => rfl
    · rw [if_neg (by simpa using hfits), if_neg fun h => hfits (Nat.le_of_lt_succ h.2)]
      rfl

/-- A command agrees with what is asked for: to quit, to make the change of an operation, or neither. -/
def Agrees (quits : Bool) (asked : Option Act) (c : Command) : Prop :=
  (quits = true ∧ c = .quit) ∨
  (quits = false ∧ ∃ a e, asked = some a ∧ a.edit? = some e ∧ c = .edit e) ∨
  (quits = false ∧ asked = none ∧ c.isIdle = true)

theorem pick_agrees (menu : Menu) (argument : Text) :
    Agrees false ((pickedAt? menu argument).map .quick) (Command.pick menu argument) := by
  rw [pick_eq]
  cases pickedAt? menu argument with
  | none => exact .inr (.inr ⟨rfl, rfl, rfl⟩)
  | some entry => exact .inr (.inl ⟨rfl, _, _, rfl, rfl, rfl⟩)

/-- The names in the table. -/
theorem ofName_agrees_known (menu : Menu) {name : Text} (argument : Text) {w : CommandWord}
    (hmem : (name, w) ∈ commandWords) :
    Agrees (isQuitName name) (actOfName? menu name argument) (.ofName menu name argument) := by
  simp only [commandWords, List.mem_cons, List.not_mem_nil, or_false, Prod.mk.injEq] at hmem
  -- one case for each line of the table, in its order
  rcases hmem with ⟨rfl, rfl⟩ | ⟨rfl, rfl⟩ | ⟨rfl, rfl⟩ | ⟨rfl, rfl⟩ | ⟨rfl, rfl⟩ | ⟨rfl, rfl⟩ |
    ⟨rfl, rfl⟩ | ⟨rfl, rfl⟩ | ⟨rfl, rfl⟩ | ⟨rfl, rfl⟩ | ⟨rfl, rfl⟩ | ⟨rfl, rfl⟩ | ⟨rfl, rfl⟩ | ⟨rfl, rfl⟩
  · exact .inl ⟨rfl, rfl⟩
  · exact .inl ⟨rfl, rfl⟩
  · exact .inl ⟨rfl, rfl⟩
  · exact .inr (.inr ⟨rfl, rfl, rfl⟩)
  · exact .inr (.inr ⟨rfl, rfl, rfl⟩)
  · exact .inr (.inl ⟨rfl, _, _, rfl, rfl, rfl⟩)
  · exact .inr (.inl ⟨rfl, _, _, rfl, rfl, rfl⟩)
  · -- without a condition there is nothing to append
    cases argument with
    | nil => exact .inr (.inr ⟨rfl, rfl, rfl⟩)
    | cons c t => exact .inr (.inl ⟨rfl, _, _, rfl, rfl, rfl⟩)
  · exact .inr (.inr ⟨rfl, rfl, rfl⟩)
  · exact pick_agrees menu argument
  · exact .inr (.inl ⟨rfl, _, _, rfl, rfl, rfl⟩)
  · exact .inr (.inr ⟨rfl, rfl, rfl⟩)
  · exact .inr (.inr ⟨rfl, rfl, rfl⟩)
  · cases argument with
    | nil => exact .inr (.inr ⟨rfl, rfl, rfl⟩)
    | cons c t => exact .inr (.inr ⟨rfl, rfl, rfl⟩)

/-- All other names. -/
theorem ofName_agrees_unknown (menu : Menu) {name : Text} (argument : Text)
    (hnone : CommandWord.ofName? name = none) (hother : ∀ entry ∈ commandWords, entry.1 ≠ name) :
    Agrees (isQuitName name) (actOfName? menu name argument) (.ofName menu name argument) := by
  have hne : ∀ entry ∈ commandWords, name ≠ entry.1 := fun entry h he => hother entry h he.symm
  refine .inr (.inr ⟨?_, ?_, ?_⟩)
  · unfold isQuitName
    rw [decide_eq_false_iff_not, List.mem_cons, List.mem_cons, List.mem_singleton]
    rintro (h | h | h)
    · exact hne ("q".toList, .quit) (by decide) h
    · exact hne ("quit".toList, .quit) (by decide) h
    · exact hne ("exit".toList, .quit) (by decide) h
  · unfold actOfName?
    rw [if_neg (hne ("and".toList, .and) (by decide)), if_neg (hne ("or".toList, .or) (by decide)),
      if_neg fun h => hne ("add".toList, .add) (by decide) h.1,
      if_neg (hne ("clear".toList, .clear) (by decide)),
      if_neg (hne ("pick".toList, .pick) (by decide))]
  · rw [ofName_unknown hnone]
    rfl

/-- **A line is read alike by both.** The line that ends a session is the command to quit, a line that
    asks for an operation is the command for its change, and any other line is an idle command. -/
theorem ofLine_agrees (menu : Menu) (line : Text) :
    Agrees (isQuit line) (actOf? menu line) (.ofLine menu line) := by
  rw [ofLine_eq]
  unfold isQuit actOf?
  cases commandOf? line with
  | none => exact .inr (.inl ⟨rfl, _, _, rfl, rfl, rfl⟩)
  | some parts =>
    rcases ofName?_cases parts.1 with ⟨w, hmem⟩ | ⟨hnone, hother⟩
    · exact ofName_agrees_known menu parts.2 hmem
    · exact ofName_agrees_unknown menu parts.2 hnone hother

/-! ## How far a session goes -/

/-- How the lines of a session end. -/
inductive Ending where
  /-- There are no more lines. -/
  | exhausted
  /-- A line ends the session. -/
  | quit
  /-- A line is no text. -/
  | notText
  deriving DecidableEq, Repr

/-- The lines up to the first that ends the session or is no text, and which of these it is. -/
def keptLines : List Octets → List Text × Ending
  | []      => ([], .exhausted)
  | l :: ls =>
    match Utf8.decode? l with
    | none      => ([], .notText)
    | some line =>
      if isQuit line then ([], .quit)
      else
        let (kept, ending) := keptLines ls
        (line :: kept, ending)

theorem keptLines_notText {l : Octets} {ls : List Octets} (hd : Utf8.decode? l = none) :
    keptLines (l :: ls) = ([], .notText) := by
  unfold keptLines
  rw [hd]

theorem keptLines_quit {l : Octets} {ls : List Octets} {line : Text} (hd : Utf8.decode? l = some line)
    (hq : isQuit line = true) : keptLines (l :: ls) = ([], .quit) := by
  unfold keptLines
  rw [hd]
  exact if_pos hq

theorem keptLines_kept {l : Octets} {ls : List Octets} {line : Text} (hd : Utf8.decode? l = some line)
    (hq : isQuit line = false) :
    keptLines (l :: ls) = (line :: (keptLines ls).1, (keptLines ls).2) := by
  rw [keptLines, hd]
  exact if_neg (Bool.eq_false_iff.mp hq)

/-- The operations that lines ask for, in order. -/
def actsOf (menu : Menu) (lines : List Text) : List Act := lines.filterMap (actOf? menu)

/-- What is said of so many rows that a filter leaves of all: both numbers if the filter asks for anything, and
    otherwise how many rows there are. -/
def countText (f : Filter) (shown total : Nat) : Text :=
  match f with
  | .everything   => if total = 1 then "1 item found".toList else Decimal.ofNat total ++ " items found".toList
  | .expression _ =>
    "Showing ".toList ++ Decimal.ofNat shown ++ " of ".toList ++ Decimal.ofNat total ++ " items".toList

/-- What is said of a bar: its text, and how many of the rows its filter keeps. -/
def statusText (rows : List Row) (b : FilterBar) : Text :=
  "query: ".toList ++ b.text ++ ['\n'] ++
    countText b.filter (rows.countP b.filter.keeps) rows.length ++ ['\n']

/-- What is said first: how many rows there are. -/
def greetingText (rows : List Row) : Text :=
  countText .everything rows.length rows.length ++ " (type :help for commands)\n".toList

/-- A bar whose wish for the focus is granted. -/
def FilterBar.granted (b : FilterBar) : FilterBar := { b with wantsFocus := false }

/-- A session with another bar. -/
def Session.withBar (s : Session) (b : FilterBar) : Session := { s with bar := b }

theorem visible_length (f : Filter) (rows : List Row) :
    (f.visible rows).length = (f.select rows).length := by
  unfold Filter.visible Filter.select
  rw [List.length_map]
  conv => rhs; rw [← List.zipIdx_map_fst 0 rows, List.filter_map, List.length_map]
  rfl

/-- A summary says what it is to say. -/
theorem summaryLine_eq (f : Filter) (shown total : Nat) :
    summaryLine shown total (!f.isEverything) = countText f shown total := by
  cases f with
  | everything =>
    unfold summaryLine countText
    by_cases hone : total = 1
    · rw [hone]
      rfl
    · rw [if_neg hone, if_neg hone]
      rfl
  | expression clauses => rfl

theorem countP_keeps (f : Filter) (rows : List Row) : rows.countP f.keeps = (f.visible rows).length := by
  rw [visible_length, List.countP_eq_length_filter]
  rfl

theorem status_eq (s : Session) : s.status = statusText s.rows s.bar := by
  have hsummary := summaryLine_eq s.bar.filter (s.bar.filter.visible s.rows).length s.rows.length
  unfold Session.status Session.view Session.queryLine statusText FilterBar.visible FilterBar.isFiltered endLines
  rw [hsummary, countP_keeps, List.flatMap_cons, List.flatMap_singleton]
  simp only [List.append_assoc]

theorem greeting_eq (s : Session) : s.greeting = greetingText s.rows := by
  have hsummary := summaryLine_eq .everything s.rows.length s.rows.length
  unfold Session.greeting greetingText endLines
  rw [← hsummary, List.flatMap_singleton, List.append_assoc]
  rfl

theorem statusText_granted (rows : List Row) (b : FilterBar) :
    statusText rows b.granted = statusText rows b := rfl

/-- Whether the focus is wanted makes no difference to what operations do to the rest of the bar. -/
theorem perform_granted (b : FilterBar) (acts : List Act) :
    (b.granted.perform acts).bar.granted = (b.perform acts).bar.granted := by
  obtain ⟨hc, ht, hf, -⟩ := b.perform_spec acts
  obtain ⟨hc', ht', hf', -⟩ := b.granted.perform_spec acts
  unfold FilterBar.granted at *
  rw [hc, ht, hf, hc', ht', hf']

theorem actsOf_cons (menu : Menu) (line : Text) (lines : List Text) :
    actsOf menu (line :: lines) = (actOf? menu line).toList ++ actsOf menu lines := by
  unfold actsOf
  cases h : actOf? menu line with
  | none => rw [List.filterMap_cons_none h, Option.toList_none, List.nil_append]
  | some a => rw [List.filterMap_cons_some h, Option.toList_some, List.singleton_append]

/-! ## One line -/

namespace SessionRun

variable {r : SessionRun}

/-- An answer is written in full and then the focus is granted. -/
theorem say_eq (hroom : r.sink.room = none) (t : Text) :
    r.say t = (⟨r.session.withBar r.session.bar.granted, r.directory,
      ⟨r.sink.held ++ Utf8.encode t, none⟩, r.events ++ r.session.grantFocus.2⟩, .more) := by
  unfold say
  rw [Sink.write_of_unbounded hroom]
  rfl

/-- Writing rows to a file comes down to an answer that says how it went. -/
theorem exists_say_of_saveAll (r : SessionRun) (path : Text) :
    ∃ (r' : SessionRun) (t : Text),
      r.saveAll path = r'.say t ∧ r'.session = r.session ∧ r'.sink = r.sink := by
  unfold saveAll
  cases exportToFile r.directory path r.session.rows with
  | ok done => exact ⟨_, _, rfl, rfl, rfl⟩
  | error e => exact ⟨_, _, rfl, rfl, rfl⟩

/-- What a run does about a command. -/
def obey (r : SessionRun) (c : Command) : SessionRun × Turn :=
  let (session, reply, events) := r.session.answer c
  let r := { r with session := session, events := r.events ++ events }
  match reply with
  | .say t     => r.say t
  | .save path => r.saveAll path
  | .leave     => (r, .left)

theorem line_eq {l : Octets} {line : Text} (hd : Utf8.decode? l = some line) :
    r.line l = r.obey (.ofLine r.session.menu line) := by
  unfold SessionRun.line
  rw [hd]
  rfl

/-- An idle command is answered, and the session stays what it was. -/
theorem exists_say_of_idle {c : Command} (hidle : c.isIdle = true) :
    ∃ (r' : SessionRun) (t : Text), r.obey c = r'.say t ∧ r'.session = r.session ∧ r'.sink = r.sink := by
  cases c with
  | edit e => cases hidle
  | quit => cases hidle
  | save path => exact exists_say_of_saveAll { r with events := r.events ++ [] } path
  | help => exact ⟨_, _, rfl, rfl, rfl⟩
  | menu => exact ⟨_, _, rfl, rfl, rfl⟩
  | pickNone => exact ⟨_, _, rfl, rfl, rfl⟩
  | text => exact ⟨_, _, rfl, rfl, rfl⟩
  | «show» => exact ⟨_, _, rfl, rfl, rfl⟩
  | unknown name => exact ⟨_, _, rfl, rfl, rfl⟩

/-- A change is made and answered with the status after it. -/
theorem exists_say_of_edit (r : SessionRun) (e : Edit) :
    ∃ r' : SessionRun, r.obey (.edit e) = r'.say (statusText r.session.rows (r.session.bar.edit e).1) ∧
      r'.session = r.session.withBar (r.session.bar.edit e).1 ∧ r'.sink = r.sink := by
  show ∃ r' : SessionRun, SessionRun.say _ (Session.status _) = _ ∧ _
  rw [status_eq]
  exact ⟨_, rfl, rfl, rfl⟩

/-- **One line.** A line that goes on performs its operation if it has one, and is answered: with the
    status after the operation, if there was one. -/
theorem line_kept (hroom : r.sink.room = none) {l : Octets} {line : Text}
    (hd : Utf8.decode? l = some line) (hq : isQuit line = false) :
    ∃ (r' : SessionRun) (t : Text), r.line l = (r', .more) ∧
      r'.session = r.session.withBar
        (r.session.bar.perform (actOf? r.session.menu line).toList).bar.granted ∧
      r'.sink = ⟨r.sink.held ++ Utf8.encode t, none⟩ ∧
      (actOf? r.session.menu line ≠ none →
        t = statusText r.session.rows (r.session.bar.perform (actOf? r.session.menu line).toList).bar) := by
  rw [line_eq hd]
  rcases ofLine_agrees r.session.menu line with ⟨hquit, -⟩ | ⟨-, a, e, ha, he, hc⟩ | ⟨-, hnone, hidle⟩
  · rw [hq] at hquit
    cases hquit
  · have hbar : (r.session.bar.perform [a]).bar = (r.session.bar.edit e).1 := by
      rw [FilterBar.perform_cons, FilterBar.act_of_edit _ he]
      rfl
    obtain ⟨r', hobey, hsession, hsink⟩ := r.exists_say_of_edit e
    rw [hc, hobey, say_eq (hsink ▸ hroom), ha, Option.toList_some, hbar, hsession, hsink]
    exact ⟨_, _, rfl, rfl, rfl, fun _ => rfl⟩
  · obtain ⟨r', t, hobey, hsession, hsink⟩ := exists_say_of_idle (r := r) hidle
    rw [hobey, say_eq (hsink ▸ hroom), hnone, hsession, hsink]
    exact ⟨_, t, rfl, rfl, rfl, fun h => absurd rfl h⟩

/-- A line that ends the session ends it without a word. -/
theorem line_quit {l : Octets} {line : Text} (hd : Utf8.decode? l = some line) (hq : isQuit line = true) :
    ∃ r' : SessionRun, r.line l = (r', .left) ∧ r'.session = r.session ∧ r'.sink = r.sink := by
  rw [line_eq hd]
  rcases ofLine_agrees r.session.menu line with ⟨-, hc⟩ | ⟨hno, -⟩ | ⟨hno, -⟩
  · rw [hc]
    exact ⟨_, rfl, rfl, rfl⟩
  · rw [hq] at hno
    cases hno
  · rw [hq] at hno
    cases hno

end SessionRun

/-! ## Whole sessions -/

/-- **What a session comes to**, from the lines it keeps. It leaves the bar as their operations leave it,
    with the wish for the focus granted, and nothing else is changed. It breaks off exactly where a line is
    no text. Behind what was written before, each line is answered, and a line that asks for an operation is
    answered with the status of the bar after it. -/
structure Performs (s : Session) (held : Octets) (lines : List Text × Ending)
    (result : SessionRun × Option SessionFault) : Prop where
  session_eq : result.1.session = s.withBar (s.bar.perform (actsOf s.menu lines.1)).bar.granted
  fault_eq : result.2 = if lines.2 = .notText then some .invalidText else none
  answers : ∃ answers : List Text, result.1.sink.held = held ++ answers.flatMap Utf8.encode ∧
    answers.length = lines.1.length ∧
    ∀ before line after, lines.1 = before ++ line :: after → actOf? s.menu line ≠ none →
      answers[before.length]? =
        some (statusText s.rows (s.bar.perform (actsOf s.menu (before ++ [line]))).bar)

/-- A session that stops at once performs nothing. -/
theorem performs_nothing {r r' : SessionRun} {ending : Ending} (hfocus : r.session.bar.wantsFocus = false)
    (hsession : r'.session = r.session) (hsink : r'.sink = r.sink) :
    Performs r.session r.sink.held ([], ending)
      (r', if ending = .notText then some .invalidText else none) where
  session_eq := by
    rw [hsession]
    show r.session = r.session.withBar { r.session.bar with wantsFocus := false }
    rw [← hfocus]
    rfl
  fault_eq := rfl
  answers := by
    refine ⟨[], by rw [hsink, List.flatMap_nil, List.append_nil], rfl, ?_⟩
    intro before line after h
    simp at h

/-- One more line in front, after which the session does what it does. -/
theorem performs_cons {s : Session} {held : Octets} {line t : Text} {lines : List Text × Ending}
    {result : SessionRun × Option SessionFault}
    (hanswer : actOf? s.menu line ≠ none →
      t = statusText s.rows (s.bar.perform (actOf? s.menu line).toList).bar)
    (h : Performs (s.withBar (s.bar.perform (actOf? s.menu line).toList).bar.granted)
      (held ++ Utf8.encode t) lines result) :
    Performs s held (line :: lines.1, lines.2) result := by
  obtain ⟨hsession, hfault, answers, hheld, hlength, hstatus⟩ := h
  have hbar (acts : List Act) :
      ((s.bar.perform (actOf? s.menu line).toList).bar.granted.perform acts).bar.granted =
        (s.bar.perform ((actOf? s.menu line).toList ++ acts)).bar.granted := by
    rw [perform_granted, FilterBar.perform_append]
  refine ⟨?_, hfault, t :: answers, ?_, ?_, ?_⟩
  · rw [hsession, actsOf_cons, ← hbar]
    rfl
  · rw [hheld, List.flatMap_cons, List.append_assoc]
  · rw [List.length_cons, List.length_cons, hlength]
  · intro before x after hx hact
    cases before with
    | nil =>
      obtain ⟨rfl, -⟩ := List.cons.inj hx
      rw [List.nil_append, actsOf_cons]
      show some t = _
      rw [hanswer hact, show actsOf s.menu [] = [] from rfl, List.append_nil]
    | cons y before =>
      obtain ⟨rfl, hlines⟩ := List.cons.inj hx
      rw [List.cons_append, actsOf_cons]
      show answers[before.length]? = _
      rw [hstatus before x after hlines hact]
      -- The two bars differ in the wish for the focus at most, which a status does not show.
      show some (statusText s.rows (FilterBar.perform _ (actsOf s.menu (before ++ [x]))).bar) = _
      rw [← statusText_granted, ← statusText_granted s.rows (FilterBar.perform s.bar _).bar, ← hbar]
      rfl

/-- **All lines.** By induction over the lines. Between two lines the focus is not wanted and there is room
    in the sink, and the rows and settings are those of the beginning. -/
theorem lines_performs (r : SessionRun) (hfocus : r.session.bar.wantsFocus = false)
    (hroom : r.sink.room = none) (ls : List Octets) :
    Performs r.session r.sink.held (keptLines ls) (r.lines ls) := by
  induction ls generalizing r with
  | nil => exact performs_nothing hfocus rfl rfl
  | cons l ls ih =>
    cases hd : Utf8.decode? l with
    | none =>
      have hline : r.line l = (r, .failed .invalidText) := by
        unfold SessionRun.line
        rw [hd]
      rw [keptLines_notText hd, SessionRun.lines, hline]
      exact performs_nothing hfocus rfl rfl
    | some line =>
      cases hq : isQuit line with
      | true =>
        obtain ⟨r', hline, hsession, hsink⟩ := SessionRun.line_quit hd hq
        rw [keptLines_quit hd hq, SessionRun.lines, hline]
        exact performs_nothing hfocus hsession hsink
      | false =>
        obtain ⟨r', t, hline, hsession, hsink, hanswer⟩ := SessionRun.line_kept hroom hd hq
        have hrest := ih r' (by rw [hsession]; rfl) (by rw [hsink])
        rw [hsession, hsink] at hrest
        rw [keptLines_kept hd hq, SessionRun.lines, hline]
        exact performs_cons hanswer hrest

/-- Whatever lines follow, what was written stays in front. -/
theorem SessionRun.lines_extends (r : SessionRun) (hroom : r.sink.room = none)
    (hfocus : r.session.bar.wantsFocus = false) (ls : List Octets) :
    ∃ rest, (r.lines ls).1.sink.held = r.sink.held ++ rest := by
  obtain ⟨answers, hheld, -, -⟩ := (lines_performs r hfocus hroom ls).answers
  exact ⟨_, hheld⟩

theorem lines_of_more {r r' : SessionRun} {l : Octets} (ls : List Octets) (h : r.line l = (r', .more)) :
    r.lines (l :: ls) = r'.lines ls := by
  rw [SessionRun.lines, h]

/-- **A session is its operations.** With a bar that does not want the focus and a sink that takes
    everything, a session greets and then performs the operations of its lines, up to the line that ends it
    or is no text. -/
theorem Session.run_performs (s : Session) (directory : Directory) (sink : Sink) (input : Octets)
    (hfocus : s.bar.wantsFocus = false) (hroom : sink.room = none) :
    Performs s (sink.held ++ Utf8.encode (greetingText s.rows)) (keptLines input.lines)
      (s.run directory sink input) := by
  rw [← greeting_eq]
  unfold Session.run
  rw [Sink.write_of_unbounded hroom]
  exact lines_performs ⟨s, directory, ⟨sink.held ++ Utf8.encode s.greeting, none⟩, []⟩ hfocus rfl
    input.lines

/-- Two lines are kept, of which one asks for an operation, and the third ends the session. -/
theorem Session.run_performs_quit :
    let rows : List Row := [⟨1, "GET".toList, "/a".toList, 200, none⟩, ⟨2, "PUT".toList, "/b".toList, 404, none⟩]
    let s : Session := ⟨rows, .standard, false, .start (.standard 1048576)⟩
    let input := Utf8.encode ":add url:a\n:bogus\r\n \t:quit now\nrank:1\n".toList
    let done := s.run ⟨[], []⟩ (.empty none) input
    s.bar.wantsFocus = false ∧ (Sink.empty none).room = none ∧
      actsOf s.menu [":add url:a".toList, ":bogus".toList] = [.edit (.condition "url:a".toList)] ∧
      Performs s (Utf8.encode "2 items found (type :help for commands)\n".toList)
        ([":add url:a".toList, ":bogus".toList], .quit) done ∧
      ∃ answer, done.1.sink.held = Utf8.encode "2 items found (type :help for commands)\n".toList ++
        (Utf8.encode "query: url:a\nShowing 1 of 2 items\n".toList ++ Utf8.encode answer) := by
  intro rows s input done
  have hkept : keptLines input.lines = ([":add url:a".toList, ":bogus".toList], .quit) := by decide +kernel
  have hgreeting : greetingText rows = "2 items found (type :help for commands)\n".toList := by decide +kernel
  have hperforms := Session.run_performs s ⟨[], []⟩ (.empty none) input rfl rfl
  rw [hkept] at hperforms
  change Performs s ([] ++ Utf8.encode (greetingText rows)) _ _ at hperforms
  rw [List.nil_append, hgreeting] at hperforms
  refine ⟨rfl, rfl, by decide +kernel, hperforms, ?_⟩
  obtain ⟨answers, hheld, hlength, hstatus⟩ := hperforms.answers
  match answers, hlength with
  | [first, second], _ =>
    have hfirst := hstatus [] ":add url:a".toList [":bogus".toList] rfl (by decide +kernel)
    have hanswer : statusText rows (s.bar.perform (actsOf s.menu [":add url:a".toList])).bar =
        "query: url:a\nShowing 1 of 2 items\n".toList := by decide +kernel
    obtain rfl : first = _ := Option.some.inj (hfirst.trans (congrArg some hanswer))
    refine ⟨second, hheld.trans ?_⟩
    rw [List.flatMap_cons, List.flatMap_singleton]

end RankSieve
