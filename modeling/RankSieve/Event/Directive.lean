import RankSieve.Event
import RankSieve.Text.Decimal
import RankSieve.Text.Letter

/-!
# `RankSieve.Event.Directive` — which events are shown

Directives are separated by commas. Each one sets the least serious level that is shown, for events
of every target or of the targets that begin with a given text; it may further ask for details of
given names. Of the directives that concern an event, the one with the longest target decides.

A directive that speaks of a span between brackets concerns only what happens inside such a span.
There are none, so it shows nothing; but it counts as a directive.

## Contents
- **Choice of directives.** `levelDirective` picks the text of the directives.
- **Reading.** `Directive.read` reads one, `EventFilter.ofText` all of them.
- **Deciding.** `EventFilter.shows`.
-/

namespace RankSieve

/-! ## Choice of directives -/

/-- The directives for the options of the command line and the settings: silence first, then the
    number of calls for verbosity, then the settings. -/
def levelDirective (verbose : Nat) (quiet : Bool) (setting : Option Text) : Text :=
  if quiet then "error".toList
  else
    match verbose with
    | 0 => setting.getD "warn".toList
    | 1 => "debug".toList
    | _ => "trace".toList

/-! ## Reading -/

/-- A directive about events. -/
structure Directive where
  /-- What the target of an event begins with, if not any target will do. -/
  target  : Option Text
  /-- Names of details that an event has to have. -/
  details : List Text
  /-- How far down the levels are shown; zero for none. -/
  depth   : Nat
  deriving DecidableEq, Repr

/-- Why a directive is ignored. -/
inductive DirectiveError where
  | malformed
  | unknownLevel
  deriving DecidableEq, Repr

/-- The text of the failure. -/
def DirectiveError.message : DirectiveError → Text
  | .malformed    => "invalid filter directive".toList
  | .unknownLevel =>
    ("error parsing level filter: expected one of \"off\", \"error\", \"warn\", \"info\", " ++
      "\"debug\", \"trace\", or a number 0-5").toList

/-- How far down the levels go that a text names, in any case or by number. Nothing stands for errors
    alone. -/
def levelDepth? (t : Text) : Option Nat :=
  match Decimal.readNat? t with
  | some n => if n ≤ 5 then some n else none
  | none   =>
    if t.isEmpty then some 1
    else
      (["off", "error", "warn", "info", "debug", "trace"].map String.toList).findIdx?
        (· == t.map Char.toLower)

/-- The depth after the equals sign of a directive; nothing there stands for every level. -/
def depthAfterSign (t : Text) : Except DirectiveError Nat :=
  if t.isEmpty then .ok 5
  else
    match levelDepth? t with
    | some n => .ok n
    | none   => .error .unknownLevel

namespace Directive

/-- What a directive comes to: one about events, or one about spans alone. -/
abbrev Reading := Except DirectiveError (Option Directive)

/-- The place of the first character of a kind from a given place on, and that character. -/
def findFrom (start : Nat) (p : Char → Bool) (t : Text) : Option (Nat × Char) :=
  ((t.drop start).zipIdx.find? fun entry => p entry.1).map fun (c, i) => (start + i, c)

/-- The end of a directive after its brackets, at a place of its trimmed text: nothing, or a level.
    Levels are cut from the text as it was given. -/
def readEnd (given trimmed : Text) (place : Nat) (found : Nat → Option Directive) : Reading :=
  match trimmed.drop place with
  | []       => .ok (found 5)
  | '=' :: _ => (depthAfterSign (given.drop (place + 1))).map found
  | _        => .error .malformed

/-- What stands between brackets, from a place after the opening one: the name of a span, the name
    of a detail between braces, or both. A detail with a value is not asked of events. -/
def readBrackets (given trimmed : Text) (target : Option Text) (start : Nat) : Reading :=
  match findFrom start (fun c => c = ']' || c = '\x7b') trimmed with
  | none          => .error .malformed
  | some (i, ']') => readEnd given trimmed (i + 1) fun _ => none
  | some (i, _)   =>
    match findFrom (i + 1) (· = '\x7d') trimmed with
    | none        => .error .malformed
    | some (j, _) =>
      let name := (given.drop (i + 1)).take (j - (i + 1))
      if name.isEmpty || (trimmed.drop (j + 1)).head? ≠ some ']' then .error .malformed
      else
        readEnd given trimmed (j + 2) fun depth =>
          if i = start && !name.contains '=' then some ⟨target, [name], depth⟩ else none

/-- A directive without brackets or sign: a level, or else a target of which every level is shown. -/
def ofWord (t : Text) : Directive :=
  match levelDepth? t with
  | some depth => ⟨none, [], depth⟩
  | none       => ⟨some t, [], 5⟩

/-- Reads a directive. Its signs are looked for without the blanks around it, but what they set apart
    is cut from the text with them, so that a blank becomes part of a target or a level. -/
def read (given : Text) : Reading :=
  let trimmed := given.trim
  match trimmed with
  | []       => .error .malformed
  | '[' :: _ => readBrackets given trimmed none 1
  | c :: _   =>
    if !(c = '-' || c = ':' || c = '_' || isLetterOrNumber c) then .error .malformed
    else
      match findFrom 0 (fun c => c = '=' || c = '[') trimmed with
      | none          => .ok (some (ofWord given))
      | some (i, '=') =>
        (depthAfterSign (given.drop (i + 1))).map fun depth => some ⟨some (given.take i), [], depth⟩
      | some (i, _)   => readBrackets given trimmed (some (given.take i)) (i + 1)

end Directive

/-- The directives in force. -/
abbrev EventFilter := List Directive

/-- A directive that could not be read, and why. -/
abbrev IgnoredDirective := Text × DirectiveError

/-- What is said of a directive that could not be read. -/
def IgnoredDirective.line (d : IgnoredDirective) : Text :=
  "ignoring `".toList ++ d.1 ++ "`: ".toList ++ d.2.message

namespace EventFilter

/-- The directives in force without any: errors are shown. -/
def errorsOnly : EventFilter := [⟨none, [], 1⟩]

/-- The readings of the directives of a text. -/
def readings (t : Text) : List (Text × Directive.Reading) :=
  ((t.splitOn ',').filter fun d => !d.isEmpty).map fun d => (d, Directive.read d)

/-- The directives that a text sets. If none can be read, errors are shown. -/
def ofText (t : Text) : EventFilter :=
  let read := (readings t).filterMap fun entry => entry.2.toOption
  if read.isEmpty then errorsOnly else read.filterMap id

/-- The directives of a text that could not be read. -/
def ignored (t : Text) : List IgnoredDirective :=
  (readings t).filterMap fun
    | (d, .error e) => some (d, e)
    | (_, .ok _)    => none

end EventFilter

/-! ## Deciding -/

namespace Directive

/-- Whether a directive concerns an event. Every event has its message as a detail. -/
def concerns (d : Directive) (e : Event) : Bool :=
  d.target.all (fun t => t.isPrefixOf e.target) &&
    d.details.all fun name => name == "message".toList || e.details.any fun entry => entry.1 == name

/-- How closely a directive describes events: the length of its target, none counting less than any,
    and then how many details it asks for. -/
def closeness (d : Directive) : Nat × Nat :=
  (match d.target with | none => 0 | some t => t.length + 1, d.details.length)

/-- The closer of two directives, and the second of two equally close ones. -/
def closer (d e : Directive) : Directive :=
  let (a, b) := (d.closeness, e.closeness)
  if b.1 < a.1 || (b.1 = a.1 && b.2 < a.2) then d else e

end Directive

namespace EventFilter

/-- The directive that decides about an event. -/
def deciding? (f : EventFilter) (e : Event) : Option Directive :=
  match f.filter (·.concerns e) with
  | []      => none
  | d :: ds => some (ds.foldl Directive.closer d)

/-- Whether an event is shown. -/
def shows (f : EventFilter) (e : Event) : Bool := (f.deciding? e).any fun d => e.level.rank ≤ d.depth

end EventFilter

end RankSieve
