import RankSieve.Directory
import RankSieve.Event
import RankSieve.Row.Decode

/-!
# `RankSieve.Row.Load` — rows from a file

A file of rows is one array, or else holds one row on each line that is not blank. Which of the two
shows in its first character that is not blank.
-/

namespace RankSieve

/-- Why no rows were loaded. -/
inductive LoadError where
  | read (path : Text) (why : FileFault)
  /-- A record is no row: where the text came from, the line, and the text of the fault. -/
  | record (origin : Text) (line : Nat) (why : Text)
  deriving DecidableEq, Repr

namespace LoadError

/-- What lies behind the failure. -/
def cause : LoadError → Text
  | .read _ why     => why.message
  | .record _ _ why => why

/-- The text of the failure. -/
def message : LoadError → Text
  | .read path why          => "Failed to read results file '".toList ++ path ++ "': ".toList ++ why.message
  | .record origin line why =>
    "Invalid result record in '".toList ++ origin ++ "' at line ".toList ++ Decimal.ofNat line ++
      ": ".toList ++ why

end LoadError

/-- A fault on a line, with its text. -/
structure LineFault where
  line : Nat
  text : Text
  deriving DecidableEq, Repr

/-- Whether a text is an array as a whole. -/
def isArrayText (t : Text) : Bool := t.trimStart.head? == some '['

/-- The rows of an array. -/
def rowsOfArray (t : Text) : Except LineFault (List Row) :=
  (Json.decodeRows t).mapError fun f => ⟨(f.position t).1, f.message t⟩

/-- The rows of lines, of which the first has the given number; blank lines count but hold none. -/
def rowsOfLines : (number : Nat) → List Text → Except LineFault (List Row)
  | _,      []            => .ok []
  | number, line :: lines =>
    if line.isBlankText then rowsOfLines (number + 1) lines
    else
      match Json.decodeRow line with
      | .error f => .error ⟨number, f.message line⟩
      | .ok row  => (rowsOfLines (number + 1) lines).map (row :: ·)

/-- The rows of a text. -/
def rowsOfText (t : Text) : Except LineFault (List Row) :=
  if isArrayText t then rowsOfArray t else rowsOfLines 1 t.lines

/-- The rows of a text that came from somewhere. -/
def parseRows (origin : Text) (t : Text) : Except LoadError (List Row) :=
  (rowsOfText t).mapError fun f => .record origin f.line f.text

/-- The rows of a file's content, or of the fault in reading it. -/
def loadRows (path : Text) (content : Except FileFault Text) : Except LoadError (List Row) :=
  match content with
  | .error why => .error (.read path why)
  | .ok t      => parseRows path t

/-- What is reported of loaded rows. -/
def loadedEvent (origin : Text) (rows : List Row) : Event :=
  ⟨.debug, "anomaly_rank::results".toList, "Loaded ranked results".toList,
    [("origin".toList, origin.quoted), ("rows".toList, Decimal.ofNat rows.length)]⟩

end RankSieve
