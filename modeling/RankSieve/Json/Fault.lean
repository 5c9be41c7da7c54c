import RankSieve.Number.Double
import RankSieve.Text.Quoted
import RankSieve.Text.Utf8

/-!
# `RankSieve.Json.Fault` — why JSON is not read, and where

## Contents
- **Causes.** `Cause` lists what can be wrong, in the syntax or with what a value was expected to be.
- **Places.** A fault carries the text still to be read, from which `Fault.position` tells line and
  column. Lines count from one; a column is the number of octets of its line up to the fault.
- **Reading.** `Reads` is the shape of all readers, with the few steps that they share.
-/

namespace RankSieve.Json

/-! ## Causes -/

/-- What was found where something else was expected. -/
inductive Found where
  | null
  | boolean (b : Bool)
  | integer (n : Int)
  | float (negative : Bool) (d : Double)
  | string (t : Text)
  | sequence
  | map
  deriving DecidableEq, Repr

/-- How what was found is named. -/
def Found.text : Found → Text
  | .null             => "null".toList
  | .boolean b        => (if b then "boolean `true`" else "boolean `false`").toList
  | .integer n        => "integer `".toList ++ Decimal.ofInt n ++ ['`']
  | .float negative d =>
    "floating point `".toList ++ (if negative then ['-'] else []) ++ d.shortText ++ ['`']
  | .string t         => "string ".toList ++ t.quoted
  | .sequence         => "sequence".toList
  | .map              => "map".toList

/-- What can be wrong. -/
inductive Cause where
  | endInList
  | endInObject
  | endInString
  | endInValue
  | expectedColon
  | expectedListCommaOrEnd
  | expectedObjectCommaOrEnd
  | expectedIdent
  | expectedValue
  | invalidEscape
  | invalidNumber
  | numberOutOfRange
  | controlCharacter
  | keyNotString
  | loneSurrogate
  | trailingComma
  | trailingCharacters
  | endOfHexEscape
  | invalidType (found : Found) (expected : Text)
  | invalidValue (n : Int) (expected : Text)
  | invalidLength (n : Nat) (expected : Text)
  | missingField (name : Text)
  | duplicateField (name : Text)
  deriving DecidableEq, Repr

/-- The text of a cause. -/
def Cause.text : Cause → Text
  | .endInList                => "EOF while parsing a list".toList
  | .endInObject              => "EOF while parsing an object".toList
  | .endInString              => "EOF while parsing a string".toList
  | .endInValue               => "EOF while parsing a value".toList
  | .expectedColon            => "expected `:`".toList
  | .expectedListCommaOrEnd   => "expected `,` or `]`".toList
  | .expectedObjectCommaOrEnd => "expected `,` or `\x7d`".toList
  | .expectedIdent            => "expected ident".toList
  | .expectedValue            => "expected value".toList
  | .invalidEscape            => "invalid escape".toList
  | .invalidNumber            => "invalid number".toList
  | .numberOutOfRange         => "number out of range".toList
  | .controlCharacter         =>
    "control character (\\u0000-\\u001F) found while parsing a string".toList
  | .keyNotString             => "key must be a string".toList
  | .loneSurrogate            => "lone leading surrogate in hex escape".toList
  | .trailingComma            => "trailing comma".toList
  | .trailingCharacters       => "trailing characters".toList
  | .endOfHexEscape           => "unexpected end of hex escape".toList
  | .invalidType found expected  =>
    "invalid type: ".toList ++ found.text ++ ", expected ".toList ++ expected
  | .invalidValue n expected  =>
    "invalid value: integer `".toList ++ Decimal.ofInt n ++ "`, expected ".toList ++ expected
  | .invalidLength n expected =>
    "invalid length ".toList ++ Decimal.ofNat n ++ ", expected ".toList ++ expected
  | .missingField name        => "missing field `".toList ++ name ++ ['`']
  | .duplicateField name      => "duplicate field `".toList ++ name ++ ['`']

/-! ## Places -/

/-- A fault: its cause, the text from the place where it was met, and how many octets of that text
    belong to it. -/
structure Fault where
  cause : Cause
  rest  : Text
  ahead : Nat
  deriving DecidableEq, Repr

/-- The line and the column after so many octets, counted on from the given ones. -/
def positionFrom : (line column : Nat) → (octets : Nat) → Text → Nat × Nat
  | line, column, _,      []     => (line, column)
  | line, column, octets, c :: t =>
    if octets = 0 then (line, column)
    else if c = '\n' then positionFrom (line + 1) 0 (octets - 1) t
    else positionFrom line (column + min octets (Utf8.octetCount c)) (octets - Utf8.octetCount c) t

/-- The line and the column of a fault in the text that was read. -/
def Fault.position (f : Fault) (whole : Text) : Nat × Nat :=
  positionFrom 1 0 (Utf8.size whole - Utf8.size f.rest + f.ahead) whole

/-- The text of a fault and its place. -/
def Fault.message (f : Fault) (whole : Text) : Text :=
  let (line, column) := f.position whole
  f.cause.text ++ " at line ".toList ++ Decimal.ofNat line ++ " column ".toList ++ Decimal.ofNat column

/-! ## Reading -/

/-- Readers: from a text to a value and the rest, or a fault. -/
abbrev Reads (α : Type) := Text → Except Fault (α × Text)

/-- A fault where the reader stands. -/
def faultHere {α : Type} (cause : Cause) (rest : Text) : Except Fault α := .error ⟨cause, rest, 0⟩

/-- A fault of the next character, of which one octet was looked at. -/
def faultNext {α : Type} (cause : Cause) (rest : Text) : Except Fault α := .error ⟨cause, rest, 1⟩

/-- The blanks of JSON. -/
def isJsonBlank (c : Char) : Bool := c = ' ' || c = '\n' || c = '\t' || c = '\r'

/-- Passes blanks. -/
def skipBlanks (t : Text) : Text := t.dropWhile isJsonBlank

/-- Reads the rest of a word. -/
def readWord : (word : Text) → Text → Except Fault Text
  | [],      t      => .ok t
  | _ :: _,  []     => faultHere .endInValue []
  | w :: ws, c :: t => if c = w then readWord ws t else faultNext .expectedIdent (c :: t)

end RankSieve.Json
