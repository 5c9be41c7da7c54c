import RankSieve.Json.String

/-!
# `RankSieve.Json.Skip` — values that nobody asks for

The value of an unknown key is passed over. It still has to be JSON, but its numbers may be of any
size, and it may be nested to any depth, since the brackets that are open are kept in a list.
-/

namespace RankSieve.Json

/-! ## Numbers -/

/-- Passes digits. -/
def skipDigits (t : Text) : Text := t.dropWhile Char.isDigit

/-- Passes an exponent, after its letter. -/
def skipExponent (t : Text) : Except Fault Text :=
  let t := match t with
    | '+' :: t => t
    | '-' :: t => t
    | t        => t
  match t with
  | []     => faultHere .invalidNumber []
  | c :: _ => if c.isDigit then .ok (skipDigits t) else faultNext .invalidNumber t

/-- Passes what may follow the digits of a number after the point. -/
def skipFloatEnd (t : Text) : Except Fault Text :=
  match t with
  | 'e' :: t => skipExponent t
  | 'E' :: t => skipExponent t
  | t        => .ok t

/-- Passes what may follow the digits of a number. -/
def skipIntegerEnd (t : Text) : Except Fault Text :=
  match t with
  | '.' :: t =>
    match t with
    | c :: _ => if c.isDigit then skipFloatEnd (skipDigits t) else faultNext .invalidNumber t
    | []     => faultHere .invalidNumber []
  | t        => skipFloatEnd t

/-- Passes a number, after its sign. -/
def skipNumber (t : Text) : Except Fault Text :=
  match t with
  | []       => faultHere .invalidNumber []
  | '0' :: t =>
    match t with
    | c :: _ => if c.isDigit then faultNext .invalidNumber t else skipIntegerEnd t
    | []     => .ok []
  | c :: _   => if c.isDigit then skipIntegerEnd (skipDigits t) else faultNext .invalidNumber t

/-! ## Brackets -/

/-- Brackets that are open. -/
inductive Bracket where
  | list
  | object
  deriving DecidableEq, Repr

namespace Bracket

/-- The bracket that closes. -/
def closing : Bracket → Char
  | .list   => ']'
  | .object => '\x7d'

/-- What is wrong where neither a comma nor the closing bracket follows a value. -/
def expectedCommaOrEnd : Bracket → Cause
  | .list   => .expectedListCommaOrEnd
  | .object => .expectedObjectCommaOrEnd

/-- What is wrong where the text ends inside. -/
def endInside : Bracket → Cause
  | .list   => .endInList
  | .object => .endInObject

end Bracket

/-- Passes the key of a member and its colon. -/
def skipKey (t : Text) : Except Fault Text := do
  let t ← match skipBlanks t with
    | []       => faultHere .endInObject []
    | '"' :: t => skipString t
    | t        => faultNext .keyNotString t
  match skipBlanks t with
  | []       => faultHere .endInObject []
  | ':' :: t => .ok t
  | t        => faultNext .expectedColon t

/-- Passes to the value that comes next inside a bracket. -/
def skipToValue (b : Bracket) (t : Text) : Except Fault Text :=
  match b with
  | .list   => .ok t
  | .object => skipKey t

/-- Passes a value that is no bracket, which begins at the given text. -/
def skipLeaf (t : Text) : Except Fault Text :=
  match t with
  | []       => faultHere .endInValue []
  | 'n' :: t => readWord "ull".toList t
  | 't' :: t => readWord "rue".toList t
  | 'f' :: t => readWord "alse".toList t
  | '-' :: t => skipNumber t
  | '"' :: t => skipString t
  | c :: _   => if c.isDigit then skipNumber t else faultNext .expectedValue t

/-- Where the passing of a value stands: before a value, or after one. -/
inductive Stage where
  | value
  | done
  deriving DecidableEq, Repr

/-- A place inside so many open brackets, innermost first. -/
abbrev SkipState := Stage × List Bracket × Text

/-- Passes to the first value inside a bracket that was just opened, or past the bracket if it holds
    none. -/
def openBracket (b : Bracket) (outer : List Bracket) (t : Text) : Except Fault SkipState :=
  match skipBlanks t with
  | []     => faultHere b.endInside []
  | c :: t =>
    if c = b.closing then .ok (.done, outer, t)
    else (skipToValue b (c :: t)).map fun t => (.value, b :: outer, t)

/-- Passes to the next value inside a bracket, or past the bracket if it holds no more. -/
def nextInBracket (b : Bracket) (outer : List Bracket) (t : Text) : Except Fault SkipState :=
  match skipBlanks t with
  | []     => faultHere b.endInside []
  | c :: t =>
    if c = ',' then (skipToValue b t).map fun t => (.value, b :: outer, t)
    else if c = b.closing then .ok (.done, outer, t)
    else faultNext b.expectedCommaOrEnd (c :: t)

/-- Passes a value that is no bracket, or opens one. -/
def beginValue (outer : List Bracket) (t : Text) : Except Fault SkipState :=
  match skipBlanks t with
  | '['    :: t => openBracket .list outer t
  | '\x7b' :: t => openBracket .object outer t
  | t           => (skipLeaf t).map fun t => (.done, outer, t)

/-- Passes on to the end of the outermost value; `fuel` bounds the steps, each of which passes a
    character. -/
def skipFrom : (fuel : Fuel) → SkipState → Except Fault Text
  | _,         (.done, [], t)         => .ok t
  | [],        (_, _, t)              => faultHere .expectedValue t
  | _ :: fuel, (.value, outer, t)     => (beginValue outer t).bind (skipFrom fuel)
  | _ :: fuel, (.done, b :: outer, t) => (nextInBracket b outer t).bind (skipFrom fuel)

/-- Passes a value. -/
def skipValue (t : Text) : Except Fault Text := skipFrom t.fuel (.value, [], t)

end RankSieve.Json
