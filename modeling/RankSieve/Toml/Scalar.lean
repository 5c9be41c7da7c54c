import RankSieve.Toml.Item
import RankSieve.Toml.String

/-!
# `RankSieve.Toml.Scalar` — values without parts

Dates and times are read before numbers, because both begin with digits. Integers take 64 bits with
their sign.

## Contents
- **Moments.** Dates and times, which must exist but are not kept.
- **Numbers.** Integers, in base ten or after a prefix for another one, and floating point numbers.
-/

namespace RankSieve.Toml

/-! ## Moments -/

/-- Reads exactly so many digits, as a number between two bounds. -/
def readFixed (digits least greatest : Nat) : Reads Nat := fun t =>
  if (t.take digits).length < digits then none
  else do
    let n ← Decimal.readDigits? (t.take digits)
    if least ≤ n && n ≤ greatest then some (n, t.drop digits) else none

/-- Passes a given character. -/
def pass? (c : Char) : Text → Option Text
  | []     => none
  | d :: t => if d = c then some t else none

/-- How many days a month has. -/
def daysInMonth (year month : Nat) : Nat :=
  if month = 2 then
    if year % 4 = 0 && (year % 100 ≠ 0 || year % 400 = 0) then 29 else 28
  else if month ∈ [4, 6, 9, 11] then 30
  else 31

/-- Passes a date. -/
def passDate? (t : Text) : Option Text := do
  let (year, t) ← readFixed 4 0 9999 t
  let (month, t) ← readFixed 2 1 12 (← pass? '-' t)
  let (_, t) ← readFixed 2 1 (daysInMonth year month) (← pass? '-' t)
  return t

/-- Passes the fraction of a second, if there is one. -/
def passFraction : Text → Text
  | '.' :: c :: t => if c.isDigit then t.dropWhile Char.isDigit else '.' :: c :: t
  | t             => t

/-- Passes a time. A minute may have a leap second. -/
def passTime? (t : Text) : Option Text := do
  let (_, t) ← readFixed 2 0 23 t
  let (_, t) ← readFixed 2 0 59 (← pass? ':' t)
  let (_, t) ← readFixed 2 0 60 (← pass? ':' t)
  return passFraction t

/-- Passes hours and minutes off universal time, after their sign. -/
def passHours? (t : Text) : Option Text := do
  let (_, t) ← readFixed 2 0 23 t
  let (_, t) ← readFixed 2 0 59 (← pass? ':' t)
  return t

/-- Passes a time zone, if there is one. -/
def passZone : Text → Text
  | 'Z' :: t => t
  | 'z' :: t => t
  | '+' :: t => (passHours? t).getD ('+' :: t)
  | '-' :: t => (passHours? t).getD ('-' :: t)
  | t        => t

/-- Passes what may follow a date: a time, and after that a time zone. -/
def passTimeOfDate (t : Text) : Text :=
  match t with
  | c :: rest =>
    if c = 'T' || c = 't' || c = ' ' then ((passTime? rest).map passZone).getD t else t
  | []        => []

/-- Passes a date, a date with a time, or a time. -/
def passMoment? (t : Text) : Option Text :=
  ((passDate? t).map passTimeOfDate).or (passTime? t)

/-! ## Numbers -/

/-- Reads digits up to the first character that is none, without the underscores that may stand
    between two of them. -/
def readDigitsFrom (isDigit : Char → Bool) : Reads Text
  | []            => some ([], [])
  | ['_']         => none
  | '_' :: c :: t =>
    if isDigit c then (readDigitsFrom isDigit t).map fun (ds, rest) => (c :: ds, rest) else none
  | c :: t        =>
    if isDigit c then (readDigitsFrom isDigit t).map fun (ds, rest) => (c :: ds, rest)
    else some ([], c :: t)

/-- Reads one or more digits. -/
def readDigits (isDigit : Char → Bool) : Reads Text
  | []     => none
  | c :: t => if isDigit c then readDigitsFrom isDigit (c :: t) else none

/-- Reads the digits of a number in base ten before its point: a zero only alone. -/
def readWhole : Reads Text
  | '0' :: t => some (['0'], t)
  | t        => readDigits Char.isDigit t

/-- Reads a sign, if there is one: whether it is a minus. -/
def readSign : Text → Bool × Text
  | '-' :: t => (true, t)
  | '+' :: t => (false, t)
  | t        => (false, t)

/-- Reads an exponent, if there is one. -/
def readExponent : Reads Int
  | 'e' :: t => go t
  | 'E' :: t => go t
  | t        => some (0, t)
where
  /-- Reads an exponent, after its letter. -/
  go (t : Text) : Option (Int × Text) := do
    let (down, t) := readSign t
    let (ds, rest) ← readDigits Char.isDigit t
    let n : Int := Nat.ofDigitChars 10 ds 0
    return (if down then -n else n, rest)

/-- The number of some digits times a power of ten. What is too large to be a number is an error, but
    for a negative one. -/
def floatOf? (negative : Bool) (digits : Text) (power : Int) : Option Float :=
  match Double.ofScientific? (Nat.ofDigitChars 10 digits 0) power with
  | some d => some (.finite negative d)
  | none   => if negative then some (.infinite true) else none

/-- Reads what follows the digits before the point: a fraction, an exponent, both or nothing. -/
def readNumberEnd (negative : Bool) (whole : Text) : Reads Scalar
  | '.' :: t => do
    let (fraction, t) ← readDigits Char.isDigit t
    let (power, t) ← readExponent t
    let x ← floatOf? negative (whole ++ fraction) (power - fraction.length)
    return (.float x, t)
  | c :: t   =>
    if c = 'e' || c = 'E' then do
      let (power, t) ← readExponent (c :: t)
      return (.float (← floatOf? negative whole power), t)
    else integer (c :: t)
  | []       => integer []
where
  /-- The integer of the digits. -/
  integer (rest : Text) : Option (Scalar × Text) :=
    let n : Int := Nat.ofDigitChars 10 whole 0
    let n := if negative then -n else n
    if -9223372036854775808 ≤ n && n ≤ 9223372036854775807 then some (.integer n, rest) else none

/-- Reads an integer in another base, after its prefix. -/
def readInBase (base : Nat) (isDigit : Char → Bool) : Reads Scalar := fun t => do
  let (ds, rest) ← readDigits isDigit t
  let n := ds.foldl (fun n c => base * n + (Decimal.hexDigit? c).getD 0) 0
  if n ≤ 9223372036854775807 then some (.integer n, rest) else none

/-- Whether a character is a hexadecimal digit. -/
def isHexDigit (c : Char) : Bool := (Decimal.hexDigit? c).isSome

/-- Whether a character is an octal digit. -/
def isOctalDigit (c : Char) : Bool := '0' ≤ c && c ≤ '7'

/-- Whether a character is a binary digit. -/
def isBinaryDigit (c : Char) : Bool := c = '0' || c = '1'

/-- Reads a number, after its sign. -/
def readUnsigned (negative : Bool) : Reads Scalar
  | 'i' :: 'n' :: 'f' :: t => some (.float (.infinite negative), t)
  | 'n' :: 'a' :: 'n' :: t => some (.float .nan, t)
  | t                      => do
    let (whole, rest) ← readWhole t
    readNumberEnd negative whole rest

/-- Reads a number. Only one without a sign has the prefix of another base. -/
def readNumber : Reads Scalar
  | '0' :: 'x' :: t => readInBase 16 isHexDigit t
  | '0' :: 'o' :: t => readInBase 8 isOctalDigit t
  | '0' :: 'b' :: t => readInBase 2 isBinaryDigit t
  | t               => readUnsigned (readSign t).1 (readSign t).2

/-! ## Scalars -/

/-- Reads a value without parts. -/
def readScalar : Reads Scalar
  | 't' :: 'r' :: 'u' :: 'e' :: t        => some (.boolean true, t)
  | 'f' :: 'a' :: 'l' :: 's' :: 'e' :: t => some (.boolean false, t)
  | '"' :: t                             => (readString '"' t).map fun (s, rest) => (.string s, rest)
  | '\'' :: t                            => (readString '\'' t).map fun (s, rest) => (.string s, rest)
  | t                                    =>
    match passMoment? t with
    | some rest => some (.moment, rest)
    | none      => readNumber t

end RankSieve.Toml
