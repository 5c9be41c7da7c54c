import RankSieve.Json.Fault

/-!
# `RankSieve.Json.Number` — numbers in JSON

A number stays an integer as long as its digits fit in 64 bits. Digits that fit no more are dropped,
and the number becomes a floating point one: the digits that were kept, rounded, times a power of ten.
-/

namespace RankSieve.Json

/-- A number that was read. -/
inductive Number where
  | integer (n : Int)
  | float (negative : Bool) (d : Double)
  deriving DecidableEq, Repr

/-- The greatest significand. -/
def greatestSignificand : Nat := 18446744073709551615

/-- The greatest exponent. -/
def greatestExponent : Nat := 2147483647

/-- The value of a digit. -/
def digitValue (c : Char) : Nat := c.toNat - '0'.toNat

/-- Appends digits to a number up to the first one with which it would be above a bound: the number,
    how many digits it took, and whether that was all of them. -/
def appendDigits (bound : Nat) : (n taken : Nat) → Text → Nat × Nat × Bool
  | n, taken, []      => (n, taken, true)
  | n, taken, c :: cs =>
    let n' := n * 10 + digitValue c
    if bound < n' then (n, taken, false) else appendDigits bound n' (taken + 1) cs

/-- The digits that a text begins with, and the rest. -/
def spanDigits (t : Text) : Text × Text := (t.takeWhile Char.isDigit, t.dropWhile Char.isDigit)

/-- A number times a power of ten. Powers above 10^308 are no numbers: such a product is out of
    range, and such a quotient is taken in several steps; `fuel` bounds them, since three bring any
    significand to zero. -/
def scale? : (fuel : Nat) → Double → Int → Option Double
  | 0,        _, _ => some .zero
  | fuel + 1, d, e =>
    if 0 ≤ e then
      if d.significand = 0 then some d
      else if e ≤ 308 then (Double.tenTo? e.toNat).bind d.mul?
      else none
    else if -308 ≤ e then (Double.tenTo? (-e).toNat).bind d.div?
    else if d.significand = 0 then some d
    else ((Double.tenTo? 308).bind d.div?).bind fun q => scale? fuel q (e + 308)

/-- The number of a significand and an exponent; the rest tells the place of a fault. -/
def ofParts (negative : Bool) (significand : Nat) (exponent : Int) : Reads Number := fun rest =>
  match (Double.ofNat? significand).bind fun d => scale? 8 d exponent with
  | some d => .ok (.float negative d, rest)
  | none   => faultHere .numberOutOfRange rest

/-- Reads an exponent, after its letter. One beyond 32 bits is out of range, unless it makes a zero. -/
def readExponent (negative : Bool) (significand : Nat) (start : Int) : Reads Number := fun t =>
  let (down, t) := match t with
    | '+' :: t => (false, t)
    | '-' :: t => (true, t)
    | t        => (false, t)
  match t with
  | []     => faultHere .endInValue []
  | c :: _ =>
    if !c.isDigit then faultNext .invalidNumber t
    else
      let (digits, rest) := spanDigits t
      match appendDigits greatestExponent 0 0 digits with
      | (e, _, true)      =>
        let limit : Int := greatestExponent
        let exponent := if down then max (start - e) (-limit - 1) else min (start + e) limit
        ofParts negative significand exponent rest
      | (_, taken, false) =>
        if significand ≠ 0 && !down then
          faultHere .numberOutOfRange (t.drop (taken + 1))
        else .ok (.float negative .zero, rest)

/-- Reads what may follow the digits of a floating point number: an exponent. -/
def readFloatEnd (negative : Bool) (significand : Nat) (exponent : Int) : Reads Number := fun t =>
  match t with
  | 'e' :: t => readExponent negative significand exponent t
  | 'E' :: t => readExponent negative significand exponent t
  | t        => ofParts negative significand exponent t

/-- Reads the digits after a point, of which there is at least one. -/
def readFraction (negative : Bool) (significand : Nat) (exponent : Int) : Reads Number := fun t =>
  let (digits, rest) := spanDigits t
  if digits.isEmpty then
    match rest with
    | []     => faultHere .endInValue []
    | _ :: _ => faultNext .invalidNumber rest
  else
    let (n, taken, _) := appendDigits greatestSignificand significand 0 digits
    readFloatEnd negative n (exponent - taken) rest

/-- The integer of a significand. Zero with a sign, and what is below 64 bits, are no integers. -/
def ofSignificand (negative : Bool) (n : Nat) : Number :=
  if !negative then .integer n
  else if n = 0 || 9223372036854775808 < n then .float true ((Double.ofNat? n).getD .zero)
  else .integer (-(n : Int))

/-- Reads what may follow the digits of an integer. -/
def readIntegerEnd (negative : Bool) (significand : Nat) : Reads Number := fun t =>
  match t with
  | '.' :: t => readFraction negative significand 0 t
  | 'e' :: t => readExponent negative significand 0 t
  | 'E' :: t => readExponent negative significand 0 t
  | t        => .ok (ofSignificand negative significand, t)

/-- Reads a number, after its sign. A zero stands alone before the point. -/
def readNumber (negative : Bool) : Reads Number := fun t =>
  match t with
  | []        => faultHere .endInValue []
  | '0' :: t' =>
    match t' with
    | c :: _ => if c.isDigit then faultNext .invalidNumber t' else readIntegerEnd negative 0 t'
    | []     => readIntegerEnd negative 0 []
  | c :: _    =>
    if !c.isDigit then faultNext .invalidNumber t
    else
      let (digits, rest) := spanDigits t
      match appendDigits greatestSignificand 0 0 digits with
      | (n, _, true)      => readIntegerEnd negative n rest
      | (n, taken, false) =>
        let exponent : Int := digits.length - taken
        match rest with
        | '.' :: rest => readFraction negative n exponent rest
        | rest        => readFloatEnd negative n exponent rest

/-- The number as something found. -/
def Number.found : Number → Found
  | .integer n        => .integer n
  | .float negative d => .float negative d

end RankSieve.Json
