import RankSieve.Text.Decimal

/-!
# `RankSieve.Number.Double` — binary floating point numbers

Non-negative finite numbers of the double format, exactly: a significand below 2^53 times a power of
two. Signs and infinities are left to those who use them.

## Contents
- **Rounding.** `ofRatio?` gives the number nearest to a ratio, an exact half going to the even
  significand; products and quotients of numbers are rounded ratios.
- **Shortest digits.** `digits` finds the fewest decimal digits from which the number reads back,
  and of those the nearest.
- **Notation.** `positional` and `scientific` write such digits.
-/

namespace RankSieve

/-- A number `significand * 2 ^ exponent`. -/
structure Double where
  significand : Nat
  exponent    : Int
  deriving DecidableEq, Repr

namespace Double

/-! ## Rounding -/

/-- Zero. -/
def zero : Double := ⟨0, -1074⟩

/-- A power of two; one for negative exponents. -/
def twoTo (e : Int) : Nat := Nat.pow 2 e.toNat

/-- A power of ten; one for negative exponents. -/
def tenTo (e : Int) : Nat := Nat.pow 10 e.toNat

/-- The least significand of 53 bits. -/
def leastFull : Nat := 4503599627370496

/-- The quotient to the nearest, a half going to the even neighbour. -/
def divideToEven (num den : Nat) : Nat :=
  let q := num / den
  let twice := 2 * (num % den)
  if twice < den || (twice == den && q % 2 == 0) then q else q + 1

/-- A number as numerator and denominator. -/
def ratio (d : Double) : Nat × Nat :=
  (d.significand * twoTo d.exponent, twoTo (-d.exponent))

/-- The numerator and denominator of a ratio divided by a power of two. -/
def scaled (num den : Nat) (exponent : Int) : Nat × Nat :=
  (num * twoTo (-exponent), den * twoTo exponent)

/-- The exponent at which a ratio has 53 significant bits, or the least exponent there is. -/
def exponentFor (num den : Nat) : Int :=
  let guess := max ((num.log2 : Int) - den.log2 - 53) (-1074)
  let (n, d) := scaled num den guess
  if n / d < 2 * leastFull then guess else guess + 1

/-- The number nearest to a ratio; none when it lies beyond the greatest number. -/
def ofRatio? (num den : Nat) : Option Double :=
  if num == 0 then some zero
  else
    let e := exponentFor num den
    let (n, d) := scaled num den e
    let m := divideToEven n d
    let result : Double := if m == 2 * leastFull then ⟨leastFull, e + 1⟩ else ⟨m, e⟩
    if result.exponent > 971 then none else some result

/-- The number nearest to a product. -/
def mul? (a b : Double) : Option Double :=
  ofRatio? (a.ratio.1 * b.ratio.1) (a.ratio.2 * b.ratio.2)

/-- The number nearest to a quotient. -/
def div? (a b : Double) : Option Double :=
  ofRatio? (a.ratio.1 * b.ratio.2) (a.ratio.2 * b.ratio.1)

/-- The number nearest to an integer, where there is one. -/
def ofNat? (n : Nat) : Option Double := ofRatio? n 1

/-- The number nearest to a power of ten. -/
def tenTo? (k : Nat) : Option Double := ofRatio? (tenTo k) 1

/-- The number nearest to `n * 10 ^ k`. -/
def ofScientific? (n : Nat) (k : Int) : Option Double :=
  if n == 0 then some zero
  else if k ≥ 400 then none
  else if k < -((Nat.toDigits 10 n).length + 400 : Int) then some zero
  else ofRatio? (n * tenTo k) (tenTo (-k))

/-! ## Shortest digits -/

/-- Whether `n * 10 ^ place` rounds to the number: it lies between the midpoints to the neighbours,
    or on one of them when the significand is even. Everything is multiplied by four. -/
def readsBack (d : Double) (n : Nat) (place : Int) : Bool :=
  let m := d.significand
  let below := if m == leastFull && d.exponent > -1074 then 4 * m - 1 else 4 * m - 2
  let (num, den) := (4 * n * tenTo place * twoTo (-d.exponent), tenTo (-place) * twoTo d.exponent)
  if m % 2 == 0 then below * den ≤ num && num ≤ (4 * m + 2) * den
  else below * den < num && num < (4 * m + 2) * den

/-- How many decimal places the number of digits before the point of a ratio is: the power of ten
    just below it. The fuel bounds the zeros after the point. -/
def magnitude (num den : Nat) : (fuel : Nat) → Int
  | 0        => 0
  | fuel + 1 =>
    if num ≥ den then (Nat.toDigits 10 (num / den)).length - 1 else magnitude (num * 10) den fuel - 1

/-- The first decimal place, from the given one downwards, at which a multiple of its power of ten
    reads back, and the nearest such multiple. -/
def firstPlace (d : Double) : (fuel : Nat) → (place : Int) → Nat × Int
  | 0,        place => (0, place)
  | fuel + 1, place =>
    let (num, den) := (d.ratio.1 * tenTo (-place), d.ratio.2 * tenTo place)
    let down := num / den
    let near := divideToEven num den
    let far := if near == down then down + 1 else down
    if d.readsBack near place then (near, place)
    else if d.readsBack far place then (far, place)
    else firstPlace d fuel (place - 1)

/-- The shortest digits of a number other than zero, and the power of ten of the first of them. -/
def digits (d : Double) : Text × Int :=
  let top := magnitude d.ratio.1 d.ratio.2 400
  let (n, place) := firstPlace d 20 top
  let ds := Decimal.ofNat n
  let stripped := (ds.reverse.dropWhile (· == '0')).reverse
  (stripped, place + ds.length - 1)

/-! ## Notation -/

/-- Digits with the point in its place, and at least one digit on either side of it. -/
def positional (ds : Text) (power : Int) : Text :=
  if power < 0 then "0.".toList ++ List.replicate ((-power).toNat - 1) '0' ++ ds
  else
    let whole := power.toNat + 1
    let left := ds.take whole ++ List.replicate (whole - ds.length) '0'
    let right := ds.drop whole
    left ++ '.' :: (if right.isEmpty then ['0'] else right)

/-- Digits with the point after the first of them, and the power of ten with its sign. -/
def scientific (ds : Text) (power : Int) : Text :=
  let fraction := ds.drop 1
  ds.take 1 ++ (if fraction.isEmpty then [] else '.' :: fraction) ++
    'e' :: (if power < 0 then [] else ['+']) ++ Decimal.ofInt power

/-- Positional notation whatever the magnitude. -/
def plainText (d : Double) : Text :=
  if d.significand == 0 then "0.0".toList else positional d.digits.1 d.digits.2

/-- Positional notation from 10^-5 up to below 10^16, scientific notation outside. -/
def shortText (d : Double) : Text :=
  if d.significand == 0 then "0.0".toList
  else
    let (ds, power) := d.digits
    if -5 ≤ power && power < 16 then positional ds power else scientific ds power

end Double

end RankSieve
