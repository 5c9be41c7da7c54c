import RankSieve.Text.Blank

/-!
# `RankSieve.Text.Decimal` — integers in decimal digits

## Contents
- **Writing.** `ofNat` and `ofInt`: digits without leading zeros, a minus sign before negatives.
- **Reading.** `readDigits?` takes one or more ASCII digits; `readInt?` allows one sign before them
  and `readBounded?` further asks that the value lies between two bounds. Leading zeros are allowed
  in any number.
-/

namespace RankSieve.Decimal

/-- A natural number in decimal. -/
def ofNat (n : Nat) : Text := Nat.toDigits 10 n

/-- An integer in decimal. -/
def ofInt : Int → Text
  | .ofNat n   => ofNat n
  | .negSucc n => '-' :: ofNat (n + 1)

/-- The value of one or more ASCII digits; anything else has none. -/
def readDigits? (t : Text) : Option Nat :=
  if !t.isEmpty && t.all Char.isDigit then some (Nat.ofDigitChars 10 t 0) else none

/-- The value of a natural number, which may carry a plus sign. -/
def readNat? : Text → Option Nat
  | '+' :: t => readDigits? t
  | t        => readDigits? t

/-- The value of digits that may carry a sign. -/
def readInt? : Text → Option Int
  | '-' :: t => (readDigits? t).map fun n => -(n : Int)
  | t        => (readNat? t).map Int.ofNat

/-- The value of digits that may carry a sign, where it lies between the bounds. -/
def readBounded? (least greatest : Int) (t : Text) : Option Int :=
  (readInt? t).filter fun n => least ≤ n && n ≤ greatest

/-- A natural number in lower-case hexadecimal. -/
def hex (n : Nat) : Text := Nat.toDigits 16 n

/-- The value of a hexadecimal digit of either case. -/
def hexDigit? (c : Char) : Option Nat :=
  if '0' ≤ c && c ≤ '9' then some (c.toNat - '0'.toNat)
  else if 'a' ≤ c && c ≤ 'f' then some (c.toNat - 'a'.toNat + 10)
  else if 'A' ≤ c && c ≤ 'F' then some (c.toNat - 'A'.toNat + 10)
  else none

/-- The value of hexadecimal digits; none where another character stands among them. -/
def readHex? (t : Text) : Option Nat :=
  t.foldlM (fun n c => (hexDigit? c).map (16 * n + ·)) 0

end RankSieve.Decimal
