import RankSieve.Row

/-!
# `RankSieve.Query.Comparison` — comparisons of numbers

A comparison is written as a sign and a number. Blanks may surround the number, which may carry a
sign of its own and lies within 32 bits.
-/

namespace RankSieve

/-- How two numbers are compared. -/
inductive Comparator where
  | atLeast
  | atMost
  | above
  | below
  deriving DecidableEq, Repr

namespace Comparator

/-- Whether a number stands so to another. -/
def holds : Comparator → Int → Int → Bool
  | .atLeast, actual, target => target ≤ actual
  | .atMost,  actual, target => actual ≤ target
  | .above,   actual, target => target < actual
  | .below,   actual, target => actual < target

/-- How a comparator is written. -/
def sign : Comparator → Text
  | .atLeast => ['>', '=']
  | .atMost  => ['<', '=']
  | .above   => ['>']
  | .below   => ['<']

/-- Reads a comparator: the longer sign where one begins with the other. Gives the rest too. -/
def read? : Text → Option (Comparator × Text)
  | '>' :: '=' :: t => some (.atLeast, t)
  | '<' :: '=' :: t => some (.atMost, t)
  | '>' :: t        => some (.above, t)
  | '<' :: t        => some (.below, t)
  | _               => none

end Comparator

/-- A comparison with a fixed number. -/
structure Comparison where
  comparator : Comparator
  target     : Int32
  deriving DecidableEq, Repr

namespace Comparison

/-- Reads a comparison. -/
def read? (t : Text) : Option Comparison := do
  let (comparator, rest) ← Comparator.read? t
  let target ← Decimal.readInt32? rest.trim
  some ⟨comparator, target⟩

/-- Whether a number passes. -/
def holds (c : Comparison) (actual : Int) : Bool := c.comparator.holds actual c.target.toInt

end Comparison

end RankSieve
