import RankSieve.Text.Decimal

/-!
# `RankSieve.Text.Ranges` — character properties as tables

Properties of the Unicode standard come as lists of ranges of code points. They are kept as compact
text, read once into arrays and searched by halving.

## Contents
- **Halving.** `lastAtMost` finds the last entry of an increasing array that is at most a number.
- **Ranges.** `Ranges.ofGaps` reads a set of code points from the distances between its ranges,
  `Ranges.contains` asks for membership.
- **Runs.** `Runs.ofText` reads a partition of all code points into named runs, `Runs.nameOf` tells
  the run of a character.
-/

namespace RankSieve

/-! ## Halving -/

/-- The position of the last entry of `keys` between `low` and `high` that is at most `n`, when the
    entry at `low` is; `fuel` bounds the halvings. -/
def halve (keys : Array Nat) (n : Nat) : (fuel low high : Nat) → Nat
  | 0,        low, _    => low
  | fuel + 1, low, high =>
    if high ≤ low + 1 then low
    else
      let middle := (low + high) / 2
      if keys.getD middle 0 ≤ n then halve keys n fuel middle high else halve keys n fuel low middle

/-- The position of the last entry that is at most `n`, in increasing `keys` whose first one is. -/
def lastAtMost (keys : Array Nat) (n : Nat) : Nat := halve keys n keys.size 0 keys.size

/-! ## Ranges -/

/-- A set of code points: the first and the last of each range, in increasing order. -/
structure Ranges where
  firsts : Array Nat
  lasts  : Array Nat

namespace Ranges

/-- Whether a code point lies in one of the ranges. -/
def contains (r : Ranges) (c : Char) : Bool :=
  let i := lastAtMost r.firsts c.toNat
  r.firsts.getD i 0x110000 ≤ c.toNat && c.toNat ≤ r.lasts.getD i 0

/-- How many ranges there are. -/
def count (r : Ranges) : Nat := r.firsts.size

/-- One more range: the distance of its start from the end of the last one, and how many code
    points it has after its first. -/
def extend (r : Ranges) (gap more : Nat) : Ranges :=
  let first := (match r.lasts.back? with | some l => l + 1 | none => 0) + gap
  ⟨r.firsts.push first, r.lasts.push (first + more)⟩

/-- Reads a set from text: an entry for each range, in hexadecimal, the distance from the end of
    the range before and, after a plus sign, how many code points follow the first. -/
def ofGaps (entries : List String) : Ranges :=
  (entries.flatMap (·.toList.splitOn ' ')).foldl (fun r entry =>
      match Text.cutAt (· == '+') entry with
      | some (gap, more) => r.extend ((Decimal.readHex? gap).getD 0) ((Decimal.readHex? more).getD 0)
      | none             => r.extend ((Decimal.readHex? entry).getD 0) 0)
    ⟨#[], #[]⟩

end Ranges

/-! ## Runs -/

/-- A partition of the code points into consecutive named runs: where each starts and its name. -/
structure Runs where
  firsts : Array Nat
  names  : Array Text

namespace Runs

/-- The name of the run that holds a character. -/
def nameOf (r : Runs) (c : Char) : Text := r.names.getD (lastAtMost r.firsts c.toNat) []

/-- Reads a partition from text: an entry for each run, its name of a fixed length and then, in
    hexadecimal, how many code points it has. -/
def ofText (nameLength : Nat) (entries : List String) : Runs :=
  ((entries.flatMap (·.toList.splitOn ' ')).foldl (fun (acc : Nat × Runs) entry =>
      (acc.1 + (Decimal.readHex? (entry.drop nameLength)).getD 0,
        ⟨acc.2.firsts.push acc.1, acc.2.names.push (entry.take nameLength)⟩))
    (0, ⟨#[], #[]⟩)).2

end Runs

end RankSieve
