import RankSieve.Text.Decimal

/-!
# `RankSieve.Row` — ranked exchanges

A row is one HTTP exchange with the rank that it was given as an anomaly.
-/

namespace RankSieve

/-- One ranked exchange. -/
structure Row where
  rank     : Int32
  method   : Text
  url      : Text
  /-- The status of the response, zero if there was none. -/
  status   : UInt16
  /-- Where the request and the response themselves are kept, if anywhere. No query reads it. -/
  exchange : Option Text
  deriving DecidableEq, Repr

namespace Row

/-- The rank in decimal. -/
def rankText (r : Row) : Text := Decimal.ofInt r.rank.toInt

/-- The status in decimal. -/
def statusText (r : Row) : Text := Decimal.ofNat r.status.toNat

end Row

/-- Reads a number of 32 bits with a sign. -/
def Decimal.readInt32? (t : Text) : Option Int32 :=
  (Decimal.readBounded? (-2147483648) 2147483647 t).map Int32.ofInt

/-- The rows at the given places, in the order of the places; places outside the list have none. -/
def rowsAt (rows : List Row) (places : List Nat) : List Row := places.filterMap fun i => rows[i]?

end RankSieve
