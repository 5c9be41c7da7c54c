import RankSieve.Text.Utf8

/-!
# `RankSieve.Sink` — where output goes

A sink takes octets in order. It may have room for a limited number of them: then it takes what
still fits, and writing fails.
-/

namespace RankSieve

/-- Where output goes: what it holds, and how many more octets it takes if there is a limit. -/
structure Sink where
  held : Octets
  room : Option Nat
  deriving DecidableEq, Repr

namespace Sink

/-- An empty sink. -/
def empty (room : Option Nat) : Sink := ⟨[], room⟩

/-- Writes some octets: the sink after it, and whether it took all of them. -/
def write (s : Sink) (bs : Octets) : Sink × Bool :=
  match s.room with
  | none   => ({ s with held := s.held ++ bs }, true)
  | some n => (⟨s.held ++ bs.take n, some (n - bs.length)⟩, bs.length ≤ n)

/-- What a sink without room says. -/
def fullMessage : Text := "write limit reached".toList

end Sink

end RankSieve
