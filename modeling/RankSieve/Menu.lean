import RankSieve.Settings
import RankSieve.Text.Decimal

/-!
# `RankSieve.Menu` — quick filters

The menu offers pieces of queries to append: the two connectives and conditions on each field.

## Contents
- **Entries.** `QuickFilter`, the text that it appends and the label that it shows.
- **The menu.** `Menu.ofSettings` in sections; `Menu.entries` counts through all of them.
-/

namespace RankSieve

/-! ## Entries -/

/-- A word that joins conditions. -/
inductive Connective where
  | and
  | or
  deriving DecidableEq, Repr

/-- How a connective is written. -/
def Connective.keyword : Connective → Text
  | .and => "AND".toList
  | .or  => "OR".toList

/-- An entry of the menu. -/
inductive QuickFilter where
  | logic (c : Connective)
  | method (name : Text)
  | status (code : UInt16)
  | rankAtLeast (n : Int32)
  /-- A condition on the rank that is left to complete. -/
  | customRank
  /-- A condition on the URL that is left to complete. -/
  | customUrl
  deriving DecidableEq, Repr

namespace QuickFilter

/-- The piece of a query that the entry stands for. -/
def token : QuickFilter → Text
  | .logic c       => c.keyword
  | .method name   => "method:".toList ++ name
  | .status code   => "status:".toList ++ Decimal.ofNat code.toNat
  | .rankAtLeast n => "rank:>=".toList ++ Decimal.ofInt n.toInt
  | .customRank    => "rank:".toList
  | .customUrl     => "url:".toList

/-- What the menu shows for the entry. -/
def label : QuickFilter → Text
  | .logic c       => c.keyword
  | .method name   => name
  | .status code   => Decimal.ofNat code.toNat
  | .rankAtLeast n => ">= ".toList ++ Decimal.ofInt n.toInt
  | .customRank    => "Custom...".toList
  | .customUrl     => "URL (Custom)".toList

/-- The connective of an entry that is one. -/
def connective? : QuickFilter → Option Connective
  | .logic c => some c
  | _        => none

end QuickFilter

/-! ## The menu -/

/-- Entries under a title. -/
structure MenuSection where
  title   : Text
  entries : List QuickFilter
  deriving DecidableEq, Repr

/-- A menu: its sections in the order shown. -/
abbrev Menu := List MenuSection

namespace Menu

/-- The menu that some settings ask for. -/
def ofSettings (s : MenuSettings) : Menu := [
  ⟨"Logic".toList,  [.logic .and, .logic .or]⟩,
  ⟨"Method".toList, s.methods.map .method⟩,
  ⟨"Status".toList, s.statusCodes.map .status⟩,
  ⟨"Rank".toList,   s.rankThresholds.map .rankAtLeast ++ [.customRank]⟩,
  ⟨"URL".toList,    [.customUrl]⟩]

/-- All entries in the order shown, as they are counted for picking one. -/
def entries (m : Menu) : List QuickFilter := m.flatMap MenuSection.entries

/-- The label of an entry in its column, and the piece of a query beside it. -/
def entryText (e : QuickFilter) : Text := e.label.padRight 14 ++ ' ' :: e.token

/-- The lines of the menu without numbers. -/
def lines (m : Menu) : List Text :=
  m.flatMap fun s => (s.title ++ [':']) :: s.entries.map fun e => "  ".toList ++ entryText e

/-- The line of an entry under its number. -/
def numberedLine (number : Nat) (e : QuickFilter) : Text :=
  "  ".toList ++ (Decimal.ofNat number).padLeft 3 ++ ". ".toList ++ entryText e

/-- The lines of the menu with numbers, counting on from the given one through all sections. -/
def numberedLinesFrom : Nat → Menu → List Text
  | _,      []     => []
  | number, s :: m =>
    (s.title ++ [':']) :: s.entries.zipIdx.map (fun (e, i) => numberedLine (number + i) e) ++
      numberedLinesFrom (number + s.entries.length) m

/-- The lines of the menu with the numbers that pick an entry. -/
def numberedLines (m : Menu) : List Text := numberedLinesFrom 1 m

/-- The entry under a number. -/
def entryAt? (m : Menu) (number : Nat) : Option QuickFilter :=
  if number = 0 then none else m.entries[number - 1]?

end Menu

end RankSieve
