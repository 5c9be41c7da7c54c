/-!
# `RankSieve.Text.Blank` — texts, blanks and lines

A text is the list of its characters, so that every rule about text is a rule about lists.

## Contents
- **Blanks.** `isBlank` is membership in the Unicode property `White_Space`; `trim` removes blanks
  at both ends.
- **Cutting.** `cutAt` parts a text at its first character of a kind.
- **Fuel.** `Text.fuel` bounds the steps of a reader by the text that it reads.
- **Lines.** `cutLines` parts a sequence at its line feeds, whether its members are characters or
  octets; a carriage return directly before a line feed belongs to the line ending.
-/

namespace RankSieve

/-- A text, character by character. -/
abbrev Text := List Char

/-- The characters with the Unicode property `White_Space`. -/
def isBlank (c : Char) : Bool :=
  let n := c.toNat
  (9 ≤ n && n ≤ 13) || n == 0x20 || n == 0x85 || n == 0xA0 || n == 0x1680 ||
    (0x2000 ≤ n && n ≤ 0x200A) || n == 0x2028 || n == 0x2029 || n == 0x202F ||
    n == 0x205F || n == 0x3000

namespace Text

/-- Without the blanks it begins with. -/
def trimStart (t : Text) : Text := t.dropWhile isBlank

/-- Without the blanks it ends with. -/
def trimEnd (t : Text) : Text := (t.reverse.dropWhile isBlank).reverse

/-- Without the blanks at either end. -/
def trim (t : Text) : Text := trimEnd (trimStart t)

/-- Nothing but blanks. -/
def isBlankText (t : Text) : Bool := t.all isBlank

/-- Whether the last character is a blank; no text without characters has one. -/
def endsWithBlank (t : Text) : Bool := t.getLast?.any isBlank

/-- The parts before and after the first character of the given kind, which is left out. -/
def cutAt (p : Char → Bool) (t : Text) : Option (Text × Text) :=
  match t.span (fun c => !p c) with
  | (before, _ :: after) => some (before, after)
  | (_, [])              => none

/-- Padded with spaces on the right up to the given number of characters. -/
def padRight (width : Nat) (t : Text) : Text := t ++ List.replicate (width - t.length) ' '

/-- Padded with spaces on the left up to the given number of characters. -/
def padLeft (width : Nat) (t : Text) : Text := List.replicate (width - t.length) ' ' ++ t

end Text

/-! ## Fuel -/

/-- A bound on steps: every step takes one member. -/
abbrev Fuel := List Char

/-- Fuel for a reader that passes a character with every step but the last. -/
def Text.fuel (t : Text) : Fuel := ' ' :: t

/-! ## Lines -/

section Lines

variable {α : Type} [DecidableEq α]

/-- A line gathered backwards, without a carriage return that stood last. -/
def closeLine (cr : α) : List α → List α
  | []      => []
  | a :: as => if a = cr then as.reverse else (a :: as).reverse

/-- The lines of a sequence, given the line gathered so far backwards. What follows the last line
    feed is a line of its own unless it is empty, and keeps a carriage return it ends with. -/
def gatherLines (lf cr : α) : List α → List α → List (List α)
  | [],      []      => []
  | b :: bs, []      => [(b :: bs).reverse]
  | acc,     a :: as =>
    if a = lf then closeLine cr acc :: gatherLines lf cr [] as else gatherLines lf cr (a :: acc) as

/-- The lines of a sequence. -/
def cutLines (lf cr : α) (as : List α) : List (List α) := gatherLines lf cr [] as

end Lines

/-- The lines of a text. -/
def Text.lines (t : Text) : List Text := cutLines '\n' '\r' t

end RankSieve
