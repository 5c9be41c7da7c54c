import RankSieve.Text.Case
import RankSieve.Text.Category
import RankSieve.Text.Property
import RankSieve.Text.Script

/-!
# `RankSieve.Pattern.CharSet` — sets of characters

The sets that a pattern can ask of one character, built from ranges, letters up to case and
properties of the Unicode standard. Patterns know version 16 of the standard, as the folding of case
does; the tables of properties are those of version 17. What that version added is unassigned in a
pattern.

## Contents
- **Versions.** `isRecent` are the characters that patterns do not know yet.
- **Sets.** `CharSet` and the membership test `mem`.
- **Derived sets.** Difference and symmetric difference, and the named ASCII sets.
-/

namespace RankSieve

/-! ## Versions -/

/-- The characters that version 17 of the standard added. -/
def recentRanges : Ranges := Ranges.ofGaps [
  "88f 3cc 7f df2+e 2+b 5d5 ad4 7c37+1 2 1 1c 53d1+f 1bd+1 36+6 b71+19 56b+2 8+8 21+1 c64+7 248+2b",
  "4+9 50b6+18 2+18 11e+4 1801+7 509+15 61+72 3f07+2 1bd+16 f+10 17cf+1e 1+15 8+1 fd8 9e+3 155+8",
  "17b+3 32 3 39 4 1c 4 10a bb3f+5 1762+b 5502+10c9"]

/-- Whether a character is unassigned in version 16. -/
def isRecent (c : Char) : Bool := recentRanges.contains c

/-! ## Sets -/

/-- Letters, marks, decimal digits, connectors and joiners: the characters of words. -/
def isWordChar (c : Char) : Bool :=
  if c.toNat < 0x80 then c.isAlphanum || c == '_'
  else
    !isRecent c && (alphabeticRanges.contains c || joinControlRanges.contains c ||
      hasCategory ["Mn", "Mc", "Me", "Nd", "Pc"] c)

/-- A set of characters. -/
inductive CharSet where
  | empty
  | range (first last : Char)
  /-- The characters whose folded form is the given one. -/
  | like (folded : Char)
  | listed (table : Ranges)
  /-- The characters of some general categories. -/
  | category (names : List String)
  /-- The characters of a script, by its code. -/
  | script (code : Text)
  | blank
  | digit
  | word
  /-- The characters that differ in case only from a member. -/
  | folded (s : CharSet)
  /-- The members and, where they are ASCII letters, their other case. -/
  | foldedAscii (s : CharSet)
  | union (s t : CharSet)
  | inter (s t : CharSet)
  | compl (s : CharSet)

namespace CharSet

/-- Whether a character is in a set. -/
def mem : CharSet → Char → Bool
  | .empty,            _ => false
  | .range first last, c => first ≤ c && c ≤ last
  | .like target,      c => fold c == target
  | .listed table,     c => !isRecent c && table.contains c
  | .category names,   c => if isRecent c then names.contains "Cn" else hasCategory names c
  | .script code,      c => if isRecent c then code == "Zzzz".toList else scriptOf c == code
  | .blank,            c => isBlank c
  | .digit,            c => !isRecent c && isDecimalDigit c
  | .word,             c => isWordChar c
  | .folded s,         c => (orbit c).any s.mem
  | .foldedAscii s,    c => s.mem c || s.mem c.toLower || s.mem c.toUpper
  | .union s t,        c => s.mem c || t.mem c
  | .inter s t,        c => s.mem c && t.mem c
  | .compl s,          c => !s.mem c

/-! ## Derived sets -/

/-- One character. -/
def only (c : Char) : CharSet := .range c c

/-- Every character. -/
def all : CharSet := .compl .empty

/-- The members of the first set that are not in the second. -/
def diff (s t : CharSet) : CharSet := .inter s (.compl t)

/-- The characters that are in exactly one of two sets. -/
def symmDiff (s t : CharSet) : CharSet := .union (s.diff t) (t.diff s)

/-- The union of some ranges. -/
def ranges (rs : List (Char × Char)) : CharSet :=
  rs.foldr (fun r s => .union (.range r.1 r.2) s) .empty

/-- The complement, if asked for. -/
def negatedIf (negated : Bool) (s : CharSet) : CharSet := if negated then .compl s else s

/-- ASCII digits. -/
def asciiDigit : CharSet := .range '0' '9'

/-- ASCII blanks: tab, the four line separators and the space. -/
def asciiBlank : CharSet := ranges [('\t', '\r'), (' ', ' ')]

/-- ASCII letters, digits and the underscore. -/
def asciiWord : CharSet := ranges [('0', '9'), ('A', 'Z'), ('_', '_'), ('a', 'z')]

/-- The ASCII sets that have a name inside brackets. -/
def asciiNamed? (name : Text) : Option CharSet :=
  match String.ofList name with
  | "alnum"  => some (ranges [('0', '9'), ('A', 'Z'), ('a', 'z')])
  | "alpha"  => some (ranges [('A', 'Z'), ('a', 'z')])
  | "ascii"  => some (ranges [('\x00', '\x7F')])
  | "blank"  => some (ranges [('\t', '\t'), (' ', ' ')])
  | "cntrl"  => some (ranges [('\x00', '\x1F'), ('\x7F', '\x7F')])
  | "digit"  => some asciiDigit
  | "graph"  => some (ranges [('!', '~')])
  | "lower"  => some (ranges [('a', 'z')])
  | "print"  => some (ranges [(' ', '~')])
  | "punct"  => some (ranges [('!', '/'), (':', '@'), ('[', '\x60'), ('\x7b', '~')])
  | "space"  => some asciiBlank
  | "upper"  => some (ranges [('A', 'Z')])
  | "word"   => some asciiWord
  | "xdigit" => some (ranges [('0', '9'), ('A', 'F'), ('a', 'f')])
  | _        => none

end CharSet

end RankSieve
