import RankSieve.Text.Property

/-!
# `RankSieve.Text.Width` — columns on a terminal

How many columns a text takes in a fixed-width display outside East Asian contexts.

## Contents
- **Characters.** `charWidth`: wide characters take two columns, combining and invisible ones none,
  all others, controls included, one.
- **Texts.** `width` adds them up, except where neighbours combine: an emoji with its presentation
  selector, modifier or joined emoji takes two columns, and the Arabic ligature of lam and alef one.
-/

namespace RankSieve

/-! ## Tables -/

/-- Characters with `East_Asian_Width` wide or full-width. -/
def wideRanges : Ranges := Ranges.ofGaps [
  "1100+5f 11ba+1 d+1 be+3 3 2 209+1 15+1 32+b 2b 13 d 8+1 11+1 5+1 8 5 15 7+1 1 4 2 7 4+1 1c 23",
  "1 4+2 1 3d+2 18 e 35b+1 33 4 32a+19 1+58 c+d5 1a+b 4+3e 2+55 2+66 5+2a 1+5d 1+53 c+2e 1+27",
  "8+1b6f 40+568c 3+36 499+1c 283+2ba3 215c+1ff 310+9 16+22 1+12 1+3 95+5f 7f+6 6ff9+4 b+1 e+17f7",
  "8+4d5 2a+8 22e7+3 1+6 1+1 1+122 f 1d+2 2 e+3 8+18b 3d08 ca be 2+9 65+2 d+2b 4+8 7+1 e+5 9a+20",
  "c+8 1+45 1+15 c+2a 4+4 c+10 3 3+46 1 1+ba 2+3e d+3 1+17 12 1a+1 d 56+54 30+45 6 3+2 2+2 4+3",
  "b+1 7+8 e3+b 4 11b+2e 1+9 1+b8 70+c 3+8 7+2d 1+6 8+d 4+8 7+8 507+fffd 2+fffd"]

/-- Medial vowels and final consonants of Hangul syllables. -/
def hangulTailRanges : Ranges := Ranges.ofGaps ["1160+47 0+57 c5b0+16 4+30"]

/-! ## Characters -/

/-- Format characters that stand above or around the next ones and take no room of their own. -/
def hasNoRoom (c : Char) : Bool :=
  [0x605, 0x70F, 0x890, 0x891, 0x8E2, 0xA8FA].contains c.toNat

/-- The columns of one character by itself. -/
def charWidth (c : Char) : Nat :=
  let n := c.toNat
  if n < 0x300 then (if n == 0xAD then 0 else 1)
  else if n == 0x2D7F then 1
  else if n == 0x115F || n == 0x17A4 then 2
  else if n == 0x17D8 then 3
  else if defaultIgnorableCodePointRanges.contains c || graphemeExtendRanges.contains c ||
      hangulTailRanges.contains c || hasNoRoom c then 0
  else if wideRanges.contains c then 2
  else 1

/-! ## Texts -/

/-- Letters of the joining group lam. -/
def isLam (c : Char) : Bool :=
  [0x644, 0x6B5, 0x6B6, 0x6B7, 0x6B8, 0x76A, 0x8A6, 0x8C7].contains c.toNat

/-- Letters of the joining group alef. -/
def isAlef (c : Char) : Bool :=
  [0x622, 0x623, 0x625, 0x627, 0x671, 0x672, 0x673, 0x675, 0x773, 0x774].contains c.toNat

/-- What stands on the left and may combine with the next character: nothing, a lam, an emoji that
    takes two columns, or such an emoji and a joiner. -/
inductive Neighbour where
  | other
  | lam
  | emoji (base : Char)
  | joined
  deriving DecidableEq

/-- A character that combines with nothing before it, after so many columns. -/
def Neighbour.start (columns : Nat) (c : Char) : Neighbour × Nat :=
  (if isLam c then .lam else if c.toNat ≥ 0x80 && emojiRanges.contains c then .emoji c else .other,
    columns + charWidth c)

/-- Whether an emoji of two columns takes a single one in its text form. -/
def narrowsAsText (base : Char) : Bool :=
  emojiPresentationRanges.contains base && charWidth base == 2 &&
    !(0x1F200 ≤ base.toNat && base.toNat ≤ 0x1F2FF)

/-- One more character: what the next one may combine with, and the columns so far. -/
def Neighbour.step : Neighbour × Nat → Char → Neighbour × Nat
  | (.other,      columns), c => start columns c
  | (.lam,        columns), c =>
    if isAlef c then (.other, columns)
    else if charWidth c == 0 then (.lam, columns)
    else start columns c
  | (.emoji base, columns), c =>
    if c == '\uFE0F' then (.emoji '😀', columns + (2 - charWidth base))
    else if c == '\uFE0E' then (.other, if narrowsAsText base then columns - 1 else columns)
    else if emojiModifierRanges.contains c && emojiModifierBaseRanges.contains base then
      (.emoji '😀', columns + (2 - charWidth base))
    else if c == '\u200D' && charWidth base == 2 then (.joined, columns)
    else start columns c
  | (.joined,     columns), c =>
    if extendedPictographicRanges.contains c then (.emoji '😀', columns) else start columns c

/-- The columns of a text. -/
def Text.width (t : Text) : Nat := (t.foldl Neighbour.step (.other, 0)).2

end RankSieve
