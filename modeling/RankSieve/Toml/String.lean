import RankSieve.Text.Decimal

/-!
# `RankSieve.Toml.String` — strings in TOML

A string stands between quotation marks or between apostrophes, and only the former knows escapes.
Three marks instead of one allow it to go over several lines.

A reader takes a text and gives a value and the rest, or nothing where the text goes wrong.
-/

namespace RankSieve.Toml

/-- Readers: from a text to a value and the rest. -/
abbrev Reads (α : Type) := Text → Option (α × Text)

/-! ## Characters -/

/-- Characters that need no escape: all but the controls of ASCII, of which the tabulator is allowed. -/
def isPlain (c : Char) : Bool := c = '\t' || (0x20 ≤ c.toNat && c.toNat ≠ 0x7F)

/-- The blanks inside a line. -/
def isGap (c : Char) : Bool := c = ' ' || c = '\t'

/-- Passes the end of a line. -/
def passLineEnd? : Text → Option Text
  | '\n' :: t         => some t
  | '\r' :: '\n' :: t => some t
  | _                 => none

/-- Passes blanks and ends of lines. -/
def passBlankLines : Text → Text
  | []                => []
  | '\r' :: '\n' :: t => passBlankLines t
  | c :: t            => if isGap c || c = '\n' then passBlankLines t else c :: t

/-! ## Escapes -/

/-- What an escape of one letter stands for. -/
def escapedChar? (c : Char) : Option Char :=
  match c with
  | 'b'  => some '\x08'
  | 'f'  => some '\x0C'
  | 'n'  => some '\n'
  | 'r'  => some '\r'
  | 't'  => some '\t'
  | '\\' => some '\\'
  | '"'  => some '"'
  | _    => none

/-- Reads the hexadecimal digits of an escape, of which there are so many. -/
def readCodePoint (digits : Nat) : Reads Char := fun t =>
  if (t.take digits).length < digits then none
  else
    match Decimal.readHex? (t.take digits) with
    | some n => if n.isValidChar then some (Char.ofNat n, t.drop digits) else none
    | none   => none

/-- Reads an escape, after its backslash. -/
def readEscape : Reads Char
  | 'u' :: t => readCodePoint 4 t
  | 'U' :: t => readCodePoint 8 t
  | c :: t   => (escapedChar? c).map fun e => (e, t)
  | []       => none

/-- Passes an escaped end of a line with all blanks that follow, after its backslash. -/
def passEscapedLineEnd? (t : Text) : Option Text :=
  (passLineEnd? (t.dropWhile isGap)).map passBlankLines

/-! ## Strings -/

/-- Whether a string between such marks knows escapes. -/
def knowsEscapes (mark : Char) : Bool := mark = '"'

/-- Reads a string of one line up to its end, given the characters before backwards; `fuel` bounds
    them. -/
def readShortFrom (mark : Char) : (fuel : Fuel) → (before : Text) → Reads Text
  | [],        _,      _      => none
  | _ :: _,    _,      []     => none
  | _ :: fuel, before, c :: t =>
    if c = mark then some (before.reverse, t)
    else if c = '\\' && knowsEscapes mark then do
      let (e, rest) ← readEscape t
      readShortFrom mark fuel (e :: before) rest
    else if isPlain c then readShortFrom mark fuel (c :: before) t
    else none

/-- Reads a string of one line, after its first mark. -/
def readShort (mark : Char) : Reads Text := fun t => readShortFrom mark t.fuel [] t

/-- Reads a string of several lines up to its end, given the characters before backwards; `fuel`
    bounds them. Up to two marks may stand inside it, also right before the three that close it. -/
def readLongFrom (mark : Char) : (fuel : Fuel) → (before : Text) → Reads Text
  | [],        _,      _      => none
  | _ :: _,    _,      []     => none
  | _ :: fuel, before, c :: t =>
    if c = mark then
      let marks := ((c :: t).takeWhile (· = mark)).length
      let kept := if marks < 3 then marks else min marks 5 - 3
      let before := List.replicate kept mark ++ before
      if marks < 3 then readLongFrom mark fuel before ((c :: t).drop marks)
      else some (before.reverse, (c :: t).drop (kept + 3))
    else if c = '\\' && knowsEscapes mark then
      match passEscapedLineEnd? t with
      | some rest => readLongFrom mark fuel before rest
      | none      => do
        let (e, rest) ← readEscape t
        readLongFrom mark fuel (e :: before) rest
    else if isPlain c then readLongFrom mark fuel (c :: before) t
    else do
      let rest ← passLineEnd? (c :: t)
      readLongFrom mark fuel ('\n' :: before) rest

/-- Reads a string of several lines, after its first three marks; the end of a line right behind
    them does not belong to it. -/
def readLong (mark : Char) : Reads Text := fun t =>
  let t := (passLineEnd? t).getD t
  readLongFrom mark (Text.fuel t) [] t

/-- Reads a string of one line or of several, after its first mark. -/
def readString (mark : Char) : Reads Text := fun t =>
  if t.take 2 = [mark, mark] then readLong mark (t.drop 2) else readShort mark t

end RankSieve.Toml
