import RankSieve.Pattern.Library
import RankSieve.Text.Decimal

/-!
# `RankSieve.Pattern.Escape` — options, counts and escapes of patterns

What the reader of patterns reads without looking at what stands around it.

## Contents
- **Options.** `Options` holds what a pattern can switch on and off, and `readOptions` reads a
  change of it.
- **Skipping.** In verbose patterns blanks and comments stand for nothing: `Options.skip` passes
  them, `Options.gather` reads the characters between them.
- **Counts.** `readCounts` reads the bounds of a repetition in braces.
- **Escapes.** `readEscape` reads what follows a backslash.
-/

namespace RankSieve

/-! ## Options -/

/-- What a pattern can switch. -/
structure Options where
  /-- Letters stand for themselves in any case. -/
  ignoreCase : Bool
  /-- The line signs hold at every line, not only at the ends of the text. -/
  multiLine  : Bool
  /-- The dot takes line feeds too. -/
  dotAll     : Bool
  /-- A carriage return ends a line as well. -/
  crlf       : Bool
  /-- Sets and looks know all characters, not only those of ASCII. -/
  unicode    : Bool
  /-- Blanks and comments in the pattern stand for nothing. -/
  verbose    : Bool
  deriving DecidableEq, Repr

namespace Options

/-- The options in force where a pattern begins. -/
def initial : Options := ⟨true, false, false, false, true, false⟩

/-- Switches the option of a letter. Which of several matches is found, and how long it is, does not
    show here, so the letter for greed changes nothing. -/
def switch? (o : Options) (letter : Char) (on : Bool) : Option Options :=
  match letter with
  | 'i' => some { o with ignoreCase := on }
  | 'm' => some { o with multiLine := on }
  | 's' => some { o with dotAll := on }
  | 'R' => some { o with crlf := on }
  | 'u' => some { o with unicode := on }
  | 'x' => some { o with verbose := on }
  | 'U' => some o
  | _   => none

/-- The kind of words that the options ask for. -/
def wordKind (o : Options) : WordKind := if o.unicode then .unicode else .ascii

end Options

/-- Reads letters of options up to a colon or closing parenthesis: the options after them, whether
    there were any, and the rest from that sign on. No letter comes twice, and the one hyphen,
    after which letters switch off, has a letter behind it. -/
def readOptions (o : Options) (seen : List Char) : Text → Option (Options × Bool × Text)
  | []     => none
  | c :: t =>
    if c = ':' || c = ')' then
      if seen.head? = some '-' then none else some (o, !seen.isEmpty, c :: t)
    else if seen.contains c then none
    else if c = '-' then readOptions o (c :: seen) t
    else (o.switch? c (!seen.contains '-')).bind fun o' => readOptions o' (c :: seen) t

/-! ## Skipping -/

/-- Passes blanks and comments; a comment goes from a number sign to the end of the line. -/
def skipNotes (inComment : Bool) : Text → Text
  | []     => []
  | c :: t =>
    if inComment then skipNotes (c != '\n') t
    else if isBlank c then skipNotes false t
    else if c = '#' then skipNotes true t
    else c :: t

namespace Options

/-- Passes what stands for nothing. -/
def skip (o : Options) (t : Text) : Text := if o.verbose then skipNotes false t else t

/-- The characters up to one of a kind, without those that stand for nothing, and the rest from that
    character on. -/
def gatherFrom (verbose inComment : Bool) (isEnd : Char → Bool) : Text → Option (Text × Text)
  | []     => none
  | c :: t =>
    if inComment then gatherFrom verbose (c != '\n') isEnd t
    else if verbose && isBlank c then gatherFrom verbose false isEnd t
    else if verbose && c = '#' then gatherFrom verbose true isEnd t
    else if isEnd c then some ([], c :: t)
    else (gatherFrom verbose false isEnd t).map fun (cs, rest) => (c :: cs, rest)

/-- The significant characters up to one of a kind. -/
def gather (o : Options) (isEnd : Char → Bool) (t : Text) : Option (Text × Text) :=
  gatherFrom o.verbose false isEnd t

/-- The significant character after the present one. A comment is not passed as a whole here: only
    its sign is. -/
def peekPast (hashes : Nat) : Text → Option Char
  | []     => none
  | c :: t =>
    if isBlank c then peekPast hashes t
    else if c = '#' && hashes = 0 then peekPast 1 t
    else some c

/-- The next significant character. -/
def peek (o : Options) (t : Text) : Option Char :=
  if o.verbose then peekPast 0 t <|> t.head? else t.head?

end Options

/-! ## Counts -/

/-- A count below 2^32, with blanks around it. -/
def readCount (o : Options) (t : Text) : Option (Nat × Text) := do
  let (digits, rest) ← o.gather (fun c => !c.isDigit) (t.dropWhile isBlank)
  let n ← Decimal.readDigits? digits
  if n ≤ 4294967295 then some (n, rest.dropWhile isBlank) else none

/-- The bounds of a repetition, after its opening brace, and the rest after the closing one. -/
def readCounts (o : Options) (t : Text) : Option (Nat × Option Nat × Text) := do
  let (least, t) ← readCount o (o.skip t)
  match t with
  | '\x7d' :: t => some (least, some least, t)
  | ',' :: t =>
    match o.skip t with
    | '\x7d' :: t => some (least, none, t)
    | t =>
      match (← readCount o t) with
      | (most, '\x7d' :: t) => if least ≤ most then some (least, some most, t) else none
      | _                   => none
  | _ => none

/-! ## Escapes -/

/-- What a backslash and the characters after it stand for. -/
inductive Escape where
  /-- A character, which may be written as the two hexadecimal digits of an octet. -/
  | literal (c : Char) (asOctet : Bool)
  | set (s : CharSet)
  | look (l : Look)

/-- The character of a code point. -/
def charOf? (n : Nat) : Option Char := if h : n.isValidChar then some (Char.ofNatAux n h) else none

/-- So many hexadecimal digits. -/
def readHexDigits (o : Options) : (count : Nat) → (value : Nat) → Text → Option (Nat × Text)
  | 0,         n, t => some (n, t)
  | count + 1, n, t =>
    match o.skip t with
    | []     => none
    | c :: t => (Decimal.hexDigit? c).bind fun d => readHexDigits o count (16 * n + d) t

/-- A character by its code point: so many hexadecimal digits, or any number of them in braces. -/
def readCodePoint (o : Options) (count : Nat) (t : Text) : Option (Escape × Text) :=
  match o.skip t with
  | '\x7b' :: t => do
    let (digits, rest) ← o.gather (· = '\x7d') t
    if digits.isEmpty then none
    else
      let c ← (Decimal.readHex? digits).bind charOf?
      some (.literal c false, rest.drop 1)
  | t => do
    let (n, rest) ← readHexDigits o count 0 t
    let c ← charOf? n
    some (.literal c (count = 2), rest)

variable [PatternLibrary]

/-- The set of a property expression. Between name and value stands `!=`, a colon or `=`; all three
    mean the same. -/
def propertySet? (expression : Text) : Option CharSet :=
  match cutBefore? expression with
  | some (name, value) => PatternLibrary.property? name (some value)
  | none =>
    match Text.cutAt (· = ':') expression <|> Text.cutAt (· = '=') expression with
    | some (name, value) => PatternLibrary.property? name (some value)
    | none               => PatternLibrary.property? expression none
where
  /-- The parts before and after the first `!=`. -/
  cutBefore? : Text → Option (Text × Text)
    | '!' :: '=' :: t => some ([], t)
    | c :: t          => (cutBefore? t).map fun (name, value) => (c :: name, value)
    | []              => none

/-- A property by one letter, or by an expression in braces. -/
def readProperty (o : Options) (negated : Bool) (t : Text) : Option (Escape × Text) := do
  let (expression, rest) ←
    match o.skip t with
    | '\x7b' :: t => (o.gather (· = '\x7d') t).map fun (e, rest) => (e, rest.drop 1)
    | c :: t      => if c = '\\' then none else some ([c], t)
    | []          => none
  if !o.unicode then none
  else
    let s ← propertySet? expression
    some (.set ((if o.ignoreCase then .folded s else s).negatedIf negated), rest)

/-- A set by its letter; a capital stands for the complement, which without Unicode would take in
    octets that are no characters. -/
def shorthand? (o : Options) (letter : Char) : Option CharSet :=
  match letter with
  | 'd' => some (if o.unicode then .digit else .asciiDigit)
  | 's' => some (if o.unicode then .blank else .asciiBlank)
  | 'w' => some (if o.unicode then .word else .asciiWord)
  | 'D' => if o.unicode then some (.compl .digit) else none
  | 'S' => if o.unicode then some (.compl .blank) else none
  | 'W' => if o.unicode then some (.compl .word) else none
  | _   => none

/-- The look that a name in braces gives to a word boundary. -/
def boundaryNamed? (kind : WordKind) (name : Text) : Option Look :=
  match String.ofList name with
  | "start"      => some (.wordStart kind)
  | "end"        => some (.wordEnd kind)
  | "start-half" => some (.wordStartHalf kind)
  | "end-half"   => some (.wordEndHalf kind)
  | _            => none

/-- The characters in names of word boundaries. -/
def isBoundaryNameChar (c : Char) : Bool := c.isAlpha || c = '-'

/-- A word boundary, after its letter. A brace begins its name if a letter or hyphen comes first in
    it, and otherwise the counts of a repetition. -/
def readBoundary (o : Options) (t : Text) : Option (Escape × Text) :=
  match t with
  | '\x7b' :: inside =>
    match o.skip inside with
    | []     => none
    | c :: _ =>
      if isBoundaryNameChar c then do
        let (name, rest) ← o.gather (fun c => !isBoundaryNameChar c) inside
        if rest.head? = some '\x7d' then
          let l ← boundaryNamed? o.wordKind name
          some (.look l, rest.drop 1)
        else none
      else some (.look (.boundary o.wordKind), t)
  | _ => some (.look (.boundary o.wordKind), t)

/-- ASCII signs stand for themselves after a backslash, angle brackets excepted. -/
def isEscapedSign (c : Char) : Bool :=
  c.toNat < 0x80 && !c.isAlphanum && c != '<' && c != '>'

/-- Reads an escape, after its backslash. -/
def readEscape (o : Options) : Text → Option (Escape × Text)
  | []     => none
  | c :: t =>
    if isEscapedSign c then some (.literal c false, t)
    else
      match c with
      | 'x' => readCodePoint o 2 t
      | 'u' => readCodePoint o 4 t
      | 'U' => readCodePoint o 8 t
      | 'p' => readProperty o false t
      | 'P' => readProperty o true t
      | 'a' => some (.literal '\x07' false, t)
      | 'f' => some (.literal '\x0C' false, t)
      | 't' => some (.literal '\t' false, t)
      | 'n' => some (.literal '\n' false, t)
      | 'r' => some (.literal '\r' false, t)
      | 'v' => some (.literal '\x0B' false, t)
      | 'A' => some (.look .textStart, t)
      | 'z' => some (.look .textEnd, t)
      | 'b' => readBoundary o t
      | 'B' => some (.look (.noBoundary o.wordKind), t)
      | '<' => some (.look (.wordStart o.wordKind), t)
      | '>' => some (.look (.wordEnd o.wordKind), t)
      | _   => (shorthand? o c).map fun s => (.set s, t)

end RankSieve
