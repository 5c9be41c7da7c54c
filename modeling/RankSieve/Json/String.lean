import RankSieve.Json.Fault

/-!
# `RankSieve.Json.String` — strings in JSON

A character beyond U+FFFF may be written as two escapes, a leading and a trailing surrogate; neither
stands alone.
-/

namespace RankSieve.Json

/-- What an escape of one letter stands for. -/
def escapedChar? (c : Char) : Option Char :=
  match c with
  | '"'  => some '"'
  | '\\' => some '\\'
  | '/'  => some '/'
  | 'b'  => some '\x08'
  | 'f'  => some '\x0C'
  | 'n'  => some '\n'
  | 'r'  => some '\r'
  | 't'  => some '\t'
  | _    => none

/-- Reads the four hexadecimal digits of an escape. Four octets are looked at as a whole. -/
def readFourDigits : Reads Nat := fun t =>
  if Utf8.size (t.take 4) < 4 then faultHere .endInString []
  else
    match Decimal.readHex? (t.take 4) with
    | some n => .ok (n, t.drop 4)
    | none   => .error ⟨.invalidEscape, t, 4⟩

/-- Whether a code unit is the first of two. -/
def isLeading (n : Nat) : Bool := 0xD800 ≤ n && n ≤ 0xDBFF

/-- Whether a code unit is the second of two. -/
def isTrailing (n : Nat) : Bool := 0xDC00 ≤ n && n ≤ 0xDFFF

/-- Reads the second of two escapes, after the first. -/
def readTrailing (leading : Nat) : Reads Char := fun t =>
  match t with
  | []          => faultHere .endInString []
  | '\\' :: []  => faultHere .endInString []
  | '\\' :: 'u' :: t => do
    let (n, rest) ← readFourDigits t
    if isTrailing n then
      .ok (Char.ofNat ((leading - 0xD800) * 0x400 + (n - 0xDC00) + 0x10000), rest)
    else faultHere .loneSurrogate rest
  | '\\' :: t   => faultNext .endOfHexEscape t
  | t           => faultNext .endOfHexEscape t

/-- Reads an escape, after its backslash. -/
def readEscape : Reads Char := fun t =>
  match t with
  | []       => faultHere .endInString []
  | 'u' :: t => do
    let (n, rest) ← readFourDigits t
    if isTrailing n then faultHere .loneSurrogate rest
    else if isLeading n then readTrailing n rest
    else .ok (Char.ofNat n, rest)
  | c :: t'  =>
    match escapedChar? c with
    | some e => .ok (e, t')
    | none   => faultNext .invalidEscape t

/-- Reads the characters of a string up to its end, given those before backwards; `fuel` bounds them. -/
def readStringFrom : (fuel : Fuel) → (before : Text) → Reads Text
  | [],        _,      t => faultHere .endInString t
  | _ :: fuel, before, t =>
    match t with
    | []        => faultHere .endInString []
    | '"' :: t  => .ok (before.reverse, t)
    | '\\' :: t => do
      let (c, rest) ← readEscape t
      readStringFrom fuel (c :: before) rest
    | c :: t'   =>
      if c.toNat < 0x20 then faultNext .controlCharacter t else readStringFrom fuel (c :: before) t'

/-- Reads a string, after its opening quotation mark. -/
def readString : Reads Text := fun t => readStringFrom t.fuel [] t

/-- Passes an escape of a string that nobody asks for: its surrogates need not pair. -/
def skipEscape (t : Text) : Except Fault Text :=
  match t with
  | []       => faultHere .endInString []
  | 'u' :: t => (readFourDigits t).map (·.2)
  | c :: t'  => if (escapedChar? c).isSome then .ok t' else faultNext .invalidEscape t

/-- Passes a string that nobody asks for, after its opening quotation mark; `fuel` bounds its
    characters. A control character in it is met before it is passed. -/
def skipStringFrom : (fuel : Fuel) → Text → Except Fault Text
  | [],        t => faultHere .endInString t
  | _ :: fuel, t =>
    match t with
    | []        => faultHere .endInString []
    | '"' :: t  => .ok t
    | '\\' :: t => (skipEscape t).bind (skipStringFrom fuel)
    | c :: t'   => if c.toNat < 0x20 then faultHere .controlCharacter t else skipStringFrom fuel t'

/-- Passes a string that nobody asks for. -/
def skipString (t : Text) : Except Fault Text := skipStringFrom t.fuel t

end RankSieve.Json
