import RankSieve.Json.Number
import RankSieve.Json.Skip
import RankSieve.Row

/-!
# `RankSieve.Row.Decode` — a row from JSON

A row is an object with the keys `rank`, `method`, `url`, `status_code` or `statusCode`, and
`exchange`, in any order; the last two may be missing, and unknown keys are passed over. It may also
be an array of the same values in that order.

## Contents
- **Values.** Readers of numbers in a range, of strings, and of strings or nothing.
- **Objects and arrays.** Members, elements and the closing brackets.
- **Rows.** `readRow` reads one row, `readRows` an array of them, `decodeRow` and `decodeRows` a
  whole text.
-/

namespace RankSieve.Json

/-! ## Values -/

/-- The fault of a value that is not what was expected, with what it is instead. A bracket is met
    before it is passed, any other value after it. -/
def mismatch {α : Type} (expected : Text) (t : Text) : Except Fault α :=
  let typed (found : Found) (rest : Text) : Except Fault α :=
    faultHere (.invalidType found expected) rest
  match t with
  | []             => faultNext .expectedValue []
  | 'n' :: t       => do typed .null (← readWord "ull".toList t)
  | 't' :: t       => do typed (.boolean true) (← readWord "rue".toList t)
  | 'f' :: t       => do typed (.boolean false) (← readWord "alse".toList t)
  | '-' :: t       => do let (n, rest) ← readNumber true t; typed n.found rest
  | '"' :: t       => do let (s, rest) ← readString t; typed (.string s) rest
  | '[' :: _       => typed .sequence t
  | '\x7b' :: _    => typed .map t
  | c :: _         =>
    if c.isDigit then do let (n, rest) ← readNumber false t; typed n.found rest
    else faultNext .expectedValue t

/-- An integer between two bounds, out of a number that was read. -/
def boundedInt (least greatest : Int) (expected : Text) (n : Number) : Reads Int := fun rest =>
  match n with
  | .integer n =>
    if least ≤ n && n ≤ greatest then .ok (n, rest)
    else faultHere (.invalidValue n expected) rest
  | n          => faultHere (.invalidType n.found expected) rest

/-- Reads an integer between two bounds. -/
def readBounded (least greatest : Int) (expected : Text) : Reads Int := fun t =>
  match skipBlanks t with
  | []       => faultHere .endInValue []
  | '-' :: t => do let (n, rest) ← readNumber true t; boundedInt least greatest expected n rest
  | c :: t   =>
    if c.isDigit then do let (n, rest) ← readNumber false (c :: t); boundedInt least greatest expected n rest
    else mismatch expected (c :: t)

/-- Reads a rank. -/
def readRank : Reads Int32 := fun t =>
  (readBounded (-2147483648) 2147483647 "i32".toList t).map fun (n, rest) => (Int32.ofInt n, rest)

/-- Reads a status. -/
def readStatus : Reads UInt16 := fun t =>
  (readBounded 0 65535 "u16".toList t).map fun (n, rest) => (UInt16.ofNat n.toNat, rest)

/-- Reads a string where one is expected. -/
def readText : Reads Text := fun t =>
  match skipBlanks t with
  | []       => faultHere .endInValue []
  | '"' :: t => readString t
  | t        => mismatch "a string".toList t

/-- Reads a string, or null for none. -/
def readOptionalText : Reads (Option Text) := fun t =>
  match skipBlanks t with
  | 'n' :: t => (readWord "ull".toList t).map fun rest => (none, rest)
  | t        => (readText t).map fun (s, rest) => (some s, rest)

/-! ## Objects and arrays -/

/-- Passes to the next element of an array, if there is one. -/
def nextElement (first : Bool) : Reads Bool := fun t =>
  match skipBlanks t with
  | []       => faultHere .endInList []
  | ']' :: t => .ok (false, ']' :: t)
  | c :: t   =>
    if first then .ok (true, c :: t)
    else if c = ',' then
      match skipBlanks t with
      | []       => faultHere .endInValue []
      | ']' :: t => faultNext .trailingComma (']' :: t)
      | t        => .ok (true, t)
    else faultNext .expectedListCommaOrEnd (c :: t)

/-- Passes the end of an array. -/
def endArray (t : Text) : Except Fault Text :=
  match skipBlanks t with
  | []       => faultHere .endInList []
  | ']' :: t => .ok t
  | ',' :: t =>
    match skipBlanks t with
    | ']' :: t => faultNext .trailingComma (']' :: t)
    | t        => faultNext .trailingCharacters t
  | t        => faultNext .trailingCharacters t

/-- Reads the next key of an object, if there is one. -/
def nextKey (first : Bool) : Reads (Option Text) := fun t =>
  match skipBlanks t with
  | []          => faultHere .endInObject []
  | '\x7d' :: t => .ok (none, '\x7d' :: t)
  | c :: t      =>
    if first then
      if c = '"' then key t else faultNext .keyNotString (c :: t)
    else if c = ',' then
      match skipBlanks t with
      | []          => faultHere .endInValue []
      | '"' :: t    => key t
      | '\x7d' :: t => faultNext .trailingComma ('\x7d' :: t)
      | t           => faultNext .keyNotString t
    else faultNext .expectedObjectCommaOrEnd (c :: t)
where
  /-- Reads a key, after its quotation mark. -/
  key (t : Text) : Except Fault (Option Text × Text) := (readString t).map fun (k, rest) => (some k, rest)

/-- Passes the colon after a key. -/
def passColon (t : Text) : Except Fault Text :=
  match skipBlanks t with
  | []       => faultHere .endInObject []
  | ':' :: t => .ok t
  | t        => faultNext .expectedColon t

/-- The place of a fault that only the object as a whole shows: behind its closing bracket, if that
    comes next. -/
def afterBracket (closing : Char) (t : Text) : Text :=
  match skipBlanks t with
  | []     => []
  | c :: t => if c = closing then t else c :: t

/-! ## Rows -/

/-- The members of a row. -/
inductive Member where
  | rank
  | method
  | url
  | status
  | exchange
  deriving DecidableEq, Repr

namespace Member

/-- The name of a member. -/
def name : Member → Text
  | .rank     => "rank".toList
  | .method   => "method".toList
  | .url      => "url".toList
  | .status   => "status_code".toList
  | .exchange => "exchange".toList

/-- The member of a key; the status has two. -/
def ofKey? (key : Text) : Option Member :=
  if key = "statusCode".toList then some .status
  else [Member.rank, .method, .url, .status, .exchange].find? fun m => m.name == key

end Member

/-- The members of a row read so far. -/
structure PartialRow where
  rank     : Option Int32
  method   : Option Text
  url      : Option Text
  status   : Option UInt16
  exchange : Option (Option Text)
  deriving DecidableEq, Repr

namespace PartialRow

/-- Nothing read yet. -/
def empty : PartialRow := ⟨none, none, none, none, none⟩

/-- Whether a member was read. -/
def has (r : PartialRow) : Member → Bool
  | .rank     => r.rank.isSome
  | .method   => r.method.isSome
  | .url      => r.url.isSome
  | .status   => r.status.isSome
  | .exchange => r.exchange.isSome

/-- Reads the value of a member. -/
def read (r : PartialRow) (m : Member) : Reads PartialRow := fun t =>
  match m with
  | .rank     => (readRank t).map fun (v, rest) => ({ r with rank := some v }, rest)
  | .method   => (readText t).map fun (v, rest) => ({ r with method := some v }, rest)
  | .url      => (readText t).map fun (v, rest) => ({ r with url := some v }, rest)
  | .status   => (readStatus t).map fun (v, rest) => ({ r with status := some v }, rest)
  | .exchange => (readOptionalText t).map fun (v, rest) => ({ r with exchange := some v }, rest)

/-- The row of some members, or the first that is missing. Without a status there was no response. -/
def complete (r : PartialRow) : Except Member Row :=
  match r.rank, r.method, r.url with
  | some rank, some method, some url =>
    .ok ⟨rank, method, url, r.status.getD 0, r.exchange.getD none⟩
  | none, _, _ => .error .rank
  | _, none, _ => .error .method
  | _, _, none => .error .url

end PartialRow

/-- Reads the members of an object up to its closing bracket; `fuel` bounds them. -/
def readMembersFrom : (fuel : Fuel) → (first : Bool) → PartialRow → Reads Row
  | [],        _,     _, t => faultHere .endInObject t
  | _ :: fuel, first, r, t => do
    let (key, t) ← nextKey first t
    match key with
    | none   =>
      match r.complete with
      | .ok row   => .ok (row, t)
      | .error m  => faultHere (.missingField m.name) (afterBracket '\x7d' t)
    | some k =>
      match Member.ofKey? k with
      | none   =>
        let t ← passColon t
        readMembersFrom fuel false r (← skipValue t)
      | some m =>
        if r.has m then faultHere (.duplicateField m.name) (afterBracket '\x7d' t)
        else
          let (r, t) ← r.read m (← passColon t)
          readMembersFrom fuel false r t

/-- Reads an object as a row, after its opening bracket. -/
def readObject : Reads Row := fun t => do
  let (row, t) ← readMembersFrom t.fuel true .empty t
  .ok (row, (skipBlanks t).drop 1)

/-- Reads the elements of an array as members, from the given number on. -/
def readElements : (number : Nat) → List Member → PartialRow → Reads Row
  | _,      [],      r, t =>
    match r.complete with
    | .ok row  => .ok (row, t)
    | .error m => faultHere (.missingField m.name) t
  | number, m :: ms, r, t => do
    let (more, t) ← nextElement (number = 0) t
    if more then
      let (r, t) ← r.read m t
      readElements (number + 1) ms r t
    else
      match r.complete with
      | .ok row  => .ok (row, t)
      | .error _ =>
        faultHere (.invalidLength number "struct ResultEntry with 5 elements".toList) (afterBracket ']' t)

/-- Reads an array as a row, after its opening bracket. -/
def readTuple : Reads Row := fun t => do
  let (row, t) ← readElements 0 [.rank, .method, .url, .status, .exchange] .empty t
  .ok (row, ← endArray t)

/-- Reads a row. -/
def readRow : Reads Row := fun t =>
  match skipBlanks t with
  | []          => faultHere .endInValue []
  | '\x7b' :: t => readObject t
  | '[' :: t    => readTuple t
  | t           => mismatch "struct ResultEntry".toList t

/-- Reads rows up to the end of an array; `fuel` bounds them. -/
def readRowsFrom : (fuel : Fuel) → (first : Bool) → Reads (List Row)
  | [],        _,     t => faultHere .endInList t
  | _ :: fuel, first, t => do
    let (more, t) ← nextElement first t
    if more then
      let (row, t) ← readRow t
      let (rows, t) ← readRowsFrom fuel false t
      .ok (row :: rows, t)
    else .ok ([], t)

/-- Reads an array of rows. -/
def readRows : Reads (List Row) := fun t =>
  match skipBlanks t with
  | []       => faultHere .endInValue []
  | '[' :: t => do
    let (rows, t) ← readRowsFrom (Text.fuel t) true t
    .ok (rows, ← endArray t)
  | t        => mismatch "a sequence".toList t

/-- What a reader makes of a whole text: nothing but blanks may follow. -/
def decode {α : Type} (read : Reads α) (t : Text) : Except Fault α := do
  let (value, rest) ← read t
  match skipBlanks rest with
  | []   => .ok value
  | rest => faultNext .trailingCharacters rest

/-- The row that a text writes. -/
def decodeRow (t : Text) : Except Fault Row := decode readRow t

/-- The rows that a text writes as an array. -/
def decodeRows (t : Text) : Except Fault (List Row) := decode readRows t

end RankSieve.Json
