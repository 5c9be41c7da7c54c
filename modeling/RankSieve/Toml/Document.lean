import RankSieve.Toml.Scalar

/-!
# `RankSieve.Toml.Document` — documents in TOML

A document is a list of statements, one on a line: headers, which open a table, and entries of the
table that was opened last.

## Contents
- **Keys.** Bare and quoted keys, and keys of several parts with dots between them.
- **Values.** Arrays may go over several lines and may end in a comma, tables in braces may not.
- **Statements.** `readStatement` reads one, `Draft.add` adds it to the document, and `readDocument`
  goes through a whole text.
-/

namespace RankSieve.Toml

/-! ## Blanks -/

/-- Passes blanks inside a line. -/
def passGap (t : Text) : Text := t.dropWhile isGap

/-- Passes a comment up to the end of its line, if there is one. -/
def passComment : Text → Text
  | '#' :: t => t.dropWhile isPlain
  | t        => t

/-- Passes the rest of a line that holds nothing more: up to its end, or to that of the text. -/
def passLineRest? (t : Text) : Option Text :=
  match passComment (passGap t) with
  | []   => some []
  | rest => passLineEnd? rest

/-- Passes blanks, ends of lines and comments, where they are complete lines; `fuel` bounds the
    lines. -/
def passFillerFrom : (fuel : Fuel) → Text → Text
  | [],        t => t
  | _ :: fuel, t =>
    let t := passGap t
    match passLineEnd? (passComment t) with
    | some rest => passFillerFrom fuel rest
    | none      => t

/-- Passes blanks, ends of lines and comments. -/
def passFiller (t : Text) : Text := passFillerFrom t.fuel t

/-! ## Keys -/

/-- The characters of bare keys. -/
def isBareKeyChar (c : Char) : Bool := c.isAlphanum || c = '-' || c = '_'

/-- Reads the name of one part of a key. -/
def readName : Reads Text
  | '"' :: t  => readShort '"' t
  | '\'' :: t => readShort '\'' t
  | t         =>
    let name := t.takeWhile isBareKeyChar
    if name.isEmpty then none else some (name, t.drop name.length)

/-- Reads the parts of a key with the blanks around them; `fuel` bounds the parts. -/
def readPathFrom : (fuel : Nat) → Reads (List Key)
  | 0,        _ => none
  | fuel + 1, t => do
    let t := passGap t
    let (name, rest) ← readName t
    let key : Key := ⟨name, ⟨t, rest⟩⟩
    match passGap rest with
    | '.' :: rest => (readPathFrom fuel rest).map fun (keys, rest) => (key :: keys, rest)
    | rest        => return ([key], rest)

/-- How deep keys and values may be nested: less than this. -/
def deepest : Nat := 80

/-- Reads a key: the parts before the last one, and the last one. -/
def readPath : Reads (List Key × Key) := fun t => do
  let (keys, rest) ← readPathFrom (deepest - 1) t
  return ((keys.dropLast, ← keys.getLast?), rest)

/-! ## Values -/

/-- Passes the character between a key and its value. -/
def passEquals? (t : Text) : Option Text := (pass? '=' t).map passGap

/-- Reads the elements of an array up to its closing bracket; `fuel` bounds them. -/
def readElements (read : Reads Item) : (fuel : Fuel) → Reads (List Item)
  | [],        _ => none
  | _ :: fuel, t =>
    match t with
    | ']' :: rest => some ([], rest)
    | t           => do
      let (item, rest) ← read t
      match passFiller rest with
      | ',' :: rest =>
        let (items, rest) ← readElements read fuel (passFiller rest)
        return (item :: items, rest)
      | ']' :: rest => return ([item], rest)
      | _           => none

/-- Reads the entries of a table in braces up to the closing one, adding them to those before; `fuel`
    bounds them. -/
def readEntries (read : Reads Item) : (fuel : Fuel) → (before : Table) → Reads Table
  | [],        _,      _ => none
  | _ :: fuel, before, t => do
    let ((path, key), rest) ← readPath t
    let (item, rest) ← read (← passEquals? rest)
    let table ← before.addEntry path key item
    match passGap rest with
    | ','    :: rest => readEntries read fuel table rest
    | '\x7d' :: rest => return (table, rest)
    | _              => none

/-- Reads a table, after its opening brace. -/
def readBraces (read : Reads Item) : Reads Table := fun t =>
  let blank : Table := ⟨.inline, none, []⟩
  match passGap t with
  | '\x7d' :: rest => some (blank, rest)
  | t              => readEntries read t.fuel blank t

/-- Reads a value. What it can hold inside brackets is read by another reader, if it may hold
    anything. -/
def readItemHolding (inside : Option (Reads Item)) : Reads Item := fun t =>
  match t with
  | '[' :: rest    => do
    let (items, rest) ← readElements (← inside) t.fuel (passFiller rest)
    return (.array items ⟨t, rest⟩, rest)
  | '\x7b' :: rest => do
    let (table, rest) ← readBraces (← inside) rest
    return (.table { table with span := some ⟨t, rest⟩ }, rest)
  | _              => do
    let (value, rest) ← readScalar t
    return (.scalar value ⟨t, rest⟩, rest)

/-- Reads a value with brackets inside each other up to a depth. -/
def readItemWithin : (depth : Nat) → Reads Item
  | 0         => readItemHolding none
  | depth + 1 => readItemHolding (some (readItemWithin depth))

/-- Reads a value. -/
def readItem : Reads Item := readItemWithin (deepest - 1)

/-! ## Statements -/

/-- What a line can say. -/
inductive Statement where
  | table (path : List Key) (key : Key) (span : Span)
  | element (path : List Key) (key : Key) (span : Span)
  | entry (path : List Key) (key : Key) (item : Item)
  deriving Repr

/-- Reads a statement up to the end of its last line. -/
def readStatement : Reads Statement := fun t =>
  match t with
  | '[' :: '[' :: inner => do
    let ((path, key), rest) ← readPath inner
    let rest ← pass? ']' (← pass? ']' rest)
    return (.element path key ⟨t, rest⟩, ← passLineRest? rest)
  | '[' :: inner        => do
    let ((path, key), rest) ← readPath inner
    let rest ← pass? ']' rest
    return (.table path key ⟨t, rest⟩, ← passLineRest? rest)
  | t                   => do
    let ((path, key), rest) ← readPath t
    let (item, rest) ← readItem (← passEquals? rest)
    return (.entry path key item, ← passLineRest? rest)

/-- A document up to some line: all of it, and the path to the table that was opened last. -/
structure Draft where
  root    : Table
  current : List Key
  deriving Repr

namespace Draft

/-- Without any line. -/
def empty : Draft := ⟨.empty, []⟩

/-- With one statement more. A table reaches from its header to the last of its own values. -/
def add (d : Draft) : Statement → Option Draft
  | .table path key span   =>
    (d.root.within .implied (·.openTable key span) path).map fun root => ⟨root, path ++ [key]⟩
  | .element path key span =>
    (d.root.within .implied (·.openElement key span) path).map fun root => ⟨root, path ++ [key]⟩
  | .entry path key item   =>
    let extended (t : Table) : Table :=
      match t.span, item.span? with
      | some a, some b => { t with span := some ⟨a.first, b.last⟩ }
      | _, _           => t
    (d.root.within .implied (fun t => (extended t).addEntry path key item) d.current).map
      fun root => ⟨root, d.current⟩

end Draft

/-- Reads statements up to the end of the text; `fuel` bounds them. -/
def readStatementsFrom : (fuel : Fuel) → Draft → Text → Option Draft
  | [],        _, _ => none
  | _ :: fuel, d, t =>
    match passGap t with
    | [] => some d
    | t  =>
      match passLineRest? t with
      | some rest => readStatementsFrom fuel d rest
      | none      => do
        let (statement, rest) ← readStatement t
        readStatementsFrom fuel (← d.add statement) rest

/-- The character that may stand first to tell the encoding. -/
def passByteOrderMark : Text → Text
  | '\uFEFF' :: t => t
  | t             => t

/-- The document of a text, if it is well-formed. -/
def readDocument (t : Text) : Option Table :=
  (readStatementsFrom t.fuel .empty (passByteOrderMark t)).map (·.root)

end RankSieve.Toml
