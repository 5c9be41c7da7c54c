import RankSieve.Text.Utf8
import RankSieve.Toml.Document

/-!
# `RankSieve.Toml.Decode` — what is asked of a document

## Contents
- **Faults.** An item that is not what was asked for, with its place, shown under its line.
- **Values.** Integers between bounds, texts and lists.
- **Records.** Named fields, each with a value to start from. They may also be given without names, in
  their order, as an array.
-/

namespace RankSieve.Toml

/-! ## Faults -/

/-- A fault, with its place. -/
structure Fault where
  text : Text
  span : Span
  deriving DecidableEq, Repr

/-- The fault in the text: its place, its line with marks below, and what is wrong. The marks number
    the octets of the place, up to so many as the line has octets more than characters before it. -/
def Fault.message (f : Fault) (whole : Text) : Text :=
  let start := whole.length - f.span.first.length
  let before := whole.take start
  let number := Decimal.ofNat (before.count '\n' + 1)
  let column := (before.reverse.takeWhile (· ≠ '\n')).length
  let line := (whole.drop (start - column)).takeWhile (· ≠ '\n')
  let octets := Utf8.size f.span.first - Utf8.size f.span.last
  let marks := max 1 (min octets (Utf8.size line - column))
  let gutter := List.replicate (number.length + 1) ' ' ++ ['|']
  "TOML parse error at line ".toList ++ number ++
    ", column ".toList ++ Decimal.ofNat (column + 1) ++ ['\n'] ++
    gutter ++ ['\n'] ++
    number ++ " | ".toList ++ line ++ ['\n'] ++
    gutter ++ List.replicate (column + 1) ' ' ++ List.replicate marks '^' ++ ['\n'] ++
    f.text ++ ['\n']

/-- Decoders: from an item and the place to blame, if it has none of its own, to a value. -/
abbrev Decodes (α : Type) := Span → Item → Except Fault α

/-- The place of an item, or else that of what names it. -/
def Item.place (item : Item) (otherwise : Span) : Span := item.span?.getD otherwise

/-- The fault of an item that is not what was expected. -/
def mismatch {α : Type} (expected : Text) : Decodes α := fun otherwise item =>
  .error ⟨"invalid type: ".toList ++ item.description ++ ", expected ".toList ++ expected,
    item.place otherwise⟩

/-! ## Values -/

/-- An integer between two bounds. -/
def decodeBounded (least greatest : Int) (expected : Text) : Decodes Int := fun otherwise item =>
  match item with
  | .scalar (.integer n) span =>
    if least ≤ n && n ≤ greatest then .ok n
    else
      .error ⟨"invalid value: ".toList ++ item.description ++ ", expected ".toList ++ expected, span⟩
  | item                      => mismatch expected otherwise item

/-- A size. -/
def decodeSize : Decodes Nat := fun otherwise item =>
  (decodeBounded 0 18446744073709551615 "usize".toList otherwise item).map Int.toNat

/-- An integer of 16 bits without sign. -/
def decodeUInt16 : Decodes UInt16 := fun otherwise item =>
  (decodeBounded 0 65535 "u16".toList otherwise item).map fun n => UInt16.ofNat n.toNat

/-- An integer of 32 bits. -/
def decodeInt32 : Decodes Int32 := fun otherwise item =>
  (decodeBounded (-2147483648) 2147483647 "i32".toList otherwise item).map Int32.ofInt

/-- A text. -/
def decodeText : Decodes Text := fun otherwise item =>
  match item with
  | .scalar (.string t) _ => .ok t
  | item                  => mismatch "a string".toList otherwise item

/-- The items of an array, or of an array of tables. -/
def Item.elements? : Item → Option (List Item)
  | .array items _ => some items
  | .tables ts     => some (ts.map .table)
  | _              => none

/-- A list. -/
def decodeList {α : Type} (decode : Decodes α) : Decodes (List α) := fun otherwise item =>
  match item.elements? with
  | some items => items.mapM (decode (item.place otherwise))
  | none       => mismatch "a sequence".toList otherwise item

/-! ## Records -/

/-- A field of a record: its name, and how to set it to what an item says. -/
structure RecordField (α : Type) where
  name : Text
  set  : α → Decodes α

/-- Sets the fields that a table names, in its order; others are passed over. -/
def setNamed {α : Type} (fields : List (RecordField α)) (record : α) (entries : List (Key × Item)) :
    Except Fault α :=
  entries.foldlM (fun record (key, item) =>
    match fields.find? fun field => field.name == key.name with
    | some field => field.set record key.span item
    | none       => .ok record) record

/-- Sets the fields one after the other, as far as there are items. -/
def setInOrder {α : Type} (fields : List (RecordField α)) (record : α) (otherwise : Span)
    (items : List Item) : Except Fault α :=
  (fields.zip items).foldlM (fun record (field, item) => field.set record otherwise item) record

/-- A record. A date or a time counts as a table without any of its fields. -/
def decodeRecord {α : Type} (name : Text) (fields : List (RecordField α)) (record : α) : Decodes α :=
  fun otherwise item =>
    match item with
    | .table t          => setNamed fields record t.entries
    | .scalar .moment _ => .ok record
    | item              =>
      match item.elements? with
      | some items => setInOrder fields record (item.place otherwise) items
      | none       => mismatch ("struct ".toList ++ name) otherwise item

end RankSieve.Toml
