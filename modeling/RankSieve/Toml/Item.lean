import RankSieve.Number.Double
import RankSieve.Text.Quoted

/-!
# `RankSieve.Toml.Item` — what a TOML document holds

## Contents
- **Items.** Scalars, arrays, tables, and arrays of tables, each with its place in the text.
- **Tables.** Entries keep the order in which they were written. `Table.within` reaches a table through
  a path of keys and makes the missing ones on the way; the rules by which a table may be written in
  several pieces are those of `TableKind.admits` and of the three ways to add to one.
-/

namespace RankSieve.Toml

/-! ## Items -/

/-- A piece of the text: what is left of the text where it begins, and where it ends. -/
structure Span where
  first : Text
  last  : Text
  deriving DecidableEq, Repr

/-- A key, with its place. -/
structure Key where
  name : Text
  span : Span
  deriving DecidableEq, Repr

/-- A floating point number. -/
inductive Float where
  | nan
  | infinite (negative : Bool)
  | finite (negative : Bool) (d : Double)
  deriving DecidableEq, Repr

/-- The notation of a floating point number. -/
def Float.text : Float → Text
  | .nan               => "NaN".toList
  | .infinite negative => (if negative then "-inf" else "inf").toList
  | .finite negative d => (if negative then ['-'] else []) ++ d.plainText

/-- Values without parts. -/
inductive Scalar where
  | string (t : Text)
  | integer (n : Int)
  | float (x : Float)
  | boolean (b : Bool)
  /-- A date, a time, or both; nobody asks which. -/
  | moment
  deriving DecidableEq, Repr

/-- How a table came into being. -/
inductive TableKind where
  /-- By braces around its entries. -/
  | inline
  /-- By a dotted key of one of its entries. -/
  | dotted
  /-- By the header of a table inside it. -/
  | implied
  /-- By a header of its own; so does the document as a whole. -/
  | header
  deriving DecidableEq, Repr

mutual

/-- What a key can stand for. -/
inductive Item where
  | scalar (value : Scalar) (span : Span)
  | array (items : List Item) (span : Span)
  | table (t : Table)
  | tables (ts : List Table)
  deriving Repr

/-- A table. Where it was never written as a whole it has no place. -/
structure Table where
  kind    : TableKind
  span    : Option Span
  entries : List (Key × Item)
  deriving Repr

end

/-- The place of an item: that of several tables goes from the first to the last. -/
def Item.span? : Item → Option Span
  | .scalar _ span => some span
  | .array _ span  => some span
  | .table t       => t.span
  | .tables ts     =>
    match ts.head?.bind (·.span), ts.getLast?.bind (·.span) with
    | some a, some b => some ⟨a.first, b.last⟩
    | _, _           => none

/-- How an item is named where another one was expected. -/
def Item.description : Item → Text
  | .scalar (.string t) _  => "string ".toList ++ t.quoted
  | .scalar (.integer n) _ => "integer `".toList ++ Decimal.ofInt n ++ ['`']
  | .scalar (.float x) _   => "floating point `".toList ++ x.text ++ ['`']
  | .scalar (.boolean b) _ => (if b then "boolean `true`" else "boolean `false`").toList
  | .scalar .moment _      => "map".toList
  | .array _ _             => "sequence".toList
  | .table _               => "map".toList
  | .tables _              => "sequence".toList

/-! ## Tables -/

namespace Table

/-- A document without entries. -/
def empty : Table := ⟨.header, none, []⟩

/-- The item of a name. -/
def get? (t : Table) (name : Text) : Option Item :=
  (t.entries.find? fun entry => entry.1.name == name).map (·.2)

/-- With an entry added behind the others. -/
def push (t : Table) (key : Key) (item : Item) : Table :=
  { t with entries := t.entries ++ [(key, item)] }

/-- With another item for a name that it has. -/
def replace (t : Table) (name : Text) (item : Item) : Table :=
  { t with entries := t.entries.map fun entry => if entry.1.name == name then (entry.1, item) else entry }

/-- Without a name. -/
def remove (t : Table) (name : Text) : Table :=
  { t with entries := t.entries.filter fun entry => entry.1.name != name }

end Table

/-- Whether a path that makes tables of a kind may pass through a table: the braces of a table close
    it, and dotted keys do not reach into a table with a header. -/
def TableKind.admits (fresh : TableKind) : TableKind → Bool
  | .inline  => false
  | .dotted  => true
  | .implied => true
  | .header  => fresh != .dotted

namespace Table

/-- Changes the table at the end of a path. Tables that are missing on the way come into being; of
    an array of tables the path takes the last. -/
def within (fresh : TableKind) (change : Table → Option Table) :
    (path : List Key) → Table → Option Table
  | [],          t => change t
  | key :: path, t =>
    match t.get? key.name with
    | none               =>
      (within fresh change path ⟨fresh, none, []⟩).map fun inner => t.push key (.table inner)
    | some (.table inner) =>
      if fresh.admits inner.kind then
        (within fresh change path inner).map fun inner => t.replace key.name (.table inner)
      else none
    | some (.tables ts)  => do
      let inner ← within fresh change path (← ts.getLast?)
      return t.replace key.name (.tables (ts.dropLast ++ [inner]))
    | some _             => none

/-- Adds an entry under a dotted key, of which the last part is given apart. A name is given once, and
    a table of dotted keys is added to by dotted keys only. -/
def addEntry (path : List Key) (key : Key) (item : Item) (t : Table) : Option Table :=
  within .dotted (fun inner =>
    if (inner.kind == .dotted) == path.isEmpty || (inner.get? key.name).isSome then none
    else some (inner.push key item)) path t

/-- Opens a table by its header. It may be there already as far as headers of inner tables imply it;
    it then moves behind the entries beside it. -/
def openTable (key : Key) (span : Span) (t : Table) : Option Table :=
  match t.get? key.name with
  | none                => some (t.push key (.table ⟨.header, some span, []⟩))
  | some (.table inner) =>
    if inner.kind = .implied then
      some ((t.remove key.name).push key (.table ⟨.header, some span, inner.entries⟩))
    else none
  | some _              => none

/-- Opens a further table of an array of tables by its header. -/
def openElement (key : Key) (span : Span) (t : Table) : Option Table :=
  match t.get? key.name with
  | none              => some (t.push key (.tables [⟨.header, some span, []⟩]))
  | some (.tables ts) => some (t.replace key.name (.tables (ts ++ [⟨.header, some span, []⟩])))
  | some _            => none

end Table

end RankSieve.Toml
