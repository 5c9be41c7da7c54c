import RankSieve.Menu
import RankSieve.Query.Filter

/-!
# `RankSieve.FilterBar` — the query while it is being typed

The filter bar holds the text of a query and the filter in force. Every change of the text compiles
all of it. If that fails, the filter in force stays; blank text puts every row back without being
compiled.

## Contents
- **Compilers.** `Compiler` and the one of the query language, which never fails.
- **Edits.** `Edit` lists the changes of the text, `Edit.revise` what they make of it.
- **The bar.** `FilterBar.edit` makes a change, `FilterBar.takeFocus` asks whether the input should
  have the focus again.
-/

namespace RankSieve

/-! ## Compilers -/

/-- Why a compiler gives no filter. -/
structure CompileError where
  reason : Text
  deriving DecidableEq, Repr

/-- The text of the failure. -/
def CompileError.message (e : CompileError) : Text :=
  "Query could not be compiled: ".toList ++ e.reason

/-- A filter and what was reported while it was compiled. -/
structure Compiled where
  filter : Filter
  events : List Event

/-- What turns the text of a query into a filter. -/
abbrev Compiler := Text → Except CompileError Compiled

/-- The query language, for patterns within the limit. -/
def Compiler.standard [PatternLibrary] (limit : Nat) : Compiler := fun text =>
  let judged := judgeTokens limit text
  .ok ⟨.ofJudged judged, Filter.eventsOfJudged judged⟩

/-! ## Edits -/

/-- A change of the text. -/
inductive Edit where
  /-- The whole text is replaced. -/
  | replace (text : Text)
  | clear
  /-- A condition is appended, joined to what precedes it. -/
  | condition (text : Text)
  /-- A connective is appended, ready for the next condition. -/
  | connective (c : Connective)
  deriving DecidableEq, Repr

namespace Edit

/-- The text after a change. What ends with a blank, or is empty, waits for a condition already, so
    nothing is put between. -/
def revise (text : Text) : Edit → Text
  | .replace new    => new
  | .clear          => []
  | .condition new  =>
    (if text.isEmpty || text.endsWithBlank then text else text ++ " AND ".toList) ++ new
  | .connective c   =>
    (if text.isEmpty || text.endsWithBlank then text else text ++ [' ']) ++ c.keyword ++ [' ']

/-- Whether the change appends, after which the input should have the focus. -/
def isAppend : Edit → Bool
  | .replace _    => false
  | .clear        => false
  | .condition _  => true
  | .connective _ => true

/-- The change that an entry of the menu makes. -/
def ofQuickFilter (e : QuickFilter) : Edit :=
  match e.connective? with
  | some c => .connective c
  | none   => .condition e.token

end Edit

/-! ## The bar -/

/-- The text of the query, the filter in force, and whether the input should have the focus. -/
structure FilterBar where
  compiler   : Compiler
  text       : Text
  filter     : Filter
  wantsFocus : Bool

namespace FilterBar

/-- An empty bar. -/
def start (compiler : Compiler) : FilterBar := ⟨compiler, [], .everything, false⟩

/-- Whether the filter in force asks for anything. -/
def isFiltered (b : FilterBar) : Bool := !b.filter.isEverything

/-- The places of the rows that the filter in force keeps. -/
def visible (b : FilterBar) (rows : List Row) : List Nat := b.filter.visible rows

/-- What is reported of a compiler's failure. -/
def keptEvent (e : CompileError) : Event :=
  ⟨.warn, "anomaly_rank::controller".toList, "Filter not updated; keeping the previous one".toList,
    [("error".toList, e.message)]⟩

/-- With a new text: blank text settles on every row, other text on what the compiler makes of it,
    and where it fails the filter in force stays. -/
def setText (b : FilterBar) (text : Text) : FilterBar × List Event :=
  let b := { b with text := text }
  if text.isBlankText then ({ b with filter := .everything }, [])
  else
    match b.compiler text with
    | .ok compiled => ({ b with filter := compiled.filter }, compiled.events)
    | .error e     => (b, [keptEvent e])

/-- Makes a change. -/
def edit (b : FilterBar) (e : Edit) : FilterBar × List Event :=
  let (b', events) := b.setText (e.revise b.text)
  ({ b' with wantsFocus := b.wantsFocus || e.isAppend }, events)

/-- Whether the input should have the focus, which is asked for once. -/
def takeFocus (b : FilterBar) : Bool × FilterBar := (b.wantsFocus, { b with wantsFocus := false })

/-- A bar of the query language with a query to start from, and what was reported on the way. -/
def forQuery [PatternLibrary] (settings : Settings) (query : Option Text) : FilterBar × List Event :=
  let b := start (.standard settings.patternSizeLimit)
  match query with
  | none   => (b, [])
  | some q => b.edit (.replace q)

end FilterBar

end RankSieve
