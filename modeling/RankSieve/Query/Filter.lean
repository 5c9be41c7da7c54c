import RankSieve.Event
import RankSieve.Query.Clauses
import RankSieve.Query.Term
import RankSieve.Text.Quoted

/-!
# `RankSieve.Query.Filter` — which rows a query keeps

A filter is an OR of clauses, each an AND of terms. Tokens that add no condition are dropped and
reported, never refused, so every query has a filter.

## Contents
- **Filters.** `Filter`, what it holds of and which rows it leaves visible.
- **Compilation.** `Filter.ofQuery` gives the filter of a query, `Filter.eventsOfQuery` what is
  reported on the way; both rest on `judgeTokens`.
-/

namespace RankSieve

/-! ## Filters -/

/-- Terms that must all hold. -/
abbrev Clause := List Term

/-- Whether a row fulfils every term of a clause. -/
def Clause.holds (c : Clause) (r : Row) : Bool := c.all (·.holds r)

/-- A choice of rows. -/
inductive Filter where
  /-- No condition: every row. -/
  | everything
  /-- The rows that fulfil one of the clauses. -/
  | expression (clauses : List Clause)

/-- How many terms some clauses have. -/
def termCount (clauses : List Clause) : Nat := clauses.flatten.length

namespace Filter

/-- Whether no row is left out by intention. -/
def isEverything : Filter → Bool
  | .everything   => true
  | .expression _ => false

/-- Whether the filter keeps a row. -/
def keeps : Filter → Row → Bool
  | .everything,         _ => true
  | .expression clauses, r => clauses.any (Clause.holds · r)

/-- The places of the rows that the filter keeps, in their order. -/
def visible (f : Filter) (rows : List Row) : List Nat :=
  (rows.zipIdx.filter fun entry => f.keeps entry.1).map (·.2)

/-- The rows that the filter keeps, in their order. -/
def select (f : Filter) (rows : List Row) : List Row := rows.filter f.keeps

/-- How many terms the filter has, if it has clauses at all. -/
def termCount? : Filter → Option Nat
  | .everything         => none
  | .expression clauses => some (termCount clauses)

end Filter

/-! ## Compilation -/

/-- A token and what became of it. -/
abbrev Judged := Text × Except TermError Term

/-- The term of a judged token, if it has one. -/
def Judged.term? : Judged → Option Term
  | (_, .ok t)    => some t
  | (_, .error _) => none

/-- The tokens of a query by clauses, each with what became of it. -/
def judgeTokens [PatternLibrary] (limit : Nat) (query : Text) : List (List Judged) :=
  (splitClauses query).map (·.map fun token => (token, Term.compile limit token))

/-- The clauses of judged tokens: terms only, and no clause without terms. -/
def clausesOf (judged : List (List Judged)) : List Clause :=
  (judged.map (·.filterMap Judged.term?)).filter fun c => !c.isEmpty

/-- The part of the program that reports on queries. -/
def queryTarget : Text := "anomaly_rank::filter::parser".toList

/-- What is reported of a judged token: that it was dropped, if it was. -/
def dropEvent? : Judged → Option Event
  | (_, .ok _)        => none
  | (token, .error e) => some ⟨.debug, queryTarget, "Dropping filter term".toList,
      [("token".toList, token.quoted), ("error".toList, e.message)]⟩

/-- What is reported of the clauses, if there are any. -/
def compiledEvent? (clauses : List Clause) : Option Event :=
  if clauses.isEmpty then none
  else some ⟨.trace, queryTarget, "Compiled filter expression".toList,
    [("clauses".toList, Decimal.ofNat clauses.length),
      ("atoms".toList, Decimal.ofNat (termCount clauses))]⟩

namespace Filter

/-- The filter of judged tokens. Without a clause there is nothing to ask for. -/
def ofJudged (judged : List (List Judged)) : Filter :=
  match clausesOf judged with
  | []      => .everything
  | c :: cs => .expression (c :: cs)

/-- What is reported of judged tokens, in order. -/
def eventsOfJudged (judged : List (List Judged)) : List Event :=
  judged.flatten.filterMap dropEvent? ++ (compiledEvent? (clausesOf judged)).toList

variable [PatternLibrary]

/-- The filter of a query, for patterns within the limit. -/
def ofQuery (limit : Nat) (query : Text) : Filter := ofJudged (judgeTokens limit query)

/-- What is reported while a query is compiled. -/
def eventsOfQuery (limit : Nat) (query : Text) : List Event :=
  eventsOfJudged (judgeTokens limit query)

end Filter

end RankSieve
