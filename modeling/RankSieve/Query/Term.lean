import RankSieve.Pattern
import RankSieve.Query.Comparison
import RankSieve.Query.Field

/-!
# `RankSieve.Query.Term` — the smallest parts of a query

A term is one condition on a row, written `key:value` for a field or as plain text.

## Contents
- **Terms.** `Term` and what it holds of, `Term.holds`.
- **Compilation.** `Term.compile` reads a term from its token; `TermError` says why one adds no
  condition.
-/

namespace RankSieve

/-! ## Terms -/

/-- What a field is tested against. -/
inductive Matcher where
  | pattern (p : Pattern)
  | compare (c : Comparison)

/-- One condition on a row. -/
inductive Term where
  | field (f : Field) (m : Matcher)
  | free (p : Pattern)

namespace Term

/-- Whether a row fulfils the condition. -/
def holds (r : Row) : Term → Bool
  | .field f (.pattern p) => p.occursIn (f.text r)
  | .field f (.compare c) => (f.number? r).any c.holds
  | .free p               => r.searchTexts.any p.occursIn

end Term

/-! ## Compilation -/

/-- Why a token adds no condition. -/
inductive TermError where
  /-- Nothing follows the colon after a key, whether or not a field has the key. -/
  | emptyValue (key : Text)
  | badPattern (source : Text) (why : PatternError)
  deriving DecidableEq, Repr

/-- The text of a pattern's failure. -/
def PatternError.message : PatternError → Text
  | .malformed diagnosis => diagnosis
  | .tooLarge limit      =>
    "Compiled regex exceeds size limit of ".toList ++ Decimal.ofNat limit ++ " bytes.".toList

/-- The text of the failure. -/
def TermError.message : TermError → Text
  | .emptyValue key        => "Empty filter value after '".toList ++ key ++ ":'".toList
  | .badPattern source why =>
    "Invalid pattern '".toList ++ source ++ "': ".toList ++ why.message

namespace Term

variable [PatternLibrary]

/-- The pattern of a text, within the limit. -/
def compilePattern (limit : Nat) (source : Text) : Except TermError Pattern :=
  (Pattern.compile limit source).mapError (.badPattern source)

/-- The condition of a value on a field: a comparison where the field is a number and the value
    compares, and a pattern otherwise. -/
def compileField (limit : Nat) (f : Field) (value : Text) : Except TermError Term :=
  match if f.isNumeric then Comparison.read? value else none with
  | some c => .ok (.field f (.compare c))
  | none   => (compilePattern limit value).map fun p => .field f (.pattern p)

/-- The condition of a token. An empty value after a colon is refused after any key; a key that no
    field has makes the whole token plain text. -/
def compile (limit : Nat) (token : Text) : Except TermError Term :=
  let plain := (compilePattern limit token).map Term.free
  match Text.cutAt (· == ':') token with
  | none              => plain
  | some (key, value) =>
    let key := lower key.trim
    if value.isBlankText then .error (.emptyValue key)
    else
      match Field.ofKey? key with
      | some f => compileField limit f value.trim
      | none   => plain

end Term

end RankSieve
