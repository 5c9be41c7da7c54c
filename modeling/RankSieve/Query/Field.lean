import RankSieve.Row

/-!
# `RankSieve.Query.Field` — the fields of a row that a query names
-/

namespace RankSieve

/-- A field of a row. -/
inductive Field where
  | rank
  | method
  | url
  | status
  deriving DecidableEq, Repr

namespace Field

/-- The keys of the fields. -/
def keys : List (String × Field) := [
  ("rank", .rank), ("method", .method), ("url", .url), ("path", .url),
  ("status", .status), ("code", .status), ("statuscode", .status)]

/-- The field of a key in lower case. -/
def ofKey? (key : Text) : Option Field :=
  (keys.find? fun entry => entry.1.toList == key).map (·.2)

/-- Whether the field is a number, so that it can be compared. -/
def isNumeric : Field → Bool
  | .rank | .status => true
  | .method | .url  => false

/-- The text that a pattern is searched in. -/
def text : Field → Row → Text
  | .rank,   r => r.rankText
  | .method, r => r.method
  | .url,    r => r.url
  | .status, r => r.statusText

/-- The number that a comparison is made with. -/
def number? : Field → Row → Option Int
  | .rank,   r => some r.rank.toInt
  | .status, r => some r.status.toNat
  | .method, _ => none
  | .url,    _ => none

end Field

/-- The texts that a term without a field is searched in, each one by itself, so that nothing is
    found across the border of two. -/
def Row.searchTexts (r : Row) : List Text :=
  [Field.method, .url, .status, .rank].map (·.text r)

end RankSieve
