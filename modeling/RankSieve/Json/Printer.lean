import RankSieve.Row

/-!
# `RankSieve.Json.Printer` — rows as JSON

Rows are written as an array of objects, indented by two spaces a level. The keys come in a fixed
order, and the exchange only where a row has one.
-/

namespace RankSieve.Json

/-- A character inside a string. -/
def stringChar (c : Char) : Text :=
  if c = '"' then ['\\', '"']
  else if c = '\\' then ['\\', '\\']
  else if c = '\x08' then ['\\', 'b']
  else if c = '\x0C' then ['\\', 'f']
  else if c = '\n' then ['\\', 'n']
  else if c = '\r' then ['\\', 'r']
  else if c = '\t' then ['\\', 't']
  else if c.toNat < 0x20 then "\\u00".toList ++ List.replicate (1 - c.toNat / 16) '0' ++ Decimal.hex c.toNat
  else [c]

/-- A string. -/
def string (t : Text) : Text := '"' :: t.flatMap stringChar ++ ['"']

/-- The members of a row: keys and written values. -/
def rowMembers (r : Row) : List (Text × Text) := [
  ("rank".toList,        r.rankText),
  ("method".toList,      string r.method),
  ("url".toList,         string r.url),
  ("status_code".toList, r.statusText)] ++
  (r.exchange.map fun x => ("exchange".toList, string x)).toList

/-- A row on one line. -/
def compactRow (r : Row) : Text :=
  '\x7b' :: [','].intercalate ((rowMembers r).map fun (key, value) => string key ++ ':' :: value) ++
    ['\x7d']

/-- A row on several lines, inside an array. -/
def indentedRow (r : Row) : Text :=
  "  \x7b\n".toList ++
    ",\n".toList.intercalate ((rowMembers r).map fun (key, value) =>
      "    ".toList ++ string key ++ ": ".toList ++ value) ++
    "\n  \x7d".toList

/-- Rows as an array. -/
def rows : List Row → Text
  | [] => "[]".toList
  | rs => "[\n".toList ++ ",\n".toList.intercalate (rs.map indentedRow) ++ "\n]".toList

end RankSieve.Json
