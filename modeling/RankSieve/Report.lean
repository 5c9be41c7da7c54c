import RankSieve.Json.Printer
import RankSieve.Settings
import RankSieve.Table
import RankSieve.Text.Case

/-!
# `RankSieve.Report` — rows for reading

## Contents
- **Statuses.** `statusColor?` colours the status of a row by its class.
- **Summaries.** `summaryLine` counts what is shown.
- **Reports.** `textReport` draws a table and the summary, `jsonReport` writes rows that can be loaded
  again.
-/

namespace RankSieve

/-! ## Statuses -/

/-- The colour of a successful exchange depends on its method, in any case. -/
def successColor (method : Text) : Color :=
  if upper method = "GET".toList then .green
  else if upper method = "POST".toList then .blue
  else .magenta

/-- The colour of a status by its class; outside the classes there is none. -/
def statusColor? (status : UInt16) (method : Text) : Option Color :=
  match status.toNat / 100 with
  | 5 => some .red
  | 4 => some .darkYellow
  | 3 => some .yellow
  | 2 => some (successColor method)
  | _ => none

/-! ## Summaries -/

/-- How many rows are shown: of all rows when a filter is in force, and simply how many there are
    when none is. -/
def summaryLine (visible total : Nat) (filtered : Bool) : Text :=
  if filtered then
    "Showing ".toList ++ Decimal.ofNat visible ++ " of ".toList ++ Decimal.ofNat total ++ " items".toList
  else
    Decimal.ofNat total ++ (if total = 1 then " item found".toList else " items found".toList)

/-- A line in italics. -/
def italic (t : Text) : Text := "\x1B[3m".toList ++ t ++ "\x1B[0m".toList

/-! ## Reports -/

/-- A URL that is too long, cut so that three points fit behind it. Zero sets no bound. -/
def shortenUrl (width : Nat) (url : Text) : Text :=
  if width = 0 || url.length ≤ width then url else url.take (width - 3) ++ ['.', '.', '.']

/-- The cells of a row; its status is in colour where the output may be styled. -/
def rowCells (maxUrlWidth : Nat) (colored : Bool) (r : Row) : List Cell :=
  let color := if colored then statusColor? r.status r.method else none
  [.center r.rankText, .left r.method, .left (shortenUrl maxUrlWidth r.url),
    (Cell.center r.statusText).inColor color]

/-- The table of some rows. -/
def rowTable (maxUrlWidth : Nat) (colored : Bool) (rows : List Row) : Table :=
  ⟨["Rank", "Method", "URL", "Status Code"].map String.toList, rows.map (rowCells maxUrlWidth colored)⟩

/-- Lines, each ended by a line feed. -/
def endLines (ls : List Text) : Text := ls.flatMap (· ++ ['\n'])

/-- What to show of some rows and how: the places of the rows, whether a filter chose them, and
    whether the output may be styled. -/
structure View where
  places   : List Nat
  filtered : Bool
  colored  : Bool

/-- A table of the rows in view and a summary. -/
def textReport (maxUrlWidth : Nat) (rows : List Row) (v : View) : Text :=
  let body :=
    if v.places.isEmpty then ["No matching results.".toList]
    else (rowTable maxUrlWidth v.colored (rowsAt rows v.places)).lines
  let summary := summaryLine v.places.length rows.length v.filtered
  endLines (body ++ [if v.colored then italic summary else summary])

/-- The rows at some places as JSON. -/
def jsonReport (rows : List Row) (places : List Nat) : Text := Json.rows (rowsAt rows places)

end RankSieve
