import RankSieve.Csv
import RankSieve.Directory
import RankSieve.Event
import RankSieve.Text.Quoted

/-!
# `RankSieve.Export` — rows written to a file

Writing rows as comma-separated values, to a sink or to a file.
-/

namespace RankSieve

/-- Why rows were not written. -/
inductive ExportError where
  | create (path : Text) (why : FileFault)
  /-- The records could not be written, for the reason given. -/
  | records (why : Text)
  /-- The records were written, but not everything reached its place. -/
  | flush (why : Text)
  deriving DecidableEq, Repr

namespace ExportError

/-- What lies behind the failure. -/
def cause : ExportError → Text
  | .create _ why => why.message
  | .records why  => why
  | .flush why    => why

/-- The text of the failure. -/
def message : ExportError → Text
  | .create path why => "Failed to create export file '".toList ++ path ++ "': ".toList ++ why.message
  | .records why     => "Failed to write CSV: ".toList ++ why
  | .flush why       => "Failed to flush CSV output: ".toList ++ why

end ExportError

/-- Writes rows to a sink, and counts them. -/
def exportTo (s : Sink) (rows : List Row) : Sink × Except ExportError Nat :=
  match Csv.write s rows with
  | (s, .complete)     => (s, .ok rows.length)
  | (s, .cutInRecords) => (s, .error (.records Sink.fullMessage))
  | (s, .cutAtEnd)     => (s, .error (.flush Sink.fullMessage))

/-- What is reported of a finished export. -/
def exportedEvent (path : Text) (count : Nat) : Event :=
  ⟨.info, "anomaly_rank::export".toList, "Exported results to CSV".toList,
    [("path".toList, path), ("rows".toList, Decimal.ofNat count)]⟩

/-- What an export to a file comes to: the files after it, and the number of rows. -/
structure Exported where
  directory : Directory
  count     : Nat
  deriving DecidableEq, Repr

/-- Writes rows to a file, which is made or replaced. -/
def exportToFile (d : Directory) (path : Text) (rows : List Row) : Except ExportError Exported :=
  match d.write path (Utf8.encode (Csv.ofRows rows)) with
  | .ok d'     => .ok ⟨d', rows.length⟩
  | .error why => .error (.create path why)

end RankSieve
