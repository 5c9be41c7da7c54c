import RankSieve.Row
import RankSieve.Sink

/-!
# `RankSieve.Csv` — rows as comma-separated values

Fields are quoted only where they hold a comma, a quotation mark or a line break, and a quotation
mark inside a field is doubled. A record ends with a line feed.

## Contents
- **Text.** `Csv.record` writes one record, `Csv.ofRows` a header and a record for each row.
- **Buffering.** Output passes through a buffer: `Csv.chunks` tells what is handed on at once, and
  `Csv.write` hands it on to a sink.
-/

namespace RankSieve.Csv

/-! ## Text -/

/-- Whether a field cannot stand without quotation marks. -/
def needsQuotes (field : Text) : Bool :=
  field.any fun c => c = ',' || c = '"' || c = '\n' || c = '\r'

/-- A character inside quotation marks. -/
def quotedChar (c : Char) : Text := if c = '"' then ['"', '"'] else [c]

/-- A field. -/
def field (t : Text) : Text := if needsQuotes t then '"' :: t.flatMap quotedChar ++ ['"'] else t

/-- A record. -/
def record (fields : List Text) : Text := [','].intercalate (fields.map field) ++ ['\n']

/-- The fields of the header. -/
def header : List Text := ["Rank", "Method", "URL", "Status Code"].map String.toList

/-- The fields of a row. -/
def rowFields (r : Row) : List Text := [r.rankText, r.method, r.url, r.statusText]

/-- A header and the rows. -/
def ofRows (rows : List Row) : Text := (header :: rows.map rowFields).flatMap record

/-! ## Buffering -/

/-- What the buffer takes as a whole: an octet, or both octets of a doubled quotation mark. -/
abbrev Piece := Octets

/-- The pieces of a field. -/
def fieldPieces (t : Text) : List Piece :=
  if needsQuotes t then
    [0x22] :: t.flatMap (fun c => if c = '"' then [[0x22, 0x22]] else (Utf8.encodeChar c).map ([·])) ++
      [[0x22]]
  else (Utf8.encode t).map ([·])

/-- The pieces of a record. -/
def recordPieces (fields : List Text) : List Piece :=
  [[0x2C]].intercalate (fields.map fieldPieces) ++ [[0x0A]]

/-- The pieces of a header and the rows. -/
def piecesOf (rows : List Row) : List Piece := (header :: rows.map rowFields).flatMap recordPieces

/-- How many octets the buffer holds. -/
def bufferSize : Nat := 8192

/-- The contents of the buffer each time it is handed on because the next piece does not fit, and at
    the end, given its present contents backwards and their size. -/
def chunksFrom : (held : List Piece) → (size : Nat) → List Piece → List Octets
  | held, _,    []      => [held.reverse.flatten]
  | held, size, p :: ps =>
    if size + p.length ≤ bufferSize then chunksFrom (p :: held) (size + p.length) ps
    else held.reverse.flatten :: chunksFrom [p] p.length ps

/-- What is handed on at once; the last part is handed on at the end. -/
def chunks (rows : List Row) : List Octets := chunksFrom [] 0 (piecesOf rows)

/-- How writing ends. -/
inductive WriteResult where
  | complete
  /-- The sink was full while records were being written. -/
  | cutInRecords
  /-- The sink was full when the last of the buffer was handed on. -/
  | cutAtEnd
  deriving DecidableEq, Repr

/-- Hands on the contents of the buffer one after the other, until the sink takes no more. Contents that
    were not taken as a whole stay in the buffer, which is handed on once more, from its start, when
    writing is given up. -/
def handOn : Sink → List Octets → Sink × WriteResult
  | s, []      => (s, .complete)
  | s, c :: cs =>
    match s.write c with
    | (s, true)  => handOn s cs
    | (s, false) => ((s.write c).1, if cs.isEmpty then .cutAtEnd else .cutInRecords)

/-- Writes a header and the rows to a sink. -/
def write (s : Sink) (rows : List Row) : Sink × WriteResult := handOn s (chunks rows)

end RankSieve.Csv
