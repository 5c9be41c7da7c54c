import RankSieve.Export
import RankSieve.Proofs.Decimals
import RankSieve.Proofs.Utf8RoundTrip

/-!
# `RankSieve.Proofs.CsvRoundTrip` — exported rows come back from their octets

What is exported can be read again: a reader of comma-separated values finds the header and then one
record for each row, whatever commas, quotation marks and line breaks the fields hold. The reader is a
machine with four places, and it is never told where a field ends. That it ends where the writer ended it
is the point of the quoting rule.

## Contents
- **The reader.** `Csv.recordsFrom?` goes through a text character by character, `Csv.decode?` through
  octets.
- **Fields, records, tables.** `recordsFrom?_field` reads one field of either kind, an induction over the
  fields one record (`recordsFrom?_record`), and an induction over the records all of them
  (`readRecords?_flatMap_record`).
- **The buffer.** What is handed on piece by piece is the text as a whole (`flatten_chunks`).
- **The main result.** `exportTo_round_trip`.
-/

namespace RankSieve

namespace Csv

/-! ## The reader -/

/-- Where a reader of records stands. -/
inductive Place where
  /-- Before a field. -/
  | start
  /-- In a field without quotation marks. -/
  | bare
  /-- Between the quotation marks of a field. -/
  | quoted
  /-- Behind a quotation mark between quotation marks. It ends the field unless another follows. -/
  | closed
  deriving DecidableEq, Repr

/-- The records of a text, each ended by a line feed, given the place of the reader, the fields of the
    present record that are complete and what was read of the present field. None where a bare field holds
    a quotation mark or a carriage return, where anything but a separator follows a quoted field, and where
    the last record is not ended. -/
def recordsFrom? : Place → (fields : List Text) → (field : Text) → Text → Option (List (List Text))
  | place,   fields, _,     []     => if place = .start ∧ fields = [] then some [] else none
  | .quoted, fields, field, c :: t =>
    if c = '"' then recordsFrom? .closed fields field t
    else recordsFrom? .quoted fields (field ++ [c]) t
  | place,   fields, field, c :: t =>
    if c = ',' then recordsFrom? .start (fields ++ [field]) [] t
    else if c = '\n' then (recordsFrom? .start [] [] t).map ((fields ++ [field]) :: ·)
    else if c = '"' then
      match place with
      | .start  => recordsFrom? .quoted fields field t
      | .closed => recordsFrom? .quoted fields (field ++ ['"']) t
      | _       => none
    else if c = '\r' || place = .closed then none
    else recordsFrom? .bare fields (field ++ [c]) t

/-- The records of a text. -/
def readRecords? (t : Text) : Option (List (List Text)) := recordsFrom? .start [] [] t

/-- The records of a text given by its octets. -/
def decode? (bs : Octets) : Option (List (List Text)) := (Utf8.decode? bs).bind readRecords?

/-! ## Steps of the reader -/

variable {place : Place} {fields : List Text} {field : Text} {t : Text}

/-- A comma ends the field, wherever the reader stands but between quotation marks. -/
theorem recordsFrom?_comma (h : place ≠ .quoted) :
    recordsFrom? place fields field (',' :: t) = recordsFrom? .start (fields ++ [field]) [] t := by
  cases place with
  | quoted => exact absurd rfl h
  | start => rfl
  | bare => rfl
  | closed => rfl

/-- So does a line feed, and the record with it. -/
theorem recordsFrom?_newline (h : place ≠ .quoted) :
    recordsFrom? place fields field ('\n' :: t) =
      (recordsFrom? .start [] [] t).map ((fields ++ [field]) :: ·) := by
  cases place with
  | quoted => exact absurd rfl h
  | start => rfl
  | bare => rfl
  | closed => rfl

/-- A character that needs no quotation marks. -/
theorem recordsFrom?_bareChar {c : Char} (hplace : place = .start ∨ place = .bare)
    (hc : ¬(c = ',' ∨ c = '"' ∨ c = '\n' ∨ c = '\r')) :
    recordsFrom? place fields field (c :: t) = recordsFrom? .bare fields (field ++ [c]) t := by
  rw [not_or, not_or, not_or] at hc
  obtain ⟨hcomma, hquote, hnewline, hreturn⟩ := hc
  rcases hplace with rfl | rfl
  · rw [recordsFrom?, if_neg hcomma, if_neg hnewline, if_neg hquote, if_neg (by simp [hreturn])]
  · rw [recordsFrom?, if_neg hcomma, if_neg hnewline, if_neg hquote, if_neg (by simp [hreturn])]
    all_goals nofun

/-- A character as it is written between quotation marks. -/
theorem recordsFrom?_quotedChar (c : Char) :
    recordsFrom? .quoted fields field (quotedChar c ++ t) =
      recordsFrom? .quoted fields (field ++ [c]) t := by
  unfold quotedChar
  by_cases hc : c = '"'
  · subst hc
    rfl
  · rw [if_neg hc, List.singleton_append, recordsFrom?, if_neg hc]

/-! ## Fields, records, tables -/

/-- The characters of a bare field, one after the other. -/
theorem recordsFrom?_bare (fields : List Text) (field t : Text) {f : Text} (hplace : place = .start ∨ place = .bare)
    (hf : needsQuotes f = false) :
    ∃ place', (place' = .start ∨ place' = .bare) ∧
      recordsFrom? place fields field (f ++ t) = recordsFrom? place' fields (field ++ f) t := by
  induction f generalizing place field with
  | nil => exact ⟨place, hplace, by rw [List.nil_append, List.append_nil]⟩
  | cons c f ih =>
    have hc : ¬(c = ',' ∨ c = '"' ∨ c = '\n' ∨ c = '\r') := by simp_all [needsQuotes]
    have hrest : needsQuotes f = false := by
      unfold needsQuotes at hf ⊢
      rw [List.any_cons, Bool.or_eq_false_iff] at hf
      exact hf.2
    obtain ⟨place', hplace', h⟩ := ih (field ++ [c]) (.inr rfl) hrest
    refine ⟨place', hplace', ?_⟩
    rw [List.cons_append, recordsFrom?_bareChar hplace hc, h, List.append_assoc, List.singleton_append]

/-- The characters between quotation marks, one after the other. -/
theorem recordsFrom?_quoted (f : Text) :
    recordsFrom? .quoted fields field (f.flatMap quotedChar ++ t) =
      recordsFrom? .quoted fields (field ++ f) t := by
  induction f generalizing field with
  | nil => rw [List.flatMap_nil, List.nil_append, List.append_nil]
  | cons c f ih =>
    rw [List.flatMap_cons, List.append_assoc, recordsFrom?_quotedChar, ih, List.append_assoc,
      List.singleton_append]

/-- **One field** is read as a whole, and then the reader is not between quotation marks, so that the
    next separator ends the field. -/
theorem recordsFrom?_field (fields : List Text) (f t : Text) :
    ∃ place, place ≠ .quoted ∧
      recordsFrom? .start fields [] (Csv.field f ++ t) = recordsFrom? place fields f t := by
  unfold Csv.field
  cases hf : needsQuotes f with
  | false =>
    obtain ⟨place, hplace, h⟩ := recordsFrom?_bare fields [] t (.inl rfl) hf
    refine ⟨place, ?_, h⟩
    rcases hplace with rfl | rfl
    · nofun
    · nofun
  | true =>
    refine ⟨.closed, nofun, ?_⟩
    show recordsFrom? .quoted fields [] (f.flatMap quotedChar ++ ['"'] ++ t) = _
    rw [List.append_assoc, recordsFrom?_quoted]
    rfl

/-- **One record**, by induction over its fields. The separator behind a field is known only from the
    fields to come, so those already read are kept in front. -/
theorem recordsFrom?_record {fs : List Text} (hfs : fs ≠ []) :
    recordsFrom? .start fields [] (record fs ++ t) =
      (recordsFrom? .start [] [] t).map ((fields ++ fs) :: ·) := by
  unfold record
  rw [List.append_assoc, List.singleton_append]
  induction fs generalizing fields with
  | nil => exact absurd rfl hfs
  | cons f fs ih =>
    cases fs with
    | nil =>
      obtain ⟨place, hplace, hfield⟩ := recordsFrom?_field fields f ('\n' :: t)
      rw [List.map_singleton, List.intercalate_singleton, hfield, recordsFrom?_newline hplace]
    | cons g fs =>
      -- the comma belongs to what follows, so it is read with the rest of the fields
      obtain ⟨place, hplace, hfield⟩ := recordsFrom?_field fields f
        (',' :: ([','].intercalate ((g :: fs).map Csv.field) ++ '\n' :: t))
      rw [List.map_cons, List.map_cons, List.intercalate_cons_cons, ← List.map_cons, List.append_assoc,
        List.append_assoc, List.singleton_append, hfield, recordsFrom?_comma hplace,
        ih (List.cons_ne_nil g fs), List.append_assoc, List.singleton_append]

/-- **All records**, by induction over them. -/
theorem readRecords?_flatMap_record {records : List (List Text)} (h : ∀ fs ∈ records, fs ≠ []) :
    readRecords? (records.flatMap record) = some records := by
  unfold readRecords?
  induction records with
  | nil => rfl
  | cons fs records ih =>
    rw [List.forall_mem_cons] at h
    rw [List.flatMap_cons, recordsFrom?_record h.1, ih h.2]
    rfl

/-- A quotation mark inside a field is doubled, and one in a bare field is refused. -/
example : readRecords? "a,\"b\"\"\n,\",\n".toList = some [["a".toList, "b\"\n,".toList, []]] ∧
    readRecords? "a,b\"\n".toList = none := by decide

/-- The exported text has a header and a record for each row. -/
theorem decode?_ofRows (rows : List Row) :
    decode? (Utf8.encode (ofRows rows)) = some (header :: rows.map rowFields) := by
  have hne : ∀ fs ∈ header :: rows.map rowFields, fs ≠ [] := by
    rw [List.forall_mem_cons, List.forall_mem_map]
    exact ⟨nofun, fun _ _ => nofun⟩
  unfold decode? ofRows
  rw [Utf8.decode?_encode, Option.bind_some, readRecords?_flatMap_record hne]

/-- A record tells the rank, the method, the URL and the status of its row. -/
theorem rowFields_eq_iff {r r' : Row} :
    rowFields r = rowFields r' ↔
      (r.rank, r.method, r.url, r.status) = (r'.rank, r'.method, r'.url, r'.status) := by
  unfold rowFields Row.rankText Row.statusText
  simp only [List.cons.injEq, Prod.mk.injEq, and_true]
  constructor
  · rintro ⟨hrank, hmethod, hurl, hstatus⟩
    exact ⟨Int32.toInt_inj.mp (Decimal.ofInt_injective hrank), hmethod, hurl,
      UInt16.toNat_inj.mp (Decimal.ofNat_injective hstatus)⟩
  · rintro ⟨hrank, hmethod, hurl, hstatus⟩
    rw [hrank, hmethod, hurl, hstatus]
    exact ⟨rfl, rfl, rfl, rfl⟩

theorem map_rowFields_eq_iff {rows rows' : List Row} :
    rows.map rowFields = rows'.map rowFields ↔
      rows.map (fun r => (r.rank, r.method, r.url, r.status)) =
        rows'.map fun r => (r.rank, r.method, r.url, r.status) := by
  induction rows generalizing rows' with
  | nil => rw [List.map_nil, List.map_nil, List.nil_eq, List.nil_eq, List.map_eq_nil_iff, List.map_eq_nil_iff]
  | cons r rows ih =>
    cases rows' with
    | nil => exact ⟨nofun, nofun⟩
    | cons r' rows' =>
      rw [List.map_cons, List.map_cons, List.map_cons, List.map_cons, List.cons.injEq, List.cons.injEq,
        rowFields_eq_iff, ih]

/-! ## The buffer -/

/-- The pieces of a field are its octets. -/
theorem flatten_fieldPieces (f : Text) : (fieldPieces f).flatten = Utf8.encode (Csv.field f) := by
  have hsingle (bs : Octets) : (bs.map ([·])).flatten = bs := by
    induction bs with
    | nil => rfl
    | cons b bs ih => rw [List.map_cons, List.flatten_cons, ih, List.singleton_append]
  unfold fieldPieces Csv.field
  cases needsQuotes f with
  | false => exact hsingle (Utf8.encode f)
  | true =>
    have hchars : (f.flatMap fun c => if c = '"' then [[0x22, 0x22]] else (Utf8.encodeChar c).map ([·])).flatten =
        Utf8.encode (f.flatMap quotedChar) := by
      induction f with
      | nil => rfl
      | cons c f ih =>
        rw [List.flatMap_cons, List.flatMap_cons, List.flatten_append, Utf8.encode_append, ih]
        congr 1
        unfold quotedChar
        by_cases hc : c = '"'
        · rw [if_pos hc, if_pos hc]
          rfl
        · rw [if_neg hc, if_neg hc, hsingle, Utf8.encode_cons]
          exact (List.append_nil _).symm
    rw [if_pos rfl, if_pos rfl, List.flatten_append, List.flatten_cons, hchars, Utf8.encode_append]
    rfl

/-- The pieces of a record are its octets. -/
theorem flatten_recordPieces (fs : List Text) : (recordPieces fs).flatten = Utf8.encode (record fs) := by
  unfold recordPieces record
  rw [List.flatten_append, Utf8.encode_append]
  congr 1
  induction fs with
  | nil => rfl
  | cons f fs ih =>
    cases fs with
    | nil =>
      rw [List.map_singleton, List.map_singleton, List.intercalate_singleton, List.intercalate_singleton]
      exact flatten_fieldPieces f
    | cons g fs =>
      simp only [List.map_cons, List.intercalate_cons_cons, List.flatten_append, Utf8.encode_append,
        flatten_fieldPieces] at ih ⊢
      rw [ih]
      rfl

theorem flatten_piecesOf (rows : List Row) : (piecesOf rows).flatten = Utf8.encode (ofRows rows) := by
  unfold piecesOf ofRows
  induction header :: rows.map rowFields with
  | nil => rfl
  | cons fs records ih =>
    rw [List.flatMap_cons, List.flatMap_cons, List.flatten_append, Utf8.encode_append, ih,
      flatten_recordPieces]

/-- The buffer loses nothing: what it hands on is what it held and then what comes. -/
theorem flatten_chunksFrom (held : List Piece) (size : Nat) (ps : List Piece) :
    (chunksFrom held size ps).flatten = held.reverse.flatten ++ ps.flatten := by
  induction ps generalizing held size with
  | nil => rw [chunksFrom, List.flatten_singleton, List.flatten_nil, List.append_nil]
  | cons p ps ih =>
    rw [chunksFrom]
    by_cases h : size + p.length ≤ bufferSize
    · rw [if_pos h, ih, List.reverse_cons, List.flatten_append, List.flatten_singleton, List.append_assoc,
        List.flatten_cons]
    · rw [if_neg h, List.flatten_cons, ih, List.reverse_singleton, List.flatten_singleton,
        List.flatten_cons]

theorem flatten_chunks (rows : List Row) : (chunks rows).flatten = Utf8.encode (ofRows rows) := by
  unfold chunks
  rw [flatten_chunksFrom, flatten_piecesOf]
  rfl

/-- A sink without a limit takes all that is handed on. -/
theorem handOn_unbounded (held : Octets) (cs : List Octets) :
    handOn ⟨held, none⟩ cs = (⟨held ++ cs.flatten, none⟩, .complete) := by
  induction cs generalizing held with
  | nil => rw [handOn, List.flatten_nil, List.append_nil]
  | cons c cs ih =>
    show handOn ⟨held ++ c, none⟩ cs = _
    rw [ih, List.append_assoc, List.flatten_cons]

end Csv

/-! ## The main result -/

/-- **Exports lose nothing.** Into a sink without a limit an export succeeds and counts the rows. Read as
    comma-separated values, what it wrote is the header and for each row, in order, a record of its rank,
    method, URL and status. So two lists of rows are exported alike exactly where they agree on those four
    at every place. -/
theorem exportTo_round_trip (held : Octets) (rows : List Row) :
    (∃ written, exportTo ⟨held, none⟩ rows = (⟨held ++ written, none⟩, .ok rows.length) ∧
      Csv.decode? written = some (["Rank", "Method", "URL", "Status Code"].map String.toList ::
        rows.map fun r => [Decimal.ofInt r.rank.toInt, r.method, r.url, Decimal.ofNat r.status.toNat])) ∧
    ∀ rows' : List Row, (exportTo ⟨held, none⟩ rows).1 = (exportTo ⟨held, none⟩ rows').1 ↔
      rows.map (fun r => (r.rank, r.method, r.url, r.status)) =
        rows'.map fun r => (r.rank, r.method, r.url, r.status) := by
  have hexport (rows : List Row) : exportTo ⟨held, none⟩ rows =
      (⟨held ++ Utf8.encode (Csv.ofRows rows), none⟩, .ok rows.length) := by
    unfold exportTo Csv.write
    rw [Csv.handOn_unbounded, Csv.flatten_chunks]
  refine ⟨⟨_, hexport rows, Csv.decode?_ofRows rows⟩, fun rows' => ?_⟩
  rw [hexport, hexport, ← Csv.map_rowFields_eq_iff]
  constructor
  · intro h
    have htext := Utf8.encode_injective (List.append_cancel_left (congrArg Sink.held h))
    have hrecords := Csv.decode?_ofRows rows
    rw [htext, Csv.decode?_ofRows] at hrecords
    exact (List.cons.inj (Option.some.inj hrecords)).2.symm
  · intro h
    unfold Csv.ofRows
    rw [h]

end RankSieve
