import RankSieve.Proofs.CsvRoundTrip
import RankSieve.Proofs.Sinks

/-!
# `RankSieve.Proofs.LimitedExports` — an export that can write no more

Between the records and the sink there is a buffer, so an octet that the sink refuses is noticed only when
the buffer is handed on: while some later record is written, or at the very end. And a writer that is given up
hands on once more what its buffer still holds. Here the writer is taken apart into these steps, and an export to
a sink with a limit is compared with the same export to a sink without one. The sink has the front of
what the other one has, each octet once, and only an export that fits as a whole is a success.

## Contents
- **The writer.** `Writer` is a sink with a buffer, `Writer.put` what one piece does to it, `Writer.record` and
  `Writer.rows` what records do. Writing as a whole is these steps and nothing else (`write_eq`).
- **What the buffer holds.** On a sink without a limit nothing is lost between the sink and the buffer
  (`exists_foldlM_put`), and as long as all of it fits into the buffer it is there (`foldlM_put_fits`).
- **Limits.** `put_limited` compares one step on the two sinks, `foldlM_put_limited` any number of them, by
  induction, and `exportTo_limited` whole exports.
-/

namespace RankSieve

namespace Csv

/-! ## The writer -/

/-- A writer at work: where its output goes, and what its buffer holds. -/
structure Writer where
  sink   : Sink
  buffer : Octets

namespace Writer

/-- Hands on what the buffer holds. It stays there unless the sink takes all of it. -/
def flush (w : Writer) : Except Writer Writer :=
  match w.sink.write w.buffer with
  | (s, true)  => .ok ⟨s, []⟩
  | (s, false) => .error ⟨s, w.buffer⟩

/-- Puts a piece into the buffer, which is handed on first if it has no room for the piece. -/
def put (w : Writer) (p : Piece) : Except Writer Writer :=
  if w.buffer.length + p.length ≤ bufferSize then .ok ⟨w.sink, w.buffer ++ p⟩
  else w.flush.map fun w => ⟨w.sink, p⟩

/-- Writes a record, as far as it goes. -/
def record (w : Writer) (fields : List Text) : Except Writer Writer := (recordPieces fields).foldlM put w

/-- Writes the header and then a record for each row, as far as it goes. -/
def rows (w : Writer) (rs : List Row) : Except Writer Writer := (header :: rs.map rowFields).foldlM record w

/-- Where the output went once the writer is given up, which hands on what the buffer still holds, come of
    it what may. -/
def givenUp (w : Writer) : Sink := (w.sink.write w.buffer).1

/-- How writing ends once the records are written, or one of them could not be. -/
def finish : Except Writer Writer → Sink × WriteResult
  | .error w => (w.givenUp, .cutInRecords)
  | .ok w    =>
    match w.flush with
    | .error w => (w.givenUp, .cutAtEnd)
    | .ok w    => (w.givenUp, .complete)

end Writer

/-- There is always something left for the end. -/
theorem chunksFrom_ne_nil (held : List Piece) (size : Nat) (ps : List Piece) : chunksFrom held size ps ≠ [] := by
  induction ps generalizing held size with
  | nil => exact List.cons_ne_nil _ _
  | cons p ps ih =>
    rw [chunksFrom]
    by_cases h : size + p.length ≤ bufferSize
    · rw [if_pos h]
      exact ih (p :: held) (size + p.length)
    · rw [if_neg h]
      exact List.cons_ne_nil _ _

/-- **Pieces put one after the other** are handed on as their chunks are, whatever the sink takes. -/
theorem handOn_chunksFrom (s : Sink) (held : List Piece) (ps : List Piece) :
    handOn s (chunksFrom held held.reverse.flatten.length ps) =
      Writer.finish (ps.foldlM Writer.put ⟨s, held.reverse.flatten⟩) := by
  induction ps generalizing s held with
  | nil =>
    rw [chunksFrom, List.foldlM_nil]
    unfold handOn
    show _ = Writer.finish (.ok ⟨s, held.reverse.flatten⟩)
    unfold Writer.finish Writer.flush
    dsimp only
    cases hwrite : s.write held.reverse.flatten with
    | mk s' taken =>
      cases taken with
      | true => exact Prod.ext (Sink.write_nil s').symm rfl
      | false => rfl
  | cons p ps ih =>
    rw [chunksFrom, List.foldlM_cons]
    unfold Writer.put
    dsimp only
    by_cases h : held.reverse.flatten.length + p.length ≤ bufferSize
    · have hheld : (p :: held).reverse.flatten = held.reverse.flatten ++ p := by
        rw [List.reverse_cons, List.flatten_append, List.flatten_singleton]
      rw [if_pos h, if_pos h, ← List.length_append, ← hheld, ih]
      rfl
    · rw [if_neg h, if_neg h]
      unfold handOn Writer.flush
      dsimp only
      cases hwrite : s.write held.reverse.flatten with
      | mk s' taken =>
        cases taken with
        | true =>
          have hrest := ih s' [p]
          rw [List.reverse_singleton, List.flatten_singleton] at hrest
          exact hrest
        | false =>
          have hmore : (chunksFrom [p] p.length ps).isEmpty = false :=
            List.isEmpty_eq_false_iff.mpr (chunksFrom_ne_nil [p] p.length ps)
          show ((s'.write _).1, if (chunksFrom [p] p.length ps).isEmpty then _ else _) = _
          rw [hmore]
          rfl

/-- Rows are written piece by piece. -/
theorem Writer.rows_eq (w : Writer) (rs : List Row) : w.rows rs = (piecesOf rs).foldlM Writer.put w := by
  unfold Writer.rows piecesOf
  induction header :: rs.map rowFields generalizing w with
  | nil => rfl
  | cons fields records ih =>
    rw [List.foldlM_cons, List.flatMap_cons, List.foldlM_append]
    exact bind_congr ih

/-- **Writing as a whole** is writing the header, then the rows one after the other, then handing on what is
    left. -/
theorem write_eq (s : Sink) (rs : List Row) : write s rs = Writer.finish (Writer.rows ⟨s, []⟩ rs) := by
  rw [Writer.rows_eq]
  exact handOn_chunksFrom s [] (piecesOf rs)

/-! ## What the buffer holds -/

theorem length_of_mem_single {bs : Octets} {p : Piece} (h : p ∈ bs.map ([·])) : p.length ≤ 2 := by
  obtain ⟨b, -, rfl⟩ := List.mem_map.mp h
  exact Nat.le_succ 1

/-- A piece is small, because a field is not one piece. -/
theorem length_of_mem_fieldPieces {f : Text} {p : Piece} (h : p ∈ fieldPieces f) : p.length ≤ 2 := by
  unfold fieldPieces at h
  split at h
  · rw [List.cons_append, List.mem_cons, List.mem_append, List.mem_flatMap, List.mem_singleton] at h
    rcases h with rfl | ⟨c, -, hc⟩ | rfl
    · exact Nat.le_succ 1
    · split at hc
      · rw [List.mem_singleton] at hc
        exact hc ▸ Nat.le_refl 2
      · exact length_of_mem_single hc
    · exact Nat.le_succ 1
  · exact length_of_mem_single h

theorem length_of_mem_recordPieces {fs : List Text} {p : Piece} (h : p ∈ recordPieces fs) : p.length ≤ 2 := by
  unfold recordPieces at h
  rw [List.mem_append, List.mem_singleton] at h
  rcases h with h | rfl
  · induction fs with
    | nil => exact absurd h List.not_mem_nil
    | cons f fs ih =>
      cases fs with
      | nil =>
        rw [List.map_singleton, List.intercalate_singleton] at h
        exact length_of_mem_fieldPieces h
      | cons g fs =>
        rw [List.map_cons, List.map_cons, List.intercalate_cons_cons, ← List.map_cons, List.mem_append,
          List.mem_append, List.mem_singleton] at h
        rcases h with (h | rfl) | h
        · exact length_of_mem_fieldPieces h
        · exact Nat.le_succ 1
        · exact ih h
  · exact Nat.le_succ 1

/-- So each piece fits into the empty buffer. -/
theorem length_of_mem_piecesOf (rows : List Row) : ∀ p ∈ piecesOf rows, p.length ≤ bufferSize := by
  intro p hp
  obtain ⟨fs, -, hp⟩ := List.mem_flatMap.mp hp
  exact Nat.le_trans (length_of_mem_recordPieces hp) (by decide)

namespace Writer

variable {held buffer : Octets} {limit : Nat}

/-- Pieces that fit into the buffer stay there. -/
theorem foldlM_put_fits (s : Sink) {ps : List Piece} (h : buffer.length + ps.flatten.length ≤ bufferSize) :
    ps.foldlM put ⟨s, buffer⟩ = .ok ⟨s, buffer ++ ps.flatten⟩ := by
  induction ps generalizing buffer with
  | nil => rw [List.flatten_nil, List.append_nil]; rfl
  | cons p ps ih =>
    rw [List.flatten_cons, List.length_append, ← Nat.add_assoc, ← List.length_append] at h
    have hfits : buffer.length + p.length ≤ bufferSize := by
      rw [← List.length_append]
      exact Nat.le_trans (Nat.le_add_right _ _) h
    have hput : put ⟨s, buffer⟩ p = .ok ⟨s, buffer ++ p⟩ := if_pos hfits
    rw [List.foldlM_cons, hput, List.flatten_cons, ← List.append_assoc]
    exact ih h

/-- One piece on a sink without a limit: either it goes behind what the buffer holds or it takes its place. -/
theorem exists_put (held buffer : Octets) (p : Piece) :
    ∃ early late, put ⟨⟨held, none⟩, buffer⟩ p = .ok ⟨⟨held ++ early, none⟩, late⟩ ∧ early ++ late = buffer ++ p ∧
      (p.length ≤ bufferSize → late.length ≤ bufferSize) := by
  by_cases h : buffer.length + p.length ≤ bufferSize
  · refine ⟨[], buffer ++ p, ?_, rfl, fun _ => ?_⟩
    · rw [List.append_nil]
      exact if_pos h
    · rw [List.length_append]
      exact h
  · exact ⟨buffer, p, if_neg h, rfl, id⟩

/-- **Pieces on a sink without a limit**: nothing is lost, and the buffer holds the last of it. -/
theorem exists_foldlM_put (held buffer : Octets) (ps : List Piece) :
    ∃ early late, ps.foldlM put ⟨⟨held, none⟩, buffer⟩ = .ok ⟨⟨held ++ early, none⟩, late⟩ ∧
      early ++ late = buffer ++ ps.flatten ∧
      (buffer.length ≤ bufferSize → (∀ p ∈ ps, p.length ≤ bufferSize) → late.length ≤ bufferSize) := by
  induction ps generalizing held buffer with
  | nil =>
    refine ⟨[], buffer, ?_, ?_, fun hbuffer _ => hbuffer⟩
    · rw [List.append_nil]
      rfl
    · rw [List.flatten_nil, List.append_nil, List.nil_append]
  | cons p ps ih =>
    obtain ⟨early, late, hput, hall, hlate⟩ := exists_put held buffer p
    obtain ⟨early', late', hrest, hall', hlate'⟩ := ih (held ++ early) late
    refine ⟨early ++ early', late', ?_, ?_, fun _ hps => ?_⟩
    · rw [List.foldlM_cons, hput, ← List.append_assoc]
      exact hrest
    · rw [List.append_assoc, hall', ← List.append_assoc, hall, List.append_assoc, List.flatten_cons]
    · rw [List.forall_mem_cons] at hps
      exact hlate' (hlate hps.1) hps.2

/-! ## Limits -/

/-- **One piece on the two sinks.** The limited one is in step until the other one holds more than the limit. -/
theorem put_limited (hheld : held.length ≤ limit) {p : Piece} {held' late : Octets}
    (hfull : put ⟨⟨held, none⟩, buffer⟩ p = .ok ⟨⟨held', none⟩, late⟩) :
    put ⟨.limited limit held, buffer⟩ p =
      if held'.length ≤ limit then .ok ⟨.limited limit held', late⟩ else .error ⟨.limited limit held', buffer⟩ := by
  unfold put at hfull ⊢
  dsimp only at hfull ⊢
  by_cases h : buffer.length + p.length ≤ bufferSize
  · rw [if_pos h] at hfull ⊢
    cases hfull
    rw [if_pos hheld]
  · rw [if_neg h] at hfull ⊢
    cases hfull
    unfold flush
    dsimp only
    rw [Sink.write_limited hheld]
    by_cases hfits : (held ++ buffer).length ≤ limit
    · rw [if_pos hfits, decide_eq_true hfits]
      rfl
    · rw [if_neg hfits, decide_eq_false hfits]
      rfl

/-- **Any number of pieces**, by induction over them. Once a piece was refused the rest is not written. -/
theorem foldlM_put_limited (hheld : held.length ≤ limit) {ps : List Piece} {held' late : Octets}
    (hfull : ps.foldlM put ⟨⟨held, none⟩, buffer⟩ = .ok ⟨⟨held', none⟩, late⟩) :
    ∃ left, ps.foldlM put ⟨.limited limit held, buffer⟩ =
      if held'.length ≤ limit then .ok ⟨.limited limit held', late⟩ else .error ⟨.limited limit held', left⟩ := by
  induction ps generalizing held buffer with
  | nil =>
    cases hfull
    exact ⟨[], by rw [if_pos hheld]; rfl⟩
  | cons p ps ih =>
    obtain ⟨early, next, hput, -, -⟩ := exists_put held buffer p
    have hlimited := put_limited hheld hput
    rw [List.foldlM_cons, hput] at hfull
    rw [List.foldlM_cons, hlimited]
    by_cases hfits : (held ++ early).length ≤ limit
    · rw [if_pos hfits]
      exact ih hfits hfull
    · -- what the other sink holds by now goes beyond the limit, and it only grows
      obtain ⟨more, late', hrest, -, -⟩ := exists_foldlM_put (held ++ early) next ps
      cases hrest.symm.trans hfull
      have hbeyond : ¬(held ++ early ++ more).length ≤ limit := by
        rw [List.length_append]
        exact fun h => hfits (Nat.le_trans (Nat.le_add_right _ _) h)
      refine ⟨buffer, ?_⟩
      rw [if_neg hfits, if_neg hbeyond, Sink.limited_append_of_full (Nat.le_of_not_le hfits)]
      rfl

/-- The end of writing when the records were written in full. -/
theorem finish_limited (h : held.length ≤ limit) (left : Octets) :
    finish (.ok ⟨.limited limit held, left⟩) =
      (.limited limit (held ++ left), if (held ++ left).length ≤ limit then .complete else .cutAtEnd) := by
  unfold finish flush
  dsimp only
  rw [Sink.write_limited h]
  by_cases hfits : (held ++ left).length ≤ limit
  · rw [if_pos hfits, decide_eq_true hfits]
    exact Prod.ext (Sink.write_nil _) rfl
  · rw [if_neg hfits, decide_eq_false hfits]
    -- giving the writer up hands on the same octets again, but there is no room
    exact Prod.ext (Sink.write_limited_of_full (Nat.le_of_lt (Nat.lt_of_not_le hfits)) left) rfl

/-- **Rows on a sink without a limit**: they fill the buffer before the sink gets any of them. -/
theorem exists_rows (held : Octets) (rs : List Row) :
    ∃ early late, rows ⟨⟨held, none⟩, []⟩ rs = .ok ⟨⟨held ++ early, none⟩, late⟩ ∧
      late.length ≤ bufferSize ∧ ((early ++ late).length ≤ bufferSize → early = []) := by
  obtain ⟨early, late, hpieces, hall, hlate⟩ := exists_foldlM_put held [] (piecesOf rs)
  refine ⟨early, late, ?_, hlate (Nat.zero_le bufferSize) (length_of_mem_piecesOf rs), fun hsmall => ?_⟩
  · rw [rows_eq]
    exact hpieces
  · rw [hall, List.length_append] at hsmall
    have hsame := hpieces.symm.trans (foldlM_put_fits ⟨held, none⟩ hsmall)
    have hheld : held ++ early = held := congrArg (fun w => w.sink.held) (Except.ok.inj hsame)
    exact List.append_right_eq_self.mp hheld

/-- **Rows on the two sinks**: one is refused exactly if a writer without a limit has handed on more than the
    limit by the time they are all written. -/
theorem rows_limited (hheld : held.length ≤ limit) {rs : List Row} {held' late : Octets}
    (hfull : rows ⟨⟨held, none⟩, []⟩ rs = .ok ⟨⟨held', none⟩, late⟩) :
    ∃ left, rows ⟨.limited limit held, []⟩ rs =
      if held'.length ≤ limit then .ok ⟨.limited limit held', late⟩ else .error ⟨.limited limit held', left⟩ := by
  rw [rows_eq] at hfull ⊢
  exact foldlM_put_limited hheld hfull

end Writer

/-- **Writing to a limited sink**, given what a writer without a limit has handed on and what its buffer holds
    when the rows are written. -/
theorem write_limited {limit : Nat} {held held' late : Octets} (hheld : held.length ≤ limit) {rs : List Row}
    (hfull : Writer.rows ⟨⟨held, none⟩, []⟩ rs = .ok ⟨⟨held', none⟩, late⟩) :
    write (.limited limit held) rs =
      (.limited limit (held' ++ late),
        if (held' ++ late).length ≤ limit then .complete
        else if held'.length ≤ limit then .cutAtEnd else .cutInRecords) := by
  obtain ⟨left, hrows⟩ := Writer.rows_limited hheld hfull
  rw [write_eq, hrows]
  by_cases h : held'.length ≤ limit
  · rw [if_pos h, if_pos h, Writer.finish_limited h]
  · have hbeyond : ¬(held' ++ late).length ≤ limit := by
      rw [List.length_append]
      exact fun hle => h (Nat.le_trans (Nat.le_add_right _ _) hle)
    have hfull : limit ≤ held'.length := Nat.le_of_not_le h
    rw [if_neg h, if_neg h, if_neg hbeyond, Sink.limited_append_of_full hfull]
    exact Prod.ext (Sink.write_limited_of_full hfull left) rfl

end Csv

/-! ## The main result -/

/-- **No success for half an export.** Take any rows and a sink that holds something and takes so many octets
    more. On a sink without a limit the records leave `early` in the sink and `late` in the buffer, and the
    end of the export hands on the rest. On the limited sink, if both fit, the export succeeds, counts the rows
    and leaves the same. If not, the sink has as much of them as fits, each octet once, and the export fails:
    while records are written if `early` does not fit, so that one is refused, and at the end if it does. -/
theorem exportTo_limited (held : Octets) (rows : List Row) (room : Nat) :
    ∃ early late : Octets,
      Csv.Writer.rows ⟨⟨held, none⟩, []⟩ rows = .ok ⟨⟨held ++ early, none⟩, late⟩ ∧
      late.length ≤ Csv.bufferSize ∧ ((early ++ late).length ≤ Csv.bufferSize → early = []) ∧
      (room < early.length ↔ ∃ left, Csv.Writer.rows ⟨⟨held, some room⟩, []⟩ rows = .error left) ∧
      exportTo ⟨held, none⟩ rows = (⟨held ++ (early ++ late), none⟩, .ok rows.length) ∧
      exportTo ⟨held, some room⟩ rows =
        (⟨held ++ (early ++ late).take room, some (room - (early ++ late).length)⟩,
          if (early ++ late).length ≤ room then .ok rows.length
          else if early.length ≤ room then .error (.flush Sink.fullMessage)
          else .error (.records Sink.fullMessage)) := by
  obtain ⟨early, late, hfull, hlate, hsmall⟩ := Csv.Writer.exists_rows held rows
  have hheld : held.length ≤ held.length + room := Nat.le_add_right _ _
  have hfits (bs : Octets) : (held ++ bs).length ≤ held.length + room ↔ bs.length ≤ room := by
    rw [List.length_append, Nat.add_le_add_iff_left]
  -- the limit counts what the sink holds already
  obtain ⟨left, hrows⟩ := Csv.Writer.rows_limited hheld hfull
  have hwrite := Csv.write_limited hheld hfull
  rw [Sink.limited_room_self] at hrows hwrite
  rw [List.append_assoc, Sink.limited_room] at hwrite
  simp only [hfits] at hrows hwrite
  refine ⟨early, late, hfull, hlate, hsmall, ?_, ?_, ?_⟩
  · rw [hrows]
    by_cases h : early.length ≤ room
    · rw [if_pos h]
      exact ⟨fun hlt => absurd h (Nat.not_le_of_lt hlt), nofun⟩
    · rw [if_neg h]
      exact ⟨fun _ => ⟨_, rfl⟩, fun _ => Nat.lt_of_not_le h⟩
  · unfold exportTo
    rw [Csv.write_eq, hfull]
    show (Sink.mk (held ++ early ++ late ++ []) none, _) = _
    rw [List.append_nil, List.append_assoc]
  · unfold exportTo
    rw [hwrite]
    by_cases hall : (early ++ late).length ≤ room
    · rw [if_pos hall, if_pos hall]
    · rw [if_neg hall, if_neg hall]
      by_cases hearly : early.length ≤ room
      · rw [if_pos hearly, if_pos hearly]
      · rw [if_neg hearly, if_neg hearly]

/-- The header alone does not fit into ten octets, which is noticed when the buffer is handed on at the end. -/
example : exportTo ⟨[], some 10⟩ [] =
    (⟨Utf8.encode "Rank,Metho".toList, some 0⟩, .error (.flush Sink.fullMessage)) := rfl

end RankSieve
