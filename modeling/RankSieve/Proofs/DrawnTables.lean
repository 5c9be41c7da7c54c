import Mathlib.Data.List.Forall2
import RankSieve.Table

/-!
# `RankSieve.Proofs.DrawnTables` — what stands in a table that is drawn

A table is drawn line by line, with cells of several lines cut up and put side by side. `Drawn` says of lines that
they show given cells, without saying how wide a column is to be: row by row in order, every line of every cell
stands between two bars and blanks, in its row and in its column.

The drawing computes the widths first. A line fits into its column because the width of a column is the greatest
of the widths in it (`Table.fit_widths`), and that is all that the relation needs to know of them.

## Contents
- **Relations.** `Placed` pieces, `DrawnLine`, `DrawnRow` and `DrawnRows`, up to `Drawn`.
- **Widths.** `Table.fit_widths`: every cell fits into its column.
- **Drawing.** One lemma for each relation, and `Table.drawn_lines`.
-/

namespace RankSieve

/-! ## Relations -/

/-- A line in its place in a column: blanks on either side, one at least. In the middle of a column there are as
    many on the left as on the right or one more, and otherwise the line begins behind one blank. -/
def Placed (width : Nat) (centered : Bool) (line piece : Text) : Prop :=
  ∃ before after, piece = List.replicate before ' ' ++ line ++ List.replicate after ' ' ∧
    before + line.width + after = width + 2 ∧ 1 ≤ before ∧ 1 ≤ after ∧
    if centered then before = after ∨ before = after + 1 else before = 1

/-- What a cell has on its line of the given number, or nothing behind its last line. -/
def Cell.lineAt (c : Cell) (k : Nat) : Text := (c.content.splitOn '\n').getD k []

/-- A line of a row: what each cell has on it, in columns of the given widths. -/
def DrawnLine (widths : List Nat) (cells : List Cell) (k : Nat) (line : Text) : Prop :=
  ∃ pieces, List.Forall₂ (fun (column : Nat × Cell) piece =>
      Placed column.1 column.2.centered (column.2.lineAt k) piece) (widths.zip cells) pieces ∧
    line = '│' :: ['┆'].intercalate pieces ++ ['│']

/-- The lines of a row: as many as its highest cell has. -/
def DrawnRow (widths : List Nat) (cells : List Cell) (lines : List Text) : Prop :=
  (∀ c ∈ cells, (c.content.splitOn '\n').length ≤ lines.length) ∧
    (cells ≠ [] → ∃ c ∈ cells, (c.content.splitOn '\n').length = lines.length) ∧
    ∀ k line, lines[k]? = some line → DrawnLine widths cells k line

/-- The lines of all rows in order, with rules between them. -/
inductive DrawnRows (widths : List Nat) : List (List Cell) → List Text → Prop
  | last {cells : List Cell} {lines : List Text} : DrawnRow widths cells lines → DrawnRows widths [cells] lines
  | more {cells : List Cell} {lines : List Text} {rows : List (List Cell)} {below : List Text} :
      DrawnRow widths cells lines → DrawnRows widths rows below →
      DrawnRows widths (cells :: rows) (lines ++ Table.rule widths '├' '┼' '┤' '╌' :: below)

/-- The lines of a table with a header and rows of cells. -/
def Drawn (header : List Text) (rows : List (List Cell)) (lines : List Text) : Prop :=
  ∃ widths head body, widths.length = header.length ∧
    DrawnRow widths (header.map fun title => Cell.mk title false none) head ∧ DrawnRows widths rows body ∧
    lines = Table.rule widths '┌' '┬' '┐' '─' :: head ++ Table.rule widths '╞' '╪' '╡' '═' ::
      body ++ [Table.rule widths '└' '┴' '┘' '─']

/-! ## Widths -/

/-- Cells that fit into columns of the given widths, one into each. -/
def Fit (widths : List Nat) (cells : List Cell) : Prop := List.Forall₂ (fun w c => c.width ≤ w) widths cells

/-- The greatest of some numbers is one of them. -/
theorem foldl_max_spec {ns : List Nat} (hne : ns ≠ []) : ns.foldl max 0 ∈ ns ∧ ∀ n ∈ ns, n ≤ ns.foldl max 0 := by
  cases hmax : ns.max? with
  | none => exact absurd (List.max?_eq_none_iff.mp hmax) hne
  | some m =>
    have hgreatest : ns.foldl max 0 = m := by rw [List.foldl_max, hmax, Option.getD_some, Nat.zero_max]
    rw [hgreatest]
    exact List.max?_eq_some_iff.mp hmax

/-- A line of a cell is no wider than the cell. -/
theorem Cell.width_lineAt (c : Cell) (k : Nat) : (c.lineAt k).width ≤ c.width := by
  unfold Cell.lineAt
  rw [List.getD_eq_getElem?_getD]
  cases h : (c.content.splitOn '\n')[k]? with
  | none => exact Nat.zero_le _
  | some line =>
    have hline : Text.width line ∈ c.lines.map Text.width := List.mem_map_of_mem (List.mem_of_getElem? h)
    exact (foldl_max_spec (List.ne_nil_of_mem hline)).2 _ hline

variable {widths : List Nat} {row : List Cell}

/-- What fits into columns fits into them if a row widens them, -/
theorem Fit.join {cells : List Cell} (h : Fit widths cells) (hlength : row.length = widths.length) :
    Fit (List.zipWith max widths (row.map Cell.width)) cells := by
  induction h generalizing row with
  | nil =>
    obtain rfl := List.eq_nil_of_length_eq_zero hlength
    exact .nil
  | cons hfit _ ih =>
    cases row with
    | nil => cases hlength
    | cons c row => exact .cons (Nat.le_trans hfit (Nat.le_max_left _ _)) (ih (Nat.succ.inj hlength))

/-- and so does the row. -/
theorem fit_join (hlength : row.length = widths.length) :
    Fit (List.zipWith max widths (row.map Cell.width)) row := by
  induction widths generalizing row with
  | nil =>
    obtain rfl := List.eq_nil_of_length_eq_zero hlength
    exact .nil
  | cons w widths ih =>
    cases row with
    | nil => cases hlength
    | cons c row => exact .cons (Nat.le_max_right _ _) (ih (Nat.succ.inj hlength))

/-- **Every row fits** into the columns that all rows together come to, and so does what fitted before. By induction
    over the rows, each of which only widens. -/
theorem fit_foldl {rows : List (List Cell)} (hlength : ∀ row ∈ rows, row.length = widths.length) :
    let all := rows.foldl (fun ws row => List.zipWith max ws (row.map Cell.width)) widths
    (∀ cells, Fit widths cells → Fit all cells) ∧ ∀ row ∈ rows, Fit all row := by
  induction rows generalizing widths with
  | nil => exact ⟨fun cells h => h, fun row hrow => absurd hrow List.not_mem_nil⟩
  | cons row rows ih =>
    rw [List.forall_mem_cons] at hlength
    obtain ⟨hrow, hrows⟩ := hlength
    have hjoined : (List.zipWith max widths (row.map Cell.width)).length = widths.length := by simp [hrow]
    obtain ⟨hbefore, hrest⟩ := ih fun r hr => (hrows r hr).trans hjoined.symm
    refine ⟨fun cells h => hbefore cells (h.join hrow), ?_⟩
    rw [List.forall_mem_cons]
    exact ⟨hbefore row (fit_join hrow), hrest⟩

/-- The columns of a table hold its header and its rows. -/
theorem Table.fit_widths {t : Table} (h : ∀ row ∈ t.rows, row.length = t.header.length) :
    Fit t.widths t.headerCells ∧ ∀ row ∈ t.rows, Fit t.widths row := by
  have hlength : (t.headerCells.map Cell.width).length = t.header.length := by simp [Table.headerCells]
  have hheader : Fit (t.headerCells.map Cell.width) t.headerCells :=
    List.forall₂_map_left_iff.mpr (List.forall₂_same.mpr fun c _ => Nat.le_refl c.width)
  obtain ⟨hbefore, hrows⟩ := fit_foldl fun row hrow => (h row hrow).trans hlength.symm
  exact ⟨hbefore _ hheader, hrows⟩

/-! ## Drawing -/

/-- A line that fits is put in its place. -/
theorem placed_place {width : Nat} {c : Cell} {line : Text} (h : line.width ≤ width) :
    Placed width c.centered line (c.place width line) := by
  let free := width - line.width
  have hfree : line.width + free = width := Nat.add_sub_of_le h
  unfold Placed Cell.place
  cases c.centered with
  | true =>
    refine ⟨(free + 1) / 2 + 1, free - (free + 1) / 2 + 1, rfl, ?_, ?_, ?_, ?_⟩
    · omega
    · omega
    · omega
    · rw [if_pos rfl]
      omega
  | false =>
    refine ⟨0 + 1, free - 0 + 1, rfl, ?_, ?_, ?_, rfl⟩
    · omega
    · omega
    · omega

/-- One line of a row whose cells fit. -/
theorem drawnLine_rowLine (h : Fit widths row) (k : Nat) :
    DrawnLine widths row k (Table.rowLine widths row k) := by
  refine ⟨_, ?_, rfl⟩
  induction h with
  | nil => exact .nil
  | @cons w c widths cells hfit _ ih =>
    exact .cons (placed_place (Nat.le_trans (c.width_lineAt k) hfit)) ih

/-- All lines of a row. -/
theorem drawnRow_rowLines (h : Fit widths row) : DrawnRow widths row (Table.rowLines widths row) := by
  let heights := row.map fun c => c.lines.length
  have hlength : (Table.rowLines widths row).length = heights.foldl max 0 := by simp [Table.rowLines, heights]
  refine ⟨?_, ?_, ?_⟩
  · intro c hc
    have hheight : c.lines.length ∈ heights := List.mem_map_of_mem hc
    rw [hlength]
    exact (foldl_max_spec (List.ne_nil_of_mem hheight)).2 _ hheight
  · intro hne
    have hheights : heights ≠ [] := mt List.map_eq_nil_iff.mp hne
    obtain ⟨c, hc, hheight⟩ := List.mem_map.mp (foldl_max_spec hheights).1
    rw [hlength]
    exact ⟨c, hc, hheight⟩
  · intro k line hline
    unfold Table.rowLines at hline
    rw [List.getElem?_map, Option.map_eq_some_iff] at hline
    obtain ⟨i, hi, rfl⟩ := hline
    obtain rfl : i = k := by
      obtain ⟨_, hnumber⟩ := List.getElem_of_getElem? hi
      rw [List.getElem_range] at hnumber
      exact hnumber.symm
    exact drawnLine_rowLine h i

/-- All rows. -/
theorem drawnRows_bodyLines {rows : List (List Cell)} (hne : rows ≠ [])
    (h : ∀ row ∈ rows, Fit widths row) : DrawnRows widths rows (Table.bodyLines widths rows) := by
  fun_induction Table.bodyLines widths rows with
  | case1 => exact absurd rfl hne
  | case2 row => exact .last (drawnRow_rowLines (h row List.mem_cons_self))
  | case3 row rows hmore ih =>
    rw [List.forall_mem_cons] at h
    have hrest : rows ≠ [] := fun hnil => hmore hnil
    exact .more (drawnRow_rowLines h.1) (ih hrest h.2)

/-- **A table is drawn** with its header and its rows, if there is a row and each has a cell for every column. -/
theorem Table.drawn_lines {t : Table} (hne : t.rows ≠ []) (h : ∀ row ∈ t.rows, row.length = t.header.length) :
    Drawn t.header t.rows t.lines := by
  obtain ⟨hheader, hrows⟩ := Table.fit_widths h
  have hlength : t.widths.length = t.header.length := by
    rw [hheader.length_eq]
    exact List.length_map _
  exact ⟨t.widths, _, _, hlength, drawnRow_rowLines hheader, drawnRows_bodyLines hne hrows, rfl⟩

/-- A cell of two lines, beside one of one line. -/
example : (Table.mk ["A".toList, "B".toList] [[.center "1".toList, .left "xy\nz".toList]]).lines =
    ["┌───┬────┐", "│ A ┆ B  │", "╞═══╪════╡", "│ 1 ┆ xy │", "│   ┆ z  │", "└───┴────┘"].map String.toList := by
  decide +kernel

end RankSieve
