import RankSieve.Program
import RankSieve.Proofs.JsonValues
import RankSieve.Proofs.VisibleRows

/-!
# `RankSieve.Proofs.JsonRows` — rows that were written as JSON are loaded again

A row is an object of four or five members, a list of rows an array of such objects. Both are a bracket,
parts with commas between them, and a bracket; the readers take one part for each unit of fuel, so each
list of parts is read by one induction over the parts that remain. How a row is laid out, on one line or on
several, only changes the blanks between its parts.

Since everything of a row is read back, what is printed of some rows can be filtered again.

## Contents
- **Parts between brackets.** `others` is what follows the first part; `intercalate_append` has the printer
  write it.
- **Layouts.** `Layout.row` writes a row with its blanks as a parameter; `compactRow_eq` and
  `indentedRow_eq` say that both forms of a row are of this kind.
- **Objects.** `read_valueText` reads the value of a member, `readMembersFrom_member` a member,
  `readObject_body` a row.
- **Arrays.** `readRowsFrom_rows` reads rows by induction, `decodeRows_rows` a whole array.
- **The main result.** `jsonReport_reloads`: a report is loaded as the rows it was made of, and filtering
  goes on from there as from the rows before.
-/

namespace RankSieve

namespace Json

/-! ## Parts between brackets -/

/-- What stands in front of a part of an object or an array: a comma, unless it is the first. -/
def lead (first : Bool) : Text := if first then [] else [',']

/-- What follows the first part: the others behind commas, blanks, and the closing bracket. -/
def others (last : Text) (closing : Char) (parts : List Text) (rest : Text) : Text :=
  parts.flatMap (',' :: ·) ++ (last ++ closing :: rest)

section

variable (last : Text) (closing : Char) (rest : Text)

theorem others_nil : others last closing [] rest = last ++ closing :: rest := rfl

theorem others_cons (p : Text) (ps : List Text) :
    others last closing (p :: ps) rest = lead false ++ (p ++ others last closing ps rest) := by
  unfold others lead
  simp

/-- Every part has its comma, and there is the bracket. -/
theorem length_lt_others (ps : List Text) : ps.length < (others last closing ps rest).length := by
  have hparts : ps.length ≤ (ps.flatMap (',' :: ·)).length := length_le_flatMap fun p _ => List.cons_ne_nil _ _
  unfold others
  simp only [List.length_append, List.length_cons]
  omega

/-- Parts with commas between them are the first part and the others. -/
theorem intercalate_append (p : Text) (ps : List Text) :
    [','].intercalate (p :: ps) ++ (last ++ closing :: rest) =
      lead true ++ (p ++ others last closing ps rest) := by
  induction ps generalizing p with
  | nil => simp [lead, others]
  | cons q ps ih =>
    rw [List.intercalate_cons_cons, others_cons, List.append_assoc, List.append_assoc, ih q]
    rfl

end

/-- Blanks do not go on with a number. -/
theorem endsNumber_append {b t : Text} {c : Char} (hb : JsonBlank b) (ht : EndsNumber (c :: t)) :
    EndsNumber (b ++ c :: t) := by
  cases b with
  | nil => exact ht
  | cons d b =>
    intro x hx
    obtain rfl : d = x := Option.some.inj hx
    have hd := hb d List.mem_cons_self
    unfold isJsonBlank at hd
    simp only [Bool.or_eq_true, decide_eq_true_eq] at hd
    obtain ((rfl | rfl) | rfl) | rfl := hd <;> decide

/-- No more do a comma and a closing bracket. -/
theorem endsNumber_others {last : Text} (hlast : JsonBlank last) (ps : List Text) (rest : Text) :
    EndsNumber (others last '\x7d' ps rest) := by
  cases ps with
  | nil =>
    rw [others_nil]
    refine endsNumber_append hlast ?_
    intro c hc
    obtain rfl := Option.some.inj hc
    decide
  | cons p ps =>
    rw [others_cons]
    intro c hc
    obtain rfl := Option.some.inj hc
    decide

/-! ## Layouts -/

/-- What stands behind the separators may as well stand in front of the parts. -/
theorem intercalate_push (s b : Text) {ps : List Text} (hps : ps ≠ []) :
    b ++ (s ++ b).intercalate ps = s.intercalate (ps.map (b ++ ·)) := by
  cases ps with
  | nil => exact absurd rfl hps
  | cons p ps =>
    clear hps
    induction ps generalizing p with
    | nil => simp
    | cons q ps ih =>
      have hq := ih q
      simp only [List.map_cons, List.intercalate_cons_cons] at hq ⊢
      rw [← hq]
      simp only [List.append_assoc]

/-- The blanks of a row: in front of each key, in front of each value, and behind the last value. -/
structure Layout where
  key   : Text
  value : Text
  last  : Text

/-- A layout has blanks only. -/
structure Layout.Blank (l : Layout) : Prop where
  key   : JsonBlank l.key
  value : JsonBlank l.value
  last  : JsonBlank l.last

/-- Everything on one line, without blanks. -/
def Layout.compact : Layout := ⟨[], [], []⟩

/-- Every member on a line of its own. -/
def Layout.indented : Layout := ⟨"\n    ".toList, [' '], "\n  ".toList⟩

theorem Layout.compact_blank : Layout.compact.Blank := ⟨by decide, by decide, by decide⟩

theorem Layout.indented_blank : Layout.indented.Blank := ⟨by decide, by decide, by decide⟩

namespace Layout

variable (l : Layout)

/-- A member with its key and its written value. -/
def member (entry : Text × Text) : Text := l.key ++ (string entry.1 ++ ':' :: (l.value ++ entry.2))

/-- What follows the opening bracket of a row. -/
def body (r : Row) : Text := [','].intercalate ((rowMembers r).map l.member) ++ (l.last ++ ['\x7d'])

/-- A row. -/
def row (r : Row) : Text := '\x7b' :: l.body r

end Layout

theorem compactRow_eq (r : Row) : compactRow r = Layout.compact.row r := rfl

/-- A member on a line of its own. -/
def indentedMember (entry : Text × Text) : Text := "    ".toList ++ string entry.1 ++ ": ".toList ++ entry.2

theorem indentedRow_eq (r : Row) : indentedRow r = "  ".toList ++ Layout.indented.row r := by
  have hrow : indentedRow r = "  \x7b\n".toList ++ ",\n".toList.intercalate ((rowMembers r).map indentedMember) ++
      "\n  \x7d".toList := rfl
  have hne : (rowMembers r).map indentedMember ≠ [] := List.cons_ne_nil _ _
  have hpush := intercalate_push [','] ['\n'] hne
  have hmember : (rowMembers r).map Layout.indented.member =
      ((rowMembers r).map indentedMember).map (['\n'] ++ ·) := by
    rw [List.map_map]
    refine List.map_congr_left fun entry _ => ?_
    show "\n    ".toList ++ (string entry.1 ++ ':' :: ([' '] ++ entry.2)) =
      '\n' :: ("    ".toList ++ string entry.1 ++ ": ".toList ++ entry.2)
    simp
  unfold Layout.row Layout.body
  rw [hrow, hmember, ← hpush]
  simp [Layout.indented]

/-! ## Members -/

/-- Whether a row has the member. -/
def Member.isOf (row : Row) (m : Member) : Bool := m != .exchange || row.exchange.isSome

/-- The members that a row has. -/
def Member.allOf (row : Row) : List Member :=
  [Member.rank, .method, .url, .status, .exchange].filter (Member.isOf row)

/-- The value of a member as it is written. -/
def Member.valueText (row : Row) : Member → Text
  | .rank     => row.rankText
  | .method   => string row.method
  | .url      => string row.url
  | .status   => row.statusText
  | .exchange => string (row.exchange.getD [])

/-- The members read so far, and one more of a row. -/
def PartialRow.take (p : PartialRow) (row : Row) : Member → PartialRow
  | .rank     => { p with rank := some row.rank }
  | .method   => { p with method := some row.method }
  | .url      => { p with url := some row.url }
  | .status   => { p with status := some row.status }
  | .exchange => { p with exchange := some row.exchange }

/-- The members read so far, and some more of a row. -/
def PartialRow.takeAll (p : PartialRow) (row : Row) (ms : List Member) : PartialRow :=
  ms.foldl (fun (p : PartialRow) m => p.take row m) p

theorem rowMembers_eq (row : Row) :
    rowMembers row = (Member.allOf row).map fun m => (m.name, m.valueText row) := by
  obtain ⟨rank, method, url, status, exchange⟩ := row
  cases exchange with
  | none => rfl
  | some x => rfl

theorem allOf_eq_cons (row : Row) : ∃ ms, Member.allOf row = .rank :: ms := ⟨_, rfl⟩

theorem allOf_nodup (row : Row) : (Member.allOf row).Nodup :=
  List.Nodup.filter _ (by decide)

/-- All members together are the row. -/
theorem complete_allOf (row : Row) :
    (PartialRow.empty.takeAll row (Member.allOf row)).complete = .ok row := by
  obtain ⟨rank, method, url, status, exchange⟩ := row
  cases exchange with
  | none => rfl
  | some x => rfl

theorem has_take (p : PartialRow) (row : Row) (m m' : Member) :
    (p.take row m).has m' = (decide (m' = m) || p.has m') := by
  cases m <;> cases m' <;> rfl

theorem ofKey?_name (m : Member) : Member.ofKey? m.name = some m := by
  cases m <;> decide

/-- **The value of a member** is read as the row has it. -/
theorem read_valueText {p : PartialRow} {row : Row} {m : Member} {b rest : Text} (hm : m.isOf row = true)
    (hb : JsonBlank b) (hrest : EndsNumber rest) :
    p.read m (b ++ (m.valueText row ++ rest)) = .ok (p.take row m, rest) := by
  cases m with
  | rank => simp only [PartialRow.read, Member.valueText, readRank_rankText row hb hrest]; rfl
  | method => simp only [PartialRow.read, Member.valueText, readText_string hb]; rfl
  | url => simp only [PartialRow.read, Member.valueText, readText_string hb]; rfl
  | status => simp only [PartialRow.read, Member.valueText, readStatus_statusText row hb hrest]; rfl
  | exchange =>
    have hsome : row.exchange.isSome = true := hm
    obtain ⟨x, hx⟩ := Option.isSome_iff_exists.mp hsome
    have htake : p.take row .exchange = { p with exchange := some (some x) } := by
      unfold PartialRow.take
      rw [hx]
    simp only [PartialRow.read, Member.valueText, hx, Option.getD_some, readOptionalText_string hb, htake]
    rfl

/-! ## Objects -/

theorem nextKey_string {first : Bool} {b k rest : Text} (hb : JsonBlank b) :
    nextKey first (lead first ++ (b ++ (string k ++ rest))) = .ok (some k, rest) := by
  have hskip : skipBlanks (b ++ (string k ++ rest)) = '"' :: (k.flatMap stringChar ++ '"' :: rest) := by
    rw [string_append, skipBlanks_append_cons hb (by decide)]
  have hkey : nextKey.key (k.flatMap stringChar ++ '"' :: rest) = .ok (some k, rest) := by
    unfold nextKey.key
    rw [readString_flatMap]
    rfl
  cases first with
  | true =>
    show nextKey true (b ++ (string k ++ rest)) = _
    unfold nextKey
    rw [hskip]
    exact hkey
  | false =>
    have hcomma : skipBlanks (',' :: (b ++ (string k ++ rest))) = ',' :: (b ++ (string k ++ rest)) :=
      skipBlanks_cons (by decide)
    show nextKey false (',' :: (b ++ (string k ++ rest))) = _
    unfold nextKey
    rw [hcomma]
    show (if false = true then _ else if ',' = ',' then _ else _) = _
    rw [if_neg Bool.false_ne_true, if_pos rfl, hskip]
    exact hkey

theorem nextKey_end {first : Bool} {b rest : Text} (hb : JsonBlank b) :
    nextKey first (b ++ '\x7d' :: rest) = .ok (none, '\x7d' :: rest) := by
  unfold nextKey
  rw [skipBlanks_append_cons hb (by decide)]
  rfl

theorem passColon_cons (t : Text) : passColon (':' :: t) = .ok t := by
  unfold passColon
  rw [skipBlanks_cons (by decide)]
  rfl

section

variable {l : Layout} {row : Row}

/-- **One member is read** for one unit of fuel. -/
theorem readMembersFrom_member (hl : l.Blank) {m : Member} {p : PartialRow} {rest : Text} (first : Bool)
    (x : Char) (fuel : Fuel) (hm : m.isOf row = true) (hnew : p.has m = false) (hrest : EndsNumber rest) :
    readMembersFrom (x :: fuel) first p (lead first ++ (l.member (m.name, m.valueText row) ++ rest)) =
      readMembersFrom fuel false (p.take row m) rest := by
  have hkey : nextKey first (lead first ++ (l.member (m.name, m.valueText row) ++ rest)) =
      .ok (some m.name, ':' :: (l.value ++ (m.valueText row ++ rest))) := by
    unfold Layout.member
    simp only [List.append_assoc, List.cons_append]
    exact nextKey_string hl.key
  rw [readMembersFrom, hkey]
  simp only [bind, Except.bind, ofKey?_name, hnew, passColon_cons, read_valueText hm hl.value hrest]
  rfl

/-- A member of a row as it is written. -/
def Layout.memberOf (l : Layout) (row : Row) (m : Member) : Text := l.member (m.name, m.valueText row)

/-- The members that remain are read, as long as they complete the row. -/
theorem readMembersFrom_members (hl : l.Blank) {ms : List Member} {p : PartialRow} {fuel : Fuel} (rest : Text)
    (hof : ∀ m ∈ ms, m.isOf row = true) (hnew : ∀ m ∈ ms, p.has m = false) (hnodup : ms.Nodup)
    (hcomplete : (p.takeAll row ms).complete = .ok row) (hfuel : ms.length < fuel.length) :
    readMembersFrom fuel false p (others l.last '\x7d' (ms.map (l.memberOf row)) rest) =
      .ok (row, '\x7d' :: rest) := by
  induction ms generalizing p fuel with
  | nil =>
    cases fuel with
    | nil => exact absurd hfuel (Nat.lt_irrefl 0)
    | cons x fuel =>
      have hrow : p.complete = .ok row := hcomplete
      rw [List.map_nil, others_nil, readMembersFrom, nextKey_end hl.last]
      simp only [bind, Except.bind, hrow]
  | cons m ms ih =>
    cases fuel with
    | nil => exact absurd hfuel (by simp)
    | cons x fuel =>
      obtain ⟨hmem, hnodup⟩ := List.nodup_cons.mp hnodup
      have hnew' : ∀ m' ∈ ms, (p.take row m).has m' = false := by
        intro m' hm'
        have hne : m' ≠ m := by
          rintro rfl
          exact hmem hm'
        rw [has_take, hnew m' (List.mem_cons_of_mem _ hm'), decide_eq_false hne]
        rfl
      have hends := endsNumber_others hl.last (ms.map (l.memberOf row)) rest
      have hstep := readMembersFrom_member hl false x fuel (hof m List.mem_cons_self)
        (hnew m List.mem_cons_self) hends
      rw [List.map_cons, others_cons]
      refine hstep.trans ?_
      exact ih (fun m' hm' => hof m' (List.mem_cons_of_mem _ hm')) hnew' hnodup hcomplete
        (Nat.lt_of_succ_lt_succ hfuel)

/-- **A row is read back**, behind its opening bracket. -/
theorem readObject_body (hl : l.Blank) (rest : Text) : readObject (l.body row ++ rest) = .ok (row, rest) := by
  obtain ⟨ms, hms⟩ := allOf_eq_cons row
  have hnodup := allOf_nodup row
  have hcomplete := complete_allOf row
  have hof : ∀ m ∈ Member.allOf row, m.isOf row = true := fun m hm => (List.mem_filter.mp hm).2
  rw [hms] at hnodup hcomplete hof
  obtain ⟨hmem, hnodup⟩ := List.nodup_cons.mp hnodup
  have htext : l.body row ++ rest = lead true ++ (l.memberOf row .rank ++
      others l.last '\x7d' (ms.map (l.memberOf row)) rest) := by
    have hparts := intercalate_append l.last '\x7d' rest (l.memberOf row .rank) (ms.map (l.memberOf row))
    rw [← hparts]
    unfold Layout.body
    rw [rowMembers_eq, hms, List.map_map, List.append_assoc, List.append_assoc]
    rfl
  -- the fuel is the text itself, in which every member behind the first has its comma
  have hfuel : ms.length < (l.body row ++ rest).length := by
    have hothers := length_lt_others l.last '\x7d' rest (ms.map (l.memberOf row))
    rw [List.length_map] at hothers
    rw [htext, List.length_append, List.length_append]
    omega
  have hnew : ∀ m ∈ ms, (PartialRow.empty.take row .rank).has m = false := by
    intro m hm
    have hne : m ≠ .rank := by
      rintro rfl
      exact hmem hm
    rw [has_take, decide_eq_false hne]
    cases m <;> rfl
  have hends := endsNumber_others hl.last (ms.map (l.memberOf row)) rest
  have hfirst := readMembersFrom_member hl true ' ' (l.body row ++ rest) (p := .empty)
    (hof .rank List.mem_cons_self) rfl hends
  have hothers := readMembersFrom_members hl rest (fun m hm => hof m (List.mem_cons_of_mem _ hm)) hnew hnodup
    hcomplete hfuel
  have hread : readMembersFrom (' ' :: (l.body row ++ rest)) true .empty (l.body row ++ rest) =
      .ok (row, '\x7d' :: rest) := by
    conv => lhs; arg 4; rw [htext]
    exact hfirst.trans hothers
  unfold readObject Text.fuel
  rw [hread]
  simp only [bind, Except.bind]
  rw [skipBlanks_cons (by decide)]
  rfl

theorem row_append (rest : Text) : l.row row ++ rest = '\x7b' :: (l.body row ++ rest) := rfl

/-- A row with blanks in front is read back. -/
theorem readRow_row (row : Row) (hl : l.Blank) {b : Text} (hb : JsonBlank b) (rest : Text) :
    readRow (b ++ (l.row row ++ rest)) = .ok (row, rest) := by
  unfold readRow
  rw [row_append, skipBlanks_append_cons hb (by decide)]
  exact readObject_body hl rest

/-! ## Arrays -/

theorem nextElement_row {first : Bool} {b : Text} (hb : JsonBlank b) (rest : Text) :
    nextElement first (lead first ++ (b ++ (l.row row ++ rest))) = .ok (true, l.row row ++ rest) := by
  have hskip : skipBlanks (b ++ (l.row row ++ rest)) = l.row row ++ rest := by
    rw [row_append, skipBlanks_append_cons hb (by decide)]
  cases first with
  | true =>
    show nextElement true (b ++ (l.row row ++ rest)) = _
    unfold nextElement
    rw [hskip]
    rfl
  | false =>
    have hcomma : skipBlanks (',' :: (b ++ (l.row row ++ rest))) = ',' :: (b ++ (l.row row ++ rest)) :=
      skipBlanks_cons (by decide)
    show nextElement false (',' :: (b ++ (l.row row ++ rest))) = _
    unfold nextElement
    rw [hcomma]
    show (if false = true then _ else if ',' = ',' then _ else _) = _
    rw [if_neg Bool.false_ne_true, if_pos rfl, hskip]
    rfl

theorem nextElement_end {first : Bool} {b : Text} (hb : JsonBlank b) (rest : Text) :
    nextElement first (b ++ ']' :: rest) = .ok (false, ']' :: rest) := by
  unfold nextElement
  rw [skipBlanks_append_cons hb (by decide)]
  rfl

/-- **One row of an array is read** for one unit of fuel. -/
theorem readRowsFrom_row (row : Row) (hl : l.Blank) {b rest : Text} {rows : List Row} {end' : Text}
    (first : Bool) (x : Char) (fuel : Fuel) (hb : JsonBlank b) (hrest : readRowsFrom fuel false rest = .ok (rows, end')) :
    readRowsFrom (x :: fuel) first (lead first ++ (b ++ (l.row row ++ rest))) = .ok (row :: rows, end') := by
  have hrow := readRow_row row hl (b := []) (by decide) rest
  rw [List.nil_append] at hrow
  rw [readRowsFrom, nextElement_row hb]
  simp only [bind, Except.bind, if_true, hrow, hrest]

/-- The rows that remain are read. -/
theorem readRowsFrom_rows (hl : l.Blank) {b e : Text} {fuel : Fuel} {rows : List Row} (hb : JsonBlank b)
    (he : JsonBlank e) (rest : Text) (hfuel : rows.length < fuel.length) :
    readRowsFrom fuel false (others e ']' (rows.map fun r => b ++ l.row r) rest) = .ok (rows, ']' :: rest) := by
  induction rows generalizing fuel with
  | nil =>
    cases fuel with
    | nil => exact absurd hfuel (Nat.lt_irrefl 0)
    | cons x fuel =>
      rw [List.map_nil, others_nil, readRowsFrom, nextElement_end he]
      rfl
  | cons r rows ih =>
    cases fuel with
    | nil => exact absurd hfuel (by simp)
    | cons x fuel =>
      have hstep := readRowsFrom_row r hl false x fuel hb
        (ih (Nat.lt_of_succ_lt_succ hfuel))
      rw [List.map_cons, others_cons, List.append_assoc]
      exact hstep

/-- **An array of rows is read**, whatever blanks are written between them. -/
theorem readRows_array (hl : l.Blank) {b e : Text} (hb : JsonBlank b) (he : JsonBlank e) (r : Row) (rs : List Row)
    (t : Text) :
    readRows ('[' :: ((b ++ l.row r) ++ others e ']' (rs.map fun r => b ++ l.row r) t)) = .ok (r :: rs, t) := by
  let text := (b ++ l.row r) ++ others e ']' (rs.map fun r => b ++ l.row r) t
  have hfuel : rs.length < text.length := by
    have hothers := length_lt_others e ']' t (rs.map fun r => b ++ l.row r)
    rw [List.length_map] at hothers
    rw [List.length_append]
    omega
  have hrest := readRowsFrom_rows hl hb he t hfuel
  have hall := readRowsFrom_row r hl true ' ' text hb hrest
  rw [← List.append_assoc b] at hall
  have hread : readRowsFrom (Text.fuel text) true text = .ok (r :: rs, ']' :: t) := hall
  unfold readRows
  rw [skipBlanks_cons (by decide)]
  show (readRowsFrom (Text.fuel text) true text >>= _) = _
  rw [hread]
  simp only [bind, Except.bind]
  unfold endArray
  rw [skipBlanks_cons (by decide)]
  rfl

end

/-- A row of an array with the line feed and the blanks in front of it. -/
def rowLine (r : Row) : Text := "\n  ".toList ++ Layout.indented.row r

theorem rows_append (r : Row) (rs : List Row) (t : Text) :
    rows (r :: rs) ++ t = '[' :: (lead true ++ (rowLine r ++ others ['\n'] ']' (rs.map rowLine) t)) := by
  -- the line feed behind a comma is taken for the beginning of the next row
  have hne : (r :: rs).map indentedRow ≠ [] := List.cons_ne_nil _ _
  have hpush := intercalate_push [','] ['\n'] hne
  have hline : ((r :: rs).map indentedRow).map (['\n'] ++ ·) = rowLine r :: rs.map rowLine := by
    rw [List.map_map]
    refine List.map_congr_left fun r _ => ?_
    show '\n' :: indentedRow r = rowLine r
    rw [indentedRow_eq]
    rfl
  calc rows (r :: rs) ++ t
      = '[' :: (['\n'] ++ ([','] ++ ['\n']).intercalate ((r :: rs).map indentedRow) ++ "\n]".toList ++ t) := rfl
    _ = '[' :: ([','].intercalate (rowLine r :: rs.map rowLine) ++ (['\n'] ++ ']' :: t)) := by
      rw [hpush, hline, List.append_assoc]
      rfl
    _ = _ := by rw [intercalate_append]

theorem readRows_rows (rs : List Row) (t : Text) : readRows (rows rs ++ t) = .ok (rs, t) := by
  cases rs with
  | nil => rfl
  | cons r rs =>
    rw [rows_append]
    exact readRows_array Layout.indented_blank (b := "\n  ".toList) (e := ['\n']) (by decide) (by decide) r rs t

theorem skipBlanks_blank {b : Text} (hb : JsonBlank b) : skipBlanks b = [] := by
  rw [← List.append_nil b, skipBlanks_append hb]
  rfl

/-- A row on one line is read back by itself. -/
theorem decodeRow_compactRow (r : Row) {b : Text} (hb : JsonBlank b) : decodeRow (compactRow r ++ b) = .ok r := by
  have hread := readRow_row r Layout.compact_blank (b := []) (by decide) b
  unfold decodeRow decode
  rw [compactRow_eq, ← List.nil_append (Layout.compact.row r ++ b), hread]
  simp only [bind, Except.bind, skipBlanks_blank hb]

/-- **Rows are read back** from the array that they were written as, whatever blanks follow it. -/
theorem decodeRows_rows (rs : List Row) {b : Text} (hb : JsonBlank b) : decodeRows (rows rs ++ b) = .ok rs := by
  unfold decodeRows decode
  rw [readRows_rows]
  simp only [bind, Except.bind, skipBlanks_blank hb]

theorem rows_head (rs : List Row) : ∃ t, rows rs = '[' :: t := by
  cases rs with
  | nil => exact ⟨_, rfl⟩
  | cons r rs => exact ⟨_, rfl⟩

end Json

/-! ## The main result -/

/-- An array shows in its first character, so it is never taken for lines. -/
theorem parseRows_rows (origin : Text) (rs : List Row) {b : Text} (hb : Json.JsonBlank b) :
    parseRows origin (Json.rows rs ++ b) = .ok rs := by
  obtain ⟨t, ht⟩ := Json.rows_head rs
  have harray : isArrayText (Json.rows rs ++ b) = true := by
    rw [ht]
    rfl
  unfold parseRows rowsOfText rowsOfArray
  rw [if_pos harray, Json.decodeRows_rows rs hb]
  rfl

/-- What is printed of the rows that a query leaves, as JSON. -/
theorem filterText_json [PatternLibrary] (c : Program.Context) (rows : List Row) (query : Text) :
    Program.filterText c rows (FilterBar.forQuery c.settings (some query)).1 .json =
      Json.rows ((Filter.ofQuery c.settings.patternSizeLimit query).select rows) ++ ['\n'] := by
  unfold Program.filterText jsonReport
  rw [rowsAt_forQuery]

/-- **What is printed as JSON can be filtered again.** The report of any places is loaded as the rows at
    those places that exist, in the order of the places and as often as these occur. So what is printed of
    the rows that a query leaves is loaded as these rows; another query leaves of them the rows that fulfil
    both, in their order; and the same query prints the same text of them as before. -/
theorem jsonReport_reloads [PatternLibrary] (origin : Text) (rows : List Row) :
    (∀ places, parseRows origin (jsonReport rows places) = .ok (places.filterMap fun i => rows[i]?)) ∧
    ∀ (c : Program.Context) (q₁ q₂ : Text),
      let keeps (q : Text) (r : Row) : Bool := (Filter.ofQuery c.settings.patternSizeLimit q).keeps r
      let bar (q : Text) : FilterBar := (FilterBar.forQuery c.settings (some q)).1
      let printed (q : Text) (rows : List Row) : Text := Program.filterText c rows (bar q) .json
      ∃ kept, parseRows origin (printed q₁ rows) = .ok kept ∧
        rowsAt kept ((bar q₂).visible kept) = rows.filter (fun r => keeps q₁ r && keeps q₂ r) ∧
        printed q₁ kept = printed q₁ rows := by
  have hblank : Json.JsonBlank [] := by decide
  have hfeed : Json.JsonBlank ['\n'] := by decide
  constructor
  · intro places
    have hparse := parseRows_rows origin (rowsAt rows places) hblank
    rw [List.append_nil] at hparse
    exact hparse
  · intro c q₁ q₂ keeps bar printed
    let f (q : Text) : Filter := Filter.ofQuery c.settings.patternSizeLimit q
    have hprinted : ∀ q rs, printed q rs = Json.rows ((f q).select rs) ++ ['\n'] :=
      fun q rs => filterText_json c rs q
    refine ⟨(f q₁).select rows, ?_, ?_, ?_⟩
    · rw [hprinted]
      exact parseRows_rows origin _ hfeed
    · rw [rowsAt_forQuery, Filter.select_select]
    · rw [hprinted, hprinted, Filter.select_self]

end RankSieve
