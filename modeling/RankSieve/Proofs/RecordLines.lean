import Mathlib.Data.List.Forall2
import RankSieve.Proofs.JsonRows
import RankSieve.Proofs.Lines
import RankSieve.Proofs.RecordEnds
import RankSieve.Proofs.Words

/-!
# `RankSieve.Proofs.RecordLines` — rows that stand one on a line

A file that does not begin like an array is read line by line. Each line is decoded by itself, blank lines
count but hold nothing, and the first line that is no row is the one that is blamed. `linesAt` says what the
lines are in terms of the line feeds alone, so that two texts with a line feed between them have the lines of
both, up to a carriage return at the end of the first; and that is blank (`decodeRow_of_cr`).

## Contents
- **Lines.** `linesAt`, and `gatherLines_linesAt`: the program's lines are these.
- **Rows of lines.** `rowsOfLines_ok_iff` and `rowsOfLines_error_iff` say what comes of lines,
  `rowsOfLines_append` what comes of more lines behind them.
- **Listed rows.** `Listed` is how rows are written one on a line; `decoded_listed` reads them.
- **The main result.** `parseRows_lines`.
-/

namespace RankSieve

/-! ## Lines -/

/-- A line without the carriage return that it ends with. -/
def chomp (l : Text) : Text := if l.getLast? = some '\r' then l.dropLast else l

/-- The lines of a text: what stands between its line feeds, of which each takes a carriage return in front of
    it along. -/
def linesAt (t : Text) : List Text := (t.splitOn '\n').dropLast.map chomp ++ (t.splitOn '\n').getLast?.toList

theorem chomp_cr (l : Text) : chomp (l ++ ['\r']) = l := by simp [chomp]

theorem chomp_cases (l : Text) : chomp l = l ∨ l = chomp l ++ ['\r'] := by
  unfold chomp
  split
  · next h => exact .inr (List.dropLast_append_getLast? _ h).symm
  · exact .inl rfl

theorem closeLine_eq (l : Text) : closeLine '\r' l.reverse = chomp l := by
  rcases List.eq_nil_or_concat l with rfl | ⟨l, c, rfl⟩
  · rfl
  · rw [List.concat_eq_append, List.reverse_append, List.reverse_singleton, List.singleton_append, closeLine]
    by_cases hc : c = '\r'
    · rw [if_pos hc, hc, chomp_cr, List.reverse_reverse]
    · simp [chomp, hc]

theorem linesAt_single {l : Text} (h : '\n' ∉ l) : linesAt l = [l] := by
  unfold linesAt
  rw [List.splitOn_eq_singleton h]
  rfl

/-- **Two texts with a line feed between them** have the lines of both. -/
theorem linesAt_append (a b : Text) : linesAt (a ++ '\n' :: b) = (a.splitOn '\n').map chomp ++ linesAt b := by
  have hne : b.splitOn '\n' ≠ [] := List.splitOn_ne_nil '\n' b
  unfold linesAt
  rw [List.splitOn_append_cons_self, List.dropLast_append_of_ne_nil hne, List.map_append, List.append_assoc,
    List.getLast?_append_of_ne_nil _ hne]

/-- **The lines that are gathered** are these lines, but for an empty one at the end. -/
theorem gatherLines_linesAt (a acc : Text) (hacc : '\n' ∉ acc) : ∃ last, (last = [] ∨ last = [[]]) ∧
    linesAt (acc.reverse ++ a) = gatherLines '\n' '\r' acc a ++ last := by
  induction a generalizing acc with
  | nil =>
    rw [List.append_nil, linesAt_single (by simpa using hacc)]
    cases acc with
    | nil => exact ⟨[[]], .inr rfl, rfl⟩
    | cons c acc => exact ⟨[], .inl rfl, by simp [gatherLines]⟩
  | cons c a ih =>
    by_cases hc : c = '\n'
    · -- what has been gathered is a line, and gathering begins again
      subst hc
      obtain ⟨last, hlast, hlines⟩ := ih [] (by simp)
      have hclose : closeLine '\r' acc = chomp acc.reverse := by rw [← closeLine_eq, List.reverse_reverse]
      refine ⟨last, hlast, ?_⟩
      rw [linesAt_append, List.splitOn_eq_singleton (by simpa using hacc), gatherLines_lf, hclose]
      exact congrArg (chomp acc.reverse :: ·) hlines
    · obtain ⟨last, hlast, hlines⟩ := ih (c :: acc) (by simp [hacc, Ne.symm hc])
      refine ⟨last, hlast, ?_⟩
      rw [gatherLines, if_neg hc, ← hlines]
      simp

theorem length_splitOn (a : Text) : (a.splitOn '\n').length = a.count '\n' + 1 := by
  induction a with
  | nil => rfl
  | cons c a ih =>
    unfold List.splitOn at ih ⊢
    rw [List.splitOnP_cons_eq_if_modifyHead]
    by_cases hc : c = '\n'
    · simp [hc, ih]
    · simp [hc, ih]

/-! ## Rows of lines -/

/-- A line that holds nothing, or a row. -/
def Passes (l : Text) : Prop := Blank l ∨ ∃ row, Json.decodeRow l = .ok row

theorem rowsOfLines_blank {l : Text} (h : Blank l) (number : Nat) (ls : List Text) :
    rowsOfLines number (l :: ls) = rowsOfLines (number + 1) ls := by
  rw [rowsOfLines, if_pos (isBlankText_iff.mpr h)]

theorem rowsOfLines_row {l : Text} (h : ¬Blank l) {row : Row} (hrow : Json.decodeRow l = .ok row) (number : Nat)
    (ls : List Text) : rowsOfLines number (l :: ls) = (rowsOfLines (number + 1) ls).map (row :: ·) := by
  rw [rowsOfLines, if_neg (mt isBlankText_iff.mp h), hrow]

theorem rowsOfLines_fault {l : Text} (h : ¬Blank l) {fault : Json.Fault} (hfault : Json.decodeRow l = .error fault)
    (number : Nat) (ls : List Text) : rowsOfLines number (l :: ls) = .error ⟨number, fault.message l⟩ := by
  rw [rowsOfLines, if_neg (mt isBlankText_iff.mp h), hfault]

/-- The rows of lines: those that are not blank are decoded, each by itself. -/
def Decoded (ls : List Text) (rows : List Row) : Prop :=
  List.Forall₂ (fun l row => Json.decodeRow l = .ok row) (ls.filter (¬Blank ·)) rows

/-- The blame for lines that are not all rows: it falls on the first that is none. -/
def Blamed (number : Nat) (ls : List Text) (e : LineFault) : Prop :=
  ∃ before l after fault, ls = before ++ l :: after ∧ (∀ x ∈ before, Passes x) ∧ ¬Blank l ∧
    Json.decodeRow l = .error fault ∧ e = ⟨number + before.length, fault.message l⟩

theorem decoded_blank {l : Text} (h : Blank l) {ls : List Text} {rows : List Row} :
    Decoded (l :: ls) rows ↔ Decoded ls rows := by
  unfold Decoded
  rw [List.filter_cons_of_neg (by simpa using h)]

theorem decoded_row {l : Text} (h : ¬Blank l) {ls : List Text} {rows : List Row} :
    Decoded (l :: ls) rows ↔ ∃ row rest, Json.decodeRow l = .ok row ∧ Decoded ls rest ∧ rows = row :: rest := by
  unfold Decoded
  rw [List.filter_cons_of_pos (by simpa using h), List.forall₂_cons_left_iff]

theorem rowsOfLines_of_decoded {ls : List Text} {rows : List Row} (h : Decoded ls rows) (number : Nat) :
    rowsOfLines number ls = .ok rows := by
  induction ls generalizing number rows with
  | nil =>
    obtain rfl := List.forall₂_nil_left_iff.mp h
    rfl
  | cons l ls ih =>
    by_cases hblank : Blank l
    · rw [rowsOfLines_blank hblank]
      exact ih ((decoded_blank hblank).mp h) (number + 1)
    · obtain ⟨row, rest, hrow, hrest, rfl⟩ := (decoded_row hblank).mp h
      rw [rowsOfLines_row hblank hrow, ih hrest]
      rfl

theorem rowsOfLines_of_blamed {number : Nat} {ls : List Text} {e : LineFault} (h : Blamed number ls e) :
    rowsOfLines number ls = .error e := by
  obtain ⟨before, l, after, fault, rfl, hbefore, hblank, hfault, rfl⟩ := h
  induction before generalizing number with
  | nil => exact rowsOfLines_fault hblank hfault number after
  | cons x before ih =>
    have hrest : rowsOfLines (number + 1) (before ++ l :: after) =
        .error ⟨number + 1 + before.length, fault.message l⟩ := ih fun y hy => hbefore y (List.mem_cons_of_mem x hy)
    have hnumber : number + 1 + before.length = number + (x :: before).length := by
      rw [List.length_cons, Nat.add_assoc, Nat.add_comm 1]
    rw [hnumber] at hrest
    rw [List.cons_append]
    by_cases hx : Blank x
    · rw [rowsOfLines_blank hx, hrest]
    · obtain ⟨row, hrow⟩ := (hbefore x List.mem_cons_self).resolve_left hx
      rw [rowsOfLines_row hx hrow, hrest]
      rfl

/-- Lines are all rows, or one of them is to blame. -/
theorem decoded_or_blamed (number : Nat) (ls : List Text) :
    (∃ rows, Decoded ls rows) ∨ ∃ e, Blamed number ls e := by
  induction ls generalizing number with
  | nil => exact .inl ⟨[], .nil⟩
  | cons l ls ih =>
    -- a line that passes does not take the blame from those behind it
    have hlater (hl : Passes l) (h : ∃ e, Blamed (number + 1) ls e) : ∃ e, Blamed number (l :: ls) e := by
      obtain ⟨e, before, x, after, fault, rfl, hbefore, hblank, hfault, rfl⟩ := h
      exact ⟨_, l :: before, x, after, fault, rfl, List.forall_mem_cons.mpr ⟨hl, hbefore⟩, hblank, hfault, rfl⟩
    by_cases hblank : Blank l
    · exact (ih (number + 1)).imp (fun ⟨rows, h⟩ => ⟨rows, (decoded_blank hblank).mpr h⟩) (hlater (.inl hblank))
    · cases hrow : Json.decodeRow l with
      | error fault => exact .inr ⟨_, [], l, ls, fault, rfl, by simp, hblank, hrow, rfl⟩
      | ok row =>
        refine (ih (number + 1)).imp ?_ (hlater (.inr ⟨row, hrow⟩))
        rintro ⟨rows, h⟩
        exact ⟨row :: rows, (decoded_row hblank).mpr ⟨row, rows, hrow, h, rfl⟩⟩

/-- **Lines give rows** exactly where those that are not blank are decoded. -/
theorem rowsOfLines_ok_iff {number : Nat} {ls : List Text} {rows : List Row} :
    rowsOfLines number ls = .ok rows ↔ Decoded ls rows := by
  refine ⟨fun h => ?_, fun h => rowsOfLines_of_decoded h number⟩
  rcases decoded_or_blamed number ls with ⟨rows', hdecoded⟩ | ⟨e, hblamed⟩
  · obtain rfl := Except.ok.inj (h.symm.trans (rowsOfLines_of_decoded hdecoded number))
    exact hdecoded
  · cases h.symm.trans (rowsOfLines_of_blamed hblamed)

/-- **Lines give a fault** exactly where one of them is to blame. -/
theorem rowsOfLines_error_iff {number : Nat} {ls : List Text} {e : LineFault} :
    rowsOfLines number ls = .error e ↔ Blamed number ls e := by
  refine ⟨fun h => ?_, rowsOfLines_of_blamed⟩
  rcases decoded_or_blamed number ls with ⟨rows, hdecoded⟩ | ⟨e', hblamed⟩
  · cases h.symm.trans (rowsOfLines_of_decoded hdecoded number)
  · obtain rfl := Except.error.inj (h.symm.trans (rowsOfLines_of_blamed hblamed))
    exact hblamed

/-! ## More lines -/

/-- A fault so many lines further on. -/
def LineFault.raise (count : Nat) (e : LineFault) : LineFault := ⟨e.line + count, e.text⟩

/-- Nothing but the number of a faulty line depends on the number of the first. -/
theorem rowsOfLines_add (number count : Nat) (ls : List Text) :
    rowsOfLines (number + count) ls = (rowsOfLines number ls).mapError (·.raise count) := by
  cases h : rowsOfLines number ls with
  | ok rows => exact rowsOfLines_of_decoded (rowsOfLines_ok_iff.mp h) _
  | error e =>
    obtain ⟨before, l, after, fault, hls, hbefore, hblank, hfault, rfl⟩ := rowsOfLines_error_iff.mp h
    refine rowsOfLines_of_blamed ⟨before, l, after, fault, hls, hbefore, hblank, hfault, ?_⟩
    show LineFault.mk (number + before.length + count) _ = _
    rw [Nat.add_right_comm]

/-- **Lines behind lines that are rows** give theirs behind these. -/
theorem rowsOfLines_append {number : Nat} {as : List Text} {rows : List Row}
    (h : rowsOfLines number as = .ok rows) (bs : List Text) :
    rowsOfLines number (as ++ bs) = (rowsOfLines (number + as.length) bs).map (rows ++ ·) := by
  have hdecoded := rowsOfLines_ok_iff.mp h
  clear h
  induction as generalizing number rows with
  | nil =>
    obtain rfl := List.forall₂_nil_left_iff.mp hdecoded
    show rowsOfLines number bs = (rowsOfLines number bs).map id
    cases rowsOfLines number bs with
    | ok rows => rfl
    | error e => rfl
  | cons l as ih =>
    have hnumber : number + 1 + as.length = number + (l :: as).length := by
      rw [List.length_cons, Nat.add_assoc, Nat.add_comm 1]
    rw [List.cons_append]
    by_cases hblank : Blank l
    · rw [rowsOfLines_blank hblank, ih ((decoded_blank hblank).mp hdecoded), hnumber]
    · obtain ⟨row, rest, hrow, hrest, rfl⟩ := (decoded_row hblank).mp hdecoded
      rw [rowsOfLines_row hblank hrow, ih hrest, hnumber]
      cases rowsOfLines (number + (l :: as).length) bs with
      | ok rows => rfl
      | error e => rfl

theorem blank_chomp_iff {l : Text} : Blank (chomp l) ↔ Blank l := by
  rcases chomp_cases l with h | h
  · rw [h]
  · constructor
    · intro hblank c hc
      rw [h] at hc
      rcases List.mem_append.mp hc with hc | hc
      · exact hblank c hc
      · rw [List.mem_singleton.mp hc]
        decide
    · intro hblank c hc
      exact hblank c (h ▸ List.mem_append_left _ hc)

/-- A carriage return at the end of a line makes no difference to its row. -/
theorem decodeRow_chomp {l : Text} {row : Row} (h : Json.decodeRow l = .ok row) : Json.decodeRow (chomp l) = .ok row := by
  rcases chomp_cases l with hl | hl
  · rw [hl]
    exact h
  · rw [hl] at h
    exact Json.decodeRow_of_cr h

/-- So it makes none at the end of lines that are rows. -/
theorem decoded_chomp {as : List Text} {l : Text} {rows : List Row} (h : Decoded (as ++ [l]) rows) :
    Decoded (as ++ [chomp l]) rows := by
  induction as generalizing rows with
  | nil =>
    by_cases hblank : Blank l
    · exact (decoded_blank (blank_chomp_iff.mpr hblank)).mpr ((decoded_blank hblank).mp h)
    · obtain ⟨row, rest, hrow, hrest, rfl⟩ := (decoded_row hblank).mp h
      exact (decoded_row (mt blank_chomp_iff.mp hblank)).mpr ⟨row, rest, decodeRow_chomp hrow, hrest, rfl⟩
  | cons x as ih =>
    by_cases hblank : Blank x
    · exact (decoded_blank hblank).mpr (ih ((decoded_blank hblank).mp h))
    · obtain ⟨row, rest, hrow, hrest, rfl⟩ := (decoded_row hblank).mp h
      exact (decoded_row hblank).mpr ⟨row, rest, hrow, ih hrest, rfl⟩

/-- The lines of a text that are rows are rows as well with a line feed behind them. -/
theorem decoded_ended {a : Text} {rows : List Row} (h : Decoded (linesAt a) rows) :
    Decoded ((a.splitOn '\n').map chomp) rows := by
  have hne : a.splitOn '\n' ≠ [] := List.splitOn_ne_nil '\n' a
  have hlast : linesAt a = (a.splitOn '\n').dropLast.map chomp ++ [(a.splitOn '\n').getLast hne] := by
    unfold linesAt
    rw [List.getLast?_eq_some_getLast hne]
    rfl
  have hended : (a.splitOn '\n').map chomp =
      (a.splitOn '\n').dropLast.map chomp ++ [chomp ((a.splitOn '\n').getLast hne)] := by
    rw [← List.map_singleton (f := chomp), ← List.map_append, List.dropLast_concat_getLast hne]
  rw [hlast] at h
  rw [hended]
  exact decoded_chomp h

theorem Blamed.append {number : Nat} {as : List Text} {e : LineFault} (h : Blamed number as e) (bs : List Text) :
    Blamed number (as ++ bs) e := by
  obtain ⟨before, l, after, fault, rfl, hrest⟩ := h
  exact ⟨before, l, after ++ bs, fault, by simp, hrest⟩

/-- **The lines that are read** are those of the text. -/
theorem rowsOfLines_lines (number : Nat) (t : Text) : rowsOfLines number t.lines = rowsOfLines number (linesAt t) := by
  obtain ⟨last, hlast, hgather⟩ := gatherLines_linesAt t [] (by simp)
  have hlines : linesAt t = t.lines ++ last := hgather
  rw [hlines]
  rcases hlast with rfl | rfl
  · rw [List.append_nil]
  · cases h : rowsOfLines number t.lines with
    | ok rows =>
      rw [rowsOfLines_append h, rowsOfLines_blank blank_nil]
      show _ = Except.ok (rows ++ [])
      rw [List.append_nil]
    | error e => exact (rowsOfLines_of_blamed ((rowsOfLines_error_iff.mp h).append [[]])).symm

/-! ## Listed rows -/

/-- Rows that are listed one on a line, with blank lines anywhere. Only the last line need not be ended. -/
inductive Listed : List Row → Text → Prop where
  | lastBlank {b : Text} : Blank b → '\n' ∉ b → Listed [] b
  | lastRow (r : Row) : Listed [r] (Json.compactRow r)
  | blank {b e t : Text} {rows : List Row} :
      Blank b → '\n' ∉ b → EndsLine '\n' '\r' e → Listed rows t → Listed rows (b ++ (e ++ t))
  | row {e t : Text} {rows : List Row} (r : Row) :
      EndsLine '\n' '\r' e → Listed rows t → Listed (r :: rows) (Json.compactRow r ++ (e ++ t))

theorem lf_not_mem_intercalate {ps : List Text} (h : ∀ p ∈ ps, '\n' ∉ p) : '\n' ∉ [','].intercalate ps := by
  induction ps with
  | nil => simp
  | cons p ps ih =>
    obtain ⟨hp, hps⟩ := List.forall_mem_cons.mp h
    cases ps with
    | nil => simpa using hp
    | cons q ps =>
      rw [List.intercalate_cons_cons]
      simpa [hp] using ih hps

theorem lf_not_mem_hex : ∀ n < 0x20, '\n' ∉ List.replicate (1 - n / 16) '0' ++ Decimal.hex n := by decide

theorem lf_not_mem_stringChar (c : Char) : '\n' ∉ Json.stringChar c := by
  unfold Json.stringChar
  split_ifs with _ _ _ _ _ _ _ hcontrol
  · decide
  · decide
  · decide
  · decide
  · decide
  · decide
  · decide
  · rw [List.append_assoc]
    exact fun h => (List.mem_append.mp h).elim (by decide) (lf_not_mem_hex c.toNat hcontrol)
  · intro h
    obtain rfl := List.mem_singleton.mp h
    exact hcontrol (by decide)

theorem lf_not_mem_string (t : Text) : '\n' ∉ Json.string t := by
  unfold Json.string
  have hchars : '\n' ∉ t.flatMap Json.stringChar := by
    intro h
    obtain ⟨c, -, hc⟩ := List.mem_flatMap.mp h
    exact lf_not_mem_stringChar c hc
  simpa using hchars

theorem lf_not_mem_solid {t : Text} (ht : Solid t) : '\n' ∉ t := by
  intro h
  have hblank := ht.2 _ h
  exact absurd hblank (by decide)

/-- **A row on one line** has no line feed. -/
theorem lf_not_mem_compactRow (r : Row) : '\n' ∉ Json.compactRow r := by
  have hvalues : ∀ entry ∈ Json.rowMembers r, '\n' ∉ entry.2 := by
    intro entry hentry
    unfold Json.rowMembers at hentry
    rcases List.mem_append.mp hentry with h | h
    · simp only [List.mem_cons, List.not_mem_nil, or_false] at h
      rcases h with rfl | rfl | rfl | rfl
      · exact lf_not_mem_solid (Decimal.solid_ofInt _)
      · exact lf_not_mem_string r.method
      · exact lf_not_mem_string r.url
      · exact lf_not_mem_solid (Decimal.solid_ofNat _)
    · obtain ⟨x, -, rfl⟩ := Option.map_eq_some_iff.mp (Option.mem_toList.mp h)
      exact lf_not_mem_string x
  have hmembers : ∀ p ∈ (Json.rowMembers r).map Json.Layout.compact.member, '\n' ∉ p := by
    intro p hp
    obtain ⟨entry, hentry, rfl⟩ := List.mem_map.mp hp
    have hkey := lf_not_mem_string entry.1
    have hvalue := hvalues entry hentry
    simpa [Json.Layout.member, Json.Layout.compact] using ⟨hkey, hvalue⟩
  rw [Json.compactRow_eq]
  unfold Json.Layout.row Json.Layout.body
  simpa [Json.Layout.compact] using lf_not_mem_intercalate hmembers

theorem decodeRow_compactRow_self (r : Row) : Json.decodeRow (Json.compactRow r) = .ok r := by
  have h := Json.decodeRow_compactRow r (b := []) (by decide)
  rwa [List.append_nil] at h

/-- What stands on a line of its own is a line, up to a carriage return at its end. -/
theorem linesAt_ended {l e : Text} (t : Text) (hl : '\n' ∉ l) (he : EndsLine '\n' '\r' e) :
    linesAt (l ++ (e ++ t)) = l :: linesAt t ∨ linesAt (l ++ (e ++ t)) = chomp l :: linesAt t := by
  rcases he with rfl | rfl
  · -- a line feed alone: a carriage return at the end of the line itself is lost
    refine .inr ?_
    rw [List.singleton_append, linesAt_append, List.splitOn_eq_singleton hl]
    rfl
  · refine .inl ?_
    have hcr : '\n' ∉ l ++ ['\r'] := by simpa using hl
    have hsplit := linesAt_append (l ++ ['\r']) t
    rw [List.splitOn_eq_singleton hcr, List.map_singleton, chomp_cr] at hsplit
    have htext : l ++ (['\r', '\n'] ++ t) = l ++ ['\r'] ++ '\n' :: t := by simp
    rw [htext]
    exact hsplit

theorem not_blank_compactRow (r : Row) : ¬Blank (Json.compactRow r) := by
  intro h
  have hfirst := h '\x7b' List.mem_cons_self
  exact absurd hfirst (by decide)

/-- **Listed rows are read**, each from its line. -/
theorem decoded_listed {rows : List Row} {t : Text} (h : Listed rows t) : Decoded (linesAt t) rows := by
  induction h with
  | @lastBlank b hb hlf =>
    rw [linesAt_single hlf]
    exact (decoded_blank hb).mpr .nil
  | lastRow r =>
    rw [linesAt_single (lf_not_mem_compactRow r)]
    exact (decoded_row (not_blank_compactRow r)).mpr ⟨r, [], decodeRow_compactRow_self r, .nil, rfl⟩
  | @blank b e t rows hb hlf he _ ih =>
    rcases linesAt_ended t hlf he with hlines | hlines
    · rw [hlines]
      exact (decoded_blank hb).mpr ih
    · rw [hlines]
      exact (decoded_blank (blank_chomp_iff.mpr hb)).mpr ih
  | @row e t rows r he _ ih =>
    have hdecode := decodeRow_compactRow_self r
    rcases linesAt_ended t (lf_not_mem_compactRow r) he with hlines | hlines
    · rw [hlines]
      exact (decoded_row (not_blank_compactRow r)).mpr ⟨r, rows, hdecode, ih, rfl⟩
    · rw [hlines]
      have hblank := mt blank_chomp_iff.mp (not_blank_compactRow r)
      exact (decoded_row hblank).mpr ⟨r, rows, decodeRow_chomp hdecode, ih, rfl⟩

/-! ## Arrays and lines -/

/-- The first character of a text that is not blank. -/
def firstSolid? (t : Text) : Option Char := t.find? fun c => !isBlank c

theorem isArrayText_eq (t : Text) : isArrayText t = (firstSolid? t == some '[') := by
  unfold isArrayText Text.trimStart firstSolid?
  congr 1
  induction t with
  | nil => rfl
  | cons c t ih => cases hc : isBlank c <;> simp [hc, ih]

theorem firstSolid?_append (a b : Text) : firstSolid? (a ++ b) = (firstSolid? a).or (firstSolid? b) :=
  List.find?_append

theorem firstSolid?_blank {b : Text} (hb : Blank b) : firstSolid? b = none := by
  refine List.find?_eq_none.mpr fun c hc => ?_
  rw [hb c hc]
  decide

/-- A row opens with its bracket. -/
theorem firstSolid?_compactRow (r : Row) (t : Text) : firstSolid? (Json.compactRow r ++ t) = some '\x7b' := rfl

theorem blank_ending {e : Text} (he : EndsLine '\n' '\r' e) : Blank e := by
  rcases he with rfl | rfl <;> decide

/-- Listed rows are no array. -/
theorem firstSolid?_listed {rows : List Row} {t : Text} (h : Listed rows t) : firstSolid? t ≠ some '[' := by
  induction h with
  | lastBlank hb _ =>
    rw [firstSolid?_blank hb]
    simp
  | lastRow r =>
    have hfirst := firstSolid?_compactRow r []
    rw [List.append_nil] at hfirst
    rw [hfirst]
    decide
  | blank hb _ he _ ih =>
    rw [firstSolid?_append, firstSolid?_append, firstSolid?_blank hb, firstSolid?_blank (blank_ending he)]
    exact ih
  | row r he _ ih =>
    rw [firstSolid?_compactRow]
    decide

/-- A text that is no array is read line by line. -/
theorem parseRows_eq {t : Text} (origin : Text) (h : firstSolid? t ≠ some '[') :
    parseRows origin t = (rowsOfLines 1 (linesAt t)).mapError fun e => .record origin e.line e.text := by
  have harray : isArrayText t = false := by
    rw [isArrayText_eq]
    simpa using h
  unfold parseRows rowsOfText
  rw [harray, if_neg Bool.false_ne_true, rowsOfLines_lines]

/-- The failure of a later line. -/
def LoadError.raise (count : Nat) : LoadError → LoadError
  | .read path why          => .read path why
  | .record origin line why => .record origin (line + count) why

/-- Rows as an array on one line. -/
def compactRows (rows : List Row) : Text := '[' :: ([','].intercalate (rows.map Json.compactRow) ++ [']'])

theorem decodeRows_compactRows (rows : List Row) : Json.decodeRows (compactRows rows) = .ok rows := by
  cases rows with
  | nil => rfl
  | cons r rows =>
    let text := Json.compactRow r ++ Json.others [] ']' (rows.map Json.compactRow) []
    have htext : compactRows (r :: rows) = '[' :: text :=
      congrArg ('[' :: ·) (Json.intercalate_append [] ']' [] (Json.compactRow r) (rows.map Json.compactRow))
    have hread : Json.readRows ('[' :: text) = .ok (r :: rows, []) :=
      Json.readRows_array Json.Layout.compact_blank (b := []) (e := []) (by decide) (by decide) r rows []
    unfold Json.decodeRows Json.decode
    rw [htext, hread]
    rfl

theorem mapError_ok_iff {α β γ : Type} {f : α → β} {x : Except α γ} {c : γ} : x.mapError f = .ok c ↔ x = .ok c := by
  cases x with
  | ok a => simp [Except.mapError]
  | error e => simp [Except.mapError]

theorem mapError_error_iff {α β γ : Type} {f : α → β} {x : Except α γ} {b : β} :
    x.mapError f = .error b ↔ ∃ a, x = .error a ∧ b = f a := by
  cases x with
  | ok a => simp [Except.mapError]
  | error e => simp [Except.mapError, eq_comm]

/-- What comes of a text that is read line by line. -/
structure LoadedByLine (origin : Text) (lines : List Text) (loaded : Except LoadError (List Row)) : Prop where
  /-- The rows of the lines that are not blank, in order, if each of these is one. -/
  ok_iff : ∀ rows, loaded = .ok rows ↔ Decoded lines rows
  /-- Otherwise the fault of the first that is none, as it has it by itself. -/
  error_iff : ∀ e, loaded = .error e ↔ ∃ fault, Blamed 1 lines fault ∧ e = .record origin fault.line fault.text

theorem loadedByLine {t : Text} (origin : Text) (h : firstSolid? t ≠ some '[') :
    LoadedByLine origin (linesAt t) (parseRows origin t) := by
  rw [parseRows_eq origin h]
  refine ⟨fun rows => ?_, fun e => ?_⟩
  · rw [mapError_ok_iff, rowsOfLines_ok_iff]
  · rw [mapError_error_iff]
    refine exists_congr fun fault => ?_
    rw [rowsOfLines_error_iff]

/-- **Two texts with a line feed between them** give the rows of both, or the failure of the second. -/
theorem parseRows_append {a b : Text} {rows : List Row} (origin : Text) (ha : firstSolid? a ≠ some '[')
    (hb : firstSolid? b ≠ some '[') (hrows : parseRows origin a = .ok rows) :
    parseRows origin (a ++ '\n' :: b) =
      ((parseRows origin b).map (rows ++ ·)).mapError (·.raise (a.count '\n' + 1)) := by
  have hab : firstSolid? (a ++ '\n' :: b) ≠ some '[' := by
    have hfeed : firstSolid? ('\n' :: b) = firstSolid? b := rfl
    rw [firstSolid?_append, hfeed]
    cases h : firstSolid? a with
    | none => exact hb
    | some c =>
      rw [h] at ha
      exact ha
  have hdecoded := decoded_ended (((loadedByLine origin ha).ok_iff rows).mp hrows)
  have hfront := rowsOfLines_append (rowsOfLines_of_decoded hdecoded 1) (linesAt b)
  rw [List.length_map, length_splitOn, rowsOfLines_add] at hfront
  rw [parseRows_eq origin hab, parseRows_eq origin hb, linesAt_append, hfront]
  cases rowsOfLines 1 (linesAt b) with
  | ok rest => rfl
  | error e => rfl

/-- **Listed rows are loaded**, as they are from an array. -/
theorem parseRows_listed {rows : List Row} {t : Text} (origin : Text) (h : Listed rows t) :
    parseRows origin t = .ok rows := by
  rw [parseRows_eq origin (firstSolid?_listed h), rowsOfLines_of_decoded (decoded_listed h) 1]
  rfl

theorem parseRows_compactRows (origin : Text) (rows : List Row) : parseRows origin (compactRows rows) = .ok rows := by
  have harray : isArrayText (compactRows rows) = true := rfl
  unfold parseRows rowsOfText rowsOfArray
  rw [if_pos harray, decodeRows_compactRows]
  rfl

/-! ## The main result -/

/-- **Rows are loaded line by line.** A text whose first character that is not blank opens no array gives the
    rows of its lines, or blames the first line that is none. So two such texts with a line feed between them
    give the rows of both, where the first gives rows, or the failure of the second, on the line where it now
    is. And rows that are listed, one on a line, are the rows that are loaded from them as an array. -/
theorem parseRows_lines (origin : Text) :
    (∀ t, firstSolid? t ≠ some '[' → LoadedByLine origin (linesAt t) (parseRows origin t)) ∧
    (∀ a b rows, firstSolid? a ≠ some '[' → firstSolid? b ≠ some '[' → parseRows origin a = .ok rows →
      parseRows origin (a ++ '\n' :: b) =
        ((parseRows origin b).map (rows ++ ·)).mapError (·.raise (a.count '\n' + 1))) ∧
    ∀ rows t, Listed rows t → parseRows origin t = .ok rows ∧
      parseRows origin (Json.rows rows) = .ok rows ∧ parseRows origin (compactRows rows) = .ok rows := by
  refine ⟨fun t ht => loadedByLine origin ht, fun a b rows ha hb hrows => parseRows_append origin ha hb hrows, ?_⟩
  intro rows t h
  have harray := parseRows_rows origin rows (b := []) (by decide)
  rw [List.append_nil] at harray
  exact ⟨parseRows_listed origin h, harray, parseRows_compactRows origin rows⟩

/-- A line of a blank beyond ASCII with a carriage return that ends no line, until a line feed follows. The
    fault stands on the second line of the text behind it, and on the fourth of the whole. -/
theorem parseRows_lines_fourth :
    let row₁ : Row := ⟨7, "GET".toList, "/a\nb".toList, 200, none⟩
    let row₂ : Row := ⟨-3, "POST".toList, "/b".toList, 502, some "rr-7".toList⟩
    let a := Json.compactRow row₁ ++ "\r\n\u3000\r".toList
    let b := Json.compactRow row₂ ++ "\n\x7b".toList
    let listed := Json.compactRow row₁ ++ ("\r\n".toList ++ ("\u3000\r".toList ++ ("\n".toList ++ Json.compactRow row₂)))
    let fault := "EOF while parsing an object at line 1 column 1".toList
    (firstSolid? a ≠ some '[' ∧ firstSolid? b ≠ some '[' ∧ parseRows ['r'] a = .ok [row₁] ∧
      parseRows ['r'] b = .error (.record ['r'] 2 fault) ∧
      parseRows ['r'] (a ++ '\n' :: b) = .error (.record ['r'] 4 fault)) ∧
    LoadedByLine ['r'] [Json.compactRow row₁, "\u3000\r".toList] (parseRows ['r'] a) ∧
    Listed [row₁, row₂] listed ∧ parseRows ['r'] listed = .ok [row₁, row₂] := by
  intro row₁ row₂ a b listed fault
  obtain ⟨hlines, happend, hlisted⟩ := parseRows_lines ['r']
  have ha : firstSolid? a ≠ some '[' := by decide
  have hb : firstSolid? b ≠ some '[' := by decide
  have hrows : parseRows ['r'] a = .ok [row₁] := by decide +kernel
  have hfault : parseRows ['r'] b = .error (.record ['r'] 2 fault) := by decide +kernel
  have hboth := happend a b [row₁] ha hb hrows
  have hcount : a.count '\n' = 1 := by decide +kernel
  rw [hfault, hcount] at hboth
  have hat : linesAt a = [Json.compactRow row₁, "\u3000\r".toList] := by decide +kernel
  have hwritten : Listed [row₁, row₂] listed :=
    .row row₁ (.inr rfl) (.blank (by decide) (by decide) (.inl rfl) (.lastRow row₂))
  exact ⟨⟨ha, hb, hrows, hfault, hboth⟩, hat ▸ hlines a ha, hwritten, (hlisted _ _ hwritten).1⟩

end RankSieve
