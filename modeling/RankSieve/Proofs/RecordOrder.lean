import Mathlib.Data.List.DropRight
import Mathlib.Data.List.TakeWhile
import RankSieve.Proofs.RecordLines

/-!
# `RankSieve.Proofs.RecordOrder` — rows on lines in another order

Whether a line is a row is settled by the line alone, so lines in another order give their rows in that order.
There is one exception, since a text that begins with a square bracket is an array as a whole. A row may be
written with square brackets too, and where such a row stands first the text is taken for an array of rows,
which it is not: what stands behind the bracket is the rank. So a row in square brackets is read on every
line but the first.

## Contents
- **Joined lines.** `decoded_joined` reads them, `joined_cases` finds where they begin.
- **Second characters.** `second_of_row` and `second_of_rows`: what stands behind the bracket of a row is not
  what stands behind that of an array of rows.
- **The main result.** `Bracketed` lines and `parseRows_permuted`.
-/

namespace RankSieve

/-! ## Joined lines -/

/-- Lines with a line feed between each and the next. -/
def joinLines (ls : List Text) : Text := ['\n'].intercalate ls

theorem joinLines_cons_cons (l m : Text) (ls : List Text) :
    joinLines (l :: m :: ls) = l ++ '\n' :: joinLines (m :: ls) := by
  unfold joinLines
  rw [List.intercalate_cons_cons, List.append_assoc]
  rfl

/-- The row of a line, if it holds one. -/
def rowOn? (l : Text) : Option Row := if l.isBlankText then none else (Json.decodeRow l).toOption

/-- The rows of lines, in their order. -/
def rowsOn (ls : List Text) : List Row := ls.filterMap rowOn?

/-- A line more, whether its carriage return was taken off or not. -/
theorem decoded_line {l m : Text} {ls ms : List Text} (hm : m = l ∨ m = chomp l) (hl : Passes l)
    (h : Decoded ms (rowsOn ls)) : Decoded (m :: ms) (rowsOn (l :: ls)) := by
  have hblank : Blank m ↔ Blank l := by
    rcases hm with rfl | rfl
    · exact Iff.rfl
    · exact blank_chomp_iff
  by_cases hbl : Blank l
  · have hnone : rowOn? l = none := if_pos (isBlankText_iff.mpr hbl)
    unfold rowsOn
    rw [List.filterMap_cons_none hnone]
    exact (decoded_blank (hblank.mpr hbl)).mpr h
  · obtain ⟨row, hrow⟩ := hl.resolve_left hbl
    have hsome : rowOn? l = some row := by
      unfold rowOn?
      rw [if_neg (mt isBlankText_iff.mp hbl), hrow]
      rfl
    have hrow' : Json.decodeRow m = .ok row := by
      rcases hm with rfl | rfl
      · exact hrow
      · exact decodeRow_chomp hrow
    unfold rowsOn
    rw [List.filterMap_cons_some hsome]
    exact (decoded_row (mt hblank.mp hbl)).mpr ⟨row, _, hrow', h, rfl⟩

/-- The rows of lines are those that their own lines write. -/
theorem decoded_rowsOn {ls : List Text} (hlines : ∀ l ∈ ls, Passes l) : Decoded ls (rowsOn ls) := by
  induction ls with
  | nil => exact .nil
  | cons l ls ih =>
    obtain ⟨hl, hrest⟩ := List.forall_mem_cons.mp hlines
    exact decoded_line (.inl rfl) hl (ih hrest)

/-- **Joined lines are read** each by itself. -/
theorem decoded_joined {ls : List Text} (hlines : ∀ l ∈ ls, '\n' ∉ l ∧ Passes l) :
    Decoded (linesAt (joinLines ls)) (rowsOn ls) := by
  induction ls with
  | nil => exact (decoded_blank blank_nil).mpr .nil
  | cons l ls ih =>
    obtain ⟨⟨hlf, hl⟩, hrest⟩ := List.forall_mem_cons.mp hlines
    cases ls with
    | nil =>
      have hone : joinLines [l] = l := by simp [joinLines]
      rw [hone, linesAt_single hlf]
      exact decoded_line (.inl rfl) hl .nil
    | cons m ls =>
      rw [joinLines_cons_cons, linesAt_append, List.splitOn_eq_singleton hlf]
      exact decoded_line (.inr rfl) hl (ih hrest)

/-- The first line that is not blank. -/
def firstLine? (ls : List Text) : Option Text := ls.find? fun l => !l.isBlankText

theorem firstSolid?_eq (t : Text) : firstSolid? t = (t.dropWhile isBlank).head? :=
  List.find?_not_eq_head?_dropWhile isBlank t

theorem dropWhile_not_blank {l : Text} (h : ¬Blank l) (t : Text) :
    (l ++ t).dropWhile isBlank = l.dropWhile isBlank ++ t := by
  rw [List.dropWhile_append, if_neg]
  intro hempty
  exact h (List.dropWhile_eq_nil_iff.mp (List.isEmpty_iff.mp hempty))

/-- **Joined lines begin** with the first that is not blank. -/
theorem joined_cases (ls : List Text) :
    (firstLine? ls = none ∧ (joinLines ls).dropWhile isBlank = []) ∨
      ∃ l rest, firstLine? ls = some l ∧ l.dropWhile isBlank ≠ [] ∧
        (joinLines ls).dropWhile isBlank = l.dropWhile isBlank ++ rest := by
  induction ls with
  | nil => exact .inl ⟨rfl, rfl⟩
  | cons l ls ih =>
    obtain ⟨rest, htext, hrest⟩ : ∃ rest, joinLines (l :: ls) = l ++ rest ∧
        rest.dropWhile isBlank = (joinLines ls).dropWhile isBlank := by
      cases ls with
      | nil => exact ⟨[], by simp [joinLines], rfl⟩
      | cons m ls => exact ⟨_, joinLines_cons_cons l m ls, rfl⟩
    by_cases hblank : Blank l
    · have hfirst : firstLine? (l :: ls) = firstLine? ls :=
        List.find?_cons_of_neg (by simp [isBlankText_iff.mpr hblank])
      rw [hfirst, htext, List.dropWhile_append_of_pos hblank, hrest]
      exact ih
    · have hfirst : firstLine? (l :: ls) = some l := by
        refine List.find?_cons_of_pos ?_
        rw [Bool.not_eq_true', Bool.eq_false_iff]
        exact mt isBlankText_iff.mp hblank
      exact .inr ⟨l, rest, hfirst, mt List.dropWhile_eq_nil_iff.mp hblank,
        by rw [htext, dropWhile_not_blank hblank]⟩

/-! ## Second characters -/

/-- What JSON takes for a blank is one. -/
theorem isBlank_of_isJsonBlank {c : Char} (hc : Json.isJsonBlank c = true) : isBlank c = true := by
  simp only [Json.isJsonBlank, Bool.or_eq_true, decide_eq_true_eq] at hc
  rcases hc with ((rfl | rfl) | rfl) | rfl <;> decide

/-- Where JSON finds a character that is not blank, the text has it. -/
theorem dropWhile_of_skipBlanks {t u : Text} {c : Char} (h : Json.skipBlanks t = c :: u) (hc : isBlank c = false) :
    t.dropWhile isBlank = c :: u := by
  have hsplit : t.takeWhile Json.isJsonBlank ++ c :: u = t := h ▸ List.takeWhile_append_dropWhile
  have hblank : ∀ d ∈ t.takeWhile Json.isJsonBlank, isBlank d = true := fun d hd =>
    isBlank_of_isJsonBlank (List.mem_takeWhile_imp hd)
  rw [← hsplit, List.dropWhile_append_of_pos hblank, List.dropWhile_cons_of_neg (by simp [hc])]

theorem skipBlanks_append_of_cons {t u : Text} {c : Char} (h : Json.skipBlanks t = c :: u) (rest : Text) :
    Json.skipBlanks (t ++ rest) = c :: (u ++ rest) := by
  unfold Json.skipBlanks at h ⊢
  rw [List.dropWhile_append, h]
  rfl

namespace Json

theorem bind_ok {α β : Type} {x : Except Fault α} {f : α → Except Fault β} {b : β} (h : x >>= f = .ok b) :
    ∃ a, x = .ok a ∧ f a = .ok b := by
  cases x with
  | ok a => exact ⟨a, rfl, h⟩
  | error e => cases h

theorem map_ok {α β : Type} {x : Except Fault α} {f : α → β} {b : β} (h : x.map f = .ok b) :
    ∃ a, x = .ok a := by
  cases x with
  | ok a => exact ⟨a, rfl⟩
  | error e => cases h

/-- What is not what was expected is no value. -/
theorem mismatch_ne_ok {α : Type} {expected t : Text} {x : α} : mismatch expected t ≠ .ok x := by
  intro h
  have hagree : Agree (fun (_ : α) (_ : Unit) => True) (mismatch expected t) (faultHere .endInValue []) :=
    mismatch_cr expected t _
  obtain ⟨y, hy, -⟩ := hagree x h
  cases hy

/-- The first element of an array, or its end. -/
theorem nextElement_first {t t' : Text} {more : Bool} (h : nextElement true t = .ok (more, t')) :
    ∃ c v, skipBlanks t = c :: v ∧ t' = c :: v ∧ (more = false → c = ']') := by
  unfold nextElement at h
  split at h
  · cases h
  · next v hskip =>
    cases h
    exact ⟨']', v, hskip, rfl, fun _ => rfl⟩
  · next c v _ hskip =>
    cases h
    exact ⟨c, v, hskip, rfl, nofun⟩

theorem skipBlanks_skipBlanks (t : Text) : skipBlanks (skipBlanks t) = skipBlanks t := by
  unfold skipBlanks
  exact List.dropWhile_idempotent _ t

/-- A number begins with a digit or a sign. -/
theorem readBounded_first {least greatest : Int} {expected t : Text} {x : Int × Text}
    (h : readBounded least greatest expected t = .ok x) :
    ∃ c v, skipBlanks t = c :: v ∧ (c = '-' ∨ c.isDigit = true) := by
  unfold readBounded at h
  split at h
  · cases h
  · next v hskip => exact ⟨'-', v, hskip, .inl rfl⟩
  · next c v _ hskip =>
    cases hc : c.isDigit with
    | true => exact ⟨c, v, hskip, .inr hc⟩
    | false =>
      rw [hc, if_neg Bool.false_ne_true] at h
      exact absurd h mismatch_ne_ok

/-- A row begins with a bracket. -/
theorem readRow_first {t : Text} {x : Row × Text} (h : readRow t = .ok x) :
    ∃ c v, skipBlanks t = c :: v ∧ (c = '[' ∨ c = '\x7b') := by
  unfold readRow at h
  split at h
  · cases h
  · next v hskip => exact ⟨_, v, hskip, .inr rfl⟩
  · next v hskip => exact ⟨_, v, hskip, .inl rfl⟩
  · exact absurd h mismatch_ne_ok

/-- **Behind the bracket of a row** stands the rank. -/
theorem second_of_row {l u : Text} {row : Row} (hrow : decodeRow l = .ok row) (hl : skipBlanks l = '[' :: u) :
    ∃ c v, skipBlanks u = c :: v ∧ (c = '-' ∨ c.isDigit = true) := by
  obtain ⟨read, hread, -⟩ := bind_ok hrow
  unfold readRow at hread
  rw [hl] at hread
  obtain ⟨elements, helements, -⟩ := bind_ok hread
  obtain ⟨⟨more, t⟩, hnext, hrest⟩ := bind_ok helements
  obtain ⟨c, v, hskip, rfl, -⟩ := nextElement_first hnext
  cases more with
  | false => cases hrest
  | true =>
    -- the first member is the rank, which is a number
    obtain ⟨_, hmember, _⟩ := bind_ok hrest
    obtain ⟨_, hrank⟩ := map_ok hmember
    obtain ⟨_, hbounded⟩ := map_ok hrank
    obtain ⟨d, w, hd, hdigit⟩ := readBounded_first hbounded
    rw [← hskip, skipBlanks_skipBlanks] at hd
    exact ⟨d, w, hd, hdigit⟩

/-- **Behind the bracket of an array of rows** stands the bracket of a row, or there is none. -/
theorem second_of_rows {t : Text} {rows : List Row} (hrows : decodeRows t = .ok rows) :
    ∃ u c v, skipBlanks t = '[' :: u ∧ skipBlanks u = c :: v ∧ (c = '[' ∨ c = '\x7b' ∨ c = ']') := by
  obtain ⟨read, hread, -⟩ := bind_ok hrows
  unfold readRows at hread
  split at hread
  · cases hread
  · next u hskip =>
    obtain ⟨elements, helements, -⟩ := bind_ok hread
    obtain ⟨⟨more, t'⟩, hnext, hrest⟩ := bind_ok helements
    obtain ⟨c, v, hsecond, rfl, hend⟩ := nextElement_first hnext
    cases more with
    | false => exact ⟨u, c, v, hskip, hsecond, .inr (.inr (hend rfl))⟩
    | true =>
      obtain ⟨_, hrow, _⟩ := bind_ok hrest
      obtain ⟨d, w, hd, hbracket⟩ := readRow_first hrow
      rw [← hsecond, skipBlanks_skipBlanks] at hd
      exact ⟨u, d, w, hskip, hd, hbracket.imp_right .inl⟩
  · exact absurd hread mismatch_ne_ok

end Json

/-! ## The main result -/

/-- The first line that is not blank begins with a square bracket. -/
def Bracketed (ls : List Text) : Prop := ∃ l, firstLine? ls = some l ∧ firstSolid? l = some '['

theorem bracketed_iff (ls : List Text) : Bracketed ls ↔ firstSolid? (joinLines ls) = some '[' := by
  unfold Bracketed
  rw [firstSolid?_eq]
  rcases joined_cases ls with ⟨hnone, hjoined⟩ | ⟨l, rest, hsome, hsolid, hjoined⟩
  · rw [hnone, hjoined]
    simp
  · rw [hsome, hjoined, List.head?_append_of_ne_nil _ hsolid, ← firstSolid?_eq]
    simp

/-- **A row in square brackets that stands first** makes the text an array, and a faulty one. -/
theorem decodeRows_bracketed {ls : List Text} (hlines : ∀ l ∈ ls, Passes l) (h : Bracketed ls) (rows : List Row) :
    Json.decodeRows (joinLines ls) ≠ .ok rows := by
  intro hrows
  obtain ⟨l, hfirst, hopen⟩ := h
  rcases joined_cases ls with ⟨hnone, -⟩ | ⟨l', rest, hsome, -, hjoined⟩
  · cases hnone.symm.trans hfirst
  obtain rfl := Option.some.inj (hsome.symm.trans hfirst)
  have hblank : ¬Blank l' := by
    have hfound := List.find?_some hsome
    rwa [Bool.not_eq_true', Bool.eq_false_iff, ne_eq, isBlankText_iff] at hfound
  obtain ⟨row, hrow⟩ := (hlines l' (List.mem_of_find?_eq_some hsome)).resolve_left hblank
  -- the bracket of the line is the bracket of the text, and so are the characters behind it
  obtain ⟨c, u, hline, hbracket⟩ := Json.readRow_first (Json.bind_ok hrow).choose_spec.1
  have hc : isBlank c = false := by rcases hbracket with rfl | rfl <;> decide
  have hu := dropWhile_of_skipBlanks hline hc
  rw [firstSolid?_eq, hu] at hopen
  obtain rfl := Option.some.inj hopen
  obtain ⟨u', d, v, htext, hd, hbehind⟩ := Json.second_of_rows hrows
  have hu' := dropWhile_of_skipBlanks htext (by decide)
  rw [hjoined, hu] at hu'
  obtain rfl := (List.cons.inj hu').2
  obtain ⟨e, w, he, hrank⟩ := Json.second_of_row hrow hline
  have hsame := skipBlanks_append_of_cons he rest
  obtain rfl : e = d := (List.cons.inj (hsame.symm.trans hd)).1
  rcases hbehind with rfl | rfl | rfl <;> exact absurd hrank (by decide)

/-- **Rows on lines in another order.** Take lines without line feeds, each of them blank or a row by itself,
    and put them in any order. Their rows are those of before in the new order. They are what is loaded from
    the lines joined in that order, unless the first line that is not blank has its row in square brackets:
    then the text is taken for an array, and nothing is loaded. -/
theorem parseRows_permuted {ls ls' : List Text} (hperm : ls'.Perm ls) (hlines : ∀ l ∈ ls, '\n' ∉ l ∧ Passes l)
    (origin : Text) :
    (rowsOn ls').Perm (rowsOn ls) ∧ Decoded ls' (rowsOn ls') ∧
      (parseRows origin (joinLines ls') = .ok (rowsOn ls') ↔ ¬Bracketed ls') ∧
      (Bracketed ls' → ∃ line why, parseRows origin (joinLines ls') = .error (.record origin line why)) := by
  have hlines' : ∀ l ∈ ls', '\n' ∉ l ∧ Passes l := fun l hl => hlines l (hperm.mem_iff.mp hl)
  have hfaulty (h : Bracketed ls') :
      ∃ line why, parseRows origin (joinLines ls') = .error (.record origin line why) := by
    have harray : isArrayText (joinLines ls') = true := by
      rw [isArrayText_eq, (bracketed_iff ls').mp h]
      rfl
    cases hdecode : Json.decodeRows (joinLines ls') with
    | ok rows => exact absurd hdecode (decodeRows_bracketed (fun l hl => (hlines' l hl).2) h rows)
    | error fault =>
      unfold parseRows rowsOfText rowsOfArray
      rw [if_pos harray, hdecode]
      exact ⟨_, _, rfl⟩
  refine ⟨hperm.filterMap rowOn?, ?_, ⟨fun hok h => ?_, fun h => ?_⟩, hfaulty⟩
  · exact decoded_rowsOn fun l hl => (hlines' l hl).2
  · obtain ⟨line, why, herror⟩ := hfaulty h
    cases hok.symm.trans herror
  · exact ((loadedByLine origin (mt (bracketed_iff ls').mpr h)).ok_iff _).mpr (decoded_joined hlines')

/-- A row in square brackets behind a blank line and a row in curly ones, where it did not stand before. -/
theorem parseRows_permuted_last :
    let row₁ : Row := ⟨1, "GET".toList, "/a".toList, 200, none⟩
    let row₂ : Row := ⟨2, "PUT".toList, "/b".toList, 201, none⟩
    let squared := "[1,\"GET\",\"/a\",200,null]".toList
    let ls := [squared, Json.compactRow row₂, "\u3000\r".toList]
    let ls' := ["\u3000\r".toList, Json.compactRow row₂, squared]
    (ls'.Perm ls ∧ (∀ l ∈ ls, '\n' ∉ l ∧ Passes l) ∧ ¬Bracketed ls' ∧ Bracketed ls) ∧
      parseRows ['r'] (joinLines ls') = .ok [row₂, row₁] ∧
      ∃ line why, parseRows ['r'] (joinLines ls) = .error (.record ['r'] line why) := by
  intro row₁ row₂ squared ls ls'
  have hperm : ls'.Perm ls := by decide
  have hlines : ∀ l ∈ ls, '\n' ∉ l ∧ Passes l := by
    intro l hl
    simp only [ls, List.mem_cons, List.not_mem_nil, or_false] at hl
    rcases hl with rfl | rfl | rfl
    · exact ⟨by decide, .inr ⟨row₁, by decide +kernel⟩⟩
    · exact ⟨lf_not_mem_compactRow row₂, .inr ⟨row₂, decodeRow_compactRow_self row₂⟩⟩
    · exact ⟨by decide, .inl (by decide)⟩
  have hopen : Bracketed ls := ⟨squared, rfl, rfl⟩
  have hclosed : ¬Bracketed ls' := by
    rw [bracketed_iff]
    decide
  have hrows : rowsOn ls' = [row₂, row₁] := by decide +kernel
  obtain ⟨-, -, hloaded, -⟩ := parseRows_permuted hperm hlines ['r']
  obtain ⟨-, -, -, hfaulty⟩ := parseRows_permuted (.refl ls) hlines ['r']
  exact ⟨⟨hperm, hlines, hclosed, hopen⟩, hrows ▸ hloaded.mpr hclosed, hfaulty hopen⟩

/-- Two rows that are loaded in one order, and not in the other. -/
theorem parseRows_order_matters :
    ¬∀ ls ls' : List Text, ls'.Perm ls → (∀ l ∈ ls, '\n' ∉ l ∧ Passes l) → ∀ origin,
      parseRows origin (joinLines ls') = .ok (rowsOn ls') := by
  intro h
  let object : Text := "\x7b\"rank\":2,\"method\":\"PUT\",\"url\":\"/b\",\"status_code\":201\x7d".toList
  let squared : Text := "[1,\"GET\",\"/a\",200,null]".toList
  have hlines : ∀ l ∈ [object, squared], '\n' ∉ l ∧ Passes l := by
    intro l hl
    simp only [List.mem_cons, List.not_mem_nil, or_false] at hl
    rcases hl with rfl | rfl
    · exact ⟨by decide, .inr ⟨⟨2, "PUT".toList, "/b".toList, 201, none⟩, by decide +kernel⟩⟩
    · exact ⟨by decide, .inr ⟨⟨1, "GET".toList, "/a".toList, 200, none⟩, by decide +kernel⟩⟩
  have hloaded := h [object, squared] [squared, object] (.swap object squared []) hlines ['r']
  exact absurd hloaded (by decide +kernel)

end RankSieve
