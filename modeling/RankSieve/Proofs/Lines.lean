import RankSieve.Text.Blank

/-!
# `RankSieve.Proofs.Lines` — lines that end where they were ended

A sequence is cut into lines at its line feeds, and a carriage return before one goes with it. So a line
that holds neither comes out as it was written, whichever of the two endings it was given, and what stands
behind its ending is cut by itself.

## Contents
- **Gathering.** `gatherLines_append` passes members that end no line.
- **Lines.** `cutLines_line` for a line with an ending, `cutLines_last` for the last line without one.
-/

namespace RankSieve

section

variable {α : Type} [DecidableEq α] {lf cr : α}

/-- What ends a line: a line feed, with a carriage return in front of it or not. -/
def EndsLine (lf cr : α) (e : List α) : Prop := e = [lf] ∨ e = [cr, lf]

/-! ## Gathering -/

/-- Without a line feed nothing is done but gathering. -/
theorem gatherLines_append {as : List α} (acc rest : List α) (h : lf ∉ as) :
    gatherLines lf cr acc (as ++ rest) = gatherLines lf cr (as.reverse ++ acc) rest := by
  induction as generalizing acc with
  | nil => rfl
  | cons a as ih =>
    obtain ⟨hne, has⟩ := not_or.mp (mt List.mem_cons.mpr h)
    have hstep : gatherLines lf cr acc (a :: (as ++ rest)) = gatherLines lf cr (a :: acc) (as ++ rest) := by
      rw [gatherLines, if_neg (Ne.symm hne)]
    rw [List.cons_append, hstep, ih _ has, List.reverse_cons, List.append_assoc, List.singleton_append]

theorem gatherLines_lf (acc rest : List α) :
    gatherLines lf cr acc (lf :: rest) = closeLine cr acc :: cutLines lf cr rest := by
  rw [gatherLines, if_pos rfl]
  rfl

/-- A line that does not end with a carriage return keeps all of it. -/
theorem closeLine_reverse {as : List α} (h : cr ∉ as) : closeLine cr as.reverse = as := by
  cases hrev : as.reverse with
  | nil => rw [← List.reverse_reverse as, hrev]; rfl
  | cons b bs =>
    have hne : b ≠ cr := by
      rintro rfl
      have hmem : b ∈ as.reverse := hrev ▸ List.mem_cons_self
      exact h (List.mem_reverse.mp hmem)
    rw [closeLine, if_neg hne, ← hrev, List.reverse_reverse]

/-! ## Lines -/

/-- **A line with its ending** is one line, and what follows is cut by itself. -/
theorem cutLines_line {as e : List α} (rest : List α) (hne : lf ≠ cr) (hlf : lf ∉ as) (hcr : cr ∉ as)
    (he : EndsLine lf cr e) : cutLines lf cr (as ++ (e ++ rest)) = as :: cutLines lf cr rest := by
  show gatherLines lf cr [] (as ++ (e ++ rest)) = _
  rw [gatherLines_append _ _ hlf, List.append_nil]
  rcases he with rfl | rfl
  · rw [List.singleton_append, gatherLines_lf, closeLine_reverse hcr]
  · have hstep : gatherLines lf cr as.reverse (cr :: lf :: rest) =
        gatherLines lf cr (cr :: as.reverse) (lf :: rest) := by
      rw [gatherLines, if_neg (Ne.symm hne)]
    show gatherLines lf cr as.reverse (cr :: lf :: rest) = _
    rw [hstep, gatherLines_lf, closeLine, if_pos rfl, List.reverse_reverse]

/-- The last line need not be ended, as long as there is something on it. -/
theorem cutLines_last {as : List α} (hlf : lf ∉ as) (has : as ≠ []) : cutLines lf cr as = [as] := by
  have hgather : gatherLines lf cr [] (as ++ []) = gatherLines lf cr (as.reverse ++ []) [] :=
    gatherLines_append [] [] hlf
  rw [List.append_nil, List.append_nil] at hgather
  show gatherLines lf cr [] as = _
  rw [hgather]
  cases hrev : as.reverse with
  | nil => exact absurd (List.reverse_eq_nil_iff.mp hrev) has
  | cons b bs =>
    rw [gatherLines, ← hrev, List.reverse_reverse]

end

end RankSieve
