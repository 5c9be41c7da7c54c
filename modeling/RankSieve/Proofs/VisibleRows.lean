import Mathlib.Data.List.Sort
import RankSieve.Proofs.LastGoodFilter

/-!
# `RankSieve.Proofs.VisibleRows` — the places and the rows that a filter leaves

A filter says of each row whether to keep it, and there are two ways to ask it about a list: for the places
of the rows that it keeps, and for these rows themselves. The two answers are the same rows. The places are
pinned down by what they are, a list that increases and holds just the places of kept rows, so whoever
finds such a list in some other way has found this one.

## Contents
- **Places.** `mem_visible`, `visible_increasing` and `eq_visible`.
- **Rows.** `rowsAt_visible` and how many rows there are.
- **Bars.** `replace_standard` and `forQuery_some`: the filter that a query puts in force.
-/

namespace RankSieve

namespace Filter

variable (f : Filter) (rows : List Row)

/-! ## Places -/

/-- The places of kept rows, and no others. -/
theorem mem_visible {i : Nat} : i ∈ f.visible rows ↔ ∃ r, rows[i]? = some r ∧ f.keeps r = true := by
  unfold visible
  rw [List.mem_map]
  constructor
  · rintro ⟨⟨r, j⟩, hmem, rfl⟩
    obtain ⟨hentry, hkept⟩ := List.mem_filter.mp hmem
    exact ⟨r, List.mk_mem_zipIdx_iff_getElem?.mp hentry, hkept⟩
  · rintro ⟨r, hr, hkept⟩
    exact ⟨(r, i), List.mem_filter.mpr ⟨List.mk_mem_zipIdx_iff_getElem?.mpr hr, hkept⟩, rfl⟩

theorem visible_increasing : (f.visible rows).Pairwise (· < ·) := by
  have hplaces : (rows.zipIdx.map Prod.snd).Pairwise (· < ·) := by
    rw [List.zipIdx_map_snd]
    exact List.pairwise_lt_range'
  have hsub : (f.visible rows).Sublist (rows.zipIdx.map Prod.snd) := List.filter_sublist.map Prod.snd
  exact hplaces.sublist hsub

/-- **Only one list increases and holds the places of kept rows.** -/
theorem eq_visible {places : List Nat} (hincreasing : places.Pairwise (· < ·))
    (hmem : ∀ i, i ∈ places ↔ ∃ r, rows[i]? = some r ∧ f.keeps r = true) : places = f.visible rows := by
  apply hincreasing.eq_of_mem_iff (f.visible_increasing rows)
  intro i
  rw [hmem, mem_visible]

/-- Without a condition every place is left. -/
theorem visible_everything : Filter.everything.visible rows = List.range rows.length := by
  symm
  apply eq_visible _ _ List.pairwise_lt_range
  intro i
  rw [List.mem_range]
  constructor
  · intro hi
    exact ⟨rows[i], List.getElem?_eq_getElem hi, rfl⟩
  · rintro ⟨r, hr, -⟩
    exact (List.getElem?_eq_some_iff.mp hr).1

/-! ## Rows -/

/-- **The rows at the places that a filter leaves** are those that it selects. -/
theorem rowsAt_visible : rowsAt rows (f.visible rows) = f.select rows := by
  have hrow : ∀ entry ∈ rows.zipIdx.filter (fun entry => f.keeps entry.1),
      rows[entry.2]? = some entry.1 := by
    rintro ⟨r, i⟩ hmem
    exact List.mk_mem_zipIdx_iff_getElem?.mp (List.mem_filter.mp hmem).1
  have hrows := List.filterMap_congr hrow
  have hselect : f.select rows = (rows.zipIdx.filter fun entry => f.keeps entry.1).map Prod.fst := by
    unfold select
    conv => lhs; rw [← List.zipIdx_map_fst 0 rows, List.filter_map]
    rfl
  unfold rowsAt visible
  rw [List.filterMap_map, hselect, ← List.filterMap_eq_map']
  exact hrows

/-- Selecting twice selects what both filters keep. -/
theorem select_select (g : Filter) :
    g.select (f.select rows) = rows.filter fun r => f.keeps r && g.keeps r := by
  unfold select
  rw [List.filter_filter]
  refine List.filter_congr fun r _ => ?_
  rw [Bool.and_comm]

theorem select_self : f.select (f.select rows) = f.select rows := by
  unfold select
  rw [List.filter_filter]
  refine List.filter_congr fun r _ => ?_
  rw [Bool.and_self]

end Filter

/-! ## Bars -/

variable [PatternLibrary]

/-- **A text that replaces another** is in force at once under the query language. -/
theorem replace_standard {b : FilterBar} {limit : Nat} (hb : b.compiler = .standard limit) (query : Text) :
    (b.edit (.replace query)).1 = ⟨.standard limit, query, Filter.ofQuery limit query, b.wantsFocus⟩ := by
  have hsettles := settles_standard limit query
  rw [FilterBar.edit_eq, hb]
  show FilterBar.mk _ query ((settles (.standard limit) query).getD b.filter) (b.wantsFocus || false) = _
  rw [hsettles, Option.getD_some, Bool.or_false]

/-- A bar made for a query has the filter of the query in force. -/
theorem forQuery_some (settings : Settings) (query : Text) :
    (FilterBar.forQuery settings (some query)).1 =
      ⟨.standard settings.patternSizeLimit, query, Filter.ofQuery settings.patternSizeLimit query, false⟩ :=
  replace_standard rfl query

/-- Every bar that is made has the query language as its compiler. -/
theorem forQuery_compiler (settings : Settings) (query : Option Text) :
    (FilterBar.forQuery settings query).1.compiler = .standard settings.patternSizeLimit := by
  cases query with
  | none => rfl
  | some q => rw [forQuery_some]

/-- The rows that a bar made for a query leaves. -/
theorem rowsAt_forQuery (settings : Settings) (query : Text) (rows : List Row) :
    rowsAt rows ((FilterBar.forQuery settings (some query)).1.visible rows) =
      (Filter.ofQuery settings.patternSizeLimit query).select rows := by
  rw [forQuery_some]
  exact Filter.rowsAt_visible _ rows

end RankSieve
