import Mathlib.Data.List.Forall2
import RankSieve.Report

/-!
# `RankSieve.Proofs.UrlColumn` — how much of a URL a table shows

A table has one column for URLs, and its width can be bounded. A URL that fits is shown as it is; of a longer
one so much of the front is shown that it fills the width together with three points. `Shows` is this rule, and
from it come the bounds: what is shown is as wide as the column allows and not longer than the URL. A column
that is not wide enough for the points themselves is the exception. There a longer URL is replaced by three
points all the same (`shortenUrl_too_long`).
-/

namespace RankSieve

/-- What a column of some width shows of a URL. -/
inductive Shows (width : Nat) (url : Text) : Text → Prop where
  | whole : url.length ≤ width → Shows width url url
  | cut {front : Text} : width < url.length → front <+: url → front.length = width - 3 →
      Shows width url (front ++ ['.', '.', '.'])

/-- **A URL is shown whole or cut**, where the width is bounded at all. -/
theorem shows_shortenUrl {width : Nat} (hwidth : 0 < width) (url : Text) :
    Shows width url (shortenUrl width url) := by
  unfold shortenUrl
  rw [decide_eq_false (Nat.ne_of_gt hwidth), Bool.false_or]
  by_cases hfits : url.length ≤ width
  · rw [if_pos (decide_eq_true hfits)]
    exact .whole hfits
  · have hlonger : width < url.length := Nat.lt_of_not_le hfits
    have hfront : (url.take (width - 3)).length = width - 3 :=
      List.length_take_of_le (Nat.le_trans (Nat.sub_le width 3) (Nat.le_of_lt hlonger))
    rw [if_neg (ne_true_of_eq_false (decide_eq_false hfits))]
    exact .cut hlonger (List.take_prefix _ url) hfront

namespace Shows

variable {width : Nat} {url shown : Text}

/-- **A column with room for the points** is wide enough for what it shows, and nothing is made longer. -/
theorem length_le (hwidth : 3 ≤ width) (h : Shows width url shown) :
    shown.length ≤ width ∧ shown.length ≤ url.length := by
  cases h with
  | whole hfits => exact ⟨hfits, Nat.le_refl _⟩
  | @cut front hlonger _ hfront =>
    have hlength : (front ++ ['.', '.', '.']).length = width := by
      rw [List.length_append, hfront]
      exact Nat.sub_add_cancel hwidth
    rw [hlength]
    exact ⟨Nat.le_refl width, Nat.le_of_lt hlonger⟩

/-- In a narrower column nothing is left of a longer URL. -/
theorem eq_points (hwidth : width < 3) (hlonger : width < url.length) (h : Shows width url shown) :
    shown = ['.', '.', '.'] := by
  cases h with
  | whole hfits => exact absurd hfits (Nat.not_le_of_lt hlonger)
  | cut _ _ hfront =>
    rw [Nat.sub_eq_zero_of_le (Nat.le_of_lt hwidth)] at hfront
    rw [List.eq_nil_of_length_eq_zero hfront, List.nil_append]

end Shows

/-- **The URL column.** In the table of some rows, row by row, what stands for a URL in a column of bounded width
    is the URL if it fits and otherwise its front and three points. From three characters on, this is no
    wider than the column and no longer than the URL. Below, all that is shown of a longer URL is the points. -/
theorem rowTable_urls {width : Nat} (hwidth : 0 < width) (colored : Bool) (rows : List Row) :
    List.Forall₂ (fun (r : Row) (cells : List Cell) => ∃ shown, Shows width r.url shown ∧
        cells = [.center r.rankText, .left r.method, .left shown,
          ⟨r.statusText, true, if colored then statusColor? r.status r.method else none⟩] ∧
        (3 ≤ width → shown.length ≤ width ∧ shown.length ≤ r.url.length) ∧
        (width < 3 → width < r.url.length → shown = ['.', '.', '.']))
      rows (rowTable width colored rows).rows := by
  show List.Forall₂ _ rows (rows.map (rowCells width colored))
  rw [List.forall₂_map_right_iff, List.forall₂_same]
  intro r _
  have hshows := shows_shortenUrl hwidth r.url
  exact ⟨shortenUrl width r.url, hshows, rfl, fun hroom => hshows.length_le hroom,
    fun hnarrow hlonger => hshows.eq_points hnarrow hlonger⟩

/-- A column of ten characters shows seven of a longer URL. -/
theorem rowTable_urls_ten :
    let r : Row := ⟨1, "GET".toList, "https://a.test/long/path".toList, 200, none⟩
    (rowTable 10 true [r]).rows = [[.center "1".toList, .left "GET".toList, .left "https:/...".toList,
        (Cell.center "200".toList).inColor (some .green)]] ∧
      Shows 10 r.url "https:/...".toList ∧ "https:/...".toList.length = 10 := by
  intro r
  have hurls := rowTable_urls (by decide : 0 < 10) true [r]
  obtain ⟨shown, hshows, hcells, -⟩ := (List.forall₂_cons.mp hurls).1
  have hshown : shown = "https:/...".toList := by
    have hcell : Cell.left "https:/...".toList = .left shown := by
      have hrest := (List.cons.inj (List.cons.inj hcells).2).2
      exact (List.cons.inj hrest).1
    exact (congrArg Cell.content hcell).symm
  rw [hshown] at hshows
  exact ⟨by decide +kernel, hshows, by decide⟩

/-- In a column of one character, three points stand for a URL of two. -/
theorem shortenUrl_too_long :
    ¬∀ (width : Nat) (url : Text), 0 < width →
      (shortenUrl width url).length ≤ width ∧ (shortenUrl width url).length ≤ url.length := by
  intro h
  exact absurd (h 1 "ab".toList (by decide)) (by decide)

end RankSieve
