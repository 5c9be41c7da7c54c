import Mathlib.Data.List.Chain
import Mathlib.Data.List.Induction
import RankSieve.Proofs.Appending
import RankSieve.Proofs.QuickConditions
import RankSieve.Proofs.VisibleRows

/-!
# `RankSieve.Proofs.MenuPicks` — a query put together from the menu

Entries picked from the menu say by themselves which rows to keep: an OR of ANDs, where conditions side by
side are joined by `AND`. The bar goes a longer way. It appends the text of each entry, with a joining word
where one is needed, and compiles the whole text anew. This file proves that the rows in view are those that
the entries say.

The induction is over the entries, at their end, since that is where a text grows. It carries two facts:
the text can be gone on with, and its clauses are those of the entries. A connective at the end breaks the
first of them, and so a series is taken apart into conditions, each with the connective in front of it if
there is one.

## Contents
- **Series.** `Sensible` series, and `Complete` for those that end with a condition.
- **The account.** `partsOf`, `said` and `keptBy` read off the entries which rows to keep.
- **The text.** `splitClauses_textOf`: it splits into the tokens of the parts.
- **The filter.** `keeps_ofTokens` takes the tokens for the conditions, and `visible_picks` is the result.
-/

namespace RankSieve

/-! ## Series -/

/-- Entries that can be picked in this order: a connective stands neither first nor behind another, and
    the names of methods are words. -/
structure Sensible (picks : List QuickFilter) : Prop where
  first : ∀ c, picks.head? ≠ some (.logic c)
  apart : picks.IsChain fun p q => p.isLogic = false ∨ q.isLogic = false
  method : ∀ name, .method name ∈ picks → Solid name

/-- A series that ends with a condition, as it grows: the next condition follows at once or behind a
    connective. -/
inductive Complete : List QuickFilter → Prop where
  | first {q : QuickFilter} : q.Ready → Complete [q]
  | next {front : List QuickFilter} {q : QuickFilter} : Complete front → q.Ready → Complete (front ++ [q])
  | joined {front : List QuickFilter} (c : Connective) {q : QuickFilter} :
      Complete front → q.Ready → Complete (front ++ [.logic c, q])

theorem ready_or_logic {q : QuickFilter} (hmethod : ∀ name, q = .method name → Solid name) :
    q.Ready ∨ ∃ c, q = .logic c := by
  cases q with
  | logic c => exact .inr ⟨c, rfl⟩
  | method name => exact .inl (hmethod name rfl)
  | _ => exact .inl True.intro

/-- **Every series grows so**, but for a connective at its end. -/
theorem Sensible.cases {picks : List QuickFilter} (h : Sensible picks) :
    picks = [] ∨ Complete picks ∨ ∃ front c, Complete front ∧ picks = front ++ [.logic c] := by
  induction picks using List.reverseRecOn with
  | nil => exact .inl rfl
  | append_singleton front q ih =>
    obtain ⟨hfirst, hapart, hmethod⟩ := h
    obtain ⟨hchain, -, hborder⟩ := List.isChain_append.mp hapart
    have hfront : Sensible front := by
      refine ⟨fun c hc => hfirst c ?_, hchain, fun name hname => hmethod name (List.mem_append_left _ hname)⟩
      rw [List.head?_append, hc]
      rfl
    have hq : q.Ready ∨ ∃ c, q = .logic c := by
      refine ready_or_logic fun name hname => hmethod name ?_
      rw [← hname]
      exact List.mem_append_right _ List.mem_cons_self
    rcases ih hfront with rfl | hcomplete | ⟨front, c, hcomplete, rfl⟩
    · rcases hq with hq | ⟨c, rfl⟩
      · exact .inr (.inl (.first hq))
      · exact absurd rfl (hfirst c)
    · rcases hq with hq | ⟨c, rfl⟩
      · exact .inr (.inl (.next hcomplete hq))
      · exact .inr (.inr ⟨front, c, hcomplete, rfl⟩)
    · -- behind a connective there is a condition, and the two come together
      have hlast : (front ++ [QuickFilter.logic c]).getLast? = some (.logic c) := List.getLast?_concat
      have hq' := (hborder _ hlast q rfl).resolve_left (by simp [QuickFilter.isLogic, QuickFilter.connective?])
      rcases hq with hq | ⟨d, rfl⟩
      · rw [List.append_assoc]
        exact .inr (.inl (.joined c hcomplete hq))
      · exact absurd hq' (by simp [QuickFilter.isLogic, QuickFilter.connective?])

/-! ## The account -/

/-- What stands between each `OR` and the next. An `AND` says no more than standing side by side. -/
def partsOf (picks : List QuickFilter) : List (List QuickFilter) :=
  (picks.filter fun q => q != .logic .and).splitOnP fun q => q == .logic .or

/-- The clauses that a series says. A connective at its end has nothing to join. -/
def said (picks : List QuickFilter) : List (List QuickFilter) :=
  partsOf (if picks.getLast?.any QuickFilter.isLogic then picks.dropLast else picks)

/-- Whether clauses of entries keep a row: some clause has to hold in all its conditions. Entries without a
    condition are taken out, and clauses without conditions too; if no clause is left, every row is kept. -/
def keptBy [PatternLibrary] (limit : Nat) (clauses : List (List QuickFilter)) (r : Row) : Bool :=
  let left := (clauses.map (·.filterMap (QuickFilter.condition? limit))).filter fun c => !c.isEmpty
  left.isEmpty || left.any fun c => c.all (· r)

theorem partsOf_append_and (front back : List QuickFilter) :
    partsOf (front ++ .logic .and :: back) = partsOf (front ++ back) := by
  unfold partsOf
  rw [List.filter_append, List.filter_append, List.filter_cons_of_neg (by simp)]

theorem partsOf_append_or (front back : List QuickFilter) :
    partsOf (front ++ .logic .or :: back) = partsOf front ++ partsOf back := by
  unfold partsOf
  rw [List.filter_append, List.filter_cons_of_pos (by simp), List.splitOnP_append_cons _ _ (by simp)]

/-- Conditions go to the last part. -/
theorem partsOf_append (front : List QuickFilter) {qs : List QuickFilter} (hqs : ∀ q ∈ qs, q.Ready) :
    ∃ first last, partsOf front = first ++ [last] ∧ partsOf (front ++ qs) = first ++ [last ++ qs] := by
  have hne (c : Connective) : ∀ q ∈ qs, q ≠ .logic c := by
    rintro q hq rfl
    exact hqs _ hq
  have hfilter : qs.filter (fun q => q != .logic .and) = qs :=
    List.filter_eq_self.mpr fun q hq => bne_iff_ne.mpr (hne .and q hq)
  unfold partsOf
  rw [List.filter_append, hfilter]
  exact splitOnP_append _ fun q hq => beq_false_of_ne (hne .or q hq)

theorem partsOf_ready {qs : List QuickFilter} (hqs : ∀ q ∈ qs, q.Ready) : partsOf qs = [qs] := by
  obtain ⟨first, last, hnil, hparts⟩ := partsOf_append [] hqs
  have hone : ([] : List (List QuickFilter)) ++ [[]] = first ++ [last] := hnil
  obtain ⟨rfl, hlast⟩ := List.append_inj' hone rfl
  obtain rfl : [] = last := (List.cons.inj hlast).1
  exact hparts

/-- A member of a part is a member of the whole, and separates nothing. -/
theorem mem_of_mem_splitOnP {α : Type} {p : α → Bool} {as part : List α} {a : α}
    (hpart : part ∈ as.splitOnP p) (ha : a ∈ part) : a ∈ as ∧ p a = false := by
  induction as generalizing part with
  | nil =>
    obtain rfl := List.mem_singleton.mp hpart
    exact absurd ha List.not_mem_nil
  | cons b as ih =>
    rw [List.splitOnP_cons_eq_if_modifyHead] at hpart
    by_cases hb : p b = true
    · rw [if_pos hb] at hpart
      rcases List.mem_cons.mp hpart with rfl | hpart
      · exact absurd ha List.not_mem_nil
      · obtain ⟨hmem, hno⟩ := ih hpart ha
        exact ⟨List.mem_cons_of_mem b hmem, hno⟩
    · rw [if_neg hb] at hpart
      cases hsplit : as.splitOnP p with
      | nil => exact absurd hsplit (List.splitOnP_ne_nil p as)
      | cons head parts =>
        rw [hsplit] at hpart ih
        rcases List.mem_cons.mp hpart with rfl | hpart
        · rcases List.mem_cons.mp ha with rfl | ha
          · exact ⟨List.mem_cons_self, Bool.eq_false_iff.mpr hb⟩
          · obtain ⟨hmem, hno⟩ := ih List.mem_cons_self ha
            exact ⟨List.mem_cons_of_mem b hmem, hno⟩
        · obtain ⟨hmem, hno⟩ := ih (List.mem_cons_of_mem head hpart) ha
          exact ⟨List.mem_cons_of_mem b hmem, hno⟩

/-- The parts of a series hold conditions only. -/
theorem ready_of_mem_partsOf {picks part : List QuickFilter} {q : QuickFilter} (h : Sensible picks)
    (hpart : part ∈ partsOf picks) (hq : q ∈ part) : q.Ready := by
  obtain ⟨hmem, hor⟩ := mem_of_mem_splitOnP hpart hq
  obtain ⟨hmem, hand⟩ := List.mem_filter.mp hmem
  rcases ready_or_logic fun name hname => h.method name (hname ▸ hmem) with hready | ⟨c, rfl⟩
  · exact hready
  · cases c with
    | and => simp at hand
    | or => simp at hor

/-! ## The text -/

/-- The text of a series. -/
def textOf (picks : List QuickFilter) : Text := (picks.map Edit.ofQuickFilter).foldl Edit.revise []

theorem textOf_append (front back : List QuickFilter) :
    textOf (front ++ back) = (back.map Edit.ofQuickFilter).foldl Edit.revise (textOf front) := by
  unfold textOf
  rw [List.map_append, List.foldl_append]

theorem ofQuickFilter_ready {q : QuickFilter} (hq : q.Ready) : Edit.ofQuickFilter q = .condition q.token := by
  cases q with
  | logic c => exact absurd hq id
  | _ => rfl

/-- A text that can be gone on with waits for nothing. -/
theorem EndsPlain.not_waiting {t : Text} (ht : EndsPlain t) : (t.isEmpty || t.endsWithBlank) = false := by
  obtain ⟨htrail, ws, w, hwords, -⟩ := ht
  rcases List.eq_nil_or_concat' t with rfl | ⟨s, c, rfl⟩
  · exact absurd hwords (by simp [Text.words])
  · have hc : isBlank c = false := by
      rw [Bool.eq_false_iff]
      intro hc
      unfold Text.trail at htrail
      rw [List.reverse_append, List.reverse_singleton, List.singleton_append, List.takeWhile_cons_of_pos hc, List.reverse_cons] at htrail
      exact List.append_ne_nil_of_right_ne_nil _ (List.cons_ne_nil _ _) htrail
    unfold Text.endsWithBlank
    rw [List.getLast?_concat, Option.any_some, hc]
    simp

theorem EndsPlain.revise_condition {t : Text} (ht : EndsPlain t) (c : Text) :
    Edit.revise t (.condition c) = t ++ ' ' :: (andWord ++ ' ' :: c) := by
  rw [Edit.revise, ht.not_waiting, if_neg Bool.false_ne_true, List.append_assoc]
  rfl

theorem EndsPlain.revise_connective {t : Text} (ht : EndsPlain t) (c : Connective) :
    Edit.revise t (.connective c) = t ++ ' ' :: (c.keyword ++ [' ']) := by
  rw [Edit.revise, ht.not_waiting, if_neg Bool.false_ne_true, List.append_assoc, List.append_assoc]
  rfl

/-- Behind a connective a condition follows without more. -/
theorem revise_behind (t k c : Text) :
    Edit.revise (t ++ ' ' :: (k ++ [' '])) (.condition c) = t ++ ' ' :: (k ++ ' ' :: c) := by
  have hwaits : (t ++ ' ' :: (k ++ [' '])).endsWithBlank = true := by
    unfold Text.endsWithBlank
    rw [← List.cons_append, ← List.append_assoc, List.getLast?_concat]
    rfl
  rw [Edit.revise, hwaits, Bool.or_true, if_pos rfl]
  simp

/-- The tokens of the parts of a series, which its text is to split into. -/
def tokensOfParts (parts : List (List QuickFilter)) : List (List Text) := parts.map (·.map QuickFilter.token)

theorem tokensOfParts_concat (parts : List (List QuickFilter)) (part : List QuickFilter) :
    tokensOfParts (parts ++ [part]) = tokensOfParts parts ++ [part.map QuickFilter.token] := List.map_append

/-- **One connective**, and a condition behind it if there is one yet, does to the clauses of the text what
    it does to the parts of the series. -/
theorem splitClauses_step {t : Text} {picks : List QuickFilter} (ht : EndsPlain t)
    (hs : splitClauses t = tokensOfParts (partsOf picks)) (c : Connective) (next : Option QuickFilter)
    (hnext : ∀ q ∈ next.toList, q.Ready) :
    splitClauses (t ++ ' ' :: (c.keyword ++ ' ' :: (next.map QuickFilter.token).getD [])) =
      tokensOfParts (partsOf (picks ++ .logic c :: next.toList)) := by
  let added := (next.map QuickFilter.token).getD []
  have hadded : MayFollow added ∧ tokenOf added = next.toList.map QuickFilter.token := by
    cases next with
    | none => exact ⟨.inl rfl, rfl⟩
    | some q =>
      have hq : PlainToken q.token := q.plainToken_token (hnext q List.mem_cons_self)
      exact ⟨.inr hq, if_neg hq.1.1⟩
  obtain ⟨hmay, htoken⟩ := hadded
  cases c with
  | and =>
    obtain ⟨front, last, hold, hnew⟩ := splitClauses_append_and ht hmay
    obtain ⟨first, final, hparts, hparts'⟩ := partsOf_append picks hnext
    -- both sides add to their last member, and these members are one and the same
    have hboth : front ++ [last] = tokensOfParts first ++ [final.map QuickFilter.token] := by
      rw [← hold, hs, hparts, tokensOfParts_concat]
    obtain ⟨rfl, hlast⟩ := List.append_inj' hboth rfl
    obtain rfl : last = final.map QuickFilter.token := (List.cons.inj hlast).1
    show splitClauses (t ++ ' ' :: (andWord ++ ' ' :: added)) = _
    rw [hnew, htoken, partsOf_append_and, hparts', tokensOfParts_concat, List.map_append]
  | or =>
    show splitClauses (t ++ ' ' :: (orWord ++ ' ' :: added)) = _
    rw [splitClauses_append_or ht hmay, hs, htoken, partsOf_append_or, partsOf_ready hnext, tokensOfParts_concat]

/-- A condition alone is a query of one token. -/
theorem PlainToken.splitClauses_eq {c : Text} (hc : PlainToken c) : splitClauses c = [[c]] := by
  refine splitClauses_of_written ⟨[c], .cons (.single c) .nil, .single c⟩ fun clause hclause token htoken => ?_
  obtain rfl := List.mem_singleton.mp hclause
  obtain rfl := List.mem_singleton.mp htoken
  exact hc

/-- **A series that ends with a condition**, by induction on how it grows: its text can be gone on with, and
    splits into the tokens of its parts. -/
theorem Complete.text {picks : List QuickFilter} (h : Complete picks) :
    EndsPlain (textOf picks) ∧ splitClauses (textOf picks) = tokensOfParts (partsOf picks) := by
  induction h with
  | @first q hq =>
    have hplain := q.plainToken_token hq
    have htext : textOf [q] = q.token := by
      unfold textOf
      rw [List.map_singleton, ofQuickFilter_ready hq]
      rfl
    have hready : ∀ p ∈ [q], p.Ready := fun p hp => List.mem_singleton.mp hp ▸ hq
    rw [htext, hplain.splitClauses_eq, partsOf_ready hready]
    exact ⟨hplain.endsPlain, rfl⟩
  | @next front q _ hq ih =>
    obtain ⟨hends, hsplit⟩ := ih
    have hready : ∀ p ∈ (some q).toList, p.Ready := fun p hp => List.mem_singleton.mp hp ▸ hq
    have htext : textOf (front ++ [q]) = textOf front ++ ' ' :: (andWord ++ ' ' :: q.token) := by
      rw [textOf_append, List.map_singleton, ofQuickFilter_ready hq]
      exact hends.revise_condition q.token
    have hstep := splitClauses_step hends hsplit .and (some q) hready
    rw [partsOf_append_and] at hstep
    rw [htext]
    exact ⟨hends.append keyword_andWord (q.plainToken_token hq), hstep⟩
  | @joined front c q _ hq ih =>
    obtain ⟨hends, hsplit⟩ := ih
    have hready : ∀ p ∈ (some q).toList, p.Ready := fun p hp => List.mem_singleton.mp hp ▸ hq
    have hkeyword : Keyword c.keyword := by cases c <;> decide
    have htext : textOf (front ++ [.logic c, q]) = textOf front ++ ' ' :: (c.keyword ++ ' ' :: q.token) := by
      rw [textOf_append, List.map_cons, List.map_singleton, ofQuickFilter_ready hq, List.foldl_cons]
      show Edit.revise (Edit.revise (textOf front) (.connective c)) (.condition q.token) = _
      rw [hends.revise_connective, revise_behind]
    rw [htext]
    exact ⟨hends.append hkeyword (q.plainToken_token hq), splitClauses_step hends hsplit c (some q) hready⟩

/-- **The text of a series splits into the tokens of its parts**, also where a connective ends it. -/
theorem splitClauses_textOf {picks : List QuickFilter} (h : Sensible picks) :
    splitClauses (textOf picks) = tokensOfParts (partsOf picks) := by
  rcases h.cases with rfl | hcomplete | ⟨front, c, hcomplete, rfl⟩
  · exact splitClauses_blank blank_nil
  · exact hcomplete.text.2
  · obtain ⟨hends, hsplit⟩ := hcomplete.text
    have htext : textOf (front ++ [.logic c]) = textOf front ++ ' ' :: (c.keyword ++ [' ']) := by
      rw [textOf_append]
      exact hends.revise_connective c
    rw [htext]
    exact splitClauses_step hends hsplit c none nofun

/-! ## The filter -/

section

variable [PatternLibrary]

/-- **Tokens of conditions** make the filter that keeps what the conditions keep. -/
theorem keeps_ofTokens {limit : Nat} {clauses : List (List QuickFilter)}
    (h : ∀ c ∈ clauses, ∀ q ∈ c, q.Ready) (r : Row) :
    (Filter.ofTokens limit (tokensOfParts clauses)).keeps r = keptBy limit clauses r := by
  let test (term : Term) (r : Row) : Bool := term.holds r
  have hclause : ∀ c ∈ clauses,
      c.filterMap (QuickFilter.condition? limit) = (termsOf limit (c.map QuickFilter.token)).map test := by
    intro c hc
    unfold termsOf
    rw [List.filterMap_map, List.map_filterMap]
    exact List.filterMap_congr fun q hq => (QuickFilter.compile_token (h c hc q hq)).symm
  have hleft : (clauses.map (·.filterMap (QuickFilter.condition? limit))).filter (fun c => !c.isEmpty) =
      (((tokensOfParts clauses).map (termsOf limit)).filter fun c => !c.isEmpty).map (·.map test) := by
    unfold tokensOfParts
    rw [List.map_congr_left hclause, List.map_map, List.filter_map, List.filter_map, List.map_map]
    congr 2
    funext c
    simp
  have hfilter := clausesOf_judged limit (tokensOfParts clauses)
  unfold keptBy
  rw [hleft]
  unfold Filter.ofTokens Filter.ofJudged
  rw [hfilter]
  cases ((tokensOfParts clauses).map (termsOf limit)).filter fun c => !c.isEmpty with
  | nil => rfl
  | cons c cs =>
    show (c :: cs).any (Clause.holds · r) = ((c :: cs).map (·.map test)).any fun c => c.all (· r)
    rw [List.any_map]
    congr 1
    funext c
    show c.all (·.holds r) = (c.map test).all (· r)
    rw [List.all_map]
    rfl

/-- **A connective at the end** adds nothing to what is kept: at most it opens a clause without conditions. -/
theorem keptBy_said (limit : Nat) (picks : List QuickFilter) (r : Row) :
    keptBy limit (said picks) r = keptBy limit (partsOf picks) r := by
  have hopened (front : List QuickFilter) :
      keptBy limit (partsOf front ++ [[]]) r = keptBy limit (partsOf front) r := by
    unfold keptBy
    rw [List.map_append, List.filter_append]
    exact congrArg (fun left : List (List (Row → Bool)) => left.isEmpty || left.any fun c => c.all (· r))
      (List.append_nil _)
  unfold said
  by_cases hlast : picks.getLast?.any QuickFilter.isLogic = true
  · rw [if_pos hlast]
    rcases List.eq_nil_or_concat' picks with rfl | ⟨front, q, rfl⟩
    · rfl
    · rw [List.getLast?_concat, Option.any_some] at hlast
      rw [List.dropLast_concat]
      cases q with
      | logic c =>
        cases c with
        | and => rw [partsOf_append_and, List.append_nil]
        | or => rw [partsOf_append_or]; exact (hopened front).symm
      | _ => exact absurd hlast Bool.false_ne_true
  · rw [if_neg hlast]

/-- An empty bar after entries were picked, without settings of one's own. -/
def barOf (picks : List QuickFilter) : FilterBar :=
  ((FilterBar.start (.standard Settings.standard.patternSizeLimit)).perform (picks.map .quick)).bar

/-- The filter in force is that of the text of the series. -/
theorem barOf_filter (picks : List QuickFilter) :
    (barOf picks).filter = Filter.ofQuery Settings.standard.patternSizeLimit (textOf picks) := by
  obtain ⟨-, -, hfilter, -⟩ :=
    (FilterBar.start (.standard Settings.standard.patternSizeLimit)).perform_spec (picks.map .quick)
  have hedits : editsOf (picks.map .quick) = picks.map Edit.ofQuickFilter := by
    unfold editsOf
    rw [List.filterMap_map, ← List.filterMap_eq_map]
    rfl
  have hstart : Filter.everything = Filter.ofQuery Settings.standard.patternSizeLimit [] :=
    (Filter.ofQuery_blank _ blank_nil).symm
  unfold barOf textOf
  rw [hfilter, hedits]
  show lastSettled (.standard _) .everything (textsFrom [] _) = _
  rw [hstart, lastSettled_standard]

/-- **The rows in view are those that the entries say.** Whatever is picked from the menu, in an order that
    is not senseless: the places in view are in order, and they are the places of just those rows that the
    clauses of the entries keep. -/
theorem visible_picks {picks : List QuickFilter} (h : Sensible picks) (rows : List Row) :
    ((barOf picks).visible rows).Pairwise (· < ·) ∧
    ∀ i, i ∈ (barOf picks).visible rows ↔
      ∃ r, rows[i]? = some r ∧ keptBy Settings.standard.patternSizeLimit (said picks) r = true := by
  unfold FilterBar.visible
  rw [barOf_filter, ofQuery_eq_ofTokens, splitClauses_textOf h]
  refine ⟨Filter.visible_increasing _ rows, fun i => ?_⟩
  rw [Filter.mem_visible]
  refine exists_congr fun r => and_congr_right fun _ => ?_
  rw [keeps_ofTokens (fun c hc q hq => ready_of_mem_partsOf h hc hq), keptBy_said]

end

/-- Two clauses, an entry that is left to complete, a negative rank and a connective at the end: one row for
    each clause, and one for neither. -/
theorem visible_picks_mixed :
    let picks : List QuickFilter :=
      [.method "GET".toList, .rankAtLeast (-5), .logic .or, .customUrl, .status 40, .logic .and]
    let rows : List Row := [⟨-5, "get".toList, "/a".toList, 200, none⟩, ⟨-6, "GET".toList, "/b".toList, 404, none⟩,
      ⟨-6, "GET".toList, "/c".toList, 500, none⟩]
    Sensible picks ∧ ((barOf picks).visible rows).Pairwise (· < ·) ∧
      (∀ i, i ∈ (barOf picks).visible rows ↔
        ∃ r, rows[i]? = some r ∧ keptBy Settings.standard.patternSizeLimit (said picks) r = true) ∧
      (barOf picks).visible rows = [0, 1] := by
  intro picks rows
  have hsensible : Sensible picks := by
    refine ⟨fun c => nofun, by decide, fun name hname => ?_⟩
    obtain rfl : name = "GET".toList := by simpa [picks] using hname
    decide
  obtain ⟨hordered, hplaces⟩ := visible_picks hsensible rows
  exact ⟨hsensible, hordered, hplaces, by decide +kernel⟩

end RankSieve
