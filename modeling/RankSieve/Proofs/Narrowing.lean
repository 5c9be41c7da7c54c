import RankSieve.Proofs.MenuPicks

/-!
# `RankSieve.Proofs.Narrowing` — a condition appended to any query

A condition that is appended with `AND` narrows what is kept, one that is appended with `OR` widens it. This
holds behind any text that a user may have typed, as long as the text ends with a word that is no keyword:
then the clauses in front stay as they are (`Appending`), and only the last of them is gone on with.

Dropped tokens are what could turn the one into the other. A last clause of dropped tokens only counts for
nothing, so a condition behind it opens a clause and shows rows; and where every token is dropped all rows
are kept, so that any condition hides rows. Both are excluded by asking for one accepted token in the right
place, and `Fulfils` is how a clause is spoken of where some of its tokens may be dropped.

## Contents
- **Clauses with dropped tokens.** `Fulfils`, with a lemma for a token more and one for a clause alone.
- **Texts.** `endsPlain_of_last`: what a user can see of a text is enough to go on with it.
- **Bars.** `FilterBar.Current`: the text is always in force, so that `mem_visible_iff` speaks of its clauses.
  `visible_narrowed` and `visible_widened` compare two bars.
- **The main result.** `append_narrows_or_widens`.
-/

namespace RankSieve

/-! ## Clauses with dropped tokens -/

/-- Whether a row fulfils a clause of tokens: some token is accepted, and the row fulfils all accepted
    ones. -/
def Fulfils [PatternLibrary] (limit : Nat) (tokens : List Text) (r : Row) : Prop :=
  (∃ token ∈ tokens, ¬Rejected limit token) ∧
    ∀ token ∈ tokens, ∀ term, Term.compile limit token = .ok term → term.holds r = true

section

variable [PatternLibrary] {limit : Nat} {c : Text} {term : Term} (hterm : Term.compile limit c = .ok term) (r : Row)

include hterm

/-- **A token more** is a condition more, where the clause had one. -/
theorem fulfils_concat {tokens : List Text} (htokens : ∃ token ∈ tokens, ¬Rejected limit token) :
    Fulfils limit (tokens ++ [c]) r ↔ Fulfils limit tokens r ∧ term.holds r = true := by
  constructor
  · rintro ⟨-, hall⟩
    refine ⟨⟨htokens, fun token htoken => hall token (List.mem_append_left _ htoken)⟩, ?_⟩
    exact hall c (List.mem_append_right _ List.mem_cons_self) term hterm
  · rintro ⟨⟨-, hall⟩, hholds⟩
    obtain ⟨token, htoken, haccepted⟩ := htokens
    refine ⟨⟨token, List.mem_append_left _ htoken, haccepted⟩, fun token htoken => ?_⟩
    rcases List.mem_append.mp htoken with htoken | htoken
    · exact hall token htoken
    · obtain rfl := List.mem_singleton.mp htoken
      intro term' hterm'
      obtain rfl := Except.ok.inj (hterm.symm.trans hterm')
      exact hholds

/-- **A clause of one token** is its condition. -/
theorem fulfils_singleton : Fulfils limit [c] r ↔ term.holds r = true := by
  constructor
  · rintro ⟨-, hall⟩
    exact hall c List.mem_cons_self term hterm
  · intro hholds
    refine ⟨⟨c, List.mem_cons_self, not_rejected_iff.mpr ⟨term, hterm⟩⟩, fun token htoken term' hterm' => ?_⟩
    obtain rfl := List.mem_singleton.mp htoken
    obtain rfl := Except.ok.inj (hterm.symm.trans hterm')
    exact hholds

end

/-- Where some token is accepted, a row is kept for a clause that it fulfils. -/
theorem keeps_iff_fulfils [PatternLibrary] {limit : Nat} {clauses : List (List Text)} (r : Row)
    (h : ∃ clause ∈ clauses, ∃ token ∈ clause, ¬Rejected limit token) :
    (Filter.ofTokens limit clauses).keeps r = true ↔ ∃ clause ∈ clauses, Fulfils limit clause r := by
  obtain ⟨clause, hclause, token, htoken, haccepted⟩ := h
  rw [(means_ofTokens limit clauses).keeps_iff]
  constructor
  · rintro (hrejected | hfulfils)
    · exact absurd (hrejected clause hclause token htoken) haccepted
    · exact hfulfils
  · exact .inr

/-- A token more in the last clause. -/
theorem exists_fulfils_concat [PatternLibrary] {limit : Nat} {c : Text} {term : Term} {front : List (List Text)}
    {last : List Text} (hterm : Term.compile limit c = .ok term) (hlast : ∃ token ∈ last, ¬Rejected limit token)
    (r : Row) :
    (∃ clause ∈ front ++ [last ++ [c]], Fulfils limit clause r) ↔
      (∃ clause ∈ front, Fulfils limit clause r) ∨ (Fulfils limit last r ∧ term.holds r = true) := by
  rw [← fulfils_concat hterm r hlast]
  simp only [List.mem_append, List.mem_singleton, or_and_right, exists_or, exists_eq_left]

/-! ## Texts -/

/-- A text that does not end with a blank has none behind its last word. -/
theorem trail_of_not_endsWithBlank {t : Text} (ht : t.endsWithBlank = false) : t.trail = [] := by
  cases htrail : t.trail using List.reverseRecOn with
  | nil => rfl
  | append_singleton front c =>
    have hc : isBlank c = true := by
      refine trail_blank t c ?_
      rw [htrail]
      exact List.mem_append_right _ List.mem_cons_self
    have hlast : t.getLast? = some c := by
      rw [← spell_words t, htrail, ← List.append_assoc, List.getLast?_concat]
    unfold Text.endsWithBlank at ht
    rw [hlast, Option.any_some, hc] at ht
    cases ht

/-- **A text can be gone on with** if it ends with a word that is no keyword. -/
theorem endsPlain_of_last {t : Text} (hne : t ≠ []) (hend : t.endsWithBlank = false)
    (hlast : ∀ l ∈ t.bareWords.getLast?, ¬Spells andWord l ∧ ¬Spells orWord l) : EndsPlain t := by
  have htrail := trail_of_not_endsWithBlank hend
  refine ⟨htrail, ?_⟩
  rcases List.eq_nil_or_concat' t.words with hwords | ⟨ws, w, hwords⟩
  · -- without words and blanks at the end there is no text
    have hspell := spell_words t
    rw [hwords, htrail] at hspell
    exact absurd hspell.symm hne
  · refine ⟨ws, w, hwords, hlast w.letters ?_⟩
    unfold Text.bareWords
    rw [hwords, List.map_append, List.map_singleton, List.getLast?_concat]
    rfl

/-- The ways to append a condition with `AND`. -/
def narrowingEdits (c : Text) : List (List Edit) := [[.condition c], [.connective .and, .condition c]]

/-- The way to append a condition with `OR`. -/
def wideningEdits (c : Text) : List Edit := [.connective .or, .condition c]

/-- **All ways to append `AND`** lead to one text, behind which the clauses are those of before with a token
    more in the last of them. -/
theorem splitClauses_narrowed {t c : Text} (ht : EndsPlain t) (hc : PlainToken c) :
    ∃ front last, splitClauses t = front ++ [last] ∧
      ∀ edits ∈ narrowingEdits c, splitClauses (edits.foldl Edit.revise t) = front ++ [last ++ [c]] := by
  obtain ⟨front, last, hsplit, hand⟩ := splitClauses_append_and ht (.inr hc)
  have htoken : tokenOf c = [c] := if_neg hc.1.1
  rw [htoken] at hand
  refine ⟨front, last, hsplit, fun edits hedits => ?_⟩
  rcases List.mem_cons.mp hedits with rfl | hedits
  · rw [List.foldl_cons, List.foldl_nil, ht.revise_condition]
    exact hand
  · obtain rfl := List.mem_singleton.mp hedits
    rw [List.foldl_cons, List.foldl_cons, List.foldl_nil, ht.revise_connective, revise_behind]
    exact hand

theorem splitClauses_widened {t c : Text} (ht : EndsPlain t) (hc : PlainToken c) :
    splitClauses ((wideningEdits c).foldl Edit.revise t) = splitClauses t ++ [[c]] := by
  have hor := splitClauses_append_or ht (.inr hc)
  have htoken : tokenOf c = [c] := if_neg hc.1.1
  rw [htoken] at hor
  unfold wideningEdits
  rw [List.foldl_cons, List.foldl_cons, List.foldl_nil, ht.revise_connective, revise_behind]
  exact hor

/-! ## Bars -/

/-- A bar of the query language with the filter of its text in force. -/
structure FilterBar.Current [PatternLibrary] (limit : Nat) (b : FilterBar) : Prop where
  compiler_eq : b.compiler = .standard limit
  filter_eq : b.filter = Filter.ofQuery limit b.text

/-- A bar after some changes of its text. -/
def FilterBar.after (b : FilterBar) (edits : List Edit) : FilterBar :=
  edits.foldl (fun (b : FilterBar) e => (b.edit e).1) b

namespace FilterBar

/-- Any operations on an empty bar leave the filter of the text in force. -/
theorem perform_current [PatternLibrary] (limit : Nat) (acts : List Act) :
    Current limit ((start (.standard limit)).perform acts).bar := by
  obtain ⟨hcompiler, htext, hfilter, -⟩ := (start (.standard limit)).perform_spec acts
  have hstart : Filter.everything = Filter.ofQuery limit [] := (Filter.ofQuery_blank limit blank_nil).symm
  have hlast := lastSettled_standard limit [] (editsOf acts)
  rw [← hstart] at hlast
  refine ⟨hcompiler, ?_⟩
  rw [hfilter, htext]
  exact hlast

namespace Current

variable {limit : Nat} {b : FilterBar}

/-- One change moves the text on, and the filter with it. -/
theorem edit [PatternLibrary] (hb : b.Current limit) (e : Edit) :
    (b.edit e).1.text = e.revise b.text ∧ (b.edit e).1.Current limit := by
  rw [edit_eq, hb.compiler_eq, settles_standard]
  exact ⟨rfl, rfl, rfl⟩

/-- So do changes one after the other. -/
theorem after [PatternLibrary] (hb : b.Current limit) (edits : List Edit) :
    (b.after edits).text = edits.foldl Edit.revise b.text ∧ (b.after edits).Current limit := by
  induction edits generalizing b with
  | nil => exact ⟨rfl, hb⟩
  | cons e edits ih =>
    obtain ⟨htext, hedit⟩ := hb.edit e
    have hrest := ih hedit
    rw [htext] at hrest
    exact hrest

/-- **A row in view** fulfils some clause of the text, where some token of the text is accepted. -/
theorem mem_visible_iff [PatternLibrary] (hb : b.Current limit) {clauses : List (List Text)}
    (hsplit : splitClauses b.text = clauses) (haccepted : ∃ clause ∈ clauses, ∃ token ∈ clause, ¬Rejected limit token)
    {rows : List Row} {i : Nat} {r : Row} (hr : rows[i]? = some r) :
    i ∈ b.visible rows ↔ ∃ clause ∈ clauses, Fulfils limit clause r := by
  unfold visible
  rw [Filter.mem_visible, hb.filter_eq, ofQuery_eq_ofTokens, hsplit, ← keeps_iff_fulfils r haccepted, hr]
  simp

section

variable [PatternLibrary] {c : Text} {term : Term} (hb : b.Current limit) {b' : FilterBar} (hb' : b'.Current limit)
  (hterm : Term.compile limit c = .ok term) {rows : List Row} {i : Nat} {r : Row} (hr : rows[i]? = some r)

include hb hb' hterm hr

/-- **A token more in the last clause** shows no row, and hides those that fail it and fulfil no clause in
    front. -/
theorem visible_narrowed {front : List (List Text)} {last : List Text} (hsplit : splitClauses b.text = front ++ [last])
    (hsplit' : splitClauses b'.text = front ++ [last ++ [c]]) (haccepted : ∃ token ∈ last, ¬Rejected limit token) :
    (i ∈ b'.visible rows → i ∈ b.visible rows) ∧
      (i ∈ b.visible rows → (i ∉ b'.visible rows ↔
        term.holds r = false ∧ ∀ clause ∈ front, ¬Fulfils limit clause r)) := by
  have hmem : last ∈ front ++ [last] := List.mem_append_right _ List.mem_cons_self
  have hmem' : last ++ [c] ∈ front ++ [last ++ [c]] := List.mem_append_right _ List.mem_cons_self
  have haccepted' : ∃ token ∈ last ++ [c], ¬Rejected limit token :=
    ⟨c, List.mem_append_right _ List.mem_cons_self, not_rejected_iff.mpr ⟨term, hterm⟩⟩
  have hbefore := hb.mem_visible_iff hsplit ⟨last, hmem, haccepted⟩ hr
  have hafter := hb'.mem_visible_iff hsplit' ⟨_, hmem', haccepted'⟩ hr
  rw [exists_fulfils_concat hterm haccepted] at hafter
  rw [hbefore, hafter]
  constructor
  · rintro (⟨clause, hclause, hfulfils⟩ | ⟨hfulfils, -⟩)
    · exact ⟨clause, List.mem_append_left _ hclause, hfulfils⟩
    · exact ⟨last, hmem, hfulfils⟩
  · rintro ⟨clause, hclause, hfulfils⟩
    rw [not_or, not_and, Bool.not_eq_true]
    constructor
    · rintro ⟨hfront, hfails⟩
      have hnone : ∀ clause ∈ front, ¬Fulfils limit clause r := fun d hd h => hfront ⟨d, hd, h⟩
      -- so the clause that kept the row was the last one, and it is the condition that is not fulfilled
      rcases List.mem_append.mp hclause with hclause | hclause
      · exact absurd hfulfils (hnone clause hclause)
      · obtain rfl := List.mem_singleton.mp hclause
        exact ⟨hfails hfulfils, hnone⟩
    · rintro ⟨hfails, hnone⟩
      exact ⟨fun ⟨d, hd, h⟩ => hnone d hd h, fun _ => hfails⟩

/-- **A clause more** shows the rows that fulfil it, and hides none. -/
theorem visible_widened (hsplit' : splitClauses b'.text = splitClauses b.text ++ [[c]])
    (haccepted : ∃ clause ∈ splitClauses b.text, ∃ token ∈ clause, ¬Rejected limit token) :
    i ∈ b'.visible rows ↔ i ∈ b.visible rows ∨ term.holds r = true := by
  have hbefore := hb.mem_visible_iff rfl haccepted hr
  obtain ⟨clause, hclause, htokens⟩ := haccepted
  have hafter := hb'.mem_visible_iff hsplit' ⟨clause, List.mem_append_left _ hclause, htokens⟩ hr
  rw [hbefore, hafter, ← fulfils_singleton hterm r]
  simp only [List.mem_append, List.mem_singleton, or_and_right, exists_or, exists_eq_left]

end

end Current

end FilterBar

/-! ## The main result -/

/-- **An appended condition edits the last clause, or adds one.** Take any bar of the query language whose
    text ends with a word other than a keyword. `AND` and a condition make the condition the last token of
    the last clause, whether the `AND` is appended by itself or comes with the condition; `OR` and a
    condition make it a clause of its own. Let the condition be accepted. Then the former shows no row that
    was hidden, and hides just those rows that fail the condition and fulfil no clause in front of the last
    one, as long as the last clause asked for something. The latter shows what was shown and what fulfils
    the condition, as long as any clause asked for something. -/
theorem append_narrows_or_widens [PatternLibrary] {limit : Nat} {acts : List Act} {b : FilterBar} {c : Text}
    (hb : b = ((FilterBar.start (.standard limit)).perform acts).bar) (hne : b.text ≠ [])
    (hend : b.text.endsWithBlank = false)
    (hlast : ∀ l ∈ b.text.bareWords.getLast?, ¬Spells andWord l ∧ ¬Spells orWord l) (hc : PlainToken c) :
    ∃ front last, splitClauses b.text = front ++ [last] ∧
      (∀ edits ∈ narrowingEdits c, splitClauses (b.after edits).text = front ++ [last ++ [c]]) ∧
      splitClauses (b.after (wideningEdits c)).text = splitClauses b.text ++ [[c]] ∧
      ∀ term, Term.compile limit c = .ok term → ∀ (rows : List Row) (i : Nat) (r : Row), rows[i]? = some r →
        ((∃ token ∈ last, ¬Rejected limit token) → ∀ edits ∈ narrowingEdits c,
          (i ∈ (b.after edits).visible rows → i ∈ b.visible rows) ∧
          (i ∈ b.visible rows → (i ∉ (b.after edits).visible rows ↔
            term.holds r = false ∧ ∀ clause ∈ front, ¬Fulfils limit clause r))) ∧
        ((∃ clause ∈ splitClauses b.text, ∃ token ∈ clause, ¬Rejected limit token) →
          (i ∈ (b.after (wideningEdits c)).visible rows ↔ i ∈ b.visible rows ∨ term.holds r = true)) := by
  have hcurrent : b.Current limit := hb ▸ FilterBar.perform_current limit acts
  have hplain : EndsPlain b.text := endsPlain_of_last hne hend hlast
  obtain ⟨front, last, hsplit, hnarrowed⟩ := splitClauses_narrowed hplain hc
  have hwidened := splitClauses_widened hplain hc
  have htext (edits : List Edit) : (b.after edits).text = edits.foldl Edit.revise b.text :=
    (hcurrent.after edits).1
  simp only [← htext] at hnarrowed hwidened
  refine ⟨front, last, hsplit, hnarrowed, hwidened, fun term hterm rows i r hr => ⟨?_, ?_⟩⟩
  · intro haccepted edits hedits
    exact hcurrent.visible_narrowed (hcurrent.after edits).2 hterm hr hsplit (hnarrowed edits hedits) haccepted
  · intro haccepted
    exact hcurrent.visible_widened (hcurrent.after _).2 hterm hr hwidened haccepted

/-- A text that begins with a keyword, and a dropped token beside an accepted one: appended with `AND`, a
    condition hides one of the two rows in view, and appended with `OR` it shows a third. -/
theorem append_narrows_or_widens_method :
    let limit := Settings.standard.patternSizeLimit
    let b := ((FilterBar.start (.standard limit)).perform [.edit (.replace "OR zz OR rank: and rank:>=5".toList)]).bar
    let c := "method:POST".toList
    let rows : List Row := [⟨5, "POST".toList, "/a".toList, 200, none⟩, ⟨6, "GET".toList, "/b".toList, 200, none⟩,
      ⟨4, "POST".toList, "/c".toList, 200, none⟩, ⟨4, "GET".toList, "/d".toList, 200, none⟩]
    b.text ≠ [] ∧ b.text.endsWithBlank = false ∧
      (∀ l ∈ b.text.bareWords.getLast?, ¬Spells andWord l ∧ ¬Spells orWord l) ∧ PlainToken c ∧
      splitClauses b.text = [["OR zz".toList], ["rank:".toList, "rank:>=5".toList]] ∧
      (∀ edits ∈ narrowingEdits c, splitClauses (b.after edits).text =
        [["OR zz".toList], ["rank:".toList, "rank:>=5".toList, c]]) ∧
      splitClauses (b.after (wideningEdits c)).text =
        [["OR zz".toList], ["rank:".toList, "rank:>=5".toList], [c]] ∧
      (∃ term, Term.compile limit c = .ok term ∧ ∀ (rows : List Row) (i : Nat) (r : Row), rows[i]? = some r →
        (i ∈ (b.after [.condition c]).visible rows → i ∈ b.visible rows) ∧
        (i ∈ (b.after (wideningEdits c)).visible rows ↔ i ∈ b.visible rows ∨ term.holds r = true)) ∧
      b.visible rows = [0, 1] ∧ (b.after [.condition c]).visible rows = [0] ∧
      (b.after (wideningEdits c)).visible rows = [0, 1, 2] := by
  intro limit b c rows
  have hlast : ∀ l ∈ b.text.bareWords.getLast?, ¬Spells andWord l ∧ ¬Spells orWord l := by decide
  have hc : PlainToken c := by
    unfold PlainToken Trimmed
    decide
  have hsplit : splitClauses b.text = [["OR zz".toList], ["rank:".toList, "rank:>=5".toList]] := by decide +kernel
  obtain ⟨front, last, hclauses, hnarrowed, hwidened, hrows⟩ :=
    append_narrows_or_widens rfl (by decide) (by decide) hlast hc
  have hparts : [["OR zz".toList]] ++ [["rank:".toList, "rank:>=5".toList]] = front ++ [last] :=
    hsplit.symm.trans hclauses
  obtain ⟨rfl, hsame⟩ := List.append_inj' hparts rfl
  obtain rfl := (List.cons.inj hsame).1
  rw [hsplit] at hwidened hrows
  have hcompiles (token : Text) (h : (Term.compile limit token).toOption.isSome = true) :
      ∃ term, Term.compile limit token = .ok term := by
    cases hcompile : Term.compile limit token with
    | ok term => exact ⟨term, rfl⟩
    | error e => rw [hcompile] at h; cases h
  obtain ⟨term, hterm⟩ := hcompiles c (by decide +kernel)
  have hrank : ¬Rejected limit "rank:>=5".toList := not_rejected_iff.mpr (hcompiles _ (by decide +kernel))
  have haccepted : ∃ token ∈ ["rank:".toList, "rank:>=5".toList], ¬Rejected limit token :=
    ⟨_, List.mem_cons_of_mem _ List.mem_cons_self, hrank⟩
  refine ⟨by decide, by decide, hlast, hc, hsplit, hnarrowed, hwidened, ⟨term, hterm, fun rows i r hr => ?_⟩,
    by decide +kernel, by decide +kernel, by decide +kernel⟩
  obtain ⟨hand, hor⟩ := hrows term hterm rows i r hr
  exact ⟨(hand haccepted _ List.mem_cons_self).1,
    hor ⟨_, List.mem_cons_of_mem _ List.mem_cons_self, haccepted⟩⟩

end RankSieve
