import Mathlib.Data.List.Forall2
import RankSieve.Proofs.ClauseScan
import RankSieve.Query.Filter

/-!
# `RankSieve.Proofs.QueryMeaning` — from the text of a query to its rows

A query is clauses of tokens, written with `AND` and `OR` between them. This file goes the whole way
from that text to the rows that are kept, in two independent halves.

* **Written queries.** `Written` says how clauses of tokens are written, with separators of every shape.
  Tokens that are trimmed and without keywords come back exactly (`splitClauses_of_written`).
* **Dropped tokens.** `Means` says what a filter makes of clauses of tokens, some of which have no term.
  A dropped token is neutral in its clause, a clause of dropped tokens only counts for nothing, and a
  query of dropped tokens only asks for nothing (`means_ofTokens`).
-/

namespace RankSieve

/-! ## Filters of tokens -/

section

variable [PatternLibrary]

/-- Whether no term can be made of a token. -/
def Rejected (limit : Nat) (token : Text) : Prop := ∃ e, Term.compile limit token = .error e

/-- The terms of those tokens that have one, in order. -/
def termsOf (limit : Nat) (tokens : List Text) : List Term :=
  tokens.filterMap fun token => (Term.compile limit token).toOption

/-- The filter of clauses of tokens. -/
def Filter.ofTokens (limit : Nat) (clauses : List (List Text)) : Filter :=
  Filter.ofJudged (clauses.map (·.map fun token => (token, Term.compile limit token)))

/-- **What a filter makes of clauses of tokens.** It asks for nothing exactly where every token is
    rejected. Otherwise its clauses are the given ones without the rejected tokens, and without those
    that have no tokens left. So a row is kept where everything is rejected, or where some clause has an
    accepted token and the row fulfils all accepted ones. -/
structure Means (limit : Nat) (clauses : List (List Text)) (f : Filter) : Prop where
  everything_iff : f = .everything ↔ ∀ c ∈ clauses, ∀ token ∈ c, Rejected limit token
  eq_expression : (¬∀ c ∈ clauses, ∀ token ∈ c, Rejected limit token) →
    f = .expression ((clauses.map (termsOf limit)).filter fun c => !c.isEmpty)
  keeps_iff : ∀ r, f.keeps r = true ↔
    (∀ c ∈ clauses, ∀ token ∈ c, Rejected limit token) ∨
    ∃ c ∈ clauses, (∃ token ∈ c, ¬Rejected limit token) ∧
      ∀ token ∈ c, ∀ term, Term.compile limit token = .ok term → term.holds r = true

theorem ofQuery_eq_ofTokens (limit : Nat) (query : Text) :
    Filter.ofQuery limit query = Filter.ofTokens limit (splitClauses query) := rfl

theorem not_rejected_iff {limit : Nat} {token : Text} :
    ¬Rejected limit token ↔ ∃ term, Term.compile limit token = .ok term := by
  unfold Rejected
  cases h : Term.compile limit token with
  | ok term => simp
  | error e => simp

theorem mem_termsOf {limit : Nat} {tokens : List Text} {term : Term} :
    term ∈ termsOf limit tokens ↔ ∃ token ∈ tokens, Term.compile limit token = .ok term := by
  unfold termsOf
  rw [List.mem_filterMap]
  refine exists_congr fun token => and_congr_right fun _ => ?_
  cases Term.compile limit token with
  | ok t => simp [Except.toOption]
  | error e => simp [Except.toOption]

/-- A clause comes to nothing exactly where every token is rejected. -/
theorem termsOf_eq_nil_iff {limit : Nat} {tokens : List Text} :
    termsOf limit tokens = [] ↔ ∀ token ∈ tokens, Rejected limit token := by
  rw [List.eq_nil_iff_forall_not_mem]
  constructor
  · intro h token htoken
    apply Classical.byContradiction
    intro hr
    obtain ⟨term, hterm⟩ := not_rejected_iff.mp hr
    exact h term (mem_termsOf.mpr ⟨token, htoken, hterm⟩)
  · intro h term hterm
    obtain ⟨token, htoken, hok⟩ := mem_termsOf.mp hterm
    exact not_rejected_iff.mpr ⟨term, hok⟩ (h token htoken)

/-- Judging tokens and dropping the rejected ones leaves the terms of each clause. -/
theorem clausesOf_judged (limit : Nat) (clauses : List (List Text)) :
    clausesOf (clauses.map (·.map fun token => (token, Term.compile limit token))) =
      (clauses.map (termsOf limit)).filter fun c => !c.isEmpty := by
  unfold clausesOf
  congr 1
  rw [List.map_map]
  refine List.map_congr_left fun c _ => ?_
  unfold termsOf
  rw [Function.comp_apply, List.filterMap_map]
  congr 1
  funext token
  show Judged.term? (token, Term.compile limit token) = _
  cases Term.compile limit token <;> rfl

/-- No clause is left exactly where every token is rejected. -/
theorem clauses_eq_nil_iff {limit : Nat} {clauses : List (List Text)} :
    ((clauses.map (termsOf limit)).filter fun c => !c.isEmpty) = [] ↔
      ∀ c ∈ clauses, ∀ token ∈ c, Rejected limit token := by
  rw [List.filter_eq_nil_iff, List.forall_mem_map]
  refine forall_congr' fun c => forall_congr' fun _ => ?_
  rw [← termsOf_eq_nil_iff]
  simp

/-- Either everything is rejected and nothing asked for, or the clauses that are left are the filter. -/
theorem ofTokens_cases (limit : Nat) (clauses : List (List Text)) :
    ((∀ c ∈ clauses, ∀ token ∈ c, Rejected limit token) ∧
      Filter.ofTokens limit clauses = .everything) ∨
    (¬(∀ c ∈ clauses, ∀ token ∈ c, Rejected limit token) ∧
      Filter.ofTokens limit clauses =
        .expression ((clauses.map (termsOf limit)).filter fun c => !c.isEmpty)) := by
  rw [← clauses_eq_nil_iff]
  unfold Filter.ofTokens Filter.ofJudged
  rw [clausesOf_judged]
  cases (clauses.map (termsOf limit)).filter fun c => !c.isEmpty with
  | nil => exact Or.inl ⟨rfl, rfl⟩
  | cons c cs => exact Or.inr ⟨by simp, rfl⟩

/-- A row fulfils the terms of a clause where it fulfils those of all accepted tokens. -/
theorem holds_termsOf_iff {limit : Nat} {tokens : List Text} {r : Row} :
    Clause.holds (termsOf limit tokens) r = true ↔
      ∀ token ∈ tokens, ∀ term, Term.compile limit token = .ok term → term.holds r = true := by
  unfold Clause.holds
  rw [List.all_eq_true]
  constructor
  · intro h token htoken term hok
    exact h term (mem_termsOf.mpr ⟨token, htoken, hok⟩)
  · intro h term hterm
    obtain ⟨token, htoken, hok⟩ := mem_termsOf.mp hterm
    exact h token htoken term hok

/-- Some token of a clause is accepted exactly where terms are left of it. -/
theorem termsOf_ne_nil_iff {limit : Nat} {tokens : List Text} :
    termsOf limit tokens ≠ [] ↔ ∃ token ∈ tokens, ¬Rejected limit token := by
  rw [Ne, termsOf_eq_nil_iff]
  constructor
  · intro h
    apply Classical.byContradiction
    intro hnone
    exact h fun token htoken =>
      Classical.byContradiction fun hr => hnone ⟨token, htoken, hr⟩
  · rintro ⟨token, htoken, hr⟩ h
    exact hr (h token htoken)

/-- **Dropping tokens** is neutral in a clause and takes away a clause without terms. -/
theorem means_ofTokens (limit : Nat) (clauses : List (List Text)) :
    Means limit clauses (Filter.ofTokens limit clauses) := by
  rcases ofTokens_cases limit clauses with ⟨hall, hf⟩ | ⟨hsome, hf⟩
  · rw [hf]
    exact ⟨⟨fun _ => hall, fun _ => rfl⟩, fun h => absurd hall h,
      fun r => ⟨fun _ => Or.inl hall, fun _ => rfl⟩⟩
  · rw [hf]
    refine ⟨⟨fun h => absurd h (by simp), fun h => absurd h hsome⟩, fun _ => rfl, fun r => ?_⟩
    show List.any _ (Clause.holds · r) = true ↔ _
    rw [List.any_eq_true]
    constructor
    · rintro ⟨terms, hmem, hholds⟩
      obtain ⟨hmem, hne⟩ := List.mem_filter.mp hmem
      obtain ⟨c, hc, rfl⟩ := List.mem_map.mp hmem
      have hne : termsOf limit c ≠ [] := by simpa using hne
      exact Or.inr ⟨c, hc, termsOf_ne_nil_iff.mp hne, holds_termsOf_iff.mp hholds⟩
    · rintro (h | ⟨c, hc, haccepted, hholds⟩)
      · exact absurd h hsome
      · have hne := termsOf_ne_nil_iff.mpr haccepted
        refine ⟨termsOf limit c, List.mem_filter.mpr ⟨List.mem_map_of_mem hc, ?_⟩,
          holds_termsOf_iff.mpr hholds⟩
        simpa using hne

end

/-! ## Written queries -/

/-- A separator as it is written: blanks, the keyword in either case, and blanks. -/
def IsSeparator (k s : Text) : Prop :=
  ∃ before letters after, s = before ++ letters ++ after ∧ Blank before ∧ before ≠ [] ∧
    Spells k letters ∧ Blank after ∧ after ≠ []

/-- Parts written one behind the other, with a separator between any two neighbours. -/
inductive Joined (k : Text) : List Text → Text → Prop where
  | single (p : Text) : Joined k [p] p
  | cons {p s t : Text} {ps : List Text} :
      IsSeparator k s → Joined k ps t → Joined k (p :: ps) (p ++ s ++ t)

/-- A query as it is written: tokens joined by `AND`, and clauses joined by `OR`. -/
def Written (clauses : List (List Text)) (query : Text) : Prop :=
  ∃ parts, List.Forall₂ (Joined andWord) clauses parts ∧ Joined orWord parts query

/-- A text that begins and ends with a character that is no blank. -/
def Trimmed (t : Text) : Prop := t ≠ [] ∧ t.trim = t

/-- A token that can be written anywhere: it is trimmed and none of its words is a keyword. -/
def PlainToken (token : Text) : Prop :=
  Trimmed token ∧ ∀ l ∈ token.bareWords, ¬Spells andWord l ∧ ¬Spells orWord l

/-- A trimmed text is its words, of which only the first has no blank in front of it. -/
theorem Trimmed.words_eq {t : Text} (h : Trimmed t) :
    ∃ l ws, t.words = ⟨[], l⟩ :: ws ∧ Solid l ∧ Gapped ws ∧ t = l ++ spell ws := by
  obtain ⟨hne, htrim⟩ := h
  rw [trim_eq] at htrim
  have hapart := words_apart t
  cases hw : t.words with
  | nil =>
      rw [hw] at htrim
      exact absurd htrim.symm hne
  | cons w ws =>
      rw [hw] at htrim hapart
      have hbare : Apart (⟨[], w.letters⟩ :: ws) := ⟨⟨blank_nil, hapart.1.solid⟩, hapart.2⟩
      have hwords := words_spell hbare blank_nil
      rw [List.append_nil, spell_cons, List.nil_append, show w.letters ++ spell ws = t from htrim,
        hw] at hwords
      exact ⟨w.letters, ws, hwords, hapart.1.solid, hapart.2, htrim.symm⟩

/-- **Joining keeps texts trimmed**, and it brings no words but the keyword. -/
theorem Trimmed.append {k p s t : Text} (hk : Keyword k) (hp : Trimmed p) (hs : IsSeparator k s)
    (ht : Trimmed t) :
    Trimmed (p ++ s ++ t) ∧
      ∀ l ∈ (p ++ s ++ t).bareWords, l ∈ p.bareWords ∨ Spells k l ∨ l ∈ t.bareWords := by
  obtain ⟨before, letters, after, rfl, hb, hbne, hl, ha, hane⟩ := hs
  obtain ⟨lp, wp, hwp, hlp, hgp, hpe⟩ := hp.words_eq
  obtain ⟨lt, wt, hwt, hlt, hgt, hte⟩ := ht.words_eq
  -- the whole as words: the first word of `t` has the blanks of the separator in front now
  have hspell : p ++ (before ++ letters ++ after) ++ t =
      spell (⟨[], lp⟩ :: wp ++ ⟨before, letters⟩ :: ⟨after, lt⟩ :: wt) := by
    rw [hpe, hte]
    simp [spell]
  have hgapped : Gapped (wp ++ ⟨before, letters⟩ :: ⟨after, lt⟩ :: wt) := by
    intro w hw
    rcases List.mem_append.mp hw with hw | hw
    · exact hgp w hw
    · rcases List.mem_cons.mp hw with rfl | hw
      · exact ⟨⟨hb, hl.solid hk⟩, hbne⟩
      · rcases List.mem_cons.mp hw with rfl | hw
        · exact ⟨⟨ha, hlt⟩, hane⟩
        · exact hgt w hw
  have hapart : Apart (⟨[], lp⟩ :: wp ++ ⟨before, letters⟩ :: ⟨after, lt⟩ :: wt) :=
    ⟨⟨blank_nil, hlp⟩, hgapped⟩
  have hwords := words_spell hapart blank_nil
  rw [List.append_nil, ← hspell] at hwords
  refine ⟨⟨?_, ?_⟩, ?_⟩
  · simp [hp.1]
  · rw [trim_eq, hwords, hspell]
    rfl
  · intro l hl'
    unfold Text.bareWords at hl' ⊢
    rw [hwords] at hl'
    rw [hwp, hwt]
    simp only [List.map_append, List.map_cons, List.mem_append, List.mem_cons] at hl' ⊢
    rcases hl' with h | rfl | rfl | h
    · exact Or.inl h
    · exact Or.inr (Or.inl hl)
    · exact Or.inr (Or.inr (Or.inl rfl))
    · exact Or.inr (Or.inr (Or.inr h))

/-- What is joined of trimmed parts is trimmed, and has the words of the parts and the keyword. -/
theorem Joined.trimmed {k t : Text} {ps : List Text} (hk : Keyword k) (h : Joined k ps t)
    (hps : ∀ p ∈ ps, Trimmed p) :
    Trimmed t ∧ ∀ l ∈ t.bareWords, Spells k l ∨ ∃ p ∈ ps, l ∈ p.bareWords := by
  induction h with
  | single p => exact ⟨hps p (by simp), fun l hl => Or.inr ⟨p, by simp, hl⟩⟩
  | @cons p s t ps hs _ ih =>
      obtain ⟨ht, hwords⟩ := ih fun q hq => hps q (List.mem_cons_of_mem p hq)
      obtain ⟨htrim, hall⟩ := Trimmed.append hk (hps p (by simp)) hs ht
      refine ⟨htrim, fun l hl => ?_⟩
      rcases hall l hl with h | h | h
      · exact Or.inr ⟨p, by simp, h⟩
      · exact Or.inl h
      · rcases hwords l h with h | ⟨q, hq, h⟩
        · exact Or.inl h
        · exact Or.inr ⟨q, List.mem_cons_of_mem p hq, h⟩

/-- A trimmed part without the keyword stands in the first piece. -/
theorem cutAtWord_trimmed_append {k p t : Text} (hk : Keyword k) (hp : Trimmed p)
    (hplain : ∀ l ∈ p.bareWords, ¬Spells k l) (ht : EndsWord t) :
    cutAtWord k (p ++ t) = (cutAtWord k t).modifyHead (p ++ ·) := by
  obtain ⟨l, ws, hwords, -, -, hpe⟩ := hp.words_eq
  have hspell : spell p.words = p := by
    rw [hwords, hpe]
    rfl
  have h := cutAtWord_spell_append hk (words_apart p)
    (fun w hw => hplain w.letters (List.mem_map_of_mem hw)) ht
  rwa [hspell] at h

/-- **Cutting undoes joining**, where the parts are trimmed and have no word that is the keyword. -/
theorem cutAtWord_of_joined {k t : Text} {ps : List Text} (hk : Keyword k) (h : Joined k ps t)
    (hps : ∀ p ∈ ps, Trimmed p ∧ ∀ l ∈ p.bareWords, ¬Spells k l) : cutAtWord k t = ps := by
  induction h with
  | single p =>
      obtain ⟨hp, hplain⟩ := hps p (by simp)
      have h := cutAtWord_trimmed_append hk hp hplain endsWord_nil
      rw [List.append_nil, cutAtWord_nil, List.modifyHead_cons, List.append_nil] at h
      exact h
  | @cons p s t ps hs hjoined ih =>
      obtain ⟨hp, hplain⟩ := hps p (by simp)
      have hrest := fun q hq => hps q (List.mem_cons_of_mem p hq)
      obtain ⟨ht, -⟩ := hjoined.trimmed hk fun q hq => (hrest q hq).1
      obtain ⟨before, letters, after, rfl, hb, hbne, hl, ha, hane⟩ := hs
      obtain ⟨lt, wt, -, hlt, -, hte⟩ := ht.words_eq
      -- the separator takes all its blanks, since `t` begins with a letter
      have hdrop : (after ++ t).dropWhile isBlank = t := by
        rw [List.dropWhile_append_of_pos ha, hte, dropWhile_solid_append hlt]
      have hsep : cutAtWord k (before ++ letters ++ (after ++ t)) = [] :: cutAtWord k t := by
        rw [cutAtWord_separator hk hb hbne hl (endsWord_blank_append ha hane) (by simp [hane]), hdrop]
      have hassoc : p ++ (before ++ letters ++ after) ++ t = p ++ (before ++ letters ++ (after ++ t)) := by
        simp
      have hends : EndsWord (before ++ letters ++ (after ++ t)) := by
        rw [List.append_assoc]
        exact endsWord_blank_append hb hbne
      rw [hassoc, cutAtWord_trimmed_append hk hp hplain hends, hsep, ih hrest,
        List.modifyHead_cons, List.append_nil]

/-- A clause as it is written has the tokens of the clause, and `OR` is none of its words. -/
theorem tokensOf_of_joined {c : List Text} {p : Text} (h : Joined andWord c p)
    (hc : ∀ token ∈ c, PlainToken token) :
    tokensOf p = c ∧ Trimmed p ∧ ∀ l ∈ p.bareWords, ¬Spells orWord l := by
  obtain ⟨hp, hwords⟩ := h.trimmed keyword_andWord fun token htoken => (hc token htoken).1
  have hcut := cutAtWord_of_joined keyword_andWord h fun token htoken =>
    ⟨(hc token htoken).1, fun l hl => ((hc token htoken).2 l hl).1⟩
  refine ⟨?_, hp, fun l hl hor => ?_⟩
  · have htrim : c.map Text.trim = c := by
      rw [List.map_congr_left fun token htoken => (hc token htoken).1.2, List.map_id']
    show ((cutAtWord andWord p).map Text.trim).filter (fun token => !token.isEmpty) = c
    rw [hcut, htrim, List.filter_eq_self]
    intro token htoken
    simpa using (hc token htoken).1.1
  · rcases hwords l hl with hand | ⟨token, htoken, h⟩
    · exact not_spells_both hand hor
    · exact ((hc token htoken).2 l h).2 hor

/-- **A written query splits into the clauses that were written.** -/
theorem splitClauses_of_written {clauses : List (List Text)} {query : Text}
    (hw : Written clauses query) (ht : ∀ c ∈ clauses, ∀ token ∈ c, PlainToken token) :
    splitClauses query = clauses := by
  obtain ⟨parts, hparts, hjoined⟩ := hw
  have htokens : (∀ p ∈ parts, Trimmed p ∧ ∀ l ∈ p.bareWords, ¬Spells orWord l) ∧
      parts.map tokensOf = clauses := by
    clear hjoined
    induction hparts with
    | nil => exact ⟨fun p hp => absurd hp (by simp), rfl⟩
    | @cons c p clauses parts h _ ih =>
        obtain ⟨htoken, hplain⟩ := tokensOf_of_joined h (ht c (by simp))
        obtain ⟨hrest, hmap⟩ := ih fun d hd => ht d (List.mem_cons_of_mem c hd)
        refine ⟨fun q hq => ?_, by rw [List.map_cons, htoken, hmap]⟩
        rcases List.mem_cons.mp hq with rfl | hq
        · exact hplain
        · exact hrest q hq
  show (cutAtWord orWord query).map tokensOf = clauses
  rw [cutAtWord_of_joined keyword_orWord hjoined htokens.1, htokens.2]

/-- **The meaning of the query language.** The filter of a written query is what its clauses of tokens
    ask for, whatever the separators look like. -/
theorem ofQuery_means [PatternLibrary] {limit : Nat} {clauses : List (List Text)} {query : Text}
    (hw : Written clauses query) (ht : ∀ c ∈ clauses, ∀ token ∈ c, PlainToken token) :
    Means limit clauses (Filter.ofQuery limit query) := by
  rw [ofQuery_eq_ofTokens, splitClauses_of_written hw ht]
  exact means_ofTokens limit clauses

/-- Separators of several shapes, a token with a blank in it and a token without a term. -/
theorem ofQuery_means_mixed :
    let clauses := [["rank:".toList, "x y".toList], ["status:>=500".toList]]
    let query := "rank: \tanD  x y \nOr\u3000status:>=500".toList
    Written clauses query ∧ (∀ c ∈ clauses, ∀ token ∈ c, PlainToken token) ∧
      Means 1048576 clauses (Filter.ofQuery 1048576 query) := by
  intro clauses query
  have hand : IsSeparator andWord " \tanD  ".toList :=
    ⟨" \t".toList, "anD".toList, "  ".toList, by decide, by decide, by decide, by decide, by decide,
      by decide⟩
  have hor : IsSeparator orWord " \nOr\u3000".toList :=
    ⟨" \n".toList, "Or".toList, "\u3000".toList, by decide, by decide, by decide, by decide, by decide,
      by decide⟩
  have hw : Written clauses query := by
    refine ⟨["rank: \tanD  x y".toList, "status:>=500".toList], ?_, ?_⟩
    · exact .cons (.cons hand (.single "x y".toList)) (.cons (.single _) .nil)
    · exact .cons hor (.single "status:>=500".toList)
  have ht : ∀ c ∈ clauses, ∀ token ∈ c, PlainToken token := by
    unfold PlainToken Trimmed
    decide
  exact ⟨hw, ht, ofQuery_means hw ht⟩

end RankSieve
