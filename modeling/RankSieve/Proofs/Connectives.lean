import RankSieve.Proofs.Narrowing
import RankSieve.Proofs.NormalForm

/-!
# `RankSieve.Proofs.Connectives` — a connective that waits for its condition

A connective is appended before the condition that it joins, and the rows are filtered in between. Behind a
word of a token it separates, with nothing behind it, and what it opens is empty: the rows in view stay.
Behind a keyword that waits already there is no blank left for it, and one of the two becomes a word of a
token; so it does in an empty bar, where no blank stands in front. Then the clauses change.

Which of the two happens hangs on the last word only, but the last word may stand behind any number of
keywords, and what each of them does hangs on its neighbours. So the roles are followed up to the last word
once (`markFrom_front`), for the text and for what it is revised to alike.

## Contents
- **Roles in front.** `markFrom_front`: a word's role asks no further than to the blanks behind the next one.
- **Revised texts.** `words_connective`, and `marked_connective` with the roles.
- **Clauses.** `kept_waiting`: a separator at the end leaves the clauses. `termWords` counts what they consist of.
- **The main result.** `Joinable` texts and `connective_waits`.
-/

namespace RankSieve

/-! ## Roles in front -/

/-- The role of a word looks at what stands behind it, and whether an `OR` may part there. -/
theorem roleOf_congr {trail trail' : Text} {last : Role} {x : Word} {us us' : List Word}
    (hbehind : behind trail us = behind trail' us') (hnext : mayPart orWord trail us = mayPart orWord trail' us') :
    roleOf trail last (x :: us) = roleOf trail' last (x :: us') := by
  have hmay (k : Text) : mayPart k trail (x :: us) = mayPart k trail' (x :: us') := by
    show (decide _ && _ && !(behind trail us).isEmpty) = _
    rw [hbehind]
    rfl
  unfold roleOf
  rw [hmay, hmay, List.tail_cons, List.tail_cons, hnext]

/-- Whether a word may part is settled by the blanks behind it. -/
theorem mayPart_blank_behind {k trail : Text} {w : Word} {vs : List Word} (h : behind trail vs ≠ []) :
    mayPart k trail (w :: vs) = mayPart k [' '] [w] := by
  have hblank : behind [' '] [] ≠ [] := List.cons_ne_nil _ _
  rw [Bool.eq_iff_iff, mayPart_cons, mayPart_cons]
  constructor
  · rintro ⟨hspells, hbefore, -⟩
    exact ⟨hspells, hbefore, hblank⟩
  · rintro ⟨hspells, hbefore, -⟩
    exact ⟨hspells, hbefore, h⟩

/-- Blanks of whatever kind do, and whatever they stand in front of. -/
theorem mayPart_last_eq {k trail b l : Text} {w : Word} (hb : b ≠ []) (htrail : trail ≠ []) :
    mayPart k [' '] [w, ⟨b, l⟩] = mayPart k trail [w] := by
  have hbehind : behind [' '] [⟨b, l⟩] ≠ [] := hb
  have hlast : behind trail [] ≠ [] := htrail
  rw [mayPart_blank_behind hbehind, mayPart_blank_behind hlast]

/-- **What stands in front of a word** has its roles from the text up to that word. Only an `AND` directly in
    front asks more, whether the word would part clauses: so there has to be a blank behind the word, unless
    it could not part anyhow, or stands behind an `OR` that does. -/
theorem markFrom_front (last : Role) (ws : List Word) (w : Word) :
    ∃ front role, front.map Prod.snd = ws ∧ ∀ trail vs,
      (behind trail vs ≠ [] ∨ role = .or ∨ mayPart orWord [' '] [w] = false) →
        markFrom trail last (ws ++ w :: vs) = front ++ markFrom trail role (w :: vs) := by
  induction ws generalizing last with
  | nil => exact ⟨[], last, rfl, fun trail vs _ => rfl⟩
  | cons x ws ih =>
    obtain ⟨front, role, hfront, hmarks⟩ := ih (roleOf [' '] last (x :: (ws ++ [w])))
    cases ws with
    | nil =>
      -- the role of `x` is that in front of `w`
      refine ⟨[(roleOf [' '] last [x, w], x)], roleOf [' '] last [x, w], rfl, fun trail vs h => ?_⟩
      have hrole : roleOf trail last (x :: w :: vs) = roleOf [' '] last [x, w] := by
        rcases h with hblank | hor | hnot
        · exact roleOf_congr rfl (mayPart_blank_behind hblank)
        · obtain ⟨hmay, hlast⟩ := roleOf_eq_or_iff.mp hor
          rw [hor]
          exact roleOf_eq_or_iff.mpr ⟨hmay, hlast⟩
        · refine roleOf_congr rfl ?_
          rw [hnot, Bool.eq_false_iff]
          intro hmay
          obtain ⟨hspells, hbefore, -⟩ := mayPart_cons.mp hmay
          have hblank : behind [' '] [] ≠ [] := List.cons_ne_nil _ _
          rw [mayPart_cons.mpr ⟨hspells, hbefore, hblank⟩] at hnot
          cases hnot
      show markFrom trail last (x :: w :: vs) = _
      rw [markFrom, hrole]
      rfl
    | cons y ws =>
      refine ⟨(roleOf [' '] last (x :: (y :: ws ++ [w])), x) :: front, role, ?_, fun trail vs h => ?_⟩
      · rw [List.map_cons, hfront]
      · have hrole : roleOf trail last (x :: (y :: ws ++ w :: vs)) = roleOf [' '] last (x :: (y :: ws ++ [w])) := by
          refine roleOf_congr rfl ?_
          cases ws <;> rfl
        rw [List.cons_append, markFrom, hrole, hmarks trail vs h]
        rfl

/-! ## Revised texts -/

/-- The role of a connective that joins. -/
def Connective.role : Connective → Role
  | .and => .and
  | .or  => .or

theorem Connective.role_ne_term (c : Connective) : c.role ≠ .term := by cases c <;> decide

theorem Connective.keyword_keyword (c : Connective) : Keyword c.keyword := by cases c <;> decide

/-- A text that ends with a blank has it behind its last word. -/
theorem trail_ne_nil {t : Text} (ht : t.endsWithBlank = true) : t.trail ≠ [] := by
  intro htrail
  have hspell := spell_words t
  rw [htrail, List.append_nil] at hspell
  cases hwords : t.words with
  | nil =>
    rw [hwords] at hspell
    rw [← hspell] at ht
    cases ht
  | cons w ws =>
    obtain ⟨front, l, hends, hl⟩ := spell_ends_solid (hwords ▸ words_apart t)
    obtain ⟨l, c, rfl⟩ := (List.eq_nil_or_concat' l).resolve_left hl.1
    have hlast : t.getLast? = some c := by
      rw [← hspell, hwords, hends, ← List.append_assoc, List.getLast?_concat]
    have hc : isBlank c = false := hl.2 c (List.mem_append_right _ List.mem_cons_self)
    unfold Text.endsWithBlank at ht
    rw [hlast, Option.any_some, hc] at ht
    cases ht

/-- **The words with a connective appended**: it has a blank on either side. -/
theorem words_connective {t : Text} (hne : t ≠ []) (c : Connective) :
    ∃ b, b ≠ [] ∧ (Edit.revise t (.connective c)).words = t.words ++ [⟨b, c.keyword⟩] ∧
      (Edit.revise t (.connective c)).trail = [' '] := by
  have hempty : t.isEmpty = false := by simpa using hne
  have hblank : Blank [' '] := by decide
  -- the blanks in front of the connective are those that the text ends with, or the one put there
  obtain ⟨b, hb, hbne, htext⟩ : ∃ b, Blank b ∧ b ≠ [] ∧
      Edit.revise t (.connective c) = spell (t.words ++ [⟨b, c.keyword⟩]) ++ [' '] := by
    have hspell := spell_words t
    unfold Edit.revise
    rw [hempty, Bool.false_or]
    cases hend : t.endsWithBlank with
    | true =>
      refine ⟨t.trail, trail_blank t, trail_ne_nil hend, ?_⟩
      rw [spell, List.flatMap_append, ← spell, List.flatMap_singleton, ← List.append_assoc, hspell]
      rfl
    | false =>
      refine ⟨[' '], hblank, List.cons_ne_nil _ _, ?_⟩
      rw [trail_of_not_endsWithBlank hend, List.append_nil] at hspell
      rw [spell, List.flatMap_append, ← spell, List.flatMap_singleton, ← List.append_assoc, hspell]
      rfl
  have hgapped : Gapped [⟨b, c.keyword⟩] := by
    intro w hw
    obtain rfl := List.mem_singleton.mp hw
    exact ⟨⟨hb, c.keyword_keyword⟩, hbne⟩
  have hapart := (words_apart t).append hgapped
  refine ⟨b, hbne, ?_, ?_⟩
  · rw [htext, words_spell hapart hblank]
  · rw [htext, trail_spell hapart hblank]

/-- Behind a word of a token a connective joins, as soon as a blank stands behind it. -/
theorem roleOf_connective {b : Text} (hb : b ≠ []) (c : Connective) :
    roleOf [' '] .term [⟨b, c.keyword⟩] = c.role := by
  cases c with
  | and => exact roleOf_eq_and_iff.mpr ⟨mayPart_cons.mpr ⟨rfl, hb, List.cons_ne_nil _ _⟩, rfl, rfl⟩
  | or => exact roleOf_eq_or_iff.mpr ⟨mayPart_cons.mpr ⟨rfl, hb, List.cons_ne_nil _ _⟩, by decide⟩

/-- A last word of a token with a blank behind it stays one. -/
theorem roleOf_term_connective {trail b : Text} (htrail : trail ≠ []) (hb : b ≠ []) (c : Connective)
    {role : Role} {w : Word} (h : roleOf trail role [w] = .term) : roleOf [' '] role [w, ⟨b, c.keyword⟩] = .term := by
  have hmay (k : Text) : mayPart k [' '] [w, ⟨b, c.keyword⟩] = mayPart k trail [w] :=
    mayPart_last_eq hb htrail
  cases hrole : roleOf [' '] role [w, ⟨b, c.keyword⟩] with
  | term => rfl
  | or =>
    obtain ⟨hor, hlast⟩ := roleOf_eq_or_iff.mp hrole
    rw [hmay] at hor
    rw [roleOf_eq_or_iff.mpr ⟨hor, hlast⟩] at h
    cases h
  | and =>
    obtain ⟨hand, hlast, -⟩ := roleOf_eq_and_iff.mp hrole
    rw [hmay] at hand
    rw [roleOf_eq_and_iff.mpr ⟨hand, hlast, rfl⟩] at h
    cases h

/-- **Behind a keyword that waits** a connective makes a word of a token: it is one, or the keyword becomes
    one. -/
theorem roleOf_waiting_connective {trail b : Text} (htrail : trail ≠ []) (hb : b ≠ []) (c : Connective)
    {role : Role} {w : Word} (h : roleOf trail role [w] ≠ .term) :
    ∃ r r', markFrom [' '] role [w, ⟨b, c.keyword⟩] = [(r, w), (r', ⟨b, c.keyword⟩)] ∧
      (r = .term ∧ r' ≠ .term ∨ r ≠ .term ∧ r' = .term) := by
  have hmay (k : Text) : mayPart k [' '] [w, ⟨b, c.keyword⟩] = mayPart k trail [w] :=
    mayPart_last_eq hb htrail
  refine ⟨_, _, rfl, ?_⟩
  cases hrole : roleOf trail role [w] with
  | term => exact absurd hrole h
  | or =>
    -- the keyword has taken the blanks that the connective would need
    obtain ⟨hor, hlast⟩ := roleOf_eq_or_iff.mp hrole
    rw [← hmay] at hor
    rw [roleOf_eq_or_iff.mpr ⟨hor, hlast⟩]
    exact .inr ⟨by decide, roleOf_behind_or _ _⟩
  | and =>
    obtain ⟨hand, rfl, -⟩ := roleOf_eq_and_iff.mp hrole
    rw [← hmay] at hand
    cases c with
    | and =>
      have hnext : mayPart orWord [' '] [⟨b, Connective.and.keyword⟩] = false := rfl
      rw [roleOf_eq_and_iff.mpr ⟨hand, rfl, hnext⟩]
      exact .inr ⟨by decide, roleOf_behind_and hnext⟩
    | or =>
      -- in front of an `OR` that parts clauses an `AND` parts nothing
      have hnext : mayPart orWord [' '] [⟨b, Connective.or.keyword⟩] = true :=
        mayPart_cons.mpr ⟨rfl, hb, List.cons_ne_nil _ _⟩
      have hkeyword : roleOf [' '] .term [w, ⟨b, Connective.or.keyword⟩] = .term := by
        cases hrole : roleOf [' '] .term [w, ⟨b, Connective.or.keyword⟩] with
        | term => rfl
        | or => exact absurd ((mayPart_exclusive hand).symm.trans (roleOf_eq_or_iff.mp hrole).1) Bool.false_ne_true
        | and => exact absurd ((roleOf_eq_and_iff.mp hrole).2.2.symm.trans hnext) Bool.false_ne_true
      rw [hkeyword, roleOf_connective hb]
      exact .inl ⟨rfl, by decide⟩

/-- **The roles with a connective appended**, seen from the last word of the text in front. -/
theorem marked_connective {t : Text} {ws : List Word} {w : Word} (hwords : t.words = ws ++ [w]) (c : Connective) :
    ∃ front role b, front.map Prod.snd = ws ∧ b ≠ [] ∧
      (Edit.revise t (.connective c)).marked = front ++ markFrom [' '] role [w, ⟨b, c.keyword⟩] ∧
      (t.trail ≠ [] ∨ role = .or ∨ mayPart orWord [' '] [w] = false →
        t.marked = front ++ [(roleOf t.trail role [w], w)]) := by
  have hne : t ≠ [] := by
    rintro rfl
    exact absurd hwords (by simp [Text.words])
  obtain ⟨front, role, hfront, hmarks⟩ := markFrom_front .term ws w
  obtain ⟨b, hb, hrevised, htrail⟩ := words_connective hne c
  refine ⟨front, role, b, hfront, hb, ?_, fun h => ?_⟩
  · unfold Text.marked
    rw [hrevised, htrail, hwords, List.append_assoc]
    exact hmarks [' '] [⟨b, c.keyword⟩] (.inl hb)
  · unfold Text.marked
    rw [hwords]
    exact hmarks t.trail [] h

/-! ## Clauses -/

/-- **A separator that nothing follows** leaves the clauses. -/
theorem kept_waiting {role : Role} (hrole : role ≠ .term) (ms : List (Role × Word)) (x : Word) :
    kept (cutMarked (ms ++ [(role, x)])) = kept (cutMarked ms) := by
  cases role with
  | term => exact absurd rfl hrole
  | or =>
    rw [cutMarked_append_or, cutMarked_nil]
    unfold kept
    rw [List.map_append, List.filter_append]
    exact List.append_nil _
  | and =>
    have hnone : ∀ n ∈ ([] : List (Role × Word)), n.1 = .term := fun n hn => absurd hn List.not_mem_nil
    obtain ⟨front, last, hms, hall⟩ := cutMarked_append_and ms x hnone
    -- the token that the separator opens has no words
    have hopened : ((last ++ [[]]).map joinWords).filter (fun token => !token.isEmpty) =
        (last.map joinWords).filter fun token => !token.isEmpty := by
      rw [List.map_append, List.filter_append]
      exact List.append_nil _
    rw [hall, hms]
    unfold kept
    rw [List.map_append, List.map_append, List.map_singleton, List.map_singleton]
    exact congrArg _ (congrArg _ (congrArg (· :: []) hopened))

/-- How many words of a text belong to tokens. -/
def termWords (t : Text) : Nat := (t.marked.filter (·.1 == .term)).length

/-- The clauses of a text tell how many. -/
theorem termWords_eq (t : Text) : termWords t = ((normalClauses t).flatten.flatMap Text.bareWords).length := by
  unfold normalClauses
  rw [List.flatten_filter_not_isEmpty, bareWords_splitClauses, List.length_map]
  rfl

/-- The filter of a text hangs on its clauses with tokens only. -/
theorem ofQuery_eq_ofTokens_normalClauses [PatternLibrary] (limit : Nat) (t : Text) :
    Filter.ofQuery limit t = Filter.ofTokens limit (normalClauses t) :=
  (ofTokens_filter limit (splitClauses t)).symm

/-! ## The main result -/

/-- A connective can be appended for a condition to follow: the text is not empty, and its last word is part of
    a token, now and with the connective behind it. -/
def Joinable (c : Connective) (t : Text) : Prop :=
  t ≠ [] ∧ ∀ i, i + 1 = t.words.length →
    t.roles[i]? = some .term ∧ (Edit.revise t (.connective c)).roles[i]? = some .term

/-- The place behind some marked words. -/
theorem roles_at {t : Text} {front back : List (Role × Word)} {role : Role} {w : Word}
    (hmarks : t.marked = front ++ (role, w) :: back) : t.roles[front.length]? = some role := by
  unfold Text.roles
  rw [hmarks, List.map_append, List.getElem?_append_right (by simp)]
  simp

theorem last_place {t : Text} {ws : List Word} {w : Word} {front : List (Role × Word)} {i : Nat}
    (hwords : t.words = ws ++ [w]) (hfront : front.map Prod.snd = ws) (hi : i + 1 = t.words.length) :
    i = front.length := by
  rw [hwords, List.length_append, ← hfront, List.length_map] at hi
  exact Nat.succ.inj hi

/-- Behind a last word that is no keyword any connective can be appended. -/
theorem joinable_of_plain {t : Text} (hne : t ≠ []) (c : Connective)
    (hlast : ∀ l ∈ t.bareWords.getLast?, ¬Spells andWord l ∧ ¬Spells orWord l) : Joinable c t := by
  refine ⟨hne, fun i hi => ?_⟩
  rcases List.eq_nil_or_concat' t.words with hwords | ⟨ws, w, hwords⟩
  · rw [hwords] at hi
    cases hi
  · obtain ⟨hand, hor⟩ : ¬Spells andWord w.letters ∧ ¬Spells orWord w.letters := by
      apply hlast
      unfold Text.bareWords
      rw [hwords, List.map_append, List.map_singleton, List.getLast?_concat]
      rfl
    have hterm (trail : Text) (role : Role) (vs : List Word) : roleOf trail role (w :: vs) = .term := by
      simp [roleOf, mayPart, hand, hor]
    have hnot : mayPart orWord [' '] [w] = false := by simp [mayPart, hor]
    obtain ⟨front, role, b, hfront, -, hrevised, hmarks⟩ := marked_connective hwords c
    obtain rfl : i = front.length := last_place hwords hfront hi
    rw [markFrom, hterm] at hrevised
    have hmarks := hmarks (.inr (.inr hnot))
    rw [hterm] at hmarks
    exact ⟨roles_at hmarks, roles_at hrevised⟩

/-- **A connective that can wait** leaves the clauses. -/
theorem normalClauses_joinable {c : Connective} {t : Text} (h : Joinable c t) :
    normalClauses (Edit.revise t (.connective c)) = normalClauses t := by
  obtain ⟨hne, hlast⟩ := h
  obtain ⟨b, hb, hmarked⟩ : ∃ b, b ≠ [] ∧
      (Edit.revise t (.connective c)).marked = t.marked ++ [(c.role, ⟨b, c.keyword⟩)] := by
    rcases List.eq_nil_or_concat' t.words with hwords | ⟨ws, w, hwords⟩
    · -- a text of blanks has no word that the connective could belong to
      obtain ⟨b, hb, hrevised, htrail⟩ := words_connective hne c
      refine ⟨b, hb, ?_⟩
      unfold Text.marked
      rw [hrevised, htrail, hwords]
      show [(roleOf [' '] .term [⟨b, c.keyword⟩], _)] = [(c.role, _)]
      rw [roleOf_connective hb]
    · obtain ⟨front, role, b, hfront, hb, hrevised, hmarks⟩ := marked_connective hwords c
      have hlength : front.length + 1 = t.words.length := by
        rw [hwords, ← List.length_map Prod.snd, hfront, List.length_append]
        rfl
      obtain ⟨hnow, hthen⟩ := hlast front.length hlength
      have hterm : roleOf [' '] role [w, ⟨b, c.keyword⟩] = .term :=
        Option.some.inj ((roles_at hrevised).symm.trans hthen)
      have hsettled : t.trail ≠ [] ∨ role = .or ∨ mayPart orWord [' '] [w] = false := by
        by_contra hno
        rw [not_or, not_or] at hno
        obtain ⟨-, hrole, hmay⟩ := hno
        have hbehind : behind [' '] [⟨b, c.keyword⟩] ≠ [] := hb
        rw [Bool.not_eq_false, ← mayPart_blank_behind hbehind] at hmay
        rw [roleOf_eq_or_iff.mpr ⟨hmay, hrole⟩] at hterm
        cases hterm
      have hmarks := hmarks hsettled
      have hterm' : roleOf t.trail role [w] = .term :=
        Option.some.inj ((roles_at hmarks).symm.trans hnow)
      refine ⟨b, hb, ?_⟩
      rw [hrevised, hmarks, hterm', markFrom, hterm, markFrom, roleOf_connective hb, List.append_assoc]
      rfl
  rw [normalClauses_eq, normalClauses_eq, hmarked, kept_waiting c.role_ne_term]

/-- **A connective that cannot wait** makes a word of a token, in an empty text of itself, and behind a keyword that
    waits of one of the two. -/
theorem marked_not_joinable {c : Connective} {t : Text} (hend : t = [] ∨ t.endsWithBlank = true) (h : ¬Joinable c t) :
    ∃ b, (t.marked = [] ∧ (Edit.revise t (.connective c)).marked = [(.term, ⟨b, c.keyword⟩)]) ∨
      ∃ front role w r r', t.marked = front ++ [(role, w)] ∧ role ≠ .term ∧
        (Edit.revise t (.connective c)).marked = front ++ [(r, w), (r', ⟨b, c.keyword⟩)] ∧
        (r = .term ∧ r' ≠ .term ∨ r ≠ .term ∧ r' = .term) := by
  rcases hend with rfl | hend
  · exact ⟨[], .inl ⟨rfl, by cases c <;> decide⟩⟩
  · have hne : t ≠ [] := by
      rintro rfl
      cases hend
    rcases List.eq_nil_or_concat' t.words with hwords | ⟨ws, w, hwords⟩
    · refine absurd ⟨hne, fun i hi => ?_⟩ h
      rw [hwords] at hi
      cases hi
    · have htrail := trail_ne_nil hend
      obtain ⟨front, role, b, hfront, hb, hrevised, hmarks⟩ := marked_connective hwords c
      have hmarks := hmarks (.inl htrail)
      have hrole : roleOf t.trail role [w] ≠ .term := by
        intro hterm
        have hstays := roleOf_term_connective htrail hb c hterm
        refine h ⟨hne, fun i hi => ?_⟩
        obtain rfl : i = front.length := last_place hwords hfront hi
        rw [markFrom, hstays] at hrevised
        rw [hterm] at hmarks
        exact ⟨roles_at hmarks, roles_at hrevised⟩
      obtain ⟨r, r', htwo, hone⟩ := roleOf_waiting_connective htrail hb c hrole
      rw [htwo] at hrevised
      exact ⟨b, .inr ⟨front, _, w, r, r', hmarks, hrole, hrevised, hone⟩⟩

/-- So there is one word more in tokens. -/
theorem termWords_not_joinable {c : Connective} {t : Text} (hend : t = [] ∨ t.endsWithBlank = true)
    (h : ¬Joinable c t) : termWords (Edit.revise t (.connective c)) = termWords t + 1 := by
  unfold termWords
  obtain ⟨b, ⟨hmarks, hrevised⟩ | ⟨front, role, w, r, r', hmarks, hrole, hrevised, hone⟩⟩ := marked_not_joinable hend h
  · rw [hmarks, hrevised]
    rfl
  · have hcount (ms : List (Role × Word)) : ((front ++ ms).filter (·.1 == .term)).length =
        (front.filter (·.1 == .term)).length + (ms.filter (·.1 == .term)).length := by
      rw [List.filter_append, List.length_append]
    rw [hrevised, hmarks, hcount, hcount]
    rcases hone with ⟨rfl, hr⟩ | ⟨hr, rfl⟩
    · simp [hr, hrole]
    · simp [hr, hrole]

/-- A connective is lost: it becomes a word of a token behind the words of the text, or it makes one of the last of
    them, which was a keyword that waited. -/
def Lost (c : Connective) (t : Text) : Prop :=
  let revised := Edit.revise t (.connective c)
  revised.bareWords = t.bareWords ++ [c.keyword] ∧
    (revised.roles[t.words.length]? = some .term ∨
      ∃ i, i + 1 = t.words.length ∧ t.roles[i]? ≠ some .term ∧ revised.roles[i]? = some .term)

/-- The words of a text are those that have roles. -/
theorem map_snd_marked (t : Text) : t.marked.map Prod.snd = t.words := markFrom_map_snd _ _ _

/-- **What cannot wait is lost.** -/
theorem lost_of_not_joinable {c : Connective} {t : Text} (hend : t = [] ∨ t.endsWithBlank = true)
    (h : ¬Joinable c t) : Lost c t := by
  have hbare (s : Text) : s.bareWords = s.marked.map (·.2.letters) := by
    unfold Text.bareWords
    rw [← map_snd_marked, List.map_map]
    rfl
  unfold Lost
  dsimp only
  rw [hbare, hbare, ← map_snd_marked t, List.length_map]
  obtain ⟨b, ⟨hmarks, hrevised⟩ | ⟨front, role, w, r, r', hmarks, hrole, hrevised, hone⟩⟩ := marked_not_joinable hend h
  · have hfront : (Edit.revise t (.connective c)).marked = [] ++ [(.term, ⟨b, c.keyword⟩)] := hrevised
    refine ⟨by rw [hmarks, hrevised]; rfl, .inl ?_⟩
    rw [hmarks]
    exact roles_at hfront
  · have hlength : t.marked.length = front.length + 1 := by rw [hmarks, List.length_append]; rfl
    refine ⟨by rw [hmarks, hrevised]; simp, ?_⟩
    rcases hone with ⟨rfl, -⟩ | ⟨-, rfl⟩
    · refine .inr ⟨front.length, hlength.symm, ?_, roles_at hrevised⟩
      rw [roles_at hmarks]
      exact fun hterm => hrole (Option.some.inj hterm)
    · left
      rw [List.append_cons] at hrevised
      have hrole' := roles_at hrevised
      rw [List.length_append, List.length_singleton] at hrole'
      rw [hlength]
      exact hrole'

/-- **A connective that waits for its condition adds none, where it can wait.** Take any bar of the query
    language, after entries of the menu were picked or whatever else was done, and append a connective. If the
    text is not empty, and its last word is part of a token and remains so, the rows in view stay, whatever
    the rows. This is the case behind every word that is no keyword. And wherever a text is empty or ends with
    a blank, as it does behind a connective, the clauses stay in no other case: then the connective, or the one that
    waits in front of it, is lost. -/
theorem connective_waits [PatternLibrary] {limit : Nat} {acts : List Act} {b : FilterBar}
    (hb : b = ((FilterBar.start (.standard limit)).perform acts).bar) (c : Connective) :
    (Joinable c b.text → ∀ rows, (b.edit (.connective c)).1.visible rows = b.visible rows) ∧
      (b.text ≠ [] → (∀ l ∈ b.text.bareWords.getLast?, ¬Spells andWord l ∧ ¬Spells orWord l) →
        Joinable c b.text) ∧
      (b.text = [] ∨ b.text.endsWithBlank = true →
        (normalClauses (b.edit (.connective c)).1.text = normalClauses b.text ↔ Joinable c b.text) ∧
          (¬Joinable c b.text → Lost c b.text)) := by
  have hcurrent : b.Current limit := hb ▸ FilterBar.perform_current limit acts
  obtain ⟨htext, hcurrent'⟩ := hcurrent.edit (.connective c)
  refine ⟨?_, fun hne => joinable_of_plain hne c, ?_⟩
  · intro hjoin rows
    unfold FilterBar.visible
    rw [hcurrent.filter_eq, hcurrent'.filter_eq, htext, ofQuery_eq_ofTokens_normalClauses,
      ofQuery_eq_ofTokens_normalClauses, normalClauses_joinable hjoin]
  · intro hend
    rw [htext]
    refine ⟨⟨fun hsame => ?_, normalClauses_joinable⟩, lost_of_not_joinable hend⟩
    by_contra hjoin
    have hcount := termWords_not_joinable hend hjoin
    rw [termWords_eq, termWords_eq, hsame] at hcount
    exact Nat.succ_ne_self _ hcount.symm

/-- Behind two connectives the second is a word of a token, and a third can wait again. -/
theorem connective_waits_third :
    let limit := Settings.standard.patternSizeLimit
    let acts : List Act := [.quick (.method "GET".toList), .quick (.logic .and), .quick (.logic .and)]
    let b := ((FilterBar.start (.standard limit)).perform acts).bar
    Joinable .or b.text ∧ b.text.endsWithBlank = true ∧
      (∀ rows, (b.edit (.connective .or)).1.visible rows = b.visible rows) ∧
      normalClauses (b.edit (.connective .or)).1.text = normalClauses b.text ∧
      normalClauses b.text = [["method:GET".toList, "AND".toList]] := by
  intro limit acts b
  have htext : b.text = "method:GET AND AND ".toList := by decide +kernel
  have hend : b.text.endsWithBlank = true := by
    rw [htext]
    decide
  have hjoin : Joinable .or b.text := by
    rw [htext]
    refine ⟨by decide, fun i hi => ?_⟩
    obtain rfl : i = 2 := Nat.succ.inj (hi.trans (by decide +kernel))
    decide +kernel
  have hb : b = ((FilterBar.start (.standard limit)).perform acts).bar := rfl
  obtain ⟨hrows, -, hclauses⟩ := connective_waits hb .or
  refine ⟨hjoin, hend, hrows hjoin, (hclauses (.inr hend)).1.mpr hjoin, ?_⟩
  rw [htext]
  decide +kernel

/-- In an empty bar a connective is a term like any other, and hides a row in which it is not found. -/
theorem connective_hides :
    ¬∀ (picks : List QuickFilter) (c : Connective) (rows : List Row),
      ((barOf picks).edit (.connective c)).1.visible rows = (barOf picks).visible rows := by
  intro h
  have hfirst := h [] .and [⟨1, "GET".toList, "/a".toList, 200, none⟩]
  exact absurd hfirst (by decide +kernel)

end RankSieve
