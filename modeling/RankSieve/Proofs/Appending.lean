import RankSieve.Proofs.QueryMeaning

/-!
# `RankSieve.Proofs.Appending` — a query that is gone on with

What is put behind a text can only change how its last word is read, and that only if the word is a keyword,
or the text ends with a blank. Otherwise the words of the text keep their roles, and the clauses of the
whole are the clauses of the text and what the addition says: a token more in the last clause behind `AND`,
another clause behind `OR`.

The proof goes over the marked words (`ClauseScan`), since the role of a word hangs on its neighbours only.
The two cuts of `splitClauses` would have to be followed through pieces of pieces.

## Contents
- **Words.** `words_append`, and `words_separator` for a keyword and a condition behind it.
- **Roles.** `markFrom_append`: the roles of the words in front stay.
- **Clauses.** `splitClauses_append_and` and `splitClauses_append_or`, also where no condition follows yet.
-/

namespace RankSieve

/-! ## Words -/

/-- A text that can be gone on with: it ends with a word, and this word is no keyword. -/
structure EndsPlain (t : Text) : Prop where
  trail_eq : t.trail = []
  words_eq : ∃ ws w, t.words = ws ++ [w] ∧ ¬Spells andWord w.letters ∧ ¬Spells orWord w.letters

theorem Apart.append {us vs : List Word} (hus : Apart us) (hvs : Gapped vs) : Apart (us ++ vs) := by
  cases us with
  | nil => exact hvs.apart
  | cons u us =>
    refine ⟨hus.1, fun w hw => ?_⟩
    rcases List.mem_append.mp hw with hw | hw
    · exact hus.2 w hw
    · exact hvs w hw

/-- **Words of which each has a blank in front** come behind the words of a text that ends with one. -/
theorem words_append {t b : Text} {vs : List Word} (ht : t.trail = []) (hvs : Gapped vs) (hb : Blank b) :
    (t ++ (spell vs ++ b)).words = t.words ++ vs ∧ (t ++ (spell vs ++ b)).trail = b := by
  have hspell : t ++ (spell vs ++ b) = spell (t.words ++ vs) ++ b := by
    have hwords := spell_words t
    rw [ht, List.append_nil] at hwords
    unfold spell at hwords ⊢
    rw [List.flatMap_append, hwords, List.append_assoc]
  have hapart := (words_apart t).append hvs
  rw [hspell]
  exact ⟨words_spell hapart hb, trail_spell hapart hb⟩

/-- A condition that may follow, or none yet. -/
def MayFollow (c : Text) : Prop := c = [] ∨ PlainToken c

/-- **A keyword and what follows it**, as words: the keyword has blanks on both sides, and the others are
    those of the condition. -/
theorem words_separator {k c : Text} (hk : Keyword k) (hc : MayFollow c) :
    ∃ cs b, ' ' :: (k ++ ' ' :: c) = spell (⟨[' '], k⟩ :: cs) ++ b ∧ Gapped (⟨[' '], k⟩ :: cs) ∧ Blank b ∧
      behind b cs ≠ [] ∧ joinWords cs = c ∧ (c = [] ∨ (b = [] ∧ cs ≠ [])) ∧
      ∀ w ∈ cs, ¬Spells andWord w.letters ∧ ¬Spells orWord w.letters := by
  have hblank : Blank [' '] := by decide
  rcases hc with rfl | ⟨htrim, hplain⟩
  · refine ⟨[], [' '], ?_, ?_, hblank, List.cons_ne_nil _ _, rfl, .inl rfl, ?_⟩
    · simp [spell]
    · intro w hw
      obtain rfl := List.mem_singleton.mp hw
      exact ⟨⟨hblank, hk⟩, List.cons_ne_nil _ _⟩
    · intro w hw
      exact absurd hw (by simp)
  · obtain ⟨l, ws, hwords, hl, hws, hce⟩ := htrim.words_eq
    refine ⟨⟨[' '], l⟩ :: ws, [], ?_, ?_, blank_nil, List.cons_ne_nil _ _, hce.symm,
      .inr ⟨rfl, List.cons_ne_nil _ _⟩, ?_⟩
    · rw [hce]
      simp [spell]
    · intro w hw
      rcases List.mem_cons.mp hw with rfl | hw
      · exact ⟨⟨hblank, hk⟩, List.cons_ne_nil _ _⟩
      · rcases List.mem_cons.mp hw with rfl | hw
        · exact ⟨⟨hblank, hl⟩, List.cons_ne_nil _ _⟩
        · exact hws w hw
    · intro w hw
      refine hplain w.letters ?_
      unfold Text.bareWords
      rw [hwords]
      rcases List.mem_cons.mp hw with rfl | hw
      · exact List.mem_cons_self
      · exact List.mem_cons_of_mem _ (List.mem_map_of_mem hw)

/-- A condition is a text that can be gone on with. -/
theorem PlainToken.endsPlain {c : Text} (hc : PlainToken c) : EndsPlain c := by
  obtain ⟨htrim, hplain⟩ := hc
  obtain ⟨l, ws, hwords, hl, hws, hce⟩ := htrim.words_eq
  have hapart : Apart (⟨[], l⟩ :: ws) := ⟨⟨blank_nil, hl⟩, hws⟩
  have htrail := trail_spell hapart blank_nil
  have hspell : spell (⟨[], l⟩ :: ws) ++ [] = c := by rw [hce, List.append_nil]; rfl
  rw [hspell] at htrail
  have hne : c.words ≠ [] := by rw [hwords]; exact List.cons_ne_nil _ _
  refine ⟨htrail, c.words.dropLast, c.words.getLast hne, (List.dropLast_append_getLast hne).symm, ?_⟩
  exact hplain _ (List.mem_map_of_mem (List.getLast_mem hne))

/-- **A text with a condition behind it** can be gone on with again. -/
theorem EndsPlain.append {t k c : Text} (ht : EndsPlain t) (hk : Keyword k) (hc : PlainToken c) :
    EndsPlain (t ++ ' ' :: (k ++ ' ' :: c)) := by
  obtain ⟨cs, b, htext, hgapped, hb, -, -, hend, hplain⟩ := words_separator hk (.inr hc)
  have hcne : c ≠ [] := hc.1.1
  obtain ⟨rfl, hne⟩ := hend.resolve_left hcne
  obtain ⟨hwords, htrail⟩ := words_append ht.trail_eq hgapped hb
  rw [← htext] at hwords htrail
  refine ⟨htrail, t.words ++ ⟨[' '], k⟩ :: cs.dropLast, cs.getLast hne, ?_, hplain _ (List.getLast_mem hne)⟩
  rw [hwords, List.append_assoc, List.cons_append, List.dropLast_append_getLast]

/-! ## Roles -/

/-- Whether a word may separate is settled by the words of the text, as long as the last is no keyword. -/
theorem mayPart_append {k trail : Text} {ws vs : List Word} {w : Word} (hw : ¬Spells k w.letters) :
    mayPart k trail (ws ++ w :: vs) = mayPart k [] (ws ++ [w]) := by
  cases ws with
  | nil => simp [mayPart, hw]
  | cons x ws =>
    have hbehind : behind trail (ws ++ w :: vs) = behind [] (ws ++ [w]) := by cases ws <;> rfl
    show (decide _ && _ && !(behind trail (ws ++ w :: vs)).isEmpty) = _
    rw [hbehind]
    rfl

/-- **The roles of the words in front stay**, and the last of them is part of a token. -/
theorem markFrom_append {trail : Text} {last : Role} {ws : List Word} {w : Word} (vs : List Word)
    (hand : ¬Spells andWord w.letters) (hor : ¬Spells orWord w.letters) :
    markFrom trail last (ws ++ w :: vs) = markFrom [] last (ws ++ [w]) ++ markFrom trail .term vs := by
  -- a role looks no further than the next word, and for the words in front `w` is the last of those
  have hrole (x : List Word) (last : Role) :
      roleOf trail last (x ++ w :: vs) = roleOf [] last (x ++ [w]) := by
    unfold roleOf
    rw [mayPart_append hor, mayPart_append hand]
    cases x with
    | nil => simp [mayPart, hand, hor]
    | cons y x =>
      have hnext : mayPart orWord trail (x ++ w :: vs) = mayPart orWord [] (x ++ [w]) := mayPart_append hor
      show (if _ then _ else if _ && _ && !mayPart orWord trail (x ++ w :: vs) then _ else _) = _
      rw [hnext]
      rfl
  induction ws generalizing last with
  | nil =>
    have hterm : roleOf [] last [w] = .term := by simp [roleOf, mayPart, hand, hor]
    have hfirst := hrole [] last
    rw [List.nil_append, List.nil_append, hterm] at hfirst
    rw [List.nil_append, List.nil_append, markFrom, hfirst, markFrom, hterm]
    rfl
  | cons x ws ih =>
    have hfirst := hrole (x :: ws) last
    rw [List.cons_append, List.cons_append] at hfirst ⊢
    rw [markFrom, markFrom, hfirst, ih]
    rfl

/-- Words that are no keywords all belong to tokens. -/
theorem markFrom_plain {trail : Text} {last : Role} {ws : List Word}
    (hws : ∀ w ∈ ws, ¬Spells andWord w.letters ∧ ¬Spells orWord w.letters) :
    markFrom trail last ws = ws.map fun w => (.term, w) := by
  induction ws generalizing last with
  | nil => rfl
  | cons w ws ih =>
    obtain ⟨hand, hor⟩ := hws w List.mem_cons_self
    have hterm : roleOf trail last (w :: ws) = .term := by simp [roleOf, mayPart, hand, hor]
    rw [markFrom, hterm, ih fun v hv => hws v (List.mem_cons_of_mem w hv)]
    rfl

/-! ## Clauses -/

/-- Members that are no separators all belong to the last part. -/
theorem splitOnP_append {α : Type} {p : α → Bool} (as : List α) {bs : List α} (hbs : ∀ b ∈ bs, p b = false) :
    ∃ front last, as.splitOnP p = front ++ [last] ∧ (as ++ bs).splitOnP p = front ++ [last ++ bs] := by
  induction as with
  | nil => exact ⟨[], [], rfl, List.splitOnP_eq_singleton hbs⟩
  | cons a as ih =>
    obtain ⟨front, last, has, hall⟩ := ih
    rw [List.cons_append, List.splitOnP_cons_eq_if_modifyHead, List.splitOnP_cons_eq_if_modifyHead, has, hall]
    by_cases ha : p a = true
    · exact ⟨[] :: front, last, by rw [if_pos ha]; rfl, by rw [if_pos ha]; rfl⟩
    · rw [if_neg ha, if_neg ha]
      cases front with
      | nil => exact ⟨[], a :: last, rfl, rfl⟩
      | cons f front => exact ⟨(a :: f) :: front, last, rfl, rfl⟩

/-- Behind a word with the role `or` the clauses are cut by themselves. -/
theorem cutMarked_append_or (ms : List (Role × Word)) (w : Word) (ns : List (Role × Word)) :
    cutMarked (ms ++ (.or, w) :: ns) = cutMarked ms ++ cutMarked ns := by
  unfold cutMarked
  rw [List.splitOnP_append_cons _ _ rfl, List.map_append]

/-- Behind a word with the role `and` the last clause has another token. -/
theorem cutMarked_append_and (ms : List (Role × Word)) (w : Word) {ns : List (Role × Word)}
    (hns : ∀ n ∈ ns, n.1 = .term) :
    ∃ front last, cutMarked ms = front ++ [last] ∧
      cutMarked (ms ++ (.and, w) :: ns) = front ++ [last ++ [ns.map Prod.snd]] := by
  have hor : ∀ n ∈ (Role.and, w) :: ns, (n.1 == Role.or) = false := by
    intro n hn
    rcases List.mem_cons.mp hn with rfl | hn
    · rfl
    · rw [hns n hn]
      rfl
  have hand : ns.splitOnP (·.1 == .and) = [ns] := by
    refine List.splitOnP_eq_singleton fun n hn => ?_
    rw [hns n hn]
    rfl
  obtain ⟨front, last, hms, hall⟩ := splitOnP_append ms hor
  unfold cutMarked
  rw [hms, hall, List.map_append, List.map_append, List.map_singleton, List.map_singleton,
    List.splitOnP_append_cons _ _ rfl, hand, List.map_append]
  exact ⟨_, _, rfl, rfl⟩

theorem map_term_snd (cs : List Word) : (cs.map fun w => (Role.term, w)).map Prod.snd = cs := by
  rw [List.map_map]
  exact List.map_id cs

/-- Words that belong to tokens are one token. -/
theorem cutMarked_terms (cs : List Word) : cutMarked (cs.map fun w => (.term, w)) = [[cs]] := by
  have hnone (role : Role) (hrole : role ≠ .term) :
      (cs.map fun w => (Role.term, w)).splitOnP (·.1 == role) = [cs.map fun w => (.term, w)] := by
    refine List.splitOnP_eq_singleton fun m hm => ?_
    obtain ⟨w, -, rfl⟩ := List.mem_map.mp hm
    exact beq_false_of_ne (Ne.symm hrole)
  unfold cutMarked
  rw [hnone .or (by decide), List.map_singleton, hnone .and (by decide), List.map_singleton, map_term_snd]

/-- The token of a condition that follows, if it follows. -/
def tokenOf (c : Text) : List Text := if c = [] then [] else [c]

theorem filter_joinWords (cs : List Word) :
    ([cs].map joinWords).filter (fun token => !token.isEmpty) = tokenOf (joinWords cs) := by
  unfold tokenOf
  cases h : joinWords cs with
  | nil => simp [h]
  | cons c t => simp [h]

/-- The marked words of a text with a keyword and a condition behind it. -/
theorem marked_append {t k c : Text} (ht : EndsPlain t) (hk : Keyword k) (hc : MayFollow c) :
    ∃ cs b, (t ++ ' ' :: (k ++ ' ' :: c)).marked =
        t.marked ++ (roleOf b .term (⟨[' '], k⟩ :: cs), ⟨[' '], k⟩) :: cs.map (fun w => (.term, w)) ∧
      behind b cs ≠ [] ∧ joinWords cs = c ∧ ∀ w ∈ cs, ¬Spells orWord w.letters := by
  obtain ⟨cs, b, htext, hgapped, hb, hbehind, hjoin, -, hplain⟩ := words_separator hk hc
  obtain ⟨ws, w, hw, hand, hor⟩ := ht.words_eq
  obtain ⟨hwords, htrail⟩ := words_append ht.trail_eq hgapped hb
  refine ⟨cs, b, ?_, hbehind, hjoin, fun w hw => (hplain w hw).2⟩
  unfold Text.marked
  rw [htext, hwords, htrail, ht.trail_eq, hw, List.append_assoc, List.singleton_append,
    markFrom_append _ hand hor, markFrom, markFrom_plain hplain]

/-- **Behind `AND`** a condition is a token more of the last clause. -/
theorem splitClauses_append_and {t c : Text} (ht : EndsPlain t) (hc : MayFollow c) :
    ∃ front last, splitClauses t = front ++ [last] ∧
      splitClauses (t ++ ' ' :: (andWord ++ ' ' :: c)) = front ++ [last ++ tokenOf c] := by
  obtain ⟨cs, b, hmarked, hbehind, hjoin, hor⟩ := marked_append ht keyword_andWord hc
  have hrole : roleOf b .term (⟨[' '], andWord⟩ :: cs) = .and := by
    -- an `AND` in front of an `OR` would not separate
    have hnext : mayPart orWord b cs = false := by
      cases cs with
      | nil => rfl
      | cons w cs => simp [mayPart, hor w List.mem_cons_self]
    have hmay : mayPart andWord b (⟨[' '], andWord⟩ :: cs) = true :=
      mayPart_cons.mpr ⟨rfl, List.cons_ne_nil _ _, hbehind⟩
    have hno : ¬Spells orWord andWord := by decide
    have hmay' : mayPart orWord b (⟨[' '], andWord⟩ :: cs) = false := by simp [mayPart, hno]
    unfold roleOf
    rw [hmay, hmay', List.tail_cons, hnext]
    rfl
  rw [hrole] at hmarked
  have hterms : ∀ n ∈ cs.map fun w => (Role.term, w), n.1 = .term := by
    rintro n hn
    obtain ⟨w, -, rfl⟩ := List.mem_map.mp hn
    rfl
  obtain ⟨front, last, hms, hall⟩ := cutMarked_append_and t.marked ⟨[' '], andWord⟩ hterms
  rw [splitClauses_eq_scan, splitClauses_eq_scan]
  unfold Text.scanClauses
  rw [hmarked, hms, hall, map_term_snd, List.map_append, List.map_append, List.map_singleton, List.map_singleton,
    List.map_append, List.filter_append, filter_joinWords, hjoin]
  exact ⟨_, _, rfl, rfl⟩

/-- **Behind `OR`** a condition is a clause of its own. -/
theorem splitClauses_append_or {t c : Text} (ht : EndsPlain t) (hc : MayFollow c) :
    splitClauses (t ++ ' ' :: (orWord ++ ' ' :: c)) = splitClauses t ++ [tokenOf c] := by
  obtain ⟨cs, b, hmarked, hbehind, hjoin, hor⟩ := marked_append ht keyword_orWord hc
  have hrole : roleOf b .term (⟨[' '], orWord⟩ :: cs) = .or := by
    have hmay : mayPart orWord b (⟨[' '], orWord⟩ :: cs) = true :=
      mayPart_cons.mpr ⟨rfl, List.cons_ne_nil _ _, hbehind⟩
    unfold roleOf
    rw [hmay]
    rfl
  rw [hrole] at hmarked
  rw [splitClauses_eq_scan, splitClauses_eq_scan]
  unfold Text.scanClauses
  rw [hmarked, cutMarked_append_or, cutMarked_terms, List.map_append, List.map_singleton, filter_joinWords, hjoin]

end RankSieve
