import RankSieve.Proofs.Connectives

/-!
# `RankSieve.Proofs.TokenPlaces` — where a token stands in its text

A token of a query is a stretch of the text. What stands in front of the stretch and what stands behind it are
texts of their own, and cut by themselves they give the clauses and tokens on either side. So something else
can be put into the place of the token, and nothing around it changes.

This needs a first word that is no keyword. A keyword that separates nothing does so because of its neighbours,
and the text in front of it, cut by itself, would miss one.

## Contents
- **Pieces in their places.** `splitOnP_place` takes a list apart around one of its pieces, `splitOnP_join` puts it
  together again.
- **Marked words.** `cutMarked_place` and `cutMarked_join`, the same for two kinds of separators at once.
- **Roles around a word.** `markFrom_around`: a word that is no keyword parts the roles in front of it from those
  behind it.
- **Tokens in their places.** `TokenAt` and `splitClauses_place`.
-/

namespace RankSieve

/-! ## Pieces in their places -/

section Pieces

variable {α : Type} {p : α → Bool} {a : α} {as : List α}

theorem splitOnP_cons_pos (ha : p a = true) : (a :: as).splitOnP p = [] :: as.splitOnP p := by
  rw [List.splitOnP_cons_eq_if_modifyHead, if_pos ha]

theorem splitOnP_cons_neg {x : List α} {xs : List (List α)} (ha : p a = false) (has : as.splitOnP p = x :: xs) :
    (a :: as).splitOnP p = (a :: x) :: xs := by
  rw [List.splitOnP_cons_eq_if_modifyHead, if_neg (by simp [ha]), has, List.modifyHead_cons]

theorem eq_nil_of_splitOnP (h : as.splitOnP p = [[]]) : as = [] := by
  cases as with
  | nil => rfl
  | cons a as =>
    obtain ⟨x, xs, hx⟩ := List.exists_cons_of_ne_nil (List.splitOnP_ne_nil p as)
    cases ha : p a with
    | true =>
      rw [splitOnP_cons_pos ha, hx] at h
      cases h
    | false =>
      rw [splitOnP_cons_neg ha hx] at h
      cases h

/-- **The place of a piece.** What is in front of it gives the pieces in front and an empty one, and what is behind
    it gives an empty one and the pieces behind. -/
theorem splitOnP_place {m : List α} {front back : List (List α)} (h : as.splitOnP p = front ++ m :: back) :
    ∃ before after, as = before ++ m ++ after ∧ (∀ a ∈ m, p a = false) ∧
      before.splitOnP p = front ++ [[]] ∧ after.splitOnP p = [] :: back := by
  induction as generalizing front m with
  | nil =>
    cases front with
    | nil =>
      obtain ⟨rfl, rfl⟩ := List.cons.inj h
      exact ⟨[], [], rfl, nofun, rfl, rfl⟩
    | cons f fs => exact absurd (List.cons.inj h).2 (by simp)
  | cons a as ih =>
    cases ha : p a with
    | true =>
      rw [splitOnP_cons_pos ha] at h
      cases front with
      | nil =>
        obtain ⟨rfl, rfl⟩ := List.cons.inj h
        exact ⟨[], a :: as, rfl, nofun, rfl, splitOnP_cons_pos ha⟩
      | cons f fs =>
        obtain ⟨rfl, hrest⟩ := List.cons.inj h
        obtain ⟨before, after, rfl, hm, hbefore, hafter⟩ := ih hrest
        refine ⟨a :: before, after, rfl, hm, ?_, hafter⟩
        rw [splitOnP_cons_pos ha, hbefore]
        rfl
    | false =>
      obtain ⟨x, xs, hx⟩ := List.exists_cons_of_ne_nil (List.splitOnP_ne_nil p as)
      rw [splitOnP_cons_neg ha hx] at h
      cases front with
      | nil =>
        -- the first piece has nothing in front of it
        obtain ⟨rfl, rfl⟩ := List.cons.inj h
        have hfirst : as.splitOnP p = [] ++ x :: xs := hx
        obtain ⟨before, after, has, hm, hbefore, hafter⟩ := ih hfirst
        obtain rfl := eq_nil_of_splitOnP hbefore
        refine ⟨[], after, congrArg (a :: ·) has, ?_, rfl, hafter⟩
        intro b hb
        rcases List.mem_cons.mp hb with rfl | hb
        · exact ha
        · exact hm b hb
      | cons f fs =>
        obtain ⟨rfl, rfl⟩ := List.cons.inj h
        have hlater : as.splitOnP p = (x :: fs) ++ m :: back := hx
        obtain ⟨before, after, rfl, hm, hbefore, hafter⟩ := ih hlater
        exact ⟨a :: before, after, rfl, hm, splitOnP_cons_neg ha hbefore, hafter⟩

/-- **Putting together**: the last piece of the one list and the first piece of the other become one. -/
theorem splitOnP_join {bs x y : List α} {front back : List (List α)} (has : as.splitOnP p = front ++ [x])
    (hbs : bs.splitOnP p = y :: back) : (as ++ bs).splitOnP p = front ++ (x ++ y) :: back := by
  induction as generalizing front x with
  | nil =>
    cases front with
    | nil =>
      obtain ⟨rfl, -⟩ := List.cons.inj has
      exact hbs
    | cons f fs => exact absurd (List.cons.inj has).2 (by simp)
  | cons a as ih =>
    cases ha : p a with
    | true =>
      rw [splitOnP_cons_pos ha] at has
      rw [List.cons_append, splitOnP_cons_pos ha]
      cases front with
      | nil => exact absurd (List.cons.inj has).2 (List.splitOnP_ne_nil p as)
      | cons f fs =>
        obtain ⟨rfl, hrest⟩ := List.cons.inj has
        rw [ih hrest]
        rfl
    | false =>
      obtain ⟨z, zs, hz⟩ := List.exists_cons_of_ne_nil (List.splitOnP_ne_nil p as)
      rw [splitOnP_cons_neg ha hz] at has
      cases front with
      | nil =>
        obtain ⟨rfl, rfl⟩ := List.cons.inj has
        have hlast : as.splitOnP p = [] ++ [z] := hz
        exact splitOnP_cons_neg ha (ih hlast)
      | cons f fs =>
        obtain ⟨rfl, rfl⟩ := List.cons.inj has
        have hlast : as.splitOnP p = (z :: fs) ++ [x] := hz
        exact splitOnP_cons_neg ha (ih hlast)

end Pieces

/-! ## Marked words -/

/-- The words of a token with their role. -/
def asTerms (ws : List Word) : List (Role × Word) := ws.map fun w => (.term, w)

section Marked

variable {front back : List (List (List Word))} {left right : List (List Word)}

/-- **Putting marked words together**: the last token of the one list and the first token of the other become
    one. -/
theorem cutMarked_join {ms ns : List (Role × Word)} {us vs : List Word} (hms : cutMarked ms = front ++ [left ++ [us]])
    (hns : cutMarked ns = (vs :: right) :: back) :
    cutMarked (ms ++ ns) = front ++ (left ++ (us ++ vs) :: right) :: back := by
  unfold cutMarked at *
  obtain ⟨fs, cs, hor, rfl, hcs⟩ := List.map_eq_append_iff.mp hms
  obtain ⟨c, rfl, hc⟩ := List.map_eq_singleton_iff.mp hcs
  obtain ⟨ls, xs, hand, rfl, hxs⟩ := List.map_eq_append_iff.mp hc
  obtain ⟨x, rfl, rfl⟩ := List.map_eq_singleton_iff.mp hxs
  obtain ⟨d, bs, hor', hd, rfl⟩ := List.map_eq_cons_iff.mp hns
  obtain ⟨y, rs, hand', rfl, rfl⟩ := List.map_eq_cons_iff.mp hd
  rw [splitOnP_join hor hor']
  simp [splitOnP_join hand hand']

/-- **The place of a token among marked words.** -/
theorem cutMarked_place {ms : List (Role × Word)} {token : List Word}
    (h : cutMarked ms = front ++ (left ++ token :: right) :: back) :
    ∃ before after, ms = before ++ asTerms token ++ after ∧
      cutMarked before = front ++ [left ++ [[]]] ∧ cutMarked after = ([] :: right) :: back := by
  unfold cutMarked at h
  obtain ⟨fs, rest, hsplit, rfl, hrest⟩ := List.map_eq_append_iff.mp h
  obtain ⟨clause, bs, rfl, hclause, rfl⟩ := List.map_eq_cons_iff.mp hrest
  obtain ⟨ls, tail, hand, rfl, htail⟩ := List.map_eq_append_iff.mp hclause
  obtain ⟨m, rs, rfl, rfl, rfl⟩ := List.map_eq_cons_iff.mp htail
  -- first the place of the clause, and in it that of the token
  obtain ⟨before, after, rfl, hor, hbefore, hafter⟩ := splitOnP_place hsplit
  obtain ⟨start, stop, rfl, hmand, hstart, hstop⟩ := splitOnP_place hand
  have hsingle {ns : List (Role × Word)} (hns : ∀ n ∈ ns, n ∈ start ++ m ++ stop) :
      ns.splitOnP (·.1 == .or) = [] ++ [ns] :=
    List.splitOnP_eq_singleton fun n hn => hor n (hns n hn)
  have hterms : asTerms (m.map Prod.snd) = m := by
    unfold asTerms
    rw [List.map_map]
    refine (List.map_congr_left ?_).trans (List.map_id m)
    rintro ⟨role, w⟩ hmem
    have hnor := hor (role, w) (by simp [hmem])
    have hnand := hmand (role, w) hmem
    cases role with
    | term => rfl
    | and => cases hnand
    | or => cases hnor
  refine ⟨before ++ start, stop ++ after, ?_, ?_, ?_⟩
  · rw [hterms]
    simp
  · unfold cutMarked
    have hin : ∀ n ∈ start, n ∈ start ++ m ++ stop := by
      intro n hn
      simp [hn]
    rw [splitOnP_join hbefore (hsingle hin)]
    simp [hstart]
  · unfold cutMarked
    have hin : ∀ n ∈ stop, n ∈ start ++ m ++ stop := by
      intro n hn
      simp [hn]
    rw [splitOnP_join (hsingle hin) hafter]
    simp [hstop]

end Marked

/-! ## Roles around a word -/

/-- A word that is no keyword, so that it cannot separate anything. -/
structure PlainWord (l : Text) : Prop where
  solid : Solid l
  not_and : ¬Spells andWord l
  not_or : ¬Spells orWord l

/-- **Roles on either side.** The words in front of a word that is no keyword have the roles that they have by
    themselves, with the blanks in front of the word at the end. Those behind it stand behind a word of a token. -/
theorem markFrom_around {trail : Text} {last : Role} {w : Word} (hw : PlainWord w.letters) (us vs : List Word) :
    markFrom trail last (us ++ w :: vs) = markFrom w.before last us ++ (.term, w) :: markFrom trail .term vs := by
  have hmay (k : Text) (hk : ¬Spells k w.letters) : mayPart k trail (w :: vs) = false := by simp [mayPart, hk]
  induction us generalizing last with
  | nil =>
    have hterm : roleOf trail last (w :: vs) = .term := by
      simp [roleOf, hmay andWord hw.not_and, hmay orWord hw.not_or]
    have hstep : markFrom trail last (w :: vs) = (.term, w) :: markFrom trail .term vs := by rw [markFrom, hterm]
    exact hstep
  | cons u us ih =>
    -- what stands behind `u` is the same with the word as with its blanks alone
    have hrole : roleOf trail last (u :: (us ++ w :: vs)) = roleOf w.before last (u :: us) := by
      cases us with
      | nil =>
        apply roleOf_congr
        · rfl
        · exact hmay orWord hw.not_or
      | cons x us =>
        apply roleOf_congr
        · rfl
        · cases us <;> rfl
    rw [List.cons_append, markFrom, hrole, ih]
    rfl

/-- Behind words of a token the roles are those behind any word of a token. -/
theorem markFrom_behind {trail : Text} {us vs : List Word} {ms : List (Role × Word)}
    (h : markFrom trail .term (us ++ vs) = asTerms us ++ ms) : ms = markFrom trail .term vs := by
  induction us with
  | nil => exact h.symm
  | cons u us ih =>
    obtain ⟨hhead, htail⟩ := List.cons.inj h
    have hrole : roleOf trail .term (u :: (us ++ vs)) = .term := (Prod.mk.inj hhead).1
    apply ih
    rw [← hrole]
    exact htail

/-! ## Tokens in their places -/

/-- The texts of the tokens of a clause that have words. -/
def clauseTexts (clause : List (List Word)) : List Text :=
  (clause.map joinWords).filter fun token => !token.isEmpty

theorem splitClauses_eq_map (t : Text) : splitClauses t = (cutMarked t.marked).map clauseTexts :=
  splitClauses_eq_scan t

@[simp] theorem clauseTexts_append (xs ys : List (List Word)) :
    clauseTexts (xs ++ ys) = clauseTexts xs ++ clauseTexts ys := by
  unfold clauseTexts
  rw [List.map_append, List.filter_append]

@[simp] theorem clauseTexts_nil_cons (xs : List (List Word)) : clauseTexts ([] :: xs) = clauseTexts xs := rfl

@[simp] theorem clauseTexts_nil : clauseTexts [] = [] := rfl

theorem clauseTexts_cons {w : Word} (hw : w.letters ≠ []) (ws : List Word) (xs : List (List Word)) :
    clauseTexts ((w :: ws) :: xs) = joinWords (w :: ws) :: clauseTexts xs := by
  unfold clauseTexts
  rw [List.map_cons, List.filter_cons_of_pos]
  simp [joinWords, hw]

/-- A token among the texts of a clause is one among its tokens of words. -/
theorem exists_of_clauseTexts {xs : List (List Word)} {left right : List Text} {token : Text}
    (h : clauseTexts xs = left ++ token :: right) :
    ∃ ls ws rs, xs = ls ++ ws :: rs ∧ clauseTexts ls = left ∧ joinWords ws = token ∧ clauseTexts rs = right := by
  obtain ⟨us, rest, hxs, hleft, hrest⟩ := List.filter_eq_append_iff.mp h
  obtain ⟨gap, vs, rfl, hgap, -, hright⟩ := List.filter_eq_cons_iff.mp hrest
  obtain ⟨ls, tail, rfl, rfl, htail⟩ := List.map_eq_append_iff.mp hxs
  obtain ⟨ms, found, rfl, rfl, hfound⟩ := List.map_eq_append_iff.mp htail
  obtain ⟨ws, rs, rfl, hws, rfl⟩ := List.map_eq_cons_iff.mp hfound
  refine ⟨ls ++ ms, ws, rs, by simp, ?_, hws, hright⟩
  have hnone : clauseTexts ms = [] := List.filter_eq_nil_iff.mpr hgap
  rw [clauseTexts_append, hnone, List.append_nil]
  exact hleft

/-- A token begins with a letter. -/
theorem trimStart_token {t token : Text} {clause : List Text} (hclause : clause ∈ splitClauses t)
    (htoken : token ∈ clause) : token.trimStart = token := by
  rw [splitClauses_eq_map] at hclause
  obtain ⟨xs, hxs, rfl⟩ := List.mem_map.mp hclause
  obtain ⟨ws, hws, rfl⟩ := List.mem_map.mp (List.mem_filter.mp htoken).1
  apply trimStart_joinWords
  apply tokens_apart t
  exact List.mem_flatten.mpr ⟨xs, hxs, hws⟩

theorem spell_append (us vs : List Word) : spell (us ++ vs) = spell us ++ spell vs := List.flatMap_append

/-- Where a word ends is not a matter of choice. -/
theorem solid_append_inj {l m s t : Text} (hl : Solid l) (hm : Solid m) (hs : EndsWord s) (ht : EndsWord t)
    (h : l ++ s = m ++ t) : l = m ∧ s = t := by
  rcases List.append_eq_append_iff.mp h with ⟨x, rfl, rfl⟩ | ⟨x, rfl, rfl⟩
  · cases x with
    | nil => simp
    | cons c x =>
      have hblank : isBlank c = true := hs c rfl
      have hletter : isBlank c = false := hm.2 c (by simp)
      rw [hblank] at hletter
      cases hletter
  · cases x with
    | nil => simp
    | cons c x =>
      have hblank : isBlank c = true := ht c rfl
      have hletter : isBlank c = false := hl.2 c (by simp)
      rw [hblank] at hletter
      cases hletter

theorem Apart.left {us vs : List Word} (h : Apart (us ++ vs)) : Apart us := by
  cases us with
  | nil => exact True.intro
  | cons u us =>
    refine ⟨h.1, ?_⟩
    intro x hx
    exact h.2 x (List.mem_append_left vs hx)

/-- Words behind another one all have a blank in front of them. -/
theorem Apart.behind {us vs : List Word} {w : Word} (h : Apart (us ++ w :: vs)) : Gapped vs := by
  intro x hx
  cases us with
  | nil => exact h.2 x hx
  | cons u us =>
    apply h.2 x
    simp [hx]

/-- The words of a text with other letters in one of them. -/
theorem Apart.replace {us vs : List Word} {w : Word} {l : Text} (h : Apart (us ++ w :: vs)) (hl : Solid l) :
    Apart (us ++ ⟨w.before, l⟩ :: vs) := by
  cases us with
  | nil => exact ⟨⟨h.1.blank, hl⟩, h.2⟩
  | cons u us =>
    refine ⟨h.1, ?_⟩
    intro x hx
    have hgapped := h.2
    rcases List.mem_append.mp hx with hx | hx
    · exact hgapped x (by simp [hx])
    · rcases List.mem_cons.mp hx with rfl | hx
      · obtain ⟨hvalid, hne⟩ := hgapped w (by simp)
        exact ⟨⟨hvalid.blank, hl⟩, hne⟩
      · exact hgapped x (by simp [hx])

/-- **A token stands in a text** between two others, which by themselves give the clauses and tokens on either side
    of it. -/
structure TokenAt (front : List (List Text)) (left : List Text) (token : Text) (right : List Text)
    (back : List (List Text)) (before after t : Text) : Prop where
  text_eq : t = before ++ token ++ after
  split_before : splitClauses before = front ++ [left]
  split_after : splitClauses after = right :: back

/-- The roles in a text that is given by its words. -/
theorem marked_spell {ws : List Word} {b : Text} (hws : Apart ws) (hb : Blank b) :
    (spell ws ++ b).marked = markFrom b .term ws := by
  unfold Text.marked
  rw [words_spell hws hb, trail_spell hws hb]

/-- Taken apart around a token, the marked words of a text are those of the texts on either side of it. -/
theorem marked_around {t : Text} {ms ns : List (Role × Word)} {w : Word} {vs : List Word} (hw : PlainWord w.letters)
    (h : t.marked = ms ++ asTerms (w :: vs) ++ ns) :
    ∃ us cs, t.words = us ++ w :: (vs ++ cs) ∧ ms = markFrom w.before .term us ∧
      asTerms vs ++ ns = markFrom t.trail .term (vs ++ cs) ∧ ns = markFrom t.trail .term cs := by
  have hwords : t.words = ms.map Prod.snd ++ w :: (vs ++ ns.map Prod.snd) := by
    rw [← markFrom_map_snd t.trail .term t.words]
    change t.marked.map Prod.snd = _
    rw [h, List.map_append, List.map_append, asTerms, map_term_snd]
    simp
  have hmarks := h
  unfold Text.marked at hmarks
  rw [hwords, markFrom_around hw, List.append_assoc] at hmarks
  have hlength : (markFrom w.before .term (ms.map Prod.snd)).length = ms.length := by
    have hsnd := congrArg List.length (markFrom_map_snd w.before .term (ms.map Prod.snd))
    rwa [List.length_map, List.length_map] at hsnd
  obtain ⟨hfront, hrest⟩ := List.append_inj hmarks hlength
  have hback := (List.cons.inj hrest).2
  exact ⟨_, _, hwords, hfront.symm, hback.symm, markFrom_behind hback⟩

/-- A token in the clauses of a text, taken apart into its words. -/
theorem exists_words_of_token {t l tail : Text} {front back : List (List Text)} {left right : List Text}
    (h : splitClauses t = front ++ (left ++ (l ++ tail) :: right) :: back) (hl : Solid l) (htail : EndsWord tail) :
    ∃ fs ls w vs rs bs, cutMarked t.marked = fs ++ (ls ++ (w :: vs) :: rs) :: bs ∧ w.Valid ∧ w.letters = l ∧
      spell vs = tail ∧ fs.map clauseTexts = front ∧ clauseTexts ls = left ∧ clauseTexts rs = right ∧
      bs.map clauseTexts = back := by
  rw [splitClauses_eq_map] at h
  obtain ⟨fs, rest, hcut, hfront, hrest⟩ := List.map_eq_append_iff.mp h
  obtain ⟨clause, bs, rfl, hclause, hback⟩ := List.map_eq_cons_iff.mp hrest
  obtain ⟨ls, ws, rs, rfl, hleft, hws, hright⟩ := exists_of_clauseTexts hclause
  have hapart : Apart ws := by
    apply tokens_apart t
    rw [hcut]
    simp
  cases ws with
  | nil => exact absurd hws.symm (List.append_ne_nil_of_left_ne_nil hl.1 tail)
  | cons w vs =>
    have hends : EndsWord (spell vs) := by
      have hgapped := endsWord_spell_append hapart.2 endsWord_nil
      rwa [List.append_nil] at hgapped
    obtain ⟨hletters, hspell⟩ := solid_append_inj hapart.1.solid hl hends htail hws
    exact ⟨fs, ls, w, vs, rs, bs, hcut, hapart.1, hletters, hspell, hfront, hleft, hright, hback⟩

/-- **A place is filled** by a word that is no keyword, with what follows it in its token. -/
theorem splitClauses_filled {fs bs : List (List (List Word))} {ls rs : List (List Word)} {us vs cs : List Word} {w : Word}
    {trail : Text} (hw : PlainWord w.letters) (hapart : Apart (us ++ w :: (vs ++ cs))) (htrail : Blank trail)
    (hfront : cutMarked (markFrom w.before .term us) = fs ++ [ls ++ [[]]])
    (hbehind : asTerms vs ++ markFrom trail .term cs = markFrom trail .term (vs ++ cs))
    (hback : cutMarked (markFrom trail .term cs) = ([] :: rs) :: bs) :
    splitClauses (spell us ++ w.before ++ (w.letters ++ spell vs) ++ (spell cs ++ trail)) =
      fs.map clauseTexts ++ (clauseTexts ls ++ (w.letters ++ spell vs) :: clauseTexts rs) :: bs.map clauseTexts := by
  have htext : spell us ++ w.before ++ (w.letters ++ spell vs) ++ (spell cs ++ trail) =
      spell (us ++ w :: (vs ++ cs)) ++ trail := by simp [spell_append]
  have hmarks : markFrom trail .term (us ++ w :: (vs ++ cs)) =
      markFrom w.before .term us ++ asTerms (w :: vs) ++ markFrom trail .term cs := by
    rw [markFrom_around hw, ← hbehind]
    simp [asTerms]
  have htoken : cutMarked (asTerms (w :: vs)) = [[w :: vs]] := cutMarked_terms (w :: vs)
  have hcut := cutMarked_join (cutMarked_join hfront htoken) hback
  rw [splitClauses_eq_map, htext, marked_spell hapart htrail, hmarks, hcut, List.map_append, List.map_cons,
    clauseTexts_append, List.nil_append, List.append_nil, clauseTexts_cons hw.solid.1]
  rfl

/-- **The place of a token whose first word is no keyword**, and what may be put there: another such word, with what
    follows the first one in the token. Nothing else changes. -/
theorem splitClauses_place {t l tail : Text} {front back : List (List Text)} {left right : List Text}
    (h : splitClauses t = front ++ (left ++ (l ++ tail) :: right) :: back) (hl : PlainWord l) (htail : EndsWord tail) :
    ∃ before after, TokenAt front left (l ++ tail) right back before after t ∧
      ∀ l', PlainWord l' →
        splitClauses (before ++ (l' ++ tail) ++ after) = front ++ (left ++ (l' ++ tail) :: right) :: back := by
  obtain ⟨fs, ls, w, vs, rs, bs, hcut, hw, rfl, rfl, rfl, rfl, rfl, rfl⟩ := exists_words_of_token h hl.solid htail
  -- the words of the text around those of the token
  obtain ⟨ms, ns, hmarks, hms, hns⟩ := cutMarked_place hcut
  obtain ⟨us, cs, hwords, rfl, hbehind, rfl⟩ := marked_around hl hmarks
  have hapart := words_apart t
  rw [hwords] at hapart
  have htrail := trail_blank t
  refine ⟨spell us ++ w.before, spell cs ++ t.trail, ⟨?_, ?_, ?_⟩, ?_⟩
  · have hspell := spell_words t
    rw [hwords] at hspell
    refine hspell.symm.trans ?_
    simp [spell_append]
  · rw [splitClauses_eq_map, marked_spell hapart.left hw.blank, hms]
    simp
  · have hcs : Gapped cs := fun x hx => hapart.behind x (List.mem_append_right vs hx)
    rw [splitClauses_eq_map, marked_spell hcs.apart htrail, hns]
    simp
  · intro l' hl'
    have hreplaced : Apart (us ++ ⟨w.before, l'⟩ :: (vs ++ cs)) := hapart.replace hl'.solid
    apply splitClauses_filled hl' hreplaced htrail
    · exact hms
    · exact hbehind
    · exact hns

end RankSieve
