import RankSieve.Proofs.Separators

/-!
# `RankSieve.Proofs.ClauseScan` — the clauses of a query in one pass over its words

`splitClauses` cuts a text twice, first at `OR` and then each piece at `AND`, and each cut takes away
the blanks that the next separator would need. What becomes of a word therefore hangs on its neighbours
only, and one pass over the words can tell: each word gets a **role** from the role of the word before
it and from the word behind it.

## Contents
- **Roles.** `Text.marked` gives every word its role; `roles_or_iff` and `roles_and_iff` say when a word
  separates, without a word about how the pass goes.
- **The scanner.** `Text.scanClauses` cuts the words at the separators.
- **Two cuts are one pass.** `ends_pieces` relates the pieces of a text to its marked words, by induction
  on the words; `splitClauses_eq_scan` is the equation of both, for every text.
-/

namespace RankSieve

/-! ## Roles -/

/-- The word that separates tokens. -/
def andWord : Text := ['A', 'N', 'D']

/-- The word that separates clauses. -/
def orWord : Text := ['O', 'R']

theorem keyword_andWord : Keyword andWord := by decide

theorem keyword_orWord : Keyword orWord := by decide

/-- No letters spell both keywords. -/
theorem not_spells_both {l : Text} (ha : Spells andWord l) (ho : Spells orWord l) : False :=
  absurd (ha.symm.trans ho) (by decide)

/-- What a word does in a query. -/
inductive Role where
  /-- It belongs to a token. -/
  | term
  | and
  | or
  deriving DecidableEq, Repr

/-- The blanks in front of what remains of a text: those of its next word, or those that it ends with. -/
def behind (trail : Text) : List Word → Text
  | []     => trail
  | w :: _ => w.before

/-- Whether the first of the remaining words spells a keyword and has blanks on both sides. -/
def mayPart (k trail : Text) : List Word → Bool
  | []      => false
  | w :: ws => decide (Spells k w.letters) && !w.before.isEmpty && !(behind trail ws).isEmpty

/-- The role of the first of the remaining words behind a word of the given role. -/
def roleOf (trail : Text) (last : Role) (ws : List Word) : Role :=
  if mayPart orWord trail ws && last != .or then .or
  else if mayPart andWord trail ws && last == .term && !mayPart orWord trail ws.tail then .and
  else .term

/-- The remaining words with their roles, behind a word of the given role. -/
def markFrom (trail : Text) : Role → List Word → List (Role × Word)
  | _,    []      => []
  | last, w :: ws =>
    let role := roleOf trail last (w :: ws)
    (role, w) :: markFrom trail role ws

/-- The words of a text with their roles. -/
def Text.marked (t : Text) : List (Role × Word) := markFrom t.trail .term t.words

/-- The roles of the words of a text. -/
def Text.roles (t : Text) : List Role := t.marked.map Prod.fst

/-- At a place among the words of a text stands a keyword, in either case, with blanks on both sides. -/
def KeywordAt (k t : Text) (i : Nat) : Prop :=
  ∃ w, t.words[i]? = some w ∧ Spells k w.letters ∧ w.before ≠ [] ∧
    (t.words[i + 1]?.map Word.before).getD t.trail ≠ []

/-! ## The scanner -/

/-- Marked words cut at the separators, as clauses of tokens of words. -/
def cutMarked (ms : List (Role × Word)) : List (List (List Word)) :=
  (ms.splitOnP (·.1 == .or)).map fun clause =>
    (clause.splitOnP (·.1 == .and)).map (·.map Prod.snd)

/-- The clauses of a query as its marked words give them: each token goes from the first to the last
    character of its words, and tokens without words are left out. -/
def Text.scanClauses (t : Text) : List (List Text) :=
  (cutMarked t.marked).map fun clause => (clause.map joinWords).filter fun token => !token.isEmpty

theorem cutMarked_nil : cutMarked [] = [[[]]] := rfl

theorem cutMarked_or (w : Word) (ms : List (Role × Word)) :
    cutMarked ((.or, w) :: ms) = [[]] :: cutMarked ms := by
  simp [cutMarked, List.splitOnP_cons_eq_if_modifyHead]

theorem cutMarked_and (w : Word) (ms : List (Role × Word)) :
    cutMarked ((.and, w) :: ms) = (cutMarked ms).modifyHead ([] :: ·) := by
  unfold cutMarked
  rw [List.splitOnP_cons_eq_if_modifyHead]
  cases h : ms.splitOnP (·.1 == .or) with
  | nil => exact absurd h (List.splitOnP_ne_nil _ _)
  | cons c cs => simp [List.splitOnP_cons_eq_if_modifyHead]

theorem cutMarked_term (w : Word) (ms : List (Role × Word)) :
    cutMarked ((.term, w) :: ms) = (cutMarked ms).modifyHead (List.modifyHead (w :: ·)) := by
  unfold cutMarked
  rw [List.splitOnP_cons_eq_if_modifyHead]
  cases h : ms.splitOnP (·.1 == .or) with
  | nil => exact absurd h (List.splitOnP_ne_nil _ _)
  | cons c cs =>
      cases h' : c.splitOnP (·.1 == .and) with
      | nil => exact absurd h' (List.splitOnP_ne_nil _ _)
      | cons d ds => simp [List.splitOnP_cons_eq_if_modifyHead, h']

/-- There is always a first token, although it may have no words. -/
theorem cutMarked_cons_cons (ms : List (Role × Word)) :
    ∃ token tokens clauses, cutMarked ms = (token :: tokens) :: clauses := by
  unfold cutMarked
  cases h : ms.splitOnP (·.1 == .or) with
  | nil => exact absurd h (List.splitOnP_ne_nil _ _)
  | cons c cs =>
      cases h' : c.splitOnP (·.1 == .and) with
      | nil => exact absurd h' (List.splitOnP_ne_nil _ _)
      | cons d ds => exact ⟨d.map Prod.snd, ds.map (·.map Prod.snd), _, by rw [List.map_cons, h']; rfl⟩

/-! ## Separators among words -/

theorem mayPart_cons {k trail : Text} {w : Word} {ws : List Word} :
    mayPart k trail (w :: ws) = true ↔
      Spells k w.letters ∧ w.before ≠ [] ∧ behind trail ws ≠ [] := by
  simp [mayPart, and_assoc]

/-- Without the blanks in front of it, a text of words begins with letters. -/
theorem dropWhile_spell {w : Word} {ws : List Word} {trail : Text} (hw : w.Valid) :
    (spell (w :: ws) ++ trail).dropWhile isBlank = w.letters ++ (spell ws ++ trail) := by
  rw [spell_cons, List.append_assoc, List.append_assoc, List.dropWhile_append_of_pos hw.blank,
    dropWhile_solid_append hw.solid]

theorem blank_behind {ws : List Word} {trail : Text} (hws : Gapped ws) (hb : Blank trail) :
    Blank (behind trail ws) := by
  cases ws with
  | nil => exact hb
  | cons w ws => exact hws.head.1.blank

theorem behind_eq_nil_iff {ws : List Word} {trail : Text} (hws : Gapped ws) :
    behind trail ws = [] ↔ spell ws ++ trail = [] := by
  cases ws with
  | nil => simp [behind]
  | cons w ws => simp [behind, hws.head.2]

/-- **A keyword between blanks** cuts a text of words. -/
theorem cutAtWord_of_mayPart {k trail : Text} {w : Word} {ws : List Word} (hk : Keyword k)
    (hw : w.Valid) (hws : Gapped ws) (hb : Blank trail) (hp : mayPart k trail (w :: ws) = true) :
    cutAtWord k (spell (w :: ws) ++ trail) =
      [] :: cutAtWord k ((spell ws ++ trail).dropWhile isBlank) := by
  obtain ⟨hspells, hne, hbehind⟩ := mayPart_cons.mp hp
  rw [spell_cons, List.append_assoc (w.before ++ w.letters)]
  exact cutAtWord_separator hk hw.blank hne hspells (endsWord_spell_append hws hb.endsWord)
    (fun h => hbehind ((behind_eq_nil_iff hws).mpr h))

/-- **Any other word** stays in the first piece. -/
theorem cutAtWord_of_not_mayPart {k trail : Text} {w : Word} {ws : List Word} (hk : Keyword k)
    (hw : w.Valid) (hws : Gapped ws) (hb : Blank trail) (hp : mayPart k trail (w :: ws) = false) :
    cutAtWord k (spell (w :: ws) ++ trail) =
      (cutAtWord k (spell ws ++ trail)).modifyHead (w.before ++ w.letters ++ ·) := by
  rw [spell_cons, List.append_assoc (w.before ++ w.letters)]
  by_cases hne : w.before = []
  · rw [hne, List.nil_append]
    exact cutAtWord_letters_append hw.solid.2
  · refine cutAtWord_plain hk hw.blank hw.solid (endsWord_spell_append hws hb.endsWord) fun hspells => ?_
    apply (behind_eq_nil_iff hws).mp
    apply Classical.byContradiction
    intro hbehind
    rw [mayPart_cons.mpr ⟨hspells, hne, hbehind⟩] at hp
    exact absurd hp (by simp)

/-! ## Two cuts -/

/-- The pieces of a text at both words, untrimmed: first at `OR`, and each piece at `AND`. -/
def pieces (t : Text) : List (List Text) := (cutAtWord orWord t).map (cutAtWord andWord)

/-- A text in front of the first piece. -/
def inFront (t : Text) : List (List Text) → List (List Text) := List.modifyHead (List.modifyHead (t ++ ·))

theorem inFront_nil (ps : List (List Text)) : inFront [] ps = ps := by
  unfold inFront
  rw [show List.modifyHead (([] : Text) ++ ·) = id from List.modifyHead_id, List.modifyHead_id]
  rfl

theorem inFront_inFront (s t : Text) (ps : List (List Text)) :
    inFront s (inFront t ps) = inFront (s ++ t) ps := by
  unfold inFront
  rw [List.modifyHead_modifyHead]
  congr 1
  funext p
  rw [Function.comp_apply, List.modifyHead_modifyHead]
  congr 1
  funext x
  exact (List.append_assoc s t x).symm

theorem pieces_blank {b : Text} (hb : Blank b) : pieces b = [[b]] := by
  unfold pieces
  rw [cutAtWord_blank keyword_orWord hb, List.map_singleton, cutAtWord_blank keyword_andWord hb]

theorem pieces_letters_append {l t : Text} (hl : ∀ c ∈ l, isBlank c = false) :
    pieces (l ++ t) = inFront l (pieces t) := by
  unfold pieces inFront
  rw [cutAtWord_letters_append hl]
  cases h : cutAtWord orWord t with
  | nil => exact absurd h (cutAtWord_ne_nil orWord t)
  | cons p ps => simp [cutAtWord_letters_append hl]

/-- The first piece of what remains, between words that may part clauses. It is empty where such a word
    comes next, and otherwise it begins with the blanks that come next. -/
theorem cutAtWord_orWord_cases {ws : List Word} {trail : Text} (hws : Gapped ws) (hb : Blank trail) :
    (mayPart orWord trail ws = true ∧ ∃ ps, cutAtWord orWord (spell ws ++ trail) = [] :: ps) ∨
    (mayPart orWord trail ws = false ∧ ∃ p ps,
      cutAtWord orWord (spell ws ++ trail) = (behind trail ws ++ p) :: ps ∧
      cutAtWord orWord ((spell ws ++ trail).dropWhile isBlank) = p :: ps ∧
      p.dropWhile isBlank = p) := by
  cases ws with
  | nil =>
      refine Or.inr ⟨rfl, [], [], ?_, ?_, rfl⟩
      · rw [spell_nil, List.nil_append, cutAtWord_blank keyword_orWord hb, behind, List.append_nil]
      · rw [spell_nil, List.nil_append, dropWhile_blank hb, cutAtWord_nil]
  | cons w ws =>
      obtain ⟨hw, -⟩ := hws.head
      cases hor : mayPart orWord trail (w :: ws) with
      | true => exact Or.inl ⟨rfl, _, cutAtWord_of_mayPart keyword_orWord hw hws.tail hb hor⟩
      | false =>
          obtain ⟨p, ps, hp⟩ := List.exists_cons_of_ne_nil (cutAtWord_ne_nil orWord (spell ws ++ trail))
          refine Or.inr ⟨rfl, w.letters ++ p, ps, ?_, ?_, dropWhile_solid_append hw.solid⟩
          · rw [cutAtWord_of_not_mayPart keyword_orWord hw hws.tail hb hor, hp, List.modifyHead_cons,
              behind, List.append_assoc]
          · rw [dropWhile_spell hw, cutAtWord_letters_append hw.solid.2, hp, List.modifyHead_cons]

section Pieces

variable {trail : Text} {w : Word} {ws : List Word} (hw : w.Valid) (hws : Gapped ws) (hb : Blank trail)

include hw hws hb

/-- A word that may part clauses does so. -/
theorem pieces_or (hor : mayPart orWord trail (w :: ws) = true) :
    pieces (spell (w :: ws) ++ trail) = [[]] :: pieces ((spell ws ++ trail).dropWhile isBlank) := by
  unfold pieces
  rw [cutAtWord_of_mayPart keyword_orWord hw hws hb hor]
  rfl

/-- A word that may part tokens does so, unless a word that may part clauses comes next. -/
theorem pieces_and (hand : mayPart andWord trail (w :: ws) = true)
    (hnext : mayPart orWord trail ws = false) :
    pieces (spell (w :: ws) ++ trail) =
      (pieces ((spell ws ++ trail).dropWhile isBlank)).modifyHead ([] :: ·) := by
  obtain ⟨hspells, hne, hbehind⟩ := mayPart_cons.mp hand
  have hor : mayPart orWord trail (w :: ws) = false := by
    cases h : mayPart orWord trail (w :: ws) with
    | false => rfl
    | true => exact (not_spells_both hspells (mayPart_cons.mp h).1).elim
  rcases cutAtWord_orWord_cases hws hb with ⟨h, -⟩ | ⟨-, p, ps, hcut, hfresh, hp⟩
  · exact absurd (h.symm.trans hnext) (by simp)
  · have hblank := blank_behind hws hb
    have hends : EndsWord (behind trail ws ++ p) := endsWord_blank_append hblank hbehind
    have hsep := cutAtWord_separator keyword_andWord hw.blank hne hspells hends (by simp [hbehind])
    rw [List.dropWhile_append_of_pos hblank, hp] at hsep
    unfold pieces
    rw [cutAtWord_of_not_mayPart keyword_orWord hw hws hb hor, hcut, hfresh, List.modifyHead_cons,
      List.map_cons, List.map_cons, List.modifyHead_cons, hsep]

/-- Every other word stays in the first token of the first clause. -/
theorem pieces_term (hor : mayPart orWord trail (w :: ws) = false)
    (hand : mayPart andWord trail (w :: ws) = true → mayPart orWord trail ws = true) :
    pieces (spell (w :: ws) ++ trail) = inFront (w.before ++ w.letters) (pieces (spell ws ++ trail)) := by
  -- the piece that the word goes into: a keyword `AND` with a blank in front is the last word there
  have hrest : ∃ q qs, cutAtWord orWord (spell ws ++ trail) = q :: qs ∧ EndsWord q ∧
      (w.before ≠ [] → Spells andWord w.letters → q = []) := by
    rcases cutAtWord_orWord_cases hws hb with ⟨-, ps, hcut⟩ | ⟨hnext, p, ps, hcut, -, -⟩
    · exact ⟨[], ps, hcut, endsWord_nil, fun _ _ => rfl⟩
    · by_cases hbehind : behind trail ws = []
      · refine ⟨[], [], ?_, endsWord_nil, fun _ _ => rfl⟩
        rw [(behind_eq_nil_iff hws).mp hbehind, cutAtWord_nil]
      · refine ⟨_, _, hcut, endsWord_blank_append (blank_behind hws hb) hbehind, fun hne hspells => ?_⟩
        have h := hand (mayPart_cons.mpr ⟨hspells, hne, hbehind⟩)
        exact absurd (h.symm.trans hnext) (by simp)
  obtain ⟨q, qs, hcut, hends, hplain⟩ := hrest
  have hfirst : cutAtWord andWord (w.before ++ w.letters ++ q)
      = (cutAtWord andWord q).modifyHead (w.before ++ w.letters ++ ·) := by
    by_cases hne : w.before = []
    · rw [hne, List.nil_append]
      exact cutAtWord_letters_append hw.solid.2
    · exact cutAtWord_plain keyword_andWord hw.blank hw.solid hends (hplain hne)
  unfold pieces inFront
  rw [cutAtWord_of_not_mayPart keyword_orWord hw hws hb hor, hcut, List.modifyHead_cons,
    List.map_cons, List.map_cons, List.modifyHead_cons, hfirst]

end Pieces

/-! ## Roles of neighbours -/

theorem mayPart_exclusive {trail : Text} {ws : List Word} (h : mayPart andWord trail ws = true) :
    mayPart orWord trail ws = false := by
  cases ws with
  | nil => rfl
  | cons w ws =>
      cases hor : mayPart orWord trail (w :: ws) with
      | false => rfl
      | true => exact (not_spells_both (mayPart_cons.mp h).1 (mayPart_cons.mp hor).1).elim

/-- A word parts clauses where it may and the word before it does not. -/
theorem roleOf_eq_or_iff {trail : Text} {last : Role} {ws : List Word} :
    roleOf trail last ws = .or ↔ mayPart orWord trail ws = true ∧ last ≠ .or := by
  unfold roleOf
  split
  · next h => simpa using h
  · next h =>
    simp only [Bool.and_eq_true, bne_iff_ne] at h
    constructor
    · intro hor
      split at hor <;> exact absurd hor (by simp)
    · intro hor
      exact absurd hor h

/-- A word parts tokens where it may and neither neighbour parts anything. -/
theorem roleOf_eq_and_iff {trail : Text} {last : Role} {ws : List Word} :
    roleOf trail last ws = .and ↔
      mayPart andWord trail ws = true ∧ last = .term ∧ mayPart orWord trail ws.tail = false := by
  unfold roleOf
  split
  · next h =>
    constructor
    · intro hand
      exact absurd hand (by simp)
    · rintro ⟨hand, -, -⟩
      rw [mayPart_exclusive hand] at h
      exact absurd h (by simp)
  · split
    · next h => simpa [and_assoc] using h
    · next h =>
      simp only [Bool.and_eq_true, beq_iff_eq, Bool.not_eq_true', and_assoc] at h
      constructor
      · intro hand
        exact absurd hand (by simp)
      · intro hand
        exact absurd hand h

/-- Behind a separator stands a word of a token, since no blanks are left for another separator. -/
theorem roleOf_behind_or (trail : Text) (ws : List Word) : roleOf trail .or ws = .term := by
  cases h : roleOf trail .or ws with
  | term => rfl
  | and => exact absurd (roleOf_eq_and_iff.mp h).2.1 (by simp)
  | or => exact absurd rfl (roleOf_eq_or_iff.mp h).2

theorem roleOf_behind_and {trail : Text} {ws : List Word} (hnext : mayPart orWord trail ws = false) :
    roleOf trail .and ws = .term := by
  cases h : roleOf trail .and ws with
  | term => rfl
  | and => exact absurd (roleOf_eq_and_iff.mp h).2.1 (by simp)
  | or => exact absurd ((roleOf_eq_or_iff.mp h).1.symm.trans hnext) (by simp)

/-! ## Two cuts are one pass -/

/-- The texts of tokens. -/
def texts (clauses : List (List (List Word))) : List (List Text) := clauses.map (·.map joinWords)

/-- Pieces without the blanks at their ends. -/
def ends (ps : List (List Text)) : List (List Text) := ps.map (·.map Text.trimEnd)

/-- The blanks in front of the first token, if that has words. -/
def firstGap : List (List (List Word)) → Text
  | ((w :: _) :: _) :: _ => w.before
  | _                    => []

/-- Only what follows the last letters can be trimmed. -/
theorem trimEnd_solid_append {s l t : Text} (hl : Solid l) :
    Text.trimEnd (s ++ l ++ t) = s ++ l ++ Text.trimEnd t := by
  have hrev : (s ++ l ++ t).reverse = t.reverse ++ (l.reverse ++ s.reverse) := by simp
  have hstop := dropWhile_solid_append (t := s.reverse) hl.reverse
  unfold Text.trimEnd
  rw [hrev, List.dropWhile_append, hstop]
  split
  · next h => simp [List.isEmpty_iff.mp h]
  · simp

theorem ends_inFront {s l : Text} (hl : Solid l) (ps : List (List Text)) :
    ends (inFront (s ++ l) ps) = inFront (s ++ l) (ends ps) := by
  rcases ps with _ | ⟨_ | ⟨p, qs⟩, ps⟩
  · rfl
  · rfl
  · simp only [ends, inFront, List.modifyHead_cons, List.map_cons, trimEnd_solid_append hl]

/-- A word put in front of the first token brings its letters, and the blanks that then stand between
    words. -/
theorem texts_term (w : Word) (ms : List (Role × Word)) :
    texts (cutMarked ((.term, w) :: ms)) =
      inFront w.letters (inFront (firstGap (cutMarked ms)) (texts (cutMarked ms))) := by
  rw [cutMarked_term, inFront_inFront]
  obtain ⟨token, tokens, clauses, h⟩ := cutMarked_cons_cons ms
  rw [h]
  cases token with
  | nil => simp [texts, inFront, firstGap, joinWords]
  | cons v vs => simp [texts, inFront, firstGap, joinWords]

theorem firstGap_term (w : Word) (ms : List (Role × Word)) :
    firstGap (cutMarked ((.term, w) :: ms)) = w.before := by
  rw [cutMarked_term]
  obtain ⟨token, tokens, clauses, h⟩ := cutMarked_cons_cons ms
  rw [h]
  rfl

/-- An empty token in front changes neither side. -/
theorem ends_token (ps : List (List Text)) :
    ends (ps.modifyHead ([] :: ·)) = (ends ps).modifyHead ([] :: ·) := by cases ps <;> rfl

theorem texts_token (clauses : List (List (List Word))) :
    texts (clauses.modifyHead ([] :: ·)) = (texts clauses).modifyHead ([] :: ·) := by
  cases clauses <;> rfl

theorem firstGap_token (clauses : List (List (List Word))) :
    firstGap (clauses.modifyHead ([] :: ·)) = [] := by cases clauses <;> rfl

/-- **Pieces and marked words.** The pieces of what remains of a text are its tokens, up to blanks at
    their ends, where the first one keeps the blanks in front of it. Behind a separator those blanks are
    gone. The induction is on the words that remain; each of the two forms leads back to the other. -/
theorem ends_pieces {trail : Text} {ws : List Word} (hb : Blank trail) (hws : Apart ws) :
    (ends (pieces (spell ws ++ trail)) =
      inFront (firstGap (cutMarked (markFrom trail .term ws))) (texts (cutMarked (markFrom trail .term ws)))) ∧
    (∀ last, roleOf trail last ws = .term →
      ends (pieces ((spell ws ++ trail).dropWhile isBlank)) = texts (cutMarked (markFrom trail last ws))) := by
  induction ws with
  | nil =>
      constructor
      · rw [spell_nil, List.nil_append, pieces_blank hb]
        simp [ends, trimEnd_blank hb, markFrom, cutMarked_nil, texts, inFront, firstGap, joinWords]
      · intro last _
        rw [spell_nil, List.nil_append, dropWhile_blank hb]
        rfl
  | cons w ws ih =>
      obtain ⟨hw, hws⟩ := hws
      obtain ⟨ihgap, ihfresh⟩ := ih hws.apart
      constructor
      · cases hrole : roleOf trail .term (w :: ws) with
        | or =>
            -- it parts clauses, and the rest begins afresh behind its blanks
            obtain ⟨hor, -⟩ := roleOf_eq_or_iff.mp hrole
            have h := ihfresh .or (roleOf_behind_or trail ws)
            rw [markFrom, hrole, cutMarked_or, pieces_or hw hws hb hor]
            show [[]] :: ends _ = inFront [] ([[]] :: texts _)
            rw [h, inFront_nil]
        | and =>
            obtain ⟨hand, -, hnext⟩ := roleOf_eq_and_iff.mp hrole
            have h := ihfresh .and (roleOf_behind_and hnext)
            rw [markFrom, hrole, cutMarked_and, pieces_and hw hws hb hand hnext]
            rw [ends_token, texts_token, firstGap_token, inFront_nil, h]
        | term =>
            -- behind a word of a token, a word that may part something does, unless an `OR` comes next
            have hor : mayPart orWord trail (w :: ws) = false := by
              cases hp : mayPart orWord trail (w :: ws) with
              | false => rfl
              | true => exact absurd (hrole.symm.trans (roleOf_eq_or_iff.mpr ⟨hp, by simp⟩)) (by simp)
            have hand : mayPart andWord trail (w :: ws) = true → mayPart orWord trail ws = true := by
              intro hp
              cases hnext : mayPart orWord trail ws with
              | true => rfl
              | false =>
                  exact absurd (hrole.symm.trans (roleOf_eq_and_iff.mpr ⟨hp, rfl, hnext⟩)) (by simp)
            rw [markFrom, hrole, firstGap_term, texts_term, pieces_term hw hws hb hor hand,
              ends_inFront hw.solid, ihgap, inFront_inFront, inFront_inFront, inFront_inFront]
      · intro last hrole
        have hends := ends_inFront (s := []) hw.solid (pieces (spell ws ++ trail))
        rw [markFrom, hrole, texts_term, dropWhile_spell hw, pieces_letters_append hw.solid.2]
        rw [List.nil_append] at hends
        rw [hends, ihgap]

/-! ## Tokens -/

theorem markFrom_map_snd (trail : Text) (last : Role) (ws : List Word) :
    (markFrom trail last ws).map Prod.snd = ws := by
  induction ws generalizing last with
  | nil => rfl
  | cons w ws ih => rw [markFrom, List.map_cons, ih]

/-- Clauses apart, a word goes to the first token, and a separator begins a token in front of it. -/
theorem tokens_cons (role : Role) (w : Word) (ms : List (Role × Word)) :
    (cutMarked ((role, w) :: ms)).flatten =
      if role = .term then (cutMarked ms).flatten.modifyHead (w :: ·) else [] :: (cutMarked ms).flatten := by
  obtain ⟨token, tokens, clauses, h⟩ := cutMarked_cons_cons ms
  cases role with
  | term => rw [cutMarked_term, h]; rfl
  | and => rw [cutMarked_and, h]; rfl
  | or => rw [cutMarked_or, h]; rfl

theorem tokens_ne_nil (ms : List (Role × Word)) : (cutMarked ms).flatten ≠ [] := by
  obtain ⟨token, tokens, clauses, h⟩ := cutMarked_cons_cons ms
  rw [h]
  simp

/-- **The tokens hold the words that separate nothing**, all of them and in order. -/
theorem flatten_tokens (ms : List (Role × Word)) :
    (cutMarked ms).flatten.flatten = (ms.filter (·.1 == .term)).map Prod.snd := by
  induction ms with
  | nil => rfl
  | cons m ms ih =>
      obtain ⟨role, w⟩ := m
      obtain ⟨token, tokens, h⟩ := List.exists_cons_of_ne_nil (tokens_ne_nil ms)
      rw [tokens_cons, h]
      rw [h] at ih
      cases role <;> simpa using ih

/-- Words of which each has a blank in front of it make tokens of such words. -/
theorem gapped_of_mem_tokens {trail : Text} {last : Role} {ws token : List Word} (hws : Gapped ws)
    (htoken : token ∈ (cutMarked (markFrom trail last ws)).flatten) : Gapped token := by
  intro w hw
  have hmem : w ∈ (cutMarked (markFrom trail last ws)).flatten.flatten :=
    List.mem_flatten.mpr ⟨token, htoken, hw⟩
  rw [flatten_tokens] at hmem
  obtain ⟨m, hm, rfl⟩ := List.mem_map.mp hmem
  refine hws m.2 ?_
  rw [← markFrom_map_snd trail last ws]
  exact List.mem_map_of_mem (List.mem_filter.mp hm).1

/-- The one word of a text that may have no blank in front of it can only begin a token. -/
theorem apart_of_mem_tokens {trail : Text} {last : Role} {ws token : List Word} (hws : Apart ws)
    (htoken : token ∈ (cutMarked (markFrom trail last ws)).flatten) : Apart token := by
  cases ws with
  | nil =>
      rw [List.mem_singleton.mp htoken]
      exact True.intro
  | cons w ws =>
      obtain ⟨hw, hws⟩ := hws
      have hgapped : ∀ x ∈ (cutMarked (markFrom trail (roleOf trail last (w :: ws)) ws)).flatten, Gapped x :=
        fun x hx => gapped_of_mem_tokens hws hx
      rw [markFrom, tokens_cons] at htoken
      obtain ⟨first, tokens, h⟩ := List.exists_cons_of_ne_nil
        (tokens_ne_nil (markFrom trail (roleOf trail last (w :: ws)) ws))
      rw [h] at hgapped htoken
      split at htoken
      · rcases List.mem_cons.mp htoken with rfl | htoken
        · exact ⟨hw, hgapped first (by simp)⟩
        · exact (hgapped token (List.mem_cons_of_mem first htoken)).apart
      · rcases List.mem_cons.mp htoken with rfl | htoken
        · exact True.intro
        · exact (hgapped token htoken).apart

theorem tokens_apart (t : Text) : ∀ token ∈ (cutMarked t.marked).flatten, Apart token :=
  fun _ htoken => apart_of_mem_tokens (words_apart t) htoken

/-- The text of a token has the words of the token. -/
theorem bareWords_joinWords {token : List Word} (h : Apart token) :
    Text.bareWords (joinWords token) = token.map Word.letters := by
  cases token with
  | nil => rfl
  | cons w ws =>
      have hbare : Apart (⟨[], w.letters⟩ :: ws) := ⟨⟨blank_nil, h.1.solid⟩, h.2⟩
      have hwords := words_spell hbare blank_nil
      rw [List.append_nil, spell_cons, List.nil_append] at hwords
      unfold Text.bareWords
      rw [joinWords, hwords]
      rfl

/-- The text of a token begins with its first word. -/
theorem trimStart_joinWords {token : List Word} (h : Apart token) :
    Text.trimStart (joinWords token) = joinWords token := by
  cases token with
  | nil => rfl
  | cons w ws => exact dropWhile_solid_append h.1.solid

theorem trimStart_trimEnd (t : Text) : t.trimEnd.trimStart = t.trim := by
  rw [trimEnd_eq, trim_eq]
  have h := words_apart t
  cases hw : t.words with
  | nil => rfl
  | cons w ws =>
      rw [hw] at h
      have hdrop : (spell (w :: ws) ++ []).dropWhile isBlank = w.letters ++ (spell ws ++ []) :=
        dropWhile_spell h.1
      rwa [List.append_nil, List.append_nil] at hdrop

/-! ## The equation -/

theorem firstGap_blank {clauses : List (List (List Word))}
    (h : ∀ token ∈ clauses.flatten, Apart token) : Blank (firstGap clauses) := by
  rcases clauses with _ | ⟨_ | ⟨_ | ⟨w, ws⟩, tokens⟩, clauses⟩
  · exact blank_nil
  · exact blank_nil
  · exact blank_nil
  · exact (h (w :: ws) (by simp)).1.blank

/-- Blanks in front of the first piece are gone once it is trimmed. -/
theorem trimStart_inFront {b : Text} (hb : Blank b) (ps : List (List Text)) :
    (inFront b ps).map (·.map Text.trimStart) = ps.map (·.map Text.trimStart) := by
  rcases ps with _ | ⟨_ | ⟨x, qs⟩, ps⟩
  · rfl
  · rfl
  · have h : Text.trimStart (b ++ x) = Text.trimStart x := List.dropWhile_append_of_pos hb
    simp [inFront, h]

/-- Trimmed, the pieces of a text are its tokens. -/
theorem map_trim_pieces (t : Text) :
    (pieces t).map (·.map Text.trim) = texts (cutMarked t.marked) := by
  have hends := (ends_pieces (trail_blank t) (words_apart t)).1
  have hapart := tokens_apart t
  rw [spell_words] at hends
  have htrim : (pieces t).map (·.map Text.trim) = (ends (pieces t)).map (·.map Text.trimStart) := by
    unfold ends
    rw [List.map_map]
    refine List.map_congr_left fun p _ => ?_
    rw [Function.comp_apply, List.map_map]
    exact List.map_congr_left fun x _ => (trimStart_trimEnd x).symm
  have hfixed : (texts (cutMarked t.marked)).map (·.map Text.trimStart) = texts (cutMarked t.marked) := by
    unfold texts
    rw [List.map_map]
    refine List.map_congr_left fun clause hclause => ?_
    rw [Function.comp_apply, List.map_map]
    refine List.map_congr_left fun token htoken => ?_
    exact trimStart_joinWords (hapart token (List.mem_flatten.mpr ⟨clause, hclause, htoken⟩))
  rw [htrim, hends]
  exact (trimStart_inFront (firstGap_blank hapart) _).trans hfixed

/-- **Two cuts are one pass.** -/
theorem splitClauses_eq_scan (t : Text) : splitClauses t = t.scanClauses := by
  have h : splitClauses t =
      ((pieces t).map (·.map Text.trim)).map (·.filter fun token => !token.isEmpty) := by
    unfold splitClauses pieces
    rw [List.map_map, List.map_map]
    rfl
  rw [h, map_trim_pieces]
  unfold Text.scanClauses texts
  rw [List.map_map]
  rfl

/-- Texts of tokens have the words of the tokens, also when empty ones are left out. -/
theorem flatMap_bareWords {tokens : List (List Word)} (h : ∀ token ∈ tokens, Apart token) :
    ((tokens.map joinWords).filter fun token => !token.isEmpty).flatMap Text.bareWords =
      tokens.flatten.map Word.letters := by
  induction tokens with
  | nil => rfl
  | cons token tokens ih =>
      have ih := ih fun x hx => h x (List.mem_cons_of_mem token hx)
      have hwords := bareWords_joinWords (h token (by simp))
      rw [List.map_cons, List.filter_cons, List.flatten_cons, List.map_append, ← ih, ← hwords]
      split
      · rfl
      · next hempty =>
        have hnil : joinWords token = [] := by simpa using hempty
        rw [hnil]
        rfl

theorem bareWords_splitClauses (t : Text) :
    (splitClauses t).flatten.flatMap Text.bareWords =
      (t.marked.filter (·.1 == .term)).map (·.2.letters) := by
  have hflat : t.scanClauses.flatten =
      ((cutMarked t.marked).flatten.map joinWords).filter fun token => !token.isEmpty := by
    unfold Text.scanClauses
    rw [List.map_flatten, List.filter_flatten, List.map_map]
    rfl
  rw [splitClauses_eq_scan, hflat, flatMap_bareWords (tokens_apart t), flatten_tokens, List.map_map]
  rfl

/-! ## Who separates -/

/-- The role of a word hangs on the role of the word before it, which is none for the first word. -/
theorem markFrom_getElem? (trail : Text) (last : Role) {ws : List Word} {i : Nat} (hi : i < ws.length) :
    ∃ role, ((markFrom trail last ws).map Prod.fst)[i]? = some (roleOf trail role (ws.drop i)) ∧
      (i = 0 → role = last) ∧
      ∀ j, j + 1 = i → ((markFrom trail last ws).map Prod.fst)[j]? = some role := by
  induction ws generalizing last i with
  | nil => exact absurd hi (by simp)
  | cons w ws ih =>
      rw [markFrom, List.map_cons]
      cases i with
      | zero => exact ⟨last, rfl, fun _ => rfl, fun j hj => absurd hj (by omega)⟩
      | succ i =>
          have hi' : i < ws.length := by simpa using hi
          obtain ⟨role, hrole, hfirst, hbefore⟩ := ih (roleOf trail last (w :: ws)) hi'
          refine ⟨role, hrole, fun h => absurd h (by simp), fun j hj => ?_⟩
          obtain rfl : j = i := by omega
          cases j with
          | zero => rw [hfirst rfl]; rfl
          | succ j => exact hbefore j rfl

theorem behind_eq (trail : Text) (ws : List Word) :
    behind trail ws = (ws.head?.map Word.before).getD trail := by cases ws <;> rfl

theorem keywordAt_iff {k t : Text} {i : Nat} :
    KeywordAt k t i ↔ mayPart k t.trail (t.words.drop i) = true := by
  unfold KeywordAt
  by_cases hi : i < t.words.length
  · rw [List.drop_eq_getElem_cons hi, mayPart_cons, behind_eq, List.head?_drop,
      List.getElem?_eq_getElem hi]
    simp
  · have hnone : t.words[i]? = none := List.getElem?_eq_none (by omega)
    rw [List.drop_eq_nil_of_le (by omega), hnone]
    simp [mayPart]

theorem lt_length_of_keywordAt {k t : Text} {i : Nat} (h : KeywordAt k t i) : i < t.words.length := by
  obtain ⟨w, hw, -⟩ := h
  exact (List.getElem?_eq_some_iff.mp hw).1

/-- The role of a word, given the role of the word before it. -/
theorem role_at {t : Text} {i : Nat} (hi : i < t.words.length) :
    ∃ role, t.roles[i]? = some (roleOf t.trail role (t.words.drop i)) ∧
      ∀ r ≠ Role.term, role = r ↔ ∃ j, j + 1 = i ∧ t.roles[j]? = some r := by
  obtain ⟨role, hrole, hfirst, hbefore⟩ := markFrom_getElem? t.trail .term hi
  refine ⟨role, hrole, fun r hr => ?_⟩
  cases i with
  | zero =>
      rw [hfirst rfl]
      exact ⟨fun h => absurd h.symm hr, fun ⟨j, hj, _⟩ => absurd hj (by omega)⟩
  | succ i =>
      have hi : t.roles[i]? = some role := hbefore i rfl
      constructor
      · rintro rfl
        exact ⟨i, rfl, hi⟩
      · rintro ⟨j, hj, h⟩
        obtain rfl : j = i := by omega
        exact Option.some.inj (hi.symm.trans h)

theorem roles_length (t : Text) : t.roles.length = t.words.length := by
  have h := congrArg List.length (markFrom_map_snd t.trail .term t.words)
  rw [List.length_map] at h
  unfold Text.roles
  rw [List.length_map]
  exact h

theorem lt_length_of_roles {t : Text} {i : Nat} {role : Role} (h : t.roles[i]? = some role) :
    i < t.words.length := by
  rw [← roles_length]
  exact (List.getElem?_eq_some_iff.mp h).1

/-- **Which words part clauses.** -/
theorem roles_or_iff (t : Text) (i : Nat) :
    t.roles[i]? = some .or ↔
      KeywordAt orWord t i ∧ ∀ j, j + 1 = i → t.roles[j]? ≠ some .or := by
  constructor
  · intro h
    obtain ⟨last, hrole, hlast⟩ := role_at (lt_length_of_roles h)
    obtain ⟨hmay, hne⟩ := roleOf_eq_or_iff.mp (Option.some.inj (hrole.symm.trans h))
    refine ⟨keywordAt_iff.mpr hmay, fun j hj hor => hne ?_⟩
    exact (hlast .or (by simp)).mpr ⟨j, hj, hor⟩
  · rintro ⟨hkey, hbefore⟩
    obtain ⟨last, hrole, hlast⟩ := role_at (lt_length_of_keywordAt hkey)
    rw [hrole, roleOf_eq_or_iff.mpr ⟨keywordAt_iff.mp hkey, fun hor => ?_⟩]
    obtain ⟨j, hj, h⟩ := (hlast .or (by simp)).mp hor
    exact hbefore j hj h

/-- **Which words part tokens.** -/
theorem roles_and_iff (t : Text) (i : Nat) :
    t.roles[i]? = some .and ↔
      KeywordAt andWord t i ∧
        (∀ j, j + 1 = i → t.roles[j]? ≠ some .or ∧ t.roles[j]? ≠ some .and) ∧
        t.roles[i + 1]? ≠ some .or := by
  constructor
  · intro h
    obtain ⟨last, hrole, hlast⟩ := role_at (lt_length_of_roles h)
    obtain ⟨hmay, hterm, hnext⟩ := roleOf_eq_and_iff.mp (Option.some.inj (hrole.symm.trans h))
    rw [List.tail_drop] at hnext
    refine ⟨keywordAt_iff.mpr hmay, fun j hj => ⟨fun hor => ?_, fun hand => ?_⟩, fun hor => ?_⟩
    · exact absurd (hterm.symm.trans ((hlast .or (by simp)).mpr ⟨j, hj, hor⟩)) (by simp)
    · exact absurd (hterm.symm.trans ((hlast .and (by simp)).mpr ⟨j, hj, hand⟩)) (by simp)
    · have hmay := keywordAt_iff.mp ((roles_or_iff t (i + 1)).mp hor).1
      exact absurd (hmay.symm.trans hnext) (by simp)
  · rintro ⟨hkey, hbefore, hnext⟩
    have hmay := keywordAt_iff.mp hkey
    obtain ⟨last, hrole, hlast⟩ := role_at (lt_length_of_keywordAt hkey)
    have hterm : last = .term := by
      cases hr : last with
      | term => rfl
      | and =>
          obtain ⟨j, hj, h⟩ := (hlast .and (by simp)).mp hr
          exact absurd h (hbefore j hj).2
      | or =>
          obtain ⟨j, hj, h⟩ := (hlast .or (by simp)).mp hr
          exact absurd h (hbefore j hj).1
    have hplain : mayPart orWord t.trail (t.words.drop i).tail = false := by
      rw [List.tail_drop]
      cases hor : mayPart orWord t.trail (t.words.drop (i + 1)) with
      | false => rfl
      | true =>
          -- then the next word would part clauses, for this one, an `AND`, does not
          refine absurd ((roles_or_iff t (i + 1)).mpr ⟨keywordAt_iff.mpr hor, fun j hj h => ?_⟩) hnext
          obtain rfl : j = i := by omega
          have hboth := keywordAt_iff.mp ((roles_or_iff t j).mp h).1
          exact absurd (hboth.symm.trans (mayPart_exclusive hmay)) (by simp)
    rw [hrole, roleOf_eq_and_iff.mpr ⟨hmay, hterm, hplain⟩]

/-- **Cutting at `OR` and then at `AND` is one pass over the words.** Which words separate is told by
    their neighbours: `OR` between blanks, not directly behind another separating `OR`; `AND` between
    blanks, with no separator directly on either side of it, but for an `AND` behind it. The clauses of
    a query are its words cut at the separators, and every other word lands in one token, in order. -/
theorem splitClauses_one_pass (t : Text) :
    (∀ i, t.roles[i]? = some .or ↔
      KeywordAt orWord t i ∧ ∀ j, j + 1 = i → t.roles[j]? ≠ some .or) ∧
    (∀ i, t.roles[i]? = some .and ↔
      KeywordAt andWord t i ∧
        (∀ j, j + 1 = i → t.roles[j]? ≠ some .or ∧ t.roles[j]? ≠ some .and) ∧
        t.roles[i + 1]? ≠ some .or) ∧
    splitClauses t = t.scanClauses ∧
    (splitClauses t).flatten.flatMap Text.bareWords =
      (t.marked.filter (·.1 == .term)).map (·.2.letters) :=
  ⟨roles_or_iff t, roles_and_iff t, splitClauses_eq_scan t, bareWords_splitClauses t⟩

end RankSieve
