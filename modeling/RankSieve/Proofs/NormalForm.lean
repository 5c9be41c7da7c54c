import RankSieve.Proofs.QueryMeaning

/-!
# `RankSieve.Proofs.NormalForm` — clauses written back as a query

The clauses of any text can be written as a query again, each keyword with one space on either side, and
that query has the same clauses. Tokens may begin or end with a keyword, as in `OR b` or `x AND`, so this
is not plain: a keyword that separated nothing has to go on doing so with other neighbours.

The reason is in the order of words and separators. Behind a separator there is always a word of a token
(`Trailing`), so a token without words can only be the first or the last of a text. Written back, a text
loses no more than a separator at either end, and a word that was part of a token keeps the neighbours
that made it so, or it has become the first or the last word, where nothing separates. `markFrom_tidy`
says this of roles, by one induction on the words.

## Contents
- **Normal clauses.** `normalClauses` and `writeClauses`.
- **Words behind a word.** `Trailing` is the shape of what follows a word of a token, `tidy` writes it plainly.
- **Roles.** `markFrom_tidy`: what is written plainly keeps its roles.
- **Clauses.** `kept` has one equation for each shape, and from them `kept_tidy` and `writeClauses_kept`.
- **The main result.** `writeClauses_normalClauses`.
-/

namespace RankSieve

/-! ## Normal clauses -/

/-- The clauses of a query that have tokens. -/
def normalClauses (t : Text) : List (List Text) := (splitClauses t).filter fun c => !c.isEmpty

/-- Clauses of tokens written as a query, with one space on either side of each keyword. -/
def writeClauses (clauses : List (List Text)) : Text :=
  " OR ".toList.intercalate (clauses.map (" AND ".toList.intercalate ·))

/-! ## Words behind a word -/

/-- The word that a role is written as, if it is that of a separator. -/
def Role.keyword : Role → Text
  | .term => []
  | .and  => andWord
  | .or   => orWord

/-- What follows a word of a token: behind a separator stands a word of a token, if anything does. -/
inductive Trailing : List (Role × Word) → Prop where
  | nil : Trailing []
  | term (w : Word) {ms : List (Role × Word)} : Trailing ms → Trailing ((.term, w) :: ms)
  | last {role : Role} (w : Word) : role ≠ .term → Trailing [(role, w)]
  | separator {role : Role} (w v : Word) {ms : List (Role × Word)} :
      role ≠ .term → Trailing ms → Trailing ((role, w) :: (.term, v) :: ms)

/-- Marked words behind a word of a token, with their separators written plainly. A separator that nothing
    follows is left out. -/
def tidy : List (Role × Word) → List (Role × Word)
  | []                        => []
  | (.term, w) :: ms          => (.term, w) :: tidy ms
  | (_, _) :: []              => []
  | (role, _) :: (_, v) :: ms => (role, ⟨[' '], role.keyword⟩) :: (.term, ⟨[' '], v.letters⟩) :: tidy ms

theorem tidy_last {role : Role} (w : Word) (hrole : role ≠ .term) : tidy [(role, w)] = [] := by
  cases role with
  | term => exact absurd rfl hrole
  | and => rfl
  | or => rfl

theorem tidy_separator {role : Role} (w v : Word) (ms : List (Role × Word)) (hrole : role ≠ .term) :
    tidy ((role, w) :: (.term, v) :: ms) =
      (role, ⟨[' '], role.keyword⟩) :: (.term, ⟨[' '], v.letters⟩) :: tidy ms := by
  cases role with
  | term => exact absurd rfl hrole
  | and => rfl
  | or => rfl

/-- The role behind a separator, which stands there as the text has it. -/
theorem roleOf_behind {trail : Text} {w : Word} {ws : List Word}
    (hrole : roleOf trail .term (w :: ws) ≠ .term) :
    roleOf trail (roleOf trail .term (w :: ws)) ws = .term := by
  cases h : roleOf trail .term (w :: ws) with
  | term => exact absurd h hrole
  | and => exact roleOf_behind_and (roleOf_eq_and_iff.mp h).2.2
  | or => exact roleOf_behind_or trail ws

/-- What stands behind a word of a token: a word of a token, or a separator, which is the last word or has
    a word of a token behind it. -/
theorem markFrom_cases (trail : Text) (w : Word) (ws : List Word) :
    (roleOf trail .term (w :: ws) = .term ∧
      markFrom trail .term (w :: ws) = (.term, w) :: markFrom trail .term ws) ∨
    ∃ role, role ≠ .term ∧ roleOf trail .term (w :: ws) = role ∧
      ((ws = [] ∧ markFrom trail .term (w :: ws) = [(role, w)]) ∨
        ∃ v vs, ws = v :: vs ∧
          markFrom trail .term (w :: ws) = (role, w) :: (.term, v) :: markFrom trail .term vs) := by
  by_cases hrole : roleOf trail .term (w :: ws) = .term
  · refine .inl ⟨hrole, ?_⟩
    rw [markFrom, hrole]
  · have hbehind := roleOf_behind hrole
    refine .inr ⟨_, hrole, rfl, ?_⟩
    cases ws with
    | nil => exact .inl ⟨rfl, rfl⟩
    | cons v vs =>
      refine .inr ⟨v, vs, rfl, ?_⟩
      rw [markFrom, markFrom, hbehind]

theorem trailing_markFrom (trail : Text) : ∀ ws, Trailing (markFrom trail .term ws)
  | [] => .nil
  | w :: ws => by
    rcases markFrom_cases trail w ws with ⟨-, hmarks⟩ | ⟨role, hrole, -, ⟨-, hmarks⟩ | ⟨v, vs, rfl, hmarks⟩⟩
    · rw [hmarks]
      exact .term w (trailing_markFrom trail ws)
    · rw [hmarks]
      exact .last w hrole
    · rw [hmarks]
      exact .separator w v hrole (trailing_markFrom trail vs)

/-! ## Roles -/

/-- The words behind a word of a token, with their separators written plainly. -/
def plainWords (trail : Text) (ws : List Word) : List Word := (tidy (markFrom trail .term ws)).map Prod.snd

/-- Behind words written plainly something stands only if it did before. -/
theorem behind_of_plainWords {trail : Text} {ws : List Word} (hws : Gapped ws)
    (h : behind [] (plainWords trail ws) ≠ []) : behind trail ws ≠ [] := by
  cases ws with
  | nil => exact absurd rfl h
  | cons w ws => exact hws.head.2

/-- So a word written plainly may separate only if it might before. -/
theorem mayPart_of_plainWords {k trail : Text} {w w' : Word} {ws : List Word} (hw : w.before ≠ [])
    (hletters : w'.letters = w.letters) (hws : Gapped ws) (h : mayPart k [] (w' :: plainWords trail ws) = true) :
    mayPart k trail (w :: ws) = true := by
  obtain ⟨hspells, -, hbehind⟩ := mayPart_cons.mp h
  exact mayPart_cons.mpr ⟨hletters ▸ hspells, hw, behind_of_plainWords hws hbehind⟩

theorem mayPart_plainWords_eq_false {k trail : Text} {w w' : Word} {ws : List Word} (hw : w.before ≠ [])
    (hletters : w'.letters = w.letters) (hws : Gapped ws) (h : mayPart k trail (w :: ws) = false) :
    mayPart k [] (w' :: plainWords trail ws) = false := by
  cases hplain : mayPart k [] (w' :: plainWords trail ws) with
  | false => rfl
  | true => exact absurd (mayPart_of_plainWords hw hletters hws hplain) (by rw [h]; exact Bool.false_ne_true)

/-- A keyword that is left in place with something behind it may still separate. -/
theorem mayPart_keyword (role : Role) (v : Word) (ws : List Word) (hrole : role ≠ .term) :
    mayPart role.keyword [] (⟨[' '], role.keyword⟩ :: ⟨[' '], v.letters⟩ :: ws) = true := by
  refine mayPart_cons.mpr ⟨?_, List.cons_ne_nil _ _, List.cons_ne_nil _ _⟩
  cases role with
  | term => exact absurd rfl hrole
  | and => rfl
  | or => rfl

/-- **A word of a token** stays one. -/
theorem roleOf_plain_term {trail : Text} {w : Word} {ws : List Word} (hw : w.before ≠ []) (hws : Gapped ws)
    (hrole : roleOf trail .term (w :: ws) = .term) : roleOf [] .term (w :: plainWords trail ws) = .term := by
  have hor : mayPart orWord trail (w :: ws) = false := by
    rw [Bool.eq_false_iff]
    intro hmay
    rw [roleOf_eq_or_iff.mpr ⟨hmay, by decide⟩] at hrole
    cases hrole
  cases hplain : roleOf [] .term (w :: plainWords trail ws) with
  | term => rfl
  | or =>
    have hmay := mayPart_of_plainWords hw rfl hws (roleOf_eq_or_iff.mp hplain).1
    exact absurd (hmay.symm.trans hor) (by decide)
  | and =>
    obtain ⟨hmay, -, hnext⟩ := roleOf_eq_and_iff.mp hplain
    obtain ⟨-, -, hbehind⟩ := mayPart_cons.mp hmay
    rw [List.tail_cons] at hnext
    -- an `AND` that separated nothing had an `OR` behind it that did, and it has still
    have hor' : mayPart orWord trail ws = true := by
      cases hor' : mayPart orWord trail ws with
      | true => rfl
      | false =>
        have hand := roleOf_eq_and_iff.mpr ⟨mayPart_of_plainWords hw rfl hws hmay, rfl, hor'⟩
        rw [hand] at hrole
        cases hrole
    have hnextRole : roleOf trail .term ws = .or := roleOf_eq_or_iff.mpr ⟨hor', by decide⟩
    cases ws with
    | nil => exact absurd rfl hbehind
    | cons v vs =>
      rcases markFrom_cases trail v vs with ⟨hterm, -⟩ | ⟨role, hne, hv, hmarks⟩
      · rw [hnextRole] at hterm
        cases hterm
      · obtain rfl : .or = role := hnextRole.symm.trans hv
        unfold plainWords at hbehind hnext
        rcases hmarks with ⟨-, hmarks⟩ | ⟨x, xs, -, hmarks⟩
        · rw [hmarks, tidy_last v hne] at hbehind
          exact absurd rfl hbehind
        · rw [hmarks, tidy_separator v x _ hne, List.map_cons, List.map_cons] at hnext
          exact absurd ((mayPart_keyword .or x _ hne).symm.trans hnext) (by decide)

/-- **A separator** stays one, and so does the word of a token behind it. -/
theorem roleOf_plain_separator {trail : Text} {w v : Word} {vs : List Word} {role : Role} (hrole : role ≠ .term)
    (hws : Gapped (v :: vs)) (h : roleOf trail .term (w :: v :: vs) = role) :
    roleOf [] .term (⟨[' '], role.keyword⟩ :: ⟨[' '], v.letters⟩ :: plainWords trail vs) = role ∧
      roleOf [] role (⟨[' '], v.letters⟩ :: plainWords trail vs) = .term := by
  have hmay := mayPart_keyword role v (plainWords trail vs) hrole
  cases role with
  | term => exact absurd rfl hrole
  | or => exact ⟨roleOf_eq_or_iff.mpr ⟨hmay, by decide⟩, roleOf_behind_or _ _⟩
  | and =>
    obtain ⟨-, -, hnext⟩ := roleOf_eq_and_iff.mp h
    have hplain : mayPart orWord [] (⟨[' '], v.letters⟩ :: plainWords trail vs) = false :=
      mayPart_plainWords_eq_false hws.head.2 rfl hws.tail hnext
    exact ⟨roleOf_eq_and_iff.mpr ⟨hmay, rfl, hplain⟩, roleOf_behind_and hplain⟩

/-- **What is written plainly keeps its roles.** The induction is on the words, one at a time or, where the
    first is a separator, two. -/
theorem markFrom_tidy (trail : Text) : ∀ {ws : List Word}, Gapped ws →
    markFrom [] .term (plainWords trail ws) = tidy (markFrom trail .term ws)
  | [], _ => rfl
  | w :: ws, hws => by
    unfold plainWords
    rcases markFrom_cases trail w ws with ⟨hrole, hmarks⟩ | ⟨role, hne, hrole, ⟨-, hmarks⟩ | ⟨v, vs, rfl, hmarks⟩⟩
    · have hrest := markFrom_tidy trail hws.tail
      have hterm := roleOf_plain_term hws.head.2 hws.tail hrole
      unfold plainWords at hrest hterm
      rw [hmarks, tidy, List.map_cons, markFrom, hterm, hrest]
    · rw [hmarks, tidy_last w hne]
      rfl
    · -- a separator and the word behind it, which may itself be spelled like a keyword
      have hrest := markFrom_tidy trail hws.tail.tail
      obtain ⟨hseparator, hterm⟩ := roleOf_plain_separator hne hws.tail hrole
      unfold plainWords at hrest hseparator hterm
      rw [hmarks, tidy_separator w v _ hne, List.map_cons, List.map_cons, markFrom, hseparator, markFrom, hterm, hrest]

/-! ## Clauses -/

/-- The clauses of tokens of words that have any, as texts. -/
def kept (clauses : List (List (List Word))) : List (List Text) :=
  (clauses.map fun clause => (clause.map joinWords).filter fun token => !token.isEmpty).filter fun c => !c.isEmpty

theorem normalClauses_eq (t : Text) : normalClauses t = kept (cutMarked t.marked) := by
  unfold normalClauses
  rw [splitClauses_eq_scan]
  rfl

theorem joinWords_cons_cons (w v : Word) (ws : List Word) :
    joinWords (w :: v :: ws) = w.letters ++ v.before ++ joinWords (v :: ws) := by
  simp [joinWords]

/-- A token that has a word is kept, and so is its clause. -/
theorem kept_cons {v : Word} (hv : v.letters ≠ []) (token : List Word) (tokens : List (List Word))
    (clauses : List (List (List Word))) :
    kept (((v :: token) :: tokens) :: clauses) =
      (joinWords (v :: token) :: (tokens.map joinWords).filter fun token => !token.isEmpty) :: kept clauses := by
  have hjoin : (joinWords (v :: token)).isEmpty = false := by simp [joinWords, hv]
  unfold kept
  rw [List.map_cons, List.map_cons, List.filter_cons, List.filter_cons, hjoin]
  rfl

section

variable {w v : Word} (hw : w.letters ≠ []) (hv : v.letters ≠ []) (ms : List (Role × Word))

include hw

theorem kept_ne_nil : ∃ x xs rest, kept (cutMarked ((.term, w) :: ms)) = (x :: xs) :: rest := by
  obtain ⟨token, tokens, clauses, h⟩ := cutMarked_cons_cons ms
  rw [cutMarked_term, h]
  exact ⟨_, _, _, kept_cons hw token tokens clauses⟩

/-- Nothing behind a word. -/
theorem kept_nil : kept (cutMarked [(.term, w)]) = [[w.letters]] := by
  have h := kept_cons hw [] [] []
  rw [cutMarked_term, cutMarked_nil]
  refine h.trans ?_
  rw [joinWords, spell_nil, List.append_nil]
  rfl

/-- A separator behind a word, and nothing behind that. -/
theorem kept_last {role : Role} (x : Word) (hrole : role ≠ .term) :
    kept (cutMarked [(.term, w), (role, x)]) = [[w.letters]] := by
  have h := kept_cons hw []
  rw [joinWords, spell_nil, List.append_nil] at h
  cases role with
  | term => exact absurd rfl hrole
  | and =>
    rw [cutMarked_term, cutMarked_and, cutMarked_nil]
    exact h [[]] []
  | or =>
    rw [cutMarked_term, cutMarked_or, cutMarked_nil]
    exact h [] [[[]]]

/-- Another clause. -/
theorem kept_or (x : Word) : kept (cutMarked ((.term, w) :: (.or, x) :: (.term, v) :: ms)) =
    [w.letters] :: kept (cutMarked ((.term, v) :: ms)) := by
  have h := kept_cons hw [] []
  rw [joinWords, spell_nil, List.append_nil] at h
  rw [cutMarked_term, cutMarked_or]
  exact h _

include hv

/-- Another word of the token. -/
theorem kept_term : kept (cutMarked ((.term, w) :: (.term, v) :: ms)) =
    inFront (w.letters ++ v.before) (kept (cutMarked ((.term, v) :: ms))) := by
  obtain ⟨token, tokens, clauses, h⟩ := cutMarked_cons_cons ms
  rw [cutMarked_term, cutMarked_term, h]
  show kept (((w :: v :: token) :: tokens) :: clauses) = inFront _ (kept (((v :: token) :: tokens) :: clauses))
  rw [kept_cons hw, kept_cons hv, joinWords_cons_cons]
  rfl

/-- Another token of the clause. -/
theorem kept_and (x : Word) : kept (cutMarked ((.term, w) :: (.and, x) :: (.term, v) :: ms)) =
    (kept (cutMarked ((.term, v) :: ms))).modifyHead (w.letters :: ·) := by
  obtain ⟨token, tokens, clauses, h⟩ := cutMarked_cons_cons ms
  have hjoin : (joinWords (v :: token)).isEmpty = false := by simp [joinWords, hv]
  rw [cutMarked_term, cutMarked_and, cutMarked_term, h]
  show kept (([w] :: (v :: token) :: tokens) :: clauses) =
    (kept (((v :: token) :: tokens) :: clauses)).modifyHead (w.letters :: ·)
  rw [kept_cons hw, kept_cons hv, joinWords, spell_nil, List.append_nil, List.map_cons, List.filter_cons, hjoin]
  rfl

end

/-- What stands in front of its first word is no part of a token. -/
theorem kept_before (w w' : Word) (ms : List (Role × Word)) (h : w.letters = w'.letters) :
    kept (cutMarked ((.term, w) :: ms)) = kept (cutMarked ((.term, w') :: ms)) := by
  obtain ⟨token, tokens, clauses, hms⟩ := cutMarked_cons_cons ms
  rw [cutMarked_term, cutMarked_term, hms]
  unfold kept
  simp only [List.modifyHead_cons, List.map_cons, joinWords, h]

/-- A separator in front of everything is dropped. -/
theorem kept_separator {role : Role} (x w : Word) (ms : List (Role × Word)) (hrole : role ≠ .term) :
    kept (cutMarked ((role, x) :: (.term, w) :: ms)) = kept (cutMarked ((.term, w) :: ms)) := by
  cases role with
  | term => exact absurd rfl hrole
  | and =>
    obtain ⟨token, tokens, clauses, h⟩ := cutMarked_cons_cons ms
    rw [cutMarked_and, cutMarked_term, h]
    rfl
  | or =>
    rw [cutMarked_or]
    rfl

/-- Words with letters. -/
def Lettered (ms : List (Role × Word)) : Prop := ∀ m ∈ ms, m.2.letters ≠ []

theorem Lettered.tail {m : Role × Word} {ms : List (Role × Word)} (h : Lettered (m :: ms)) : Lettered ms :=
  fun x hx => h x (List.mem_cons_of_mem m hx)

/-- **Written plainly, words have the same clauses.** -/
theorem kept_tidy {ms : List (Role × Word)} (hms : Trailing ms) (hletters : Lettered ms) {w : Word}
    (hw : w.letters ≠ []) : kept (cutMarked ((.term, w) :: tidy ms)) = kept (cutMarked ((.term, w) :: ms)) := by
  induction hms generalizing w with
  | nil => rfl
  | @term v ms _ ih =>
    have hv : v.letters ≠ [] := hletters _ List.mem_cons_self
    rw [tidy, kept_term hw hv, kept_term hw hv, ih hletters.tail hv]
  | last x hrole => rw [tidy_last x hrole, kept_last hw x hrole, kept_nil hw]
  | @separator role x v ms hrole _ ih =>
    have hv : v.letters ≠ [] := hletters (.term, v) (List.mem_cons_of_mem _ List.mem_cons_self)
    have hrest := ih hletters.tail.tail (w := ⟨[' '], v.letters⟩) hv
    -- the word behind the separator begins a token, so the blank in front of it is no part of one
    rw [kept_before ⟨[' '], v.letters⟩ v ms rfl] at hrest
    rw [tidy_separator x v ms hrole]
    cases role with
    | term => exact absurd rfl hrole
    | and =>
      have hplain := kept_and hw (v := ⟨[' '], v.letters⟩) hv (tidy ms) ⟨[' '], andWord⟩
      rw [kept_and hw hv, ← hrest]
      exact hplain
    | or =>
      have hplain := kept_or hw (v := ⟨[' '], v.letters⟩) (tidy ms) ⟨[' '], orWord⟩
      rw [kept_or hw ms, ← hrest]
      exact hplain

/-- A text in front of the first part stands in front of the whole. -/
theorem append_intercalate (s sep p : Text) (ps : List Text) :
    sep.intercalate ((s ++ p) :: ps) = s ++ sep.intercalate (p :: ps) := by
  cases ps with
  | nil => simp
  | cons q ps => simp [List.intercalate_cons_cons]

theorem writeClauses_inFront (s p : Text) (tokens : List Text) (clauses : List (List Text)) :
    writeClauses (inFront s ((p :: tokens) :: clauses)) = s ++ writeClauses ((p :: tokens) :: clauses) := by
  unfold writeClauses inFront
  rw [List.modifyHead_cons, List.modifyHead_cons, List.map_cons, List.map_cons, append_intercalate,
    append_intercalate]

/-- **Written as a query**, the clauses of a word and what follows it are that word and what follows it,
    written plainly. -/
theorem writeClauses_kept {ms : List (Role × Word)} (hms : Trailing ms) (hletters : Lettered ms) {w : Word}
    (hw : w.letters ≠ []) :
    writeClauses (kept (cutMarked ((.term, w) :: ms))) = w.letters ++ spell ((tidy ms).map Prod.snd) := by
  induction hms generalizing w with
  | nil =>
    rw [kept_nil hw]
    simp [writeClauses, tidy]
  | @term v ms _ ih =>
    have hv : v.letters ≠ [] := hletters _ List.mem_cons_self
    obtain ⟨x, xs, rest, hkept⟩ := kept_ne_nil hv ms
    have hrest := ih hletters.tail hv
    rw [hkept] at hrest
    rw [kept_term hw hv, hkept, writeClauses_inFront, hrest, tidy, List.map_cons, spell_cons]
    simp only [List.append_assoc]
  | last x hrole =>
    rw [kept_last hw x hrole, tidy_last x hrole]
    simp [writeClauses]
  | @separator role x v ms hrole _ ih =>
    have hv : v.letters ≠ [] := hletters (.term, v) (List.mem_cons_of_mem _ List.mem_cons_self)
    obtain ⟨y, ys, rest, hkept⟩ := kept_ne_nil hv ms
    have hrest := ih hletters.tail.tail hv
    have hspell : spell ((tidy ((role, x) :: (.term, v) :: ms)).map Prod.snd) =
        ' ' :: (role.keyword ++ ' ' :: (v.letters ++ spell ((tidy ms).map Prod.snd))) := by
      rw [tidy_separator x v ms hrole]
      simp [spell]
    rw [hkept] at hrest
    rw [hspell, ← hrest]
    cases role with
    | term => exact absurd rfl hrole
    | and =>
      rw [kept_and hw hv, hkept, List.modifyHead_cons]
      have hhead := append_intercalate (w.letters ++ " AND ".toList) " OR ".toList
        (" AND ".toList.intercalate (y :: ys)) (rest.map (" AND ".toList.intercalate ·))
      unfold writeClauses
      rw [List.map_cons, List.map_cons, List.intercalate_cons_cons, hhead]
      simp [Role.keyword, andWord]
    | or =>
      rw [kept_or hw, hkept]
      unfold writeClauses
      rw [List.map_cons, List.map_cons, List.intercalate_cons_cons]
      simp [Role.keyword, orWord]

/-! ## The main result -/

/-- **The clauses of a text with tokens** are those of a word and what follows it: nothing but a separator
    can stand in front of the first word of a token. -/
theorem normalClauses_cases (t : Text) :
    normalClauses t = [] ∨ ∃ l ws trail, Solid l ∧ Gapped ws ∧
      normalClauses t = kept (cutMarked ((.term, ⟨[], l⟩) :: markFrom trail .term ws)) := by
  have hapart := words_apart t
  rw [normalClauses_eq]
  unfold Text.marked
  cases hwords : t.words with
  | nil => exact .inl rfl
  | cons w ws =>
    rw [hwords] at hapart
    obtain ⟨hw, hws⟩ := hapart
    rcases markFrom_cases t.trail w ws with
      ⟨-, hmarks⟩ | ⟨role, hne, -, ⟨-, hmarks⟩ | ⟨v, vs, rfl, hmarks⟩⟩
    · exact .inr ⟨w.letters, ws, t.trail, hw.solid, hws, by rw [hmarks, kept_before w ⟨[], w.letters⟩ _ rfl]⟩
    · refine .inl ?_
      rw [hmarks]
      cases role with
      | term => exact absurd rfl hne
      | and => rfl
      | or => rfl
    · refine .inr ⟨v.letters, vs, t.trail, hws.head.1.solid, hws.tail, ?_⟩
      rw [hmarks, kept_separator w v _ hne, kept_before v ⟨[], v.letters⟩ _ rfl]

theorem lettered_markFrom {trail : Text} {ws : List Word} (hws : Gapped ws) :
    Lettered (markFrom trail .term ws) := by
  intro m hm
  have hmem : m.2 ∈ (markFrom trail .term ws).map Prod.snd := List.mem_map_of_mem hm
  rw [markFrom_map_snd] at hmem
  exact (hws m.2 hmem).1.solid.1

theorem blank_space : Blank [' '] := by decide

theorem keyword_valid {role : Role} (hrole : role ≠ .term) : Word.Valid ⟨[' '], role.keyword⟩ := by
  refine ⟨blank_space, ?_⟩
  cases role with
  | term => exact absurd rfl hrole
  | and => exact (by decide : Solid andWord)
  | or => exact (by decide : Solid orWord)

/-- Words written plainly have blanks in front of them. -/
theorem gapped_tidy {ms : List (Role × Word)} (hms : Trailing ms) (h : Gapped (ms.map Prod.snd)) :
    Gapped ((tidy ms).map Prod.snd) := by
  induction hms with
  | nil => exact gapped_nil
  | @term w ms _ ih =>
    intro x hx
    rcases List.mem_cons.mp hx with rfl | hx
    · exact h.head
    · exact ih h.tail x hx
  | last w hrole =>
    rw [tidy_last w hrole]
    exact gapped_nil
  | @separator role w v ms hrole _ ih =>
    rw [tidy_separator w v ms hrole]
    intro x hx
    rcases List.mem_cons.mp hx with rfl | hx
    · exact ⟨keyword_valid hrole, List.cons_ne_nil _ _⟩
    · rcases List.mem_cons.mp hx with rfl | hx
      · exact ⟨⟨blank_space, h.tail.head.1.solid⟩, List.cons_ne_nil _ _⟩
      · exact ih h.tail.tail x hx

theorem gapped_plainWords {trail : Text} {ws : List Word} (hws : Gapped ws) : Gapped (plainWords trail ws) :=
  gapped_tidy (trailing_markFrom trail ws) (by rw [markFrom_map_snd]; exact hws)

/-- A word that nothing stands in front of separates nothing. -/
theorem roleOf_front (trail l : Text) (ws : List Word) : roleOf trail .term (⟨[], l⟩ :: ws) = .term := by
  have hnot : ∀ k, mayPart k trail (⟨[], l⟩ :: ws) ≠ true := fun k hmay => (mayPart_cons.mp hmay).2.1 rfl
  cases h : roleOf trail .term (⟨[], l⟩ :: ws) with
  | term => rfl
  | or => exact absurd (roleOf_eq_or_iff.mp h).1 (hnot orWord)
  | and => exact absurd (roleOf_eq_and_iff.mp h).1 (hnot andWord)

/-- The roles of the words of a text written plainly. -/
theorem marked_plainWords {trail l : Text} {ws : List Word} (hl : Solid l) (hws : Gapped ws) :
    Text.marked (l ++ spell (plainWords trail ws)) =
      (.term, ⟨[], l⟩) :: tidy (markFrom trail .term ws) := by
  have hapart : Apart (⟨[], l⟩ :: plainWords trail ws) := ⟨⟨blank_nil, hl⟩, gapped_plainWords hws⟩
  have hwords := words_spell hapart blank_nil
  have htrail := trail_spell hapart blank_nil
  rw [List.append_nil, spell_cons, List.nil_append] at hwords htrail
  unfold Text.marked
  rw [hwords, htrail, markFrom, roleOf_front, markFrom_tidy trail hws]

/-- A clause without tokens makes no difference to a filter. -/
theorem ofTokens_filter [PatternLibrary] (limit : Nat) (clauses : List (List Text)) :
    Filter.ofTokens limit (clauses.filter fun c => !c.isEmpty) = Filter.ofTokens limit clauses := by
  unfold Filter.ofTokens Filter.ofJudged
  rw [clausesOf_judged, clausesOf_judged]
  have h : ((clauses.filter fun c => !c.isEmpty).map (termsOf limit)).filter (fun c => !c.isEmpty) =
      (clauses.map (termsOf limit)).filter fun c => !c.isEmpty := by
    rw [List.filter_map, List.filter_map, List.filter_filter]
    congr 1
    refine List.filter_congr fun c _ => ?_
    cases c with
    | nil => rfl
    | cons token tokens => simp
  rw [h]

/-- **Clauses have a normal form.** Written as a query again, the clauses of any text are the clauses of
    what is written, and the filter is the same. -/
theorem writeClauses_normalClauses [PatternLibrary] (t : Text) :
    normalClauses (writeClauses (normalClauses t)) = normalClauses t ∧
      ∀ limit, Filter.ofQuery limit (writeClauses (normalClauses t)) = Filter.ofQuery limit t := by
  have hnormal : normalClauses (writeClauses (normalClauses t)) = normalClauses t := by
    rcases normalClauses_cases t with hnone | ⟨l, ws, trail, hl, hws, hsome⟩
    · rw [hnone]
      decide
    · have hmarks := trailing_markFrom trail ws
      have hletters : Lettered (markFrom trail .term ws) := lettered_markFrom hws
      rw [hsome, writeClauses_kept hmarks hletters hl.1, normalClauses_eq]
      exact (congrArg (kept ∘ cutMarked) (marked_plainWords hl hws)).trans (kept_tidy hmarks hletters hl.1)
  refine ⟨hnormal, fun limit => ?_⟩
  have hfilter : ∀ s, Filter.ofQuery limit s = Filter.ofTokens limit (normalClauses s) := fun s =>
    (ofTokens_filter limit (splitClauses s)).symm
  rw [hfilter, hfilter, hnormal]

/-- Keywords at the ends, doubled, and with blanks of other kinds. -/
example :
    normalClauses " or a AND and b\tOR or x AND AND".toList =
      [["a".toList, "and b".toList], ["or x".toList, "AND".toList]] := by
  decide +kernel

end RankSieve
