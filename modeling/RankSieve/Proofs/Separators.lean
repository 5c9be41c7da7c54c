import RankSieve.Proofs.Words
import RankSieve.Query.Clauses

/-!
# `RankSieve.Proofs.Separators` — cutting a text at a word

`cutAtWord` looks for its separator at every character and passes over as many characters as the
separator takes. This file says once what that does to a text made of words: letters and blanks of the
piece at hand come to stand in front of the first piece (`cutAtWord_letters_append`,
`cutAtWord_plain`), and a separator ends it (`cutAtWord_separator`).

No separator can begin but at a blank, and it takes all blanks behind it too, so that the piece after it
begins with a letter.
-/

namespace RankSieve

/-! ## Keywords -/

/-- A text can serve as a separating word if it is not empty and has no blanks. -/
abbrev Keyword (k : Text) : Prop := Solid k

/-- Letters spell a keyword, given in capitals, if they are the same up to ASCII case. -/
def Spells (k letters : Text) : Prop := letters.map Char.toUpper = k

instance (k letters : Text) : Decidable (Spells k letters) :=
  inferInstanceAs (Decidable (letters.map Char.toUpper = k))

/-- A text that can follow a word: it begins with a blank, or it is empty. -/
def EndsWord (t : Text) : Prop := ∀ c ∈ t.head?, isBlank c = true

theorem endsWord_nil : EndsWord [] := fun _ h => absurd h (by simp)

/-- Blanks, and whatever follows them, end a word. -/
theorem endsWord_blank_append {b t : Text} (hb : Blank b) (hne : b ≠ []) : EndsWord (b ++ t) := by
  obtain ⟨c, b, rfl⟩ := List.exists_cons_of_ne_nil hne
  intro d hd
  rw [List.cons_append, List.head?_cons, Option.mem_some_iff] at hd
  subst hd
  exact hb c (by simp)

theorem Blank.endsWord {b : Text} (hb : Blank b) : EndsWord b :=
  fun c hc => hb c (List.mem_of_mem_head? hc)

/-- Words with a blank in front of each end the word before them. -/
theorem endsWord_spell_append {ws : List Word} {t : Text} (hws : Gapped ws) (ht : EndsWord t) :
    EndsWord (spell ws ++ t) := by
  cases ws with
  | nil => exact ht
  | cons w ws =>
      obtain ⟨hw, hne⟩ := hws.head
      rw [spell_cons, List.append_assoc, List.append_assoc]
      exact endsWord_blank_append hw.blank hne

/-- The ASCII letters, and what lies between them, are no blanks. -/
theorem isBlank_of_between {c : Char} (hlo : 65 ≤ c.toNat) (hhi : c.toNat ≤ 122) :
    isBlank c = false := by
  simp only [isBlank, Bool.or_eq_false_iff, Bool.and_eq_false_iff, decide_eq_false_iff_not,
    beq_eq_false_iff_ne]
  omega

/-- Capitals are blanks as little as small letters are. -/
theorem isBlank_toUpper (c : Char) : isBlank c.toUpper = isBlank c := by
  by_cases h : 97 ≤ c.toNat ∧ c.toNat ≤ 122
  · obtain ⟨hlo, hhi⟩ := h
    have hup : c.toUpper.toNat = c.toNat - 32 := by
      have hd : ('A'.val - 'a'.val).toNat = 4294967264 := by decide
      have hc : c.val.toNat = c.toNat := rfl
      unfold Char.toUpper
      rw [dif_pos ⟨hlo, hhi⟩]
      show (c.val + ('A'.val - 'a'.val)).toNat = c.toNat - 32
      rw [UInt32.toNat_add, hd]
      omega
    rw [isBlank_of_between (by omega) (by omega), isBlank_of_between (by omega) (by omega)]
  · exact congrArg isBlank (dif_neg h)

theorem Spells.solid {k letters : Text} (h : Spells k letters) (hk : Keyword k) : Solid letters := by
  subst h
  obtain ⟨hne, hall⟩ := hk
  refine ⟨by simpa using hne, fun c hc => ?_⟩
  rw [← isBlank_toUpper]
  exact hall _ (List.mem_map_of_mem hc)

theorem Spells.length_eq {k letters : Text} (h : Spells k letters) : k.length = letters.length := by
  rw [← h, List.length_map]

/-- What follows a word is found exactly where the text begins with the word. -/
theorem afterWord?_eq_some_iff {k t rest : Text} :
    afterWord? k t = some rest ↔ ∃ letters, t = letters ++ rest ∧ Spells k letters := by
  constructor
  · intro h
    induction k generalizing t with
    | nil => exact ⟨[], Option.some.inj h, rfl⟩
    | cons w ws ih =>
        cases t with
        | nil => exact absurd h (by simp [afterWord?])
        | cons c t =>
            rw [afterWord?] at h
            split at h
            · next hc =>
              obtain ⟨letters, rfl, hl⟩ := ih h
              exact ⟨c :: letters, rfl, by unfold Spells at *; rw [List.map_cons, hc, hl]⟩
            · exact absurd h (by simp)
  · rintro ⟨letters, rfl, h⟩
    unfold Spells at h
    subst h
    induction letters with
    | nil => rfl
    | cons c letters ih =>
        rw [List.map_cons, List.cons_append, afterWord?, if_pos rfl]
        exact ih

/-! ## Where separators begin -/

theorem separatorLength?_not_blank {k t : Text} {c : Char} (hc : isBlank c = false) :
    separatorLength? k (c :: t) = none := by
  unfold separatorLength?
  simp only [List.takeWhile_cons, hc, Bool.false_eq_true, if_false, List.isEmpty_nil, Bool.true_or,
    if_true]
  split <;> rfl

theorem separatorLength?_blank {k b : Text} (hk : Keyword k) (hb : Blank b) :
    separatorLength? k b = none := by
  unfold separatorLength?
  rw [dropWhile_blank hb]
  cases k with
  | nil => exact absurd rfl hk.1
  | cons w ws => rfl

/-- A word between blanks is a separator if its letters spell the keyword, and all blanks around it
    belong to the separator. -/
theorem separatorLength?_spells {k b l t : Text} (hk : Keyword k) (hb : Blank b) (hne : b ≠ [])
    (hl : Spells k l) (ht : EndsWord t) (htne : t ≠ []) :
    separatorLength? k (b ++ l ++ t) = some (b.length + l.length + (t.takeWhile isBlank).length) := by
  have hsolid := hl.solid hk
  have hafter : (t.takeWhile isBlank).isEmpty = false := by
    cases t with
    | nil => exact absurd rfl htne
    | cons c t => rw [List.takeWhile_cons_of_pos (ht c rfl)]; rfl
  have hword : afterWord? k (l ++ t) = some t := afterWord?_eq_some_iff.mpr ⟨l, rfl, hl⟩
  unfold separatorLength?
  rw [List.append_assoc, List.takeWhile_append_of_pos hb, List.dropWhile_append_of_pos hb,
    takeWhile_solid_append hsolid, dropWhile_solid_append hsolid, List.append_nil, hword]
  simp [hafter, hne, hl.length_eq]

/-- A word that spells something else begins no separator, and no more does a last word without a
    blank behind it. -/
theorem separatorLength?_plain {k b l t : Text} (hk : Keyword k) (hb : Blank b) (hl : Solid l)
    (ht : EndsWord t) (hplain : Spells k l → t = []) : separatorLength? k (b ++ l ++ t) = none := by
  unfold separatorLength?
  rw [List.append_assoc, List.takeWhile_append_of_pos hb, List.dropWhile_append_of_pos hb,
    takeWhile_solid_append hl, dropWhile_solid_append hl, List.append_nil]
  cases hword : afterWord? k (l ++ t) with
  | none => rfl
  | some rest =>
      have hrest : rest.takeWhile isBlank = [] := by
        obtain ⟨m, hm, hspells⟩ := afterWord?_eq_some_iff.mp hword
        rcases List.append_eq_append_iff.mp hm with ⟨x, rfl, rfl⟩ | ⟨x, rfl, rfl⟩
        · -- the keyword would go beyond the word, into the blank behind it
          cases x with
          | nil =>
              rw [List.append_nil] at hspells
              rw [List.nil_append] at hplain
              rw [hplain hspells]
              rfl
          | cons c x =>
              have h1 : isBlank c = true := ht c rfl
              have h2 : isBlank c = false := (hspells.solid hk).2 c (by simp)
              exact absurd (h1.symm.trans h2) (by simp)
        · -- the word goes on behind the keyword
          cases x with
          | nil =>
              rw [List.append_nil] at hplain
              rw [hplain hspells]
              rfl
          | cons c x =>
              exact List.takeWhile_cons_of_neg (by simp [hl.2 c (by simp)])
      simp [hrest]

/-! ## Pieces -/

theorem piecesFrom_ne_nil (k : Text) (n : Nat) (t : Text) : piecesFrom k n t ≠ [] := by
  fun_induction piecesFrom k n t with
  | case1 => simp
  | case2 _ _ _ ih => exact ih
  | case3 => simp
  | case4 c t _ ih => cases h : piecesFrom k 0 t <;> simp [consPiece]

theorem cutAtWord_ne_nil (k t : Text) : cutAtWord k t ≠ [] := piecesFrom_ne_nil k 0 t

/-- The characters owed to a separator are passed over. -/
theorem piecesFrom_eq_drop (k : Text) (n : Nat) (t : Text) :
    piecesFrom k n t = cutAtWord k (t.drop n) := by
  unfold cutAtWord
  induction n generalizing t with
  | zero => rfl
  | succ n ih =>
      cases t with
      | nil => rfl
      | cons c t => exact ih t

theorem cutAtWord_nil (k : Text) : cutAtWord k [] = [[]] := rfl

/-- A character with which no separator begins stands in the first piece. -/
theorem cutAtWord_cons {k t : Text} {c : Char} (h : separatorLength? k (c :: t) = none) :
    cutAtWord k (c :: t) = (cutAtWord k t).modifyHead (c :: ·) := by
  have hcons : consPiece c (cutAtWord k t) = (cutAtWord k t).modifyHead (c :: ·) := by
    cases hp : cutAtWord k t with
    | nil => exact absurd hp (cutAtWord_ne_nil k t)
    | cons p ps => rfl
  rw [← hcons]
  simp only [cutAtWord, piecesFrom, h]

/-- A separator leaves an empty piece in front of it. -/
theorem cutAtWord_of_separator {k t : Text} {n : Nat} (h : separatorLength? k t = some (n + 1))
    (ht : t ≠ []) : cutAtWord k t = [] :: cutAtWord k (t.drop (n + 1)) := by
  cases t with
  | nil => exact absurd rfl ht
  | cons c t =>
      rw [List.drop_succ_cons, ← piecesFrom_eq_drop]
      simp only [cutAtWord, piecesFrom, h]

/-- **Letters** stand in the first piece, whatever follows. -/
theorem cutAtWord_letters_append {k l t : Text} (hl : ∀ c ∈ l, isBlank c = false) :
    cutAtWord k (l ++ t) = (cutAtWord k t).modifyHead (l ++ ·) := by
  induction l with
  | nil => exact (congrFun List.modifyHead_id _).symm
  | cons c l ih =>
      have ih := ih fun d hd => hl d (List.mem_cons_of_mem c hd)
      rw [List.cons_append, cutAtWord_cons (separatorLength?_not_blank (hl c (by simp))), ih,
        List.modifyHead_modifyHead]
      rfl

/-- **A word that is no separator** stands in the first piece, with the blanks in front of it. -/
theorem cutAtWord_plain {k b l t : Text} (hk : Keyword k) (hb : Blank b) (hl : Solid l)
    (ht : EndsWord t) (hplain : Spells k l → t = []) :
    cutAtWord k (b ++ l ++ t) = (cutAtWord k t).modifyHead (b ++ l ++ ·) := by
  induction b with
  | nil => exact cutAtWord_letters_append hl.2
  | cons c b ih =>
      have ih := ih fun d hd => hb d (List.mem_cons_of_mem c hd)
      have hnone := separatorLength?_plain hk hb hl ht hplain
      rw [List.cons_append, List.cons_append] at hnone ⊢
      rw [cutAtWord_cons hnone, ih, List.modifyHead_modifyHead]
      rfl

/-- **Blanks at the end** of a text separate nothing. -/
theorem cutAtWord_blank {k b : Text} (hk : Keyword k) (hb : Blank b) : cutAtWord k b = [b] := by
  induction b with
  | nil => rfl
  | cons c b ih =>
      have ih := ih fun d hd => hb d (List.mem_cons_of_mem c hd)
      rw [cutAtWord_cons (separatorLength?_blank hk hb), ih]
      rfl

/-- **A separator** ends a piece. The next one begins behind all its blanks. -/
theorem cutAtWord_separator {k b l t : Text} (hk : Keyword k) (hb : Blank b) (hne : b ≠ [])
    (hl : Spells k l) (ht : EndsWord t) (htne : t ≠ []) :
    cutAtWord k (b ++ l ++ t) = [] :: cutAtWord k (t.dropWhile isBlank) := by
  have hlen := separatorLength?_spells hk hb hne hl ht htne
  have hpos : 0 < b.length := List.length_pos_iff.mpr hne
  obtain ⟨n, hn⟩ : ∃ n, b.length + l.length + (t.takeWhile isBlank).length = n + 1 :=
    ⟨b.length + l.length + (t.takeWhile isBlank).length - 1, by omega⟩
  -- what is passed over ends where the blanks behind the word end
  have hdrop : (b ++ l ++ t).drop (n + 1) = t.dropWhile isBlank := by
    have hsplit : b ++ l ++ t = (b ++ l ++ t.takeWhile isBlank) ++ t.dropWhile isBlank := by
      rw [List.append_assoc (b ++ l), List.takeWhile_append_dropWhile]
    rw [hsplit]
    exact List.drop_left' (by simp only [List.length_append]; omega)
  rw [hn] at hlen
  rw [cutAtWord_of_separator hlen (by simp [hne]), hdrop]

/-- **Words of which none is the keyword** all stand in the first piece. -/
theorem cutAtWord_spell_append {k t : Text} {ws : List Word} (hk : Keyword k) (hws : Apart ws)
    (hplain : ∀ w ∈ ws, ¬Spells k w.letters) (ht : EndsWord t) :
    cutAtWord k (spell ws ++ t) = (cutAtWord k t).modifyHead (spell ws ++ ·) := by
  induction ws with
  | nil => exact (congrFun List.modifyHead_id _).symm
  | cons w ws ih =>
      obtain ⟨hw, hws⟩ := hws
      have ih := ih hws.apart fun v hv => hplain v (List.mem_cons_of_mem w hv)
      have hspells : ¬Spells k w.letters := hplain w (by simp)
      rw [spell_cons, List.append_assoc,
        cutAtWord_plain hk hw.blank hw.solid (endsWord_spell_append hws ht) fun h => absurd h hspells,
        ih, List.modifyHead_modifyHead]
      congr 1
      funext x
      exact (List.append_assoc _ _ _).symm

end RankSieve
