import RankSieve.Text.Blank

/-!
# `RankSieve.Proofs.Words` — a text as words between blanks

Every text is, in one way only, a row of words, each with the blanks in front of it, and the blanks
that it ends with. What cuts or trims a text can be told through its words alone.

## Contents
- **Words.** `Text.words` and `Text.trail` take a text apart, `spell` puts words together again
  (`spell_words`).
- **Validity.** `Word.Valid` says what a word is, `Gapped` that each of some words has a blank in
  front of it; `words_spell` is uniqueness.
- **Trimming.** `trimEnd_eq` and `trim_eq` give the trimmed texts from the words, `trim_around` and
  `trim_between` those of one word and of two.
-/

namespace RankSieve

/-! ## Words -/

/-- A word of a text: a longest piece without blanks. -/
structure Word where
  /-- The blanks directly in front of the word. -/
  before  : Text
  letters : Text
  deriving DecidableEq, Repr

/-- The words of a text. A character belongs to the word that begins directly behind it, if any. -/
def Text.words : Text → List Word
  | []     => []
  | c :: t =>
    if isBlank c then (Text.words t).modifyHead fun w => { w with before := c :: w.before }
    else
      match Text.words t with
      | ⟨[], letters⟩ :: ws => ⟨[], c :: letters⟩ :: ws
      | ws                  => ⟨[], [c]⟩ :: ws

/-- The blanks that a text ends with. -/
def Text.trail (t : Text) : Text := (t.reverse.takeWhile isBlank).reverse

/-- Words with their blanks, one behind the other. -/
def spell (ws : List Word) : Text := ws.flatMap fun w => w.before ++ w.letters

/-- The text from the first character to the last character of some words. -/
def joinWords : List Word → Text
  | []      => []
  | w :: ws => w.letters ++ spell ws

/-- The words without the blanks around them. -/
def Text.bareWords (t : Text) : List Text := t.words.map Word.letters

@[simp] theorem spell_nil : spell [] = [] := rfl

@[simp] theorem spell_cons (w : Word) (ws : List Word) :
    spell (w :: ws) = w.before ++ w.letters ++ spell ws := rfl

/-! ## Validity -/

/-- A text of blanks only. -/
def Blank (t : Text) : Prop := ∀ c ∈ t, isBlank c = true

instance (t : Text) : Decidable (Blank t) := decidable_of_iff (t.all isBlank = true) List.all_eq_true

/-- A text of one character or more and without blanks. -/
def Solid (t : Text) : Prop := t ≠ [] ∧ ∀ c ∈ t, isBlank c = false

instance (t : Text) : Decidable (Solid t) :=
  decidable_of_iff (t ≠ [] ∧ (t.all fun c => !isBlank c) = true) (by simp [Solid])

/-- Blanks and then letters. -/
structure Word.Valid (w : Word) : Prop where
  blank : Blank w.before
  solid : Solid w.letters

/-- Words of which each has a blank in front of it. -/
def Gapped (ws : List Word) : Prop := ∀ w ∈ ws, w.Valid ∧ w.before ≠ []

/-- Words that can stand in a text in this order: only the first may be without a blank in front. -/
def Apart : List Word → Prop
  | []      => True
  | w :: ws => w.Valid ∧ Gapped ws

theorem blank_nil : Blank [] := fun _ h => absurd h (by simp)

theorem Blank.cons {c : Char} {t : Text} (hc : isBlank c = true) (ht : Blank t) :
    Blank (c :: t) := by
  intro d hd
  rcases List.mem_cons.mp hd with rfl | hd
  · exact hc
  · exact ht d hd

theorem Solid.cons {c : Char} {t : Text} (hc : isBlank c = false) (ht : ∀ d ∈ t, isBlank d = false) :
    Solid (c :: t) := by
  refine ⟨by simp, fun d hd => ?_⟩
  rcases List.mem_cons.mp hd with rfl | hd
  · exact hc
  · exact ht d hd

theorem Solid.append {l m : Text} (hl : Solid l) (hm : Solid m) : Solid (l ++ m) := by
  refine ⟨List.append_ne_nil_of_left_ne_nil hl.1 m, fun c hc => ?_⟩
  rcases List.mem_append.mp hc with hc | hc
  · exact hl.2 c hc
  · exact hm.2 c hc

theorem Solid.reverse {t : Text} (ht : Solid t) : Solid t.reverse :=
  ⟨by simpa using ht.1, fun c hc => ht.2 c (List.mem_reverse.mp hc)⟩

theorem gapped_nil : Gapped [] := fun _ h => absurd h (by simp)

theorem Gapped.head {w : Word} {ws : List Word} (h : Gapped (w :: ws)) :
    w.Valid ∧ w.before ≠ [] := h w (by simp)

theorem Gapped.tail {w : Word} {ws : List Word} (h : Gapped (w :: ws)) : Gapped ws :=
  fun v hv => h v (List.mem_cons_of_mem w hv)

theorem Gapped.apart {ws : List Word} (h : Gapped ws) : Apart ws := by
  cases ws with
  | nil => exact True.intro
  | cons w ws => exact ⟨h.head.1, h.tail⟩

theorem isBlankText_iff {t : Text} : t.isBlankText = true ↔ Blank t := by
  unfold Text.isBlankText Blank
  exact List.all_eq_true

/-! ## Where blanks end -/

theorem dropWhile_solid_append {l t : Text} (hl : Solid l) : (l ++ t).dropWhile isBlank = l ++ t := by
  obtain ⟨hne, hl⟩ := hl
  cases l with
  | nil => exact absurd rfl hne
  | cons c l => exact List.dropWhile_cons_of_neg (by simp [hl c])

theorem takeWhile_solid_append {l t : Text} (hl : Solid l) : (l ++ t).takeWhile isBlank = [] := by
  obtain ⟨hne, hl⟩ := hl
  cases l with
  | nil => exact absurd rfl hne
  | cons c l => exact List.takeWhile_cons_of_neg (by simp [hl c])

theorem dropWhile_blank {b : Text} (hb : Blank b) : b.dropWhile isBlank = [] := by
  have h : (b ++ []).dropWhile isBlank = [] := List.dropWhile_append_of_pos hb
  rwa [List.append_nil] at h

/-- Words end with letters. -/
theorem spell_ends_solid {w : Word} {ws : List Word} (h : Apart (w :: ws)) :
    ∃ t l, spell (w :: ws) = t ++ l ∧ Solid l := by
  induction ws generalizing w with
  | nil => exact ⟨w.before, w.letters, by simp, h.1.solid⟩
  | cons v vs ih =>
      obtain ⟨t, l, ht, hl⟩ := ih (Gapped.apart h.2)
      exact ⟨w.before ++ w.letters ++ t, l, by rw [spell_cons, ht, List.append_assoc _ t l], hl⟩

/-! ## Taking apart and putting together -/

/-- A piece without blanks in front of a text whose words all have a blank in front of them is a word
    of its own. -/
theorem words_solid_append {l t : Text} (hl : Solid l) (ht : Gapped (Text.words t)) :
    Text.words (l ++ t) = ⟨[], l⟩ :: Text.words t := by
  obtain ⟨hne, hl⟩ := hl
  induction l with
  | nil => exact absurd rfl hne
  | cons c l ih =>
      have hc : isBlank c = false := hl c (by simp)
      cases l with
      | nil =>
          -- the last letter: it would join the next word if that had no blank in front
          cases h : Text.words t with
          | nil => simp [Text.words, hc, h]
          | cons w ws =>
              rw [h] at ht
              obtain ⟨before, letters⟩ := w
              cases before with
              | nil => exact absurd rfl ht.head.2
              | cons b bs => simp [Text.words, hc, h]
      | cons d l =>
          have ih := ih (by simp) fun e he => hl e (List.mem_cons_of_mem c he)
          rw [List.cons_append, Text.words, ih]
          simp [hc]

/-- Blanks in front of a text go to its first word. -/
theorem words_blank_append {b t : Text} (hb : Blank b) :
    Text.words (b ++ t) = (Text.words t).modifyHead fun w => { w with before := b ++ w.before } := by
  induction b with
  | nil => cases h : Text.words t <;> simp [h]
  | cons c b ih =>
      have hc : isBlank c = true := hb c (by simp)
      have ih := ih fun d hd => hb d (List.mem_cons_of_mem c hd)
      rw [List.cons_append, Text.words, if_pos hc, ih, List.modifyHead_modifyHead]
      rfl

/-- No text but the one that some words spell, up to blanks at its end, has these words. -/
theorem words_spell {ws : List Word} {b : Text} (hws : Apart ws) (hb : Blank b) :
    Text.words (spell ws ++ b) = ws := by
  induction ws with
  | nil =>
      have h := words_blank_append (t := []) hb
      simpa [Text.words] using h
  | cons w ws ih =>
      obtain ⟨hw, hws⟩ := hws
      have ih := ih hws.apart
      have hl : Text.words (w.letters ++ (spell ws ++ b)) = ⟨[], w.letters⟩ :: ws := by
        rw [words_solid_append hw.solid (by rw [ih]; exact hws), ih]
      rw [spell_cons, List.append_assoc, List.append_assoc, words_blank_append hw.blank, hl]
      simp

theorem trail_spell {ws : List Word} {b : Text} (hws : Apart ws) (hb : Blank b) :
    Text.trail (spell ws ++ b) = b := by
  have hr : Blank b.reverse := fun c hc => hb c (List.mem_reverse.mp hc)
  unfold Text.trail
  rw [List.reverse_append, List.takeWhile_append_of_pos hr]
  cases ws with
  | nil => simp
  | cons w ws =>
      obtain ⟨t, l, ht, hl⟩ := spell_ends_solid hws
      rw [ht, show (t ++ l).reverse = l.reverse ++ t.reverse from List.reverse_append,
        takeWhile_solid_append hl.reverse]
      simp

/-- Every text is some words and blanks behind them. -/
theorem exists_spelling (t : Text) : ∃ ws b, t = spell ws ++ b ∧ Apart ws ∧ Blank b := by
  induction t with
  | nil => exact ⟨[], [], rfl, True.intro, blank_nil⟩
  | cons c t ih =>
      obtain ⟨ws, b, rfl, hws, hb⟩ := ih
      cases hc : isBlank c with
      | true =>
          cases ws with
          | nil => exact ⟨[], c :: b, rfl, True.intro, hb.cons hc⟩
          | cons w ws =>
              exact ⟨⟨c :: w.before, w.letters⟩ :: ws, b, rfl,
                ⟨⟨hws.1.blank.cons hc, hws.1.solid⟩, hws.2⟩, hb⟩
      | false =>
          -- the character joins the first word exactly where nothing stands in front of that
          have alone : Solid [c] := Solid.cons hc (by simp)
          rcases ws with _ | ⟨⟨_ | ⟨d, before⟩, letters⟩, ws⟩
          · exact ⟨[⟨[], [c]⟩], b, rfl, ⟨⟨blank_nil, alone⟩, gapped_nil⟩, hb⟩
          · exact ⟨⟨[], c :: letters⟩ :: ws, b, rfl,
              ⟨⟨blank_nil, Solid.cons hc hws.1.solid.2⟩, hws.2⟩, hb⟩
          · refine ⟨⟨[], [c]⟩ :: ⟨d :: before, letters⟩ :: ws, b, rfl, ⟨⟨blank_nil, alone⟩, ?_⟩, hb⟩
            intro w hw
            rcases List.mem_cons.mp hw with rfl | hw
            · exact ⟨hws.1, by simp⟩
            · exact hws.2 w hw

/-- **A text is its words and its trail.** -/
theorem spell_words (t : Text) : spell t.words ++ t.trail = t := by
  obtain ⟨ws, b, rfl, hws, hb⟩ := exists_spelling t
  rw [words_spell hws hb, trail_spell hws hb]

theorem words_apart (t : Text) : Apart t.words := by
  obtain ⟨ws, b, rfl, hws, hb⟩ := exists_spelling t
  rw [words_spell hws hb]
  exact hws

theorem trail_blank (t : Text) : Blank t.trail := by
  obtain ⟨ws, b, rfl, hws, hb⟩ := exists_spelling t
  rw [trail_spell hws hb]
  exact hb

/-! ## Trimming -/

/-- Without the blanks at its end a text is its words. -/
theorem trimEnd_spell {ws : List Word} {b : Text} (hws : Apart ws) (hb : Blank b) :
    Text.trimEnd (spell ws ++ b) = spell ws := by
  have hr : Blank b.reverse := fun c hc => hb c (List.mem_reverse.mp hc)
  unfold Text.trimEnd
  rw [List.reverse_append, List.dropWhile_append_of_pos hr]
  cases ws with
  | nil => rfl
  | cons w ws =>
      obtain ⟨t, l, ht, hl⟩ := spell_ends_solid hws
      rw [ht, List.reverse_append, dropWhile_solid_append hl.reverse, ← List.reverse_append,
        List.reverse_reverse]

theorem trimEnd_blank {b : Text} (hb : Blank b) : Text.trimEnd b = [] := by
  have h : Text.trimEnd (spell [] ++ b) = spell [] := trimEnd_spell True.intro hb
  exact h

/-- Trimmed, a text goes from the first to the last character of its words. -/
theorem trim_spell {ws : List Word} {b : Text} (hws : Apart ws) (hb : Blank b) :
    Text.trim (spell ws ++ b) = joinWords ws := by
  unfold Text.trim Text.trimStart
  cases ws with
  | nil => rw [spell_nil, List.nil_append, dropWhile_blank hb]; rfl
  | cons w ws =>
      have h : spell (w :: ws) ++ b = w.before ++ (w.letters ++ (spell ws ++ b)) := by simp
      rw [h, List.dropWhile_append_of_pos hws.1.blank, dropWhile_solid_append hws.1.solid]
      have hbare : Apart (⟨[], w.letters⟩ :: ws) := ⟨⟨blank_nil, hws.1.solid⟩, hws.2⟩
      have h := trimEnd_spell hbare hb
      rw [spell_cons, List.nil_append, List.append_assoc] at h
      exact h

/-- Around a single word the blanks are taken off. -/
theorem trim_around {b l b' : Text} (hb : Blank b) (hl : Solid l) (hb' : Blank b') :
    Text.trim (b ++ (l ++ b')) = l := by
  have hword : Apart [⟨b, l⟩] := ⟨⟨hb, hl⟩, gapped_nil⟩
  have h := trim_spell hword hb'
  simpa [joinWords] using h

/-- Around two words too, which may even touch; the blanks between them stay. -/
theorem trim_between {b l m l' b' : Text} (hb : Blank b) (hl : Solid l) (hm : Blank m) (hl' : Solid l')
    (hb' : Blank b') : Text.trim (b ++ (l ++ (m ++ (l' ++ b')))) = l ++ (m ++ l') := by
  by_cases htouch : m = []
  · subst htouch
    have h := trim_around hb (hl.append hl') hb'
    rwa [List.append_assoc] at h
  · have hsecond : Gapped [⟨m, l'⟩] := by
      intro w hw
      obtain rfl := List.mem_singleton.mp hw
      exact ⟨⟨hm, hl'⟩, htouch⟩
    have hwords : Apart [⟨b, l⟩, ⟨m, l'⟩] := ⟨⟨hb, hl⟩, hsecond⟩
    have h := trim_spell hwords hb'
    simpa [joinWords] using h

theorem trim_eq (t : Text) : t.trim = joinWords t.words := by
  have h := trim_spell (words_apart t) (trail_blank t)
  rwa [spell_words] at h

theorem trimEnd_eq (t : Text) : t.trimEnd = spell t.words := by
  have h := trimEnd_spell (words_apart t) (trail_blank t)
  rwa [spell_words] at h

end RankSieve
