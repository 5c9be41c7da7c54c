import Mathlib.Data.List.TakeWhile
import RankSieve.Proofs.NumeralGrammar
import RankSieve.Proofs.QuickConditions
import RankSieve.Proofs.TokenPlaces

/-!
# `RankSieve.Proofs.KeySpellings` — one field, many spellings

A field may have more than one key, and a key may be written in letters of any case. Whichever spelling is
chosen, the query keeps its rows: the key is gone before the value is looked at, so the term is the same, or
there is none whichever spelling was used.

The text is another one, though, and has to be cut in the same places. For this the spelling must have no blank
and no colon, and must not be a keyword itself. That is so of the keys, and it carries over to what has one as
its lower-case form, since blanks and colons are their own lower-case forms. Of letters this would be wrong: the
Kelvin sign is one way to end `rank`.

## Contents
- **Letter case.** `mem_lower` for the characters that have no case, `Spells.lower_eq` for keywords.
- **Spellings.** `Field.SpelledBy` and what a spelling is like.
- **Terms.** `Term.toOption_compile_respelled`: the term hangs on field and value. `ofTokens_congr`: the filter hangs
  on the terms.
- **The main result.** `ofQuery_respelled`.
-/

namespace RankSieve

/-! ## Letter case -/

/-- Blanks have no case. -/
theorem lowerChar_blank {c : Char} (hc : isBlank c = true) : lowerChar c = [c] := by
  have hall : ∀ n ∈ [9, 10, 11, 12, 13, 0x20, 0x85, 0xA0, 0x1680, 0x2000, 0x2001, 0x2002, 0x2003, 0x2004, 0x2005,
      0x2006, 0x2007, 0x2008, 0x2009, 0x200A, 0x2028, 0x2029, 0x202F, 0x205F, 0x3000],
      lowerChar (Char.ofNat n) = [Char.ofNat n] := by decide +kernel
  have hmem := hall c.toNat (by
    simp only [isBlank, Bool.or_eq_true, Bool.and_eq_true, decide_eq_true_eq, beq_iff_eq] at hc
    simp only [List.mem_cons, List.not_mem_nil, or_false]
    omega)
  rwa [Char.ofNat_toNat] at hmem

theorem mem_lowerFrom {c : Char} (hfixed : lowerChar c = [c]) (hsigma : c ≠ 'Σ') {before t : Text} (hc : c ∈ t) :
    c ∈ lowerFrom before t := by
  induction t generalizing before with
  | nil => cases hc
  | cons d t ih =>
    rw [lowerFrom]
    rcases List.mem_cons.mp hc with rfl | hc
    · apply List.mem_append_left
      rw [if_neg hsigma, hfixed]
      exact List.mem_singleton_self c
    · apply List.mem_append_right
      exact ih hc

/-- **A character without case** is still there in lower case. -/
theorem mem_lower {c : Char} {t : Text} (hfixed : lowerChar c = [c]) (hsigma : c ≠ 'Σ') (hc : c ∈ t) : c ∈ lower t :=
  mem_lowerFrom hfixed hsigma hc

/-- What becomes an ASCII character in capitals is one, and in lower case too. -/
theorem lowerChar_of_toUpper {c : Char} (hc : c.toUpper.toNat < 128) :
    lowerChar c = [c.toUpper.toLower] ∧ c ≠ 'Σ' := by
  have hall : ∀ n < 128, lowerChar (Char.ofNat n) = [(Char.ofNat n).toUpper.toLower] := by decide +kernel
  have hascii : c.toNat < 128 := by
    by_cases h : 97 ≤ c.toNat ∧ c.toNat ≤ 122
    · omega
    · have hsame : c.toUpper = c := dif_neg h
      rwa [hsame] at hc
  have hlower := hall c.toNat hascii
  rw [Char.ofNat_toNat] at hlower
  refine ⟨hlower, ?_⟩
  rintro rfl
  exact absurd hascii (by decide)

/-- Letters that spell an ASCII word spell it in lower case too. -/
theorem lowerFrom_of_spells {letters before : Text} (h : ∀ c ∈ letters, c.toUpper.toNat < 128) :
    lowerFrom before letters = (letters.map Char.toUpper).map Char.toLower := by
  induction letters generalizing before with
  | nil => rfl
  | cons c letters ih =>
    obtain ⟨hlower, hsigma⟩ := lowerChar_of_toUpper (h c List.mem_cons_self)
    rw [lowerFrom, if_neg hsigma, hlower, ih fun d hd => h d (List.mem_cons_of_mem c hd)]
    rfl

theorem Spells.lower_eq {k letters : Text} (h : Spells k letters) (hk : ∀ c ∈ k, c.toNat < 128) :
    lower letters = k.map Char.toLower := by
  rw [← h]
  apply lowerFrom_of_spells
  intro c hc
  apply hk
  rw [← h]
  exact List.mem_map_of_mem hc

/-! ## Spellings -/

namespace Field

/-- A text spells a field if it is a key of the field, up to case. -/
def SpelledBy (f : Field) (key : Text) : Prop := ofKey? (lower key) = some f

instance (f : Field) (key : Text) : Decidable (f.SpelledBy key) := inferInstanceAs (Decidable (_ = _))

/-- A key is a word without a colon, and no keyword in lower case. -/
theorem key_of_ofKey? {f : Field} {key : Text} (h : ofKey? key = some f) :
    Solid key ∧ ':' ∉ key ∧ key ≠ andWord.map Char.toLower ∧ key ≠ orWord.map Char.toLower := by
  have hkeys : ∀ entry ∈ keys, Solid entry.1.toList ∧ ':' ∉ entry.1.toList ∧
      entry.1.toList ≠ andWord.map Char.toLower ∧ entry.1.toList ≠ orWord.map Char.toLower := by decide +kernel
  obtain ⟨entry, hfind, -⟩ := Option.map_eq_some_iff.mp h
  have hkey := List.find?_some hfind
  rw [beq_iff_eq] at hkey
  rw [← hkey]
  exact hkeys entry (List.mem_of_find?_eq_some hfind)

namespace SpelledBy

variable {f : Field} {key : Text}

theorem solid (h : f.SpelledBy key) : Solid key := by
  obtain ⟨⟨hne, hletters⟩, -⟩ := key_of_ofKey? h
  constructor
  · rintro rfl
    exact hne rfl
  · intro c hc
    rw [Bool.eq_false_iff]
    intro hblank
    have hsigma : c ≠ 'Σ' := by
      rintro rfl
      exact absurd hblank (by decide)
    have hlower := hletters c (mem_lower (lowerChar_blank hblank) hsigma hc)
    rw [hblank] at hlower
    cases hlower

theorem no_colon (h : f.SpelledBy key) : ':' ∉ key := by
  obtain ⟨-, hcolon, -⟩ := key_of_ofKey? h
  intro hmem
  exact hcolon (mem_lower (by decide +kernel) (by decide) hmem)

theorem not_and (h : f.SpelledBy key) : ¬Spells andWord key := by
  obtain ⟨-, -, hand, -⟩ := key_of_ofKey? h
  intro hspells
  exact hand (hspells.lower_eq (by simp [andWord]))

theorem not_or (h : f.SpelledBy key) : ¬Spells orWord key := by
  obtain ⟨-, -, -, hor⟩ := key_of_ofKey? h
  intro hspells
  exact hor (hspells.lower_eq (by simp [orWord]))

/-- **A spelling begins a plain word**, by itself or with a colon and more letters behind it. -/
theorem plainWord (h : f.SpelledBy key) {rest : Text} (hletters : ∀ c ∈ rest, isBlank c = false)
    (hrest : rest = [] ∨ ':' ∈ rest) : PlainWord (key ++ rest) := by
  have hsolid : Solid (key ++ rest) := by
    refine ⟨List.append_ne_nil_of_left_ne_nil h.solid.1 rest, ?_⟩
    intro c hc
    rcases List.mem_append.mp hc with hc | hc
    · exact h.solid.2 c hc
    · exact hletters c hc
  rcases hrest with rfl | hcolon
  · rw [List.append_nil]
    exact ⟨h.solid, h.not_and, h.not_or⟩
  · have hmem : ':' ∈ key ++ rest := List.mem_append_right key hcolon
    exact ⟨hsolid, not_spells_of_colon (by decide) hmem, not_spells_of_colon (by decide) hmem⟩

/-- The Kelvin sign is a capital letter of this key. -/
example : Field.rank.SpelledBy ['R', 'a', 'n', '\u212A'] := by decide +kernel

end SpelledBy

end Field

/-! ## Terms -/

section

variable [PatternLibrary]

/-- **The term of a value behind a key** hangs on the field and the value. Without a value there is none. -/
theorem Term.toOption_compile_keyed (limit : Nat) {part value : Text} {f : Field} (hpart : ':' ∉ part)
    (hkey : f.SpelledBy part.trim) :
    (Term.compile limit (part ++ ':' :: value)).toOption =
      if value.isBlankText then none else (Term.compileField limit f value.trim).toOption := by
  by_cases hvalue : value.isBlankText = true
  · rw [if_pos hvalue, Term.compile, cutAt_colon hpart]
    simp only [hvalue, if_true]
    rfl
  · rw [if_neg hvalue, Term.compile_keyed_trim part hpart hkey (mt isBlankText_iff.mpr hvalue)]

/-- **A respelled key** makes no difference to the term, and neither do the blanks behind it. -/
theorem Term.toOption_compile_respelled (limit : Nat) {part key gap value : Text} {f : Field} (hpart : ':' ∉ part)
    (hkey : f.SpelledBy part.trim) (hspelled : f.SpelledBy key) (hgap : Blank gap) :
    (Term.compile limit (key ++ gap ++ ':' :: value)).toOption =
      (Term.compile limit (part ++ ':' :: value)).toOption := by
  have hcolon : ':' ∉ key ++ gap := by
    intro hmem
    rcases List.mem_append.mp hmem with hmem | hmem
    · exact hspelled.no_colon hmem
    · exact absurd (hgap ':' hmem) (by decide)
  have htrim : Text.trim (key ++ gap) = key := trim_around blank_nil hspelled.solid hgap
  rw [Term.toOption_compile_keyed limit hcolon (htrim.symm ▸ hspelled), Term.toOption_compile_keyed limit hpart hkey]

/-- The filter of clauses hangs on their terms. -/
theorem ofTokens_congr {limit : Nat} {clauses clauses' : List (List Text)}
    (h : clauses.map (termsOf limit) = clauses'.map (termsOf limit)) :
    Filter.ofTokens limit clauses = Filter.ofTokens limit clauses' := by
  unfold Filter.ofTokens Filter.ofJudged
  rw [clausesOf_judged, clausesOf_judged, h]

/-- A token may be replaced by another one with the same term. -/
theorem termsOf_congr {limit : Nat} {token token' : Text}
    (h : (Term.compile limit token).toOption = (Term.compile limit token').toOption) (left right : List Text) :
    termsOf limit (left ++ token :: right) = termsOf limit (left ++ token' :: right) := by
  unfold termsOf
  rw [List.filterMap_append, List.filterMap_append, List.filterMap_cons, List.filterMap_cons, h]

end

/-! ## The main result -/

/-- In a token nothing stands in front of the key. -/
theorem exists_gap {part value : Text}
    (hstart : Text.trimStart (part ++ ':' :: value) = part ++ ':' :: value) :
    ∃ gap, part = part.trim ++ gap ∧ Blank gap := by
  obtain ⟨b, gap, hb, hgap, hpart⟩ := exists_around_trim part
  have hnil : b = [] := by
    cases b with
    | nil => rfl
    | cons c b =>
      -- trimming takes the blank away
      rw [hpart] at hstart
      have hlength := congrArg List.length hstart
      have hdrop : ((b ++ (part.trim ++ gap) ++ ':' :: value).dropWhile isBlank).length ≤
          (b ++ (part.trim ++ gap) ++ ':' :: value).length := (List.dropWhile_sublist isBlank).length_le
      have hc : isBlank c = true := hb c List.mem_cons_self
      unfold Text.trimStart at hlength
      rw [List.cons_append, List.cons_append, List.dropWhile_cons_of_pos hc, List.length_cons] at hlength
      omega
  rw [hnil, List.nil_append] at hpart
  exact ⟨gap, hpart, hgap⟩

/-- What stands behind the key of a token up to the next blank. It belongs to the word of the key. -/
theorem behind_key {gap : Text} (hgap : Blank gap) (value : Text) :
    ∃ rest tail, gap ++ ':' :: value = rest ++ tail ∧ (∀ c ∈ rest, isBlank c = false) ∧ (rest = [] ∨ ':' ∈ rest) ∧
      EndsWord tail := by
  cases gap with
  | nil =>
    refine ⟨':' :: value.takeWhile fun c => !isBlank c, value.dropWhile fun c => !isBlank c, ?_, ?_, ?_, ?_⟩
    · simp
    · intro c hc
      rcases List.mem_cons.mp hc with rfl | hc
      · decide
      · simpa using List.mem_takeWhile_imp hc
    · right
      simp
    · intro c hc
      have hdrop := List.head?_dropWhile_not (fun c => !isBlank c) value
      rw [Option.mem_def.mp hc] at hdrop
      simpa using hdrop
  | cons b gap =>
    refine ⟨[], b :: gap ++ ':' :: value, rfl, nofun, .inl rfl, ?_⟩
    exact endsWord_blank_append hgap (List.cons_ne_nil b gap)

/-- **A key may be respelled in its place.** The token has a place in the text, and the key, without the blanks
    behind it, may be replaced there by any other spelling of its field. The text is then cut as before, with
    that token respelled, and its filter is the same filter, which keeps the same rows. -/
theorem ofQuery_respelled [PatternLibrary] {t part value : Text} {f : Field} {front back : List (List Text)}
    {left right : List Text} (hsplit : splitClauses t = front ++ (left ++ (part ++ ':' :: value) :: right) :: back)
    (hpart : ':' ∉ part) (hkey : f.SpelledBy part.trim) :
    ∃ before gap after, TokenAt front left (part ++ ':' :: value) right back before after t ∧
      part = part.trim ++ gap ∧ Blank gap ∧
      ∀ key, f.SpelledBy key →
        splitClauses (before ++ (key ++ gap ++ ':' :: value) ++ after) =
            front ++ (left ++ (key ++ gap ++ ':' :: value) :: right) :: back ∧
          ∀ limit, Filter.ofQuery limit (before ++ (key ++ gap ++ ':' :: value) ++ after) = Filter.ofQuery limit t := by
  have hstart : Text.trimStart (part ++ ':' :: value) = part ++ ':' :: value := by
    have hclause : left ++ (part ++ ':' :: value) :: right ∈ splitClauses t := by
      rw [hsplit]
      simp
    apply trimStart_token hclause
    simp
  obtain ⟨gap, hgap, hblank⟩ := exists_gap hstart
  obtain ⟨rest, tail, hbehind, hletters, hrest, htail⟩ := behind_key hblank value
  -- with any key the token is a plain word and what follows it
  have hword (key : Text) : key ++ gap ++ ':' :: value = (key ++ rest) ++ tail := by
    rw [List.append_assoc, hbehind, List.append_assoc]
  have htoken : part ++ ':' :: value = (part.trim ++ rest) ++ tail := by
    rw [← hword, ← hgap]
  have hplace := splitClauses_place (htoken ▸ hsplit) (hkey.plainWord hletters hrest) htail
  obtain ⟨before, after, hat, hfill⟩ := hplace
  rw [← htoken] at hat
  refine ⟨before, gap, after, hat, hgap, hblank, ?_⟩
  intro key hspelled
  have hnew := hfill (key ++ rest) (hspelled.plainWord hletters hrest)
  rw [← hword] at hnew
  refine ⟨hnew, ?_⟩
  intro limit
  rw [ofQuery_eq_ofTokens, ofQuery_eq_ofTokens, hnew, hsplit]
  apply ofTokens_congr
  rw [List.map_append, List.map_append, List.map_cons, List.map_cons,
    termsOf_congr (Term.toOption_compile_respelled limit hpart hkey hspelled hblank)]

/-- A key with a blank behind it, in a token of two words between the two kinds of separators. -/
theorem ofQuery_respelled_path :
    (splitClauses "GET AND Path : /api OR code:404".toList =
        [] ++ (["GET".toList] ++ ("Path ".toList ++ ':' :: " /api".toList) :: []) :: [["code:404".toList]] ∧
      ':' ∉ "Path ".toList ∧ Field.url.SpelledBy (Text.trim "Path ".toList) ∧ Field.url.SpelledBy "URL".toList) ∧
    ∃ before gap after,
      TokenAt [] ["GET".toList] ("Path ".toList ++ ':' :: " /api".toList) [] [["code:404".toList]] before after
        "GET AND Path : /api OR code:404".toList ∧
      splitClauses (before ++ ("URL".toList ++ gap ++ ':' :: " /api".toList) ++ after) =
        [["GET".toList, "URL".toList ++ gap ++ ':' :: " /api".toList], ["code:404".toList]] ∧
      ∀ limit, Filter.ofQuery limit (before ++ ("URL".toList ++ gap ++ ':' :: " /api".toList) ++ after) =
        Filter.ofQuery limit "GET AND Path : /api OR code:404".toList := by
  have hsplit : splitClauses "GET AND Path : /api OR code:404".toList =
      [] ++ (["GET".toList] ++ ("Path ".toList ++ ':' :: " /api".toList) :: []) :: [["code:404".toList]] := by
    decide +kernel
  have hpart : ':' ∉ "Path ".toList := by decide +kernel
  have hkey : Field.url.SpelledBy (Text.trim "Path ".toList) := by decide +kernel
  have hurl : Field.url.SpelledBy "URL".toList := by decide +kernel
  obtain ⟨before, gap, after, hat, -, -, hrespelled⟩ := ofQuery_respelled hsplit hpart hkey
  obtain ⟨hclauses, hfilter⟩ := hrespelled "URL".toList hurl
  exact ⟨⟨hsplit, hpart, hkey, hurl⟩, before, gap, after, hat, hclauses, hfilter⟩

end RankSieve
