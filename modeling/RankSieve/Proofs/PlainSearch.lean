import Mathlib.Data.List.TakeWhile
import RankSieve.Proofs.NumeralGrammar

/-!
# `RankSieve.Proofs.PlainSearch` — plain text is searched for as it stands

A value that has no sign of the pattern language asks for itself: a row fulfils it where the text of the field has
a piece that is the value, letter for letter but for case. Numbers are searched in as they are written. The one
exception is a value that compares, on a field that is a number.

Which of its readings a token gets hangs on what stands in front of its first colon. Without the key of a field
there the whole token is what is searched for, in each text of a row by itself.

## Contents
- **Pieces up to case.** `Contains` is the search, character by character; `contains_iff` turns it into an infix.
- **Patterns.** `Pattern.occursIn_plain_iff`, and `compile_plain_of_room` for what the limit leaves room for.
- **Routes.** `Term.compileField_plain` behind a key, `Term.compile_unkeyed` without one.
- **The main result.** `Term.compile_plainText`.
-/

namespace RankSieve

/-! ## Pieces up to case -/

/-- Some piece of a text is the other text, character by character, but for case. -/
def Contains (t v : Text) : Prop :=
  ∃ before piece after, t = before ++ piece ++ after ∧ List.Forall₂ (fun c d => fold c = fold d) piece v

theorem forall₂_fold_iff {p v : Text} :
    List.Forall₂ (fun c d => fold c = fold d) p v ↔ p.map fold = v.map fold := by
  constructor
  · intro h
    induction h with
    | nil => rfl
    | cons hfold _ ih => rw [List.map_cons, List.map_cons, hfold, ih]
  · intro h
    induction p generalizing v with
    | nil =>
      obtain rfl := List.map_eq_nil_iff.mp h.symm
      exact .nil
    | cons c p ih =>
      obtain ⟨d, v, rfl, hfold, hrest⟩ := List.map_eq_cons_iff.mp h.symm
      exact .cons hfold.symm (ih hrest.symm)

/-- **Such a piece** is one of the folded texts. -/
theorem contains_iff {t v : Text} : Contains t v ↔ v.map fold <:+: t.map fold := by
  constructor
  · rintro ⟨before, piece, after, rfl, hpiece⟩
    refine ⟨before.map fold, after.map fold, ?_⟩
    rw [List.map_append, List.map_append, forall₂_fold_iff.mp hpiece]
  · rintro ⟨before, after, h⟩
    obtain ⟨front, rest, rfl, hfront, -⟩ := List.map_eq_append_iff.mp h.symm
    obtain ⟨start, piece, rfl, -, hpiece⟩ := List.map_eq_append_iff.mp hfront
    exact ⟨start, piece, rest, rfl, forall₂_fold_iff.mpr hpiece⟩

/-! ## Patterns -/

namespace Pattern

variable {limit : Nat} {v : Text}

/-- The only thing that can be wrong with plain text is its size. -/
theorem compile_plain_of_room [PatternLibrary] (hv : PlainText v) (hroom : compile limit v ≠ .error (.tooLarge limit)) :
    compile limit v = .ok ⟨v, plainNode v⟩ := by
  by_cases hfits : (⟨v, plainNode v⟩ : Pattern).fits limit = true
  · exact compile_plain hv hfits
  · exfalso
    apply hroom
    unfold compile
    rw [read?_plain hv]
    exact if_neg hfits

theorem occursIn_plain_iff (v t : Text) : occursIn ⟨v, plainNode v⟩ t = true ↔ Contains t v :=
  (plain_occursIn_iff v t).trans contains_iff.symm

end Pattern

/-! ## Routes -/

/-- A value that compares: a comparison sign and a number within 32 bits, with blanks behind either. -/
def IsComparison (v : Text) : Prop :=
  ∃ (op : Comparator) (b : Text) (n : Numeral) (b' : Text),
    Blank b ∧ Blank b' ∧ n.Fits ∧ v = op.sign ++ (b ++ (n.text ++ b'))

theorem Comparison.read?_eq_none {v : Text} (hv : ¬IsComparison v) : Comparison.read? v = none := by
  cases h : Comparison.read? v with
  | none => rfl
  | some c =>
    obtain ⟨b, n, b', hb, hb', hvalue, rfl⟩ := Comparison.read?_eq_some_iff.mp h
    have hfits : n.Fits := by
      rw [Numeral.Fits, hvalue]
      exact ⟨c.target.le_toInt, Int.le_of_lt_add_one c.target.toInt_lt⟩
    exact absurd ⟨c.comparator, b, n, b', hb, hb', hfits, rfl⟩ hv

/-- A token that names no field: what stands in front of its first colon, if it has one, is the key of none, and
    something follows the colon. -/
def Unkeyed (token : Text) : Prop :=
  ∀ key value, token = key ++ ':' :: value → ':' ∉ key → value ≠ [] ∧ Field.ofKey? (lower key.trim) = none

/-- A text is cut at its first colon, if it has a colon. -/
theorem cutAt_colon_cases (t : Text) :
    Text.cutAt (· == ':') t = none ∨
      ∃ key value, t = key ++ ':' :: value ∧ ':' ∉ key ∧ Text.cutAt (· == ':') t = some (key, value) := by
  by_cases hcolon : ':' ∈ t
  · obtain ⟨key, value, rfl, hkey⟩ := List.eq_append_cons_of_mem hcolon
    exact .inr ⟨key, value, rfl, hkey, cutAt_colon hkey value⟩
  · left
    have hall : ∀ c ∈ t, (!(c == ':')) = true := by
      intro c hc
      have hne : c ≠ ':' := by rintro rfl; exact hcolon hc
      simp [hne]
    unfold Text.cutAt
    rw [List.span_eq_takeWhile_dropWhile, List.dropWhile_eq_nil_iff.mpr hall]

/-- A trimmed text does not end with blanks. -/
theorem Trimmed.not_blank_end {s e : Text} (h : Trimmed (s ++ e)) (he : e ≠ []) : ¬Blank e := by
  intro hblank
  obtain ⟨ws, b, rfl, hws, hb⟩ := exists_spelling s
  have hends : Blank (b ++ e) := by
    intro c hc
    rcases List.mem_append.mp hc with hc | hc
    · exact hb c hc
    · exact hblank c hc
  have htrim := trim_spell hws hends
  rw [← List.append_assoc, h.2] at htrim
  -- trimmed, the text would be no longer than its words
  have hjoin : (joinWords ws).length ≤ (spell ws).length := by
    cases ws with
    | nil => simp [joinWords]
    | cons w ws => simp [joinWords]
  have hlength := congrArg List.length htrim
  have hpos : 0 < e.length := List.length_pos_iff.mpr he
  simp only [List.length_append] at hlength
  omega

namespace Term

variable {limit : Nat} {v : Text}

/-- **Behind the key of a field** plain text is a pattern on the field, unless it compares. -/
theorem compileField_plain [PatternLibrary] {f : Field} (hv : PlainText v)
    (hroom : Pattern.compile limit v ≠ .error (.tooLarge limit)) (hplain : f.isNumeric = true → ¬IsComparison v) :
    compileField limit f v = .ok (.field f (.pattern ⟨v, plainNode v⟩)) := by
  have hread : (if f.isNumeric then Comparison.read? v else none) = none := by
    cases hf : f.isNumeric with
    | true => exact Comparison.read?_eq_none (hplain hf)
    | false => rfl
  unfold compileField compilePattern
  rw [hread, Pattern.compile_plain_of_room hv hroom]
  rfl

/-- **Without one** the token is a pattern as a whole. -/
theorem compile_unkeyed [PatternLibrary] {token : Text} (htrim : Trimmed token) (hkey : Unkeyed token) :
    compile limit token = (compilePattern limit token).map Term.free := by
  unfold compile
  rcases cutAt_colon_cases token with hcut | ⟨key, value, rfl, hcolon, hcut⟩
  · rw [hcut]
  · obtain ⟨hvalue, hnone⟩ := hkey key value rfl hcolon
    have hblank : Text.isBlankText value = false := by
      rw [Bool.eq_false_iff]
      intro h
      have hsplit : key ++ ':' :: value = (key ++ [':']) ++ value := by simp
      exact (hsplit ▸ htrim).not_blank_end hvalue (isBlankText_iff.mp h)
    rw [hcut]
    simp only [hblank, hnone]
    rfl

/-! ## The main result -/

/-- **Plain text is a search that ignores case.** Behind the key of a field, unless it compares on a field that is
    a number, it asks for itself in the text of the field. As a token without the key of a field it asks for itself
    in one of the texts of the row. -/
theorem compile_plainText [PatternLibrary] (htrim : Trimmed v) (hv : PlainText v)
    (hroom : Pattern.compile limit v ≠ .error (.tooLarge limit)) :
    (∀ (key value : Text) (f : Field), ':' ∉ key → Field.ofKey? (lower key.trim) = some f → value.trim = v →
      (f.isNumeric = true → ¬IsComparison v) →
      ∃ term, compile limit (key ++ ':' :: value) = .ok term ∧
        ∀ r, term.holds r = true ↔ Contains (f.text r) v) ∧
    (Unkeyed v →
      ∃ term, compile limit v = .ok term ∧
        ∀ r, term.holds r = true ↔
          Contains r.method v ∨ Contains r.url v ∨ Contains (Decimal.ofNat r.status.toNat) v ∨
            Contains (Decimal.ofInt r.rank.toInt) v) := by
  constructor
  · intro key value f hcolon hkey hvalue hplain
    have hblank : ¬Blank value := by
      intro hblank
      apply htrim.1
      rw [← hvalue]
      have h : Text.trim (spell [] ++ value) = joinWords [] := trim_spell True.intro hblank
      exact h
    refine ⟨.field f (.pattern ⟨v, plainNode v⟩), ?_, ?_⟩
    · rw [compile_keyed_trim key hcolon hkey hblank, hvalue]
      exact compileField_plain hv hroom hplain
    · intro r
      exact Pattern.occursIn_plain_iff v (f.text r)
  · intro hkey
    refine ⟨.free ⟨v, plainNode v⟩, ?_, ?_⟩
    · rw [compile_unkeyed htrim hkey]
      unfold compilePattern
      rw [Pattern.compile_plain_of_room hv hroom]
      rfl
    · intro r
      simp only [← Pattern.occursIn_plain_iff]
      simp [holds, Row.searchTexts, Field.text, Row.statusText, Row.rankText]

/-- A value with a colon and letters whose case reaches beyond ASCII, behind a key and by itself. -/
theorem compile_plainText_colon :
    let v : Text := "k:-3 s".toList
    (Trimmed v ∧ PlainText v ∧ Pattern.compile 1048576 v ≠ .error (.tooLarge 1048576) ∧ ':' ∉ " RANK".toList ∧
      Field.ofKey? (lower (Text.trim " RANK".toList)) = some .rank ∧ Text.trim " k:-3 s\t".toList = v ∧
      ¬IsComparison v ∧ Unkeyed v) ∧
    (∃ term, compile 1048576 " RANK: k:-3 s\t".toList = .ok term ∧
      ∀ r, term.holds r = true ↔ Contains r.rankText v) ∧
    ∃ term, compile 1048576 v = .ok term ∧
      ∀ r, term.holds r = true ↔
        Contains r.method v ∨ Contains r.url v ∨ Contains (Decimal.ofNat r.status.toNat) v ∨
          Contains (Decimal.ofInt r.rank.toInt) v := by
  intro v
  have htrim : Trimmed v := by unfold Trimmed; decide
  have hv : PlainText v := by decide
  have hroom : Pattern.compile 1048576 v ≠ .error (.tooLarge 1048576) := by
    rw [compile_plain hv (by decide +kernel)]
    nofun
  have hcolon : ':' ∉ " RANK".toList := by decide
  have hkey : Field.ofKey? (lower (Text.trim " RANK".toList)) = some .rank := by decide +kernel
  have hvalue : Text.trim " k:-3 s\t".toList = v := by decide
  have hplain : ¬IsComparison v := by
    rintro ⟨op, b, n, b', -, -, -, h⟩
    rw [op.sign_eq] at h
    have hfirst := (List.cons.inj h).1
    cases op <;> exact absurd hfirst (by decide)
  have hunkeyed : Unkeyed v := by
    intro key value h hkey
    have hcut := cutAt_colon hkey value
    rw [← h] at hcut
    have hparts : Text.cutAt (· == ':') v = some (['k'], "-3 s".toList) := by decide
    obtain ⟨rfl, rfl⟩ := Prod.mk.inj (Option.some.inj (hparts.symm.trans hcut))
    exact ⟨by simp, by decide +kernel⟩
  obtain ⟨hfield, hfree⟩ := compile_plainText htrim hv hroom
  exact ⟨⟨htrim, hv, hroom, hcolon, hkey, hvalue, hplain, hunkeyed⟩,
    hfield _ _ .rank hcolon hkey hvalue fun _ => hplain, hfree hunkeyed⟩

end Term

end RankSieve
