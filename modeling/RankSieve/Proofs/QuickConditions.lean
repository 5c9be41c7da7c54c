import Mathlib.Data.List.Infix
import Mathlib.Data.List.TakeDrop
import RankSieve.Menu
import RankSieve.Proofs.PlainPatterns
import RankSieve.Proofs.QueryMeaning

/-!
# `RankSieve.Proofs.QuickConditions` — what an entry of the menu asks of a row

An entry of the menu is appended as text, and the text is read again. This file joins the two ends: of each
condition it says what a row has to fulfil, without a text in between, and proves that its token is read as
just that.

A rank is compared as a number, so its sign and all its digits have to come back. A status is searched as
digits in digits, and the name of a method is a pattern like any other, which may be malformed. The two
entries that are left to complete ask for nothing as they stand.

## Contents
- **Tokens.** `QuickFilter.Ready` entries are conditions of one word; `plainToken_token` says that they can
  stand in a query.
- **Values.** `compile_keyed`: a value behind the key of a field is compiled for that field.
- **Conditions.** `QuickFilter.condition?` is the account and `compile_token` the agreement.
-/

namespace RankSieve

namespace QuickFilter

/-! ## Tokens -/

/-- Whether an entry is a connective. -/
def isLogic (q : QuickFilter) : Bool := q.connective?.isSome

/-- A condition that is written as one word: only the name of a method could have blanks. -/
def Ready : QuickFilter → Prop
  | .logic _     => False
  | .method name => Solid name
  | _            => True

theorem solid_atLeast (n : Int32) : Solid ('>' :: '=' :: Decimal.ofInt n.toInt) :=
  Solid.cons (by decide) (Solid.cons (by decide) (Decimal.solid_ofInt _).2).2

/-- A ready entry is a key of letters, a colon and a value without blanks, if it has one. -/
theorem Ready.token_eq {q : QuickFilter} (hq : q.Ready) :
    ∃ key value, q.token = key ++ ':' :: value ∧ Solid key ∧ ∀ c ∈ value, isBlank c = false := by
  cases q with
  | logic c => exact absurd hq id
  | method name => exact ⟨"method".toList, name, rfl, by decide, hq.2⟩
  | status code => exact ⟨"status".toList, _, rfl, by decide, (Decimal.solid_ofNat _).2⟩
  | rankAtLeast n =>
    exact ⟨"rank".toList, _, rfl, by decide, (solid_atLeast n).2⟩
  | customRank => exact ⟨"rank".toList, [], rfl, by decide, nofun⟩
  | customUrl => exact ⟨"url".toList, [], rfl, by decide, nofun⟩

end QuickFilter

/-- A text without blanks is its own only word. -/
theorem Solid.words_eq {l : Text} (hl : Solid l) : l.words = [⟨[], l⟩] := by
  have hwords := words_solid_append hl (t := []) gapped_nil
  rwa [List.append_nil] at hwords

theorem Solid.trimmed {l : Text} (hl : Solid l) : Trimmed l := by
  refine ⟨hl.1, ?_⟩
  rw [trim_eq, hl.words_eq]
  exact List.append_nil l

theorem Solid.not_blank {l : Text} (hl : Solid l) : ¬Blank l := by
  intro hall
  obtain ⟨c, hc⟩ := List.exists_mem_of_ne_nil l hl.1
  exact absurd (hall c hc) (Bool.eq_false_iff.mp (hl.2 c hc))

/-- No keyword has a colon. -/
theorem not_spells_of_colon {k l : Text} (hk : ':' ∉ k) (hl : ':' ∈ l) : ¬Spells k l := by
  rintro rfl
  exact hk (List.mem_map.mpr ⟨':', hl, rfl⟩)

/-- **The text of a condition can stand in a query**: it is one word, and with its colon no keyword. -/
theorem QuickFilter.plainToken_token {q : QuickFilter} (hq : q.Ready) : PlainToken q.token := by
  obtain ⟨key, value, htoken, hkey, hvalue⟩ := hq.token_eq
  have hcolon : ':' ∈ q.token := by rw [htoken]; simp
  have hsolid : Solid q.token := by
    refine ⟨List.ne_nil_of_mem hcolon, fun c hc => ?_⟩
    rw [htoken] at hc
    rcases List.mem_append.mp hc with hc | hc
    · exact hkey.2 c hc
    · rcases List.mem_cons.mp hc with rfl | hc
      · decide
      · exact hvalue c hc
  refine ⟨hsolid.trimmed, fun l hl => ?_⟩
  unfold Text.bareWords at hl
  rw [hsolid.words_eq] at hl
  obtain rfl := List.mem_singleton.mp hl
  exact ⟨not_spells_of_colon (by decide) hcolon, not_spells_of_colon (by decide) hcolon⟩

/-! ## Values -/

/-- A text is cut at its first colon. -/
theorem cutAt_colon {key : Text} (hkey : ':' ∉ key) (value : Text) :
    Text.cutAt (· == ':') (key ++ ':' :: value) = some (key, value) := by
  have hpass : ∀ c ∈ key, (!(c == ':')) = true := by
    intro c hc
    have hne : c ≠ ':' := by rintro rfl; exact hkey hc
    simp [hne]
  unfold Text.cutAt
  rw [List.span_eq_takeWhile_dropWhile, List.takeWhile_append_of_pos hpass, List.dropWhile_append_of_pos hpass]
  simp

namespace Term

variable [PatternLibrary] {limit : Nat}

/-- **A value behind a key** is compiled for the field of the key, without the blanks around it. -/
theorem compile_keyed_trim (key : Text) {value : Text} {f : Field} (hkey : ':' ∉ key)
    (hf : Field.ofKey? (lower key.trim) = some f) (hvalue : ¬Blank value) :
    compile limit (key ++ ':' :: value) = compileField limit f value.trim := by
  have hblank : value.isBlankText = false := Bool.eq_false_iff.mpr (mt isBlankText_iff.mp hvalue)
  unfold compile
  rw [cutAt_colon hkey]
  simp only [hblank, hf]
  rfl

theorem compile_keyed (key : Text) {value : Text} {f : Field} (hkey : ':' ∉ key)
    (hf : Field.ofKey? (lower key.trim) = some f) (hv : Solid value) :
    compile limit (key ++ ':' :: value) = compileField limit f value := by
  rw [compile_keyed_trim key hkey hf hv.not_blank, hv.trimmed.2]

/-- The value of a text field is a pattern whatever it looks like. -/
theorem compileField_text {f : Field} (hf : f.isNumeric = false) (value : Text) :
    (compileField limit f value).toOption =
      (Pattern.compile limit value).toOption.map fun p => .field f (.pattern p) := by
  unfold compileField compilePattern
  rw [hf]
  cases Pattern.compile limit value <;> rfl

/-- Digits without a sign in front compare with nothing, so they are a pattern on a number as well. -/
theorem compileField_ofNat {n : Nat} (f : Field) (hn : n < 100000) :
    compileField limit f (Decimal.ofNat n) =
      .ok (.field f (.pattern ⟨Decimal.ofNat n, plainNode (Decimal.ofNat n)⟩)) := by
  have hread : Comparison.read? (Decimal.ofNat n) = none := by
    obtain ⟨c, cs, h, hc, -, -⟩ := Decimal.ofNat_eq_cons n
    -- the text of a number begins with a digit, and a comparison with a sign
    have hgt : c ≠ '>' := by rintro rfl; exact absurd hc (by decide)
    have hlt : c ≠ '<' := by rintro rfl; exact absurd hc (by decide)
    have hsign : Comparator.read? (c :: cs) = none := by simp [Comparator.read?, hgt, hlt]
    unfold Comparison.read?
    rw [h, hsign]
    rfl
  unfold compileField compilePattern
  rw [hread, ite_self, compile_ofNat hn]
  rfl

/-- A sign with any number behind it is the comparison with that number. -/
theorem compileField_atLeast {f : Field} (hf : f.isNumeric = true) (n : Int32) :
    compileField limit f ('>' :: '=' :: Decimal.ofInt n.toInt) = .ok (.field f (.compare ⟨.atLeast, n⟩)) := by
  have hread : Comparison.read? ('>' :: '=' :: Decimal.ofInt n.toInt) = some ⟨.atLeast, n⟩ := by
    show (Decimal.readInt32? (Decimal.ofInt n.toInt).trim).bind _ = _
    rw [(Decimal.solid_ofInt n.toInt).trimmed.2, Decimal.readInt32?_ofInt]
    rfl
  unfold compileField
  rw [hf, if_pos rfl, hread]

end Term

/-! ## Conditions -/

namespace QuickFilter

variable [PatternLibrary]

/-- What an entry asks of a row. Connectives ask for nothing themselves, nor do entries that are left to
    complete or a method that is no pattern. -/
def condition? (limit : Nat) : QuickFilter → Option (Row → Bool)
  | .logic _       => none
  | .method name   => (Pattern.compile limit name).toOption.map fun p r => p.occursIn r.method
  | .status code   => some fun r => decide (Decimal.ofNat code.toNat <:+: r.statusText)
  | .rankAtLeast n => some fun r => decide (n.toInt ≤ r.rank.toInt)
  | .customRank    => none
  | .customUrl     => none

/-- **The token of a condition is read as the condition**, and has no term where there is none. -/
theorem compile_token {limit : Nat} {q : QuickFilter} (hq : q.Ready) :
    ((Term.compile limit q.token).toOption.map fun term r => term.holds r) = q.condition? limit := by
  cases q with
  | logic c => exact absurd hq id
  | method name =>
    have hcompile : Term.compile limit (QuickFilter.method name).token = Term.compileField limit .method name :=
      Term.compile_keyed "method".toList (by decide) (by decide) hq
    rw [hcompile, Term.compileField_text rfl, Option.map_map]
    rfl
  | status code =>
    have hcode : code.toNat < 100000 := Nat.lt_trans code.toNat_lt (by decide)
    have hcompile : Term.compile limit (QuickFilter.status code).token =
        Term.compileField limit .status (Decimal.ofNat code.toNat) :=
      Term.compile_keyed "status".toList (by decide) (by decide) (Decimal.solid_ofNat _)
    rw [hcompile, Term.compileField_ofNat .status hcode]
    refine congrArg some (funext fun r => ?_)
    have hfound := ofNat_occursIn_iff code.toNat r.status.toNat
    exact Bool.eq_iff_iff.mpr (hfound.trans decide_eq_true_iff.symm)
  | rankAtLeast n =>
    have hcompile : Term.compile limit (QuickFilter.rankAtLeast n).token =
        Term.compileField limit .rank ('>' :: '=' :: Decimal.ofInt n.toInt) :=
      Term.compile_keyed "rank".toList (by decide) (by decide) (solid_atLeast n)
    rw [hcompile, Term.compileField_atLeast rfl]
    rfl
  | customRank => rfl
  | customUrl => rfl

end QuickFilter

end RankSieve
