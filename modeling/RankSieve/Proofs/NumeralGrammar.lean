import RankSieve.Proofs.NumericTerms

/-!
# `RankSieve.Proofs.NumeralGrammar` — what is read as a number, and what as a comparison

The readers of numbers take exactly the numbers that can be written: `Numeral` is their grammar, so that a text
is read if and only if it is the text of a numeral, and then with its value. A comparison is a sign, blanks,
a number within 32 bits and blanks again, and nothing else is one.

## Contents
- **Numbers.** `readInt?_eq_some_iff` with a sign of either kind, `readNat?_eq_some_iff` without a minus sign.
- **Blanks.** `exists_around_trim`: a text is its trimmed text between blanks.
- **Comparisons.** `Comparison.read?_eq_some_iff`, from reading the sign and then the number; with the sign
  that `Leads` a text and what a comparison says, `Comparison.read?_grammar`.
-/

namespace RankSieve

/-! ## Numbers -/

namespace Decimal

/-- **Digits** are read where there is one or more of them and nothing else. -/
theorem readDigits?_eq_some_iff {t : Text} {n : Nat} :
    readDigits? t = some n ↔ t ≠ [] ∧ (∀ c ∈ t, c.isDigit = true) ∧ Nat.ofDigitChars 10 t 0 = n := by
  constructor
  · intro h
    unfold readDigits? at h
    split at h
    · next hdigits =>
      simp only [Bool.and_eq_true, Bool.not_eq_true', List.isEmpty_eq_false_iff, List.all_eq_true] at hdigits
      exact ⟨hdigits.1, hdigits.2, Option.some.inj h⟩
    · cases h
  · rintro ⟨hne, hdigits, rfl⟩
    exact readDigits?_digits hne hdigits

/-- A number begins with one of the two signs, or it is digits only. -/
theorem readNat?_cases (t : Text) :
    (∃ digits, t = '+' :: digits ∧ readNat? t = readDigits? digits) ∨ readNat? t = readDigits? t := by
  cases t with
  | nil => exact .inr rfl
  | cons c t =>
    by_cases hplus : c = '+'
    · subst hplus
      exact .inl ⟨t, rfl, rfl⟩
    · right
      simp [readNat?, hplus]

theorem readInt?_cases (t : Text) :
    (∃ digits, t = '-' :: digits ∧ readInt? t = (readDigits? digits).map fun n : Nat => -(n : Int)) ∨
      readInt? t = (readNat? t).map Int.ofNat := by
  cases t with
  | nil => exact .inr rfl
  | cons c t =>
    by_cases hminus : c = '-'
    · subst hminus
      refine .inl ⟨t, rfl, ?_⟩
      rw [readInt?]
      cases readDigits? t with
      | none => rfl
      | some n => rfl
    · right
      simp [readInt?, hminus]

/-- **Natural numbers** are the numerals without a minus sign. -/
theorem readNat?_eq_some_iff {t : Text} {n : Nat} :
    readNat? t = some n ↔ ∃ m : Numeral, m.sign ≠ .minus ∧ m.text = t ∧ m.value = n := by
  constructor
  · intro h
    rcases readNat?_cases t with ⟨digits, rfl, hread⟩ | hread
    · rw [hread] at h
      obtain ⟨hne, hdigits, hvalue⟩ := readDigits?_eq_some_iff.mp h
      refine ⟨⟨.plus, digits, hne, hdigits⟩, by simp, rfl, ?_⟩
      exact congrArg Nat.cast hvalue
    · rw [hread] at h
      obtain ⟨hne, hdigits, hvalue⟩ := readDigits?_eq_some_iff.mp h
      refine ⟨⟨.none, t, hne, hdigits⟩, by simp, rfl, ?_⟩
      exact congrArg Nat.cast hvalue
  · rintro ⟨⟨sign, digits, hne, hdigits⟩, hsign, rfl, hvalue⟩
    have hread := readDigits?_digits hne hdigits
    cases sign with
    | minus => exact absurd rfl hsign
    | plus =>
      show readDigits? digits = some n
      rw [hread]
      exact congrArg some (Int.ofNat.inj hvalue)
    | none =>
      -- the first digit is no sign
      have hdirect : readNat? digits = readDigits? digits := by
        rcases readNat?_cases digits with ⟨rest, rfl, -⟩ | h
        · exact absurd (hdigits '+' List.mem_cons_self) (by decide)
        · exact h
      show readNat? digits = some n
      rw [hdirect, hread]
      exact congrArg some (Int.ofNat.inj hvalue)

/-- **Integers** are the numerals. -/
theorem readInt?_eq_some_iff {t : Text} {n : Int} :
    readInt? t = some n ↔ ∃ m : Numeral, m.text = t ∧ m.value = n := by
  constructor
  · intro h
    rcases readInt?_cases t with ⟨digits, rfl, hread⟩ | hread
    · rw [hread, Option.map_eq_some_iff] at h
      obtain ⟨size, hsize, rfl⟩ := h
      obtain ⟨hne, hdigits, hvalue⟩ := readDigits?_eq_some_iff.mp hsize
      refine ⟨⟨.minus, digits, hne, hdigits⟩, rfl, ?_⟩
      exact congrArg (fun size : Nat => -(size : Int)) hvalue
    · rw [hread, Option.map_eq_some_iff] at h
      obtain ⟨size, hsize, rfl⟩ := h
      obtain ⟨m, -, htext, hvalue⟩ := readNat?_eq_some_iff.mp hsize
      exact ⟨m, htext, hvalue⟩
  · rintro ⟨m, rfl, rfl⟩
    exact m.readInt?_text

/-- Integers of 32 bits are the numerals whose value fits. -/
theorem readInt32?_eq_some_iff {t : Text} {n : Int32} :
    readInt32? t = some n ↔ ∃ m : Numeral, m.text = t ∧ m.value = n.toInt := by
  constructor
  · intro h
    unfold readInt32? readBounded? at h
    rw [Option.map_eq_some_iff] at h
    obtain ⟨k, hk, rfl⟩ := h
    obtain ⟨hread, hbounds⟩ := Option.filter_eq_some_iff.mp hk
    obtain ⟨m, htext, rfl⟩ := readInt?_eq_some_iff.mp hread
    have hfits : m.Fits := by simpa [Numeral.Fits] using hbounds
    exact ⟨m, htext, hfits.toInt_ofInt.symm⟩
  · rintro ⟨m, rfl, hvalue⟩
    have hfits : m.Fits := by
      rw [Numeral.Fits, hvalue]
      exact ⟨n.le_toInt, Int.le_of_lt_add_one n.toInt_lt⟩
    rw [m.readInt32?_text, if_pos hfits, hvalue, Int32.ofInt_toInt]

end Decimal

/-! ## Blanks -/

/-- A text is its trimmed text with blanks around it. -/
theorem exists_around_trim (t : Text) : ∃ b b', Blank b ∧ Blank b' ∧ t = b ++ (t.trim ++ b') := by
  have hspell := spell_words t
  rw [trim_eq]
  cases hw : t.words with
  | nil =>
    rw [hw, spell_nil, List.nil_append] at hspell
    exact ⟨[], t.trail, blank_nil, trail_blank t, hspell.symm⟩
  | cons w ws =>
    have hapart := words_apart t
    rw [hw] at hspell hapart
    refine ⟨w.before, t.trail, hapart.1.blank, trail_blank t, ?_⟩
    rw [spell_cons, List.append_assoc, List.append_assoc] at hspell
    rw [joinWords, List.append_assoc]
    exact hspell.symm

/-! ## Comparisons -/

namespace Comparator

/-- What is read as a comparator is its sign. -/
theorem eq_of_read? {t rest : Text} {op : Comparator} (h : read? t = some (op, rest)) : t = op.sign ++ rest := by
  unfold read? at h
  split at h
  · cases h; rfl
  · cases h; rfl
  · cases h; rfl
  · cases h; rfl
  · cases h

/-- A comparator leads a text that begins with its sign and with no longer one. -/
def Leads (op : Comparator) (t : Text) : Prop :=
  op.sign <+: t ∧ ∀ op' : Comparator, op'.sign <+: t → op'.sign.length ≤ op.sign.length

/-- A sign leads the text if it does not go on in what stands behind it. -/
theorem leads_sign (op : Comparator) {rest : Text} (hrest : '=' ∉ rest) : op.Leads (op.sign ++ rest) := by
  refine ⟨List.prefix_append op.sign rest, fun op' h => ?_⟩
  -- a longer sign would have its equals sign in the rest
  have hrest' : ∀ t, rest ≠ '=' :: t := by
    rintro t rfl
    exact hrest List.mem_cons_self
  obtain ⟨t, ht⟩ := h
  cases op with
  | atLeast | atMost => cases op' <;> decide
  | above | below =>
    cases op' with
    | above | below => decide
    | atLeast | atMost =>
      have htail := (List.cons.inj ht).2
      exact absurd htail.symm (hrest' t)

end Comparator

namespace Comparison

/-- **A comparison** is a sign and a number within 32 bits. Blanks may stand behind the sign and at the end. -/
theorem read?_eq_some_iff {t : Text} {c : Comparison} :
    read? t = some c ↔
      ∃ (b : Text) (n : Numeral) (b' : Text), Blank b ∧ Blank b' ∧ n.value = c.target.toInt ∧
        t = c.comparator.sign ++ (b ++ (n.text ++ b')) := by
  constructor
  · intro h
    unfold read? at h
    rw [Option.bind_eq_bind, Option.bind_eq_some_iff] at h
    obtain ⟨⟨op, rest⟩, hsign, h⟩ := h
    rw [Option.bind_eq_bind, Option.bind_eq_some_iff] at h
    obtain ⟨target, htarget, h⟩ := h
    cases h
    obtain ⟨n, htext, hvalue⟩ := Decimal.readInt32?_eq_some_iff.mp htarget
    obtain ⟨b, b', hb, hb', hrest⟩ := exists_around_trim rest
    refine ⟨b, n, b', hb, hb', hvalue, ?_⟩
    rw [Comparator.eq_of_read? hsign, htext, ← hrest]
  · rintro ⟨b, n, b', hb, hend, hvalue, rfl⟩
    have hread : Decimal.readInt32? (b ++ (n.text ++ b')).trim = some c.target := by
      rw [trim_around hb n.solid_text hend]
      exact Decimal.readInt32?_eq_some_iff.mpr ⟨n, rfl, hvalue⟩
    unfold read?
    rw [Comparator.read?_sign c.comparator (n.equals_not_mem hb hend)]
    show (Decimal.readInt32? (b ++ (n.text ++ b')).trim).bind _ = _
    rw [hread]
    rfl

/-- So the text of a comparison is led by its comparator. -/
theorem leads_of_read? {t : Text} {c : Comparison} (h : read? t = some c) : c.comparator.Leads t := by
  obtain ⟨b, n, b', hb, hb', -, rfl⟩ := read?_eq_some_iff.mp h
  exact c.comparator.leads_sign (n.equals_not_mem hb hb')

/-- What is written as a sign and a number is read back. -/
theorem read?_sign_ofInt (op : Comparator) (n : Int32) :
    read? (op.sign ++ Decimal.ofInt n.toInt) = some ⟨op, n⟩ := by
  obtain ⟨m, htext, hvalue⟩ := Decimal.readInt?_eq_some_iff.mp (Decimal.readInt?_ofInt n.toInt)
  refine read?_eq_some_iff.mpr ⟨[], m, [], blank_nil, blank_nil, hvalue, ?_⟩
  rw [List.nil_append, List.append_nil, htext]

/-- **The grammar of comparisons.** A text is read as a comparator and an integer exactly if it begins with
    the sign of the comparator, and with no longer sign, and goes on with blanks, a number of this value and
    blanks, and the integer lies within 32 bits. The comparison then holds of the numbers that stand so to the
    integer, and each comparison is read back from its own sign and number. -/
theorem read?_grammar (t : Text) (op : Comparator) (n : Int) :
    ((read? t).map (fun c => (c.comparator, c.target.toInt)) = some (op, n) ↔
      op.Leads t ∧ -2147483648 ≤ n ∧ n ≤ 2147483647 ∧
        ∃ (b : Text) (m : Numeral) (b' : Text), Blank b ∧ Blank b' ∧ m.value = n ∧
          t = op.sign ++ (b ++ (m.text ++ b'))) ∧
    (∀ (c : Comparison) (actual : Int),
      c.holds actual = true ↔ c.comparator.Relates actual c.target.toInt) ∧
    ∀ target : Int32, read? (op.sign ++ Decimal.ofInt target.toInt) = some ⟨op, target⟩ := by
  refine ⟨⟨fun h => ?_, ?_⟩, fun c actual => ?_, read?_sign_ofInt op⟩
  · obtain ⟨c, hread, hc⟩ := Option.map_eq_some_iff.mp h
    cases hc
    obtain ⟨b, m, b', hb, hb', hvalue, ht⟩ := read?_eq_some_iff.mp hread
    exact ⟨leads_of_read? hread, c.target.le_toInt, Int.le_of_lt_add_one c.target.toInt_lt,
      b, m, b', hb, hb', hvalue, ht⟩
  · rintro ⟨-, hleast, hgreatest, b, m, b', hb, hb', rfl, ht⟩
    have hfits : m.Fits := ⟨hleast, hgreatest⟩
    have hread : read? t = some ⟨op, Int32.ofInt m.value⟩ :=
      read?_eq_some_iff.mpr ⟨b, m, b', hb, hb', hfits.toInt_ofInt.symm, ht⟩
    rw [hread, Option.map_some, hfits.toInt_ofInt]
  · exact Comparator.holds_iff c.comparator actual c.target.toInt

/-- Both signs of `>=` belong together, zeros may lead a number, and a number beyond 32 bits is none. -/
example : read? ">= +0007 ".toList = some ⟨.atLeast, 7⟩ ∧ read? "> =7".toList = none ∧
    read? "<-2147483648".toList = some ⟨.below, -2147483648⟩ ∧ read? "<2147483648".toList = none := by decide

end Comparison

end RankSieve
