import RankSieve.Proofs.Words
import RankSieve.Row

/-!
# `RankSieve.Proofs.Decimals` — decimal numbers are read back

Numbers go out as decimal text in queries, tables, CSV and JSON, and some of them come back. This file
says what that text looks like and that each reader gets the number again, so that no two numbers have
the same text.

## Contents
- **Shape.** Digits only, at least one, and no zero in front of others; a sign before negatives.
- **Reading back.** `readInt?_digits` for any digits, from it `readInt?_ofInt` and `readInt32?_ofInt`.
-/

namespace RankSieve

namespace Decimal

/-! ## Shape -/

theorem isDigit_of_mem_ofNat {n : Nat} {c : Char} (h : c ∈ ofNat n) : c.isDigit = true :=
  Nat.isDigit_of_mem_toDigits (by decide) (by decide) h

theorem ofNat_ne_nil (n : Nat) : ofNat n ≠ [] := Nat.toDigits_ne_nil

/-- Only zero begins with the digit zero. -/
theorem head?_ofNat_ne_zero {n : Nat} (hn : 0 < n) : (ofNat n).head? ≠ some '0' := by
  unfold ofNat
  induction n using Nat.strongRecOn with
  | ind n ih =>
    rw [Nat.toDigits_eq_if (by decide)]
    by_cases h : n < 10
    · rw [if_pos h, List.head?_cons, Ne, Option.some.injEq, Nat.digitChar_eq_zero]
      omega
    · have hhead := ih (n / 10) (by omega) (by omega)
      rw [if_neg h, List.head?_append]
      cases hd : (Nat.toDigits 10 (n / 10)).head? with
      | none => exact absurd (List.head?_eq_none_iff.mp hd) Nat.toDigits_ne_nil
      | some c => rwa [hd] at hhead

/-- The text of a number is one digit and then more, and a single zero for zero. -/
theorem ofNat_eq_cons (n : Nat) :
    ∃ c cs, ofNat n = c :: cs ∧ c.isDigit = true ∧ (∀ d ∈ cs, d.isDigit = true) ∧
      (c = '0' → n = 0 ∧ cs = []) := by
  have hdigits : ∀ c ∈ ofNat n, c.isDigit = true := fun c => isDigit_of_mem_ofNat
  cases h : ofNat n with
  | nil => exact absurd h (ofNat_ne_nil n)
  | cons c cs =>
    rw [h, List.forall_mem_cons] at hdigits
    refine ⟨c, cs, rfl, hdigits.1, hdigits.2, ?_⟩
    rintro rfl
    cases n with
    | zero =>
      have hzero : ofNat 0 = ['0'] := rfl
      rw [hzero] at h
      exact ⟨rfl, (List.cons.inj h).2.symm⟩
    | succ n =>
      have hhead := head?_ofNat_ne_zero (Nat.succ_pos n)
      rw [h] at hhead
      exact absurd rfl hhead

/-- No digit is a blank. -/
theorem isBlank_of_isDigit {c : Char} (h : c.isDigit = true) : isBlank c = false := by
  have hrange := Char.isDigit_iff_toNat.mp h
  have hlo : 48 ≤ c.toNat := hrange.1
  have hhi : c.toNat ≤ 57 := hrange.2
  unfold isBlank
  simp only [Bool.or_eq_false_iff, Bool.and_eq_false_iff, decide_eq_false_iff_not, beq_eq_false_iff_ne]
  omega

theorem solid_ofNat (n : Nat) : Solid (ofNat n) :=
  ⟨ofNat_ne_nil n, fun _ hc => isBlank_of_isDigit (isDigit_of_mem_ofNat hc)⟩

theorem solid_ofInt (n : Int) : Solid (ofInt n) := by
  cases n with
  | ofNat n => exact solid_ofNat n
  | negSucc n => exact Solid.cons (by decide) (solid_ofNat (n + 1)).2

/-! ## Reading back -/

/-- Digits are read as their value, however many they are. -/
theorem readDigits?_digits {l : Text} (hne : l ≠ []) (hl : ∀ c ∈ l, c.isDigit = true) :
    readDigits? l = some (Nat.ofDigitChars 10 l 0) := by
  have hempty : l.isEmpty = false := List.isEmpty_eq_false_iff.mpr hne
  unfold readDigits?
  rw [List.all_eq_true.mpr hl, hempty]
  rfl

/-- A digit is no sign, so digits read alike as natural numbers and as integers. -/
theorem readInt?_digits {l : Text} (hne : l ≠ []) (hl : ∀ c ∈ l, c.isDigit = true) :
    readInt? l = some (Nat.ofDigitChars 10 l 0 : Int) := by
  cases l with
  | nil => exact absurd rfl hne
  | cons c cs =>
    have hc := hl c List.mem_cons_self
    have hminus : c ≠ '-' := by rintro rfl; exact absurd hc (by decide)
    have hplus : c ≠ '+' := by rintro rfl; exact absurd hc (by decide)
    have hread : readInt? (c :: cs) = (readDigits? (c :: cs)).map Int.ofNat := by
      simp [readInt?, readNat?, hminus, hplus]
    rw [hread, readDigits?_digits hne hl]
    rfl

theorem readDigits?_ofNat (n : Nat) : readDigits? (ofNat n) = some n := by
  rw [readDigits?_digits (ofNat_ne_nil n) fun _ => isDigit_of_mem_ofNat]
  exact congrArg some Nat.ofDigitChars_ten_toDigits

theorem readInt?_ofNat (n : Nat) : readInt? (ofNat n) = some (n : Int) := by
  rw [readInt?_digits (ofNat_ne_nil n) fun _ => isDigit_of_mem_ofNat]
  exact congrArg (fun m : Nat => some (m : Int)) Nat.ofDigitChars_ten_toDigits

/-- **Integers are read back.** -/
theorem readInt?_ofInt (n : Int) : readInt? (ofInt n) = some n := by
  cases n with
  | ofNat n => exact readInt?_ofNat n
  | negSucc n =>
    have hdigits := readDigits?_ofNat (n + 1)
    rw [ofInt, readInt?, hdigits]
    rfl

theorem readInt32?_ofInt (n : Int32) : readInt32? (ofInt n.toInt) = some n := by
  have hlo : -2147483648 ≤ n.toInt := n.le_toInt
  have hhi : n.toInt ≤ 2147483647 := Int.le_of_lt_add_one n.toInt_lt
  unfold readInt32? readBounded?
  rw [readInt?_ofInt, Option.filter_some, if_pos (by simp [hlo, hhi]), Option.map_some, Int32.ofInt_toInt]

/-- So the text of a number tells the number. -/
theorem ofInt_injective {m n : Int} (h : ofInt m = ofInt n) : m = n := by
  have hm := readInt?_ofInt m
  rw [h, readInt?_ofInt] at hm
  exact (Option.some.inj hm).symm

theorem ofNat_injective {m n : Nat} (h : ofNat m = ofNat n) : m = n := by
  have hm := readDigits?_ofNat m
  rw [h, readDigits?_ofNat] at hm
  exact (Option.some.inj hm).symm

end Decimal

end RankSieve
