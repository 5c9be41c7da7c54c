import RankSieve.Json.Printer
import RankSieve.Proofs.Decimals
import RankSieve.Row.Decode

/-!
# `RankSieve.Proofs.JsonValues` — numbers and strings of JSON are read back

A row is written with decimal numbers and with strings whose special characters are escaped. Here each
reader of such a value meets what the printer wrote, with more text behind it: it takes exactly what was
written and leaves the rest. What follows a number must not go on with it, and that is all these lemmas
ask of the rest.

## Contents
- **Blanks.** A reader may find blanks of JSON in front of what it reads.
- **Numbers.** `readNumber_ofNat` for digits, `readRank_rankText` and `readStatus_statusText` for the two
  numbers of a row.
- **Strings.** `readStringFrom_stringChar` reads one character in any of its written forms,
  `readText_string` a whole string.
-/

namespace RankSieve

namespace Json

/-! ## Blanks -/

/-- Blanks of JSON only. -/
def JsonBlank (b : Text) : Prop := ∀ c ∈ b, isJsonBlank c = true

instance (b : Text) : Decidable (JsonBlank b) := decidable_of_iff (b.all isJsonBlank = true) List.all_eq_true

theorem skipBlanks_append {b t : Text} (hb : JsonBlank b) : skipBlanks (b ++ t) = skipBlanks t := by
  unfold skipBlanks
  exact List.dropWhile_append_of_pos hb

theorem skipBlanks_cons {c : Char} {t : Text} (hc : isJsonBlank c = false) : skipBlanks (c :: t) = c :: t := by
  unfold skipBlanks
  exact List.dropWhile_cons_of_neg (by rw [hc]; exact Bool.false_ne_true)

/-- Blanks in front of a character that is none. -/
theorem skipBlanks_append_cons {b t : Text} {c : Char} (hb : JsonBlank b) (hc : isJsonBlank c = false) :
    skipBlanks (b ++ c :: t) = c :: t := by
  rw [skipBlanks_append hb, skipBlanks_cons hc]

/-! ## Numbers -/

/-- What may stand behind a number: nothing that would go on with it. -/
def EndsNumber (t : Text) : Prop := ∀ c ∈ t.head?, c.isDigit = false ∧ c ≠ '.' ∧ c ≠ 'e' ∧ c ≠ 'E'

/-- Digits keep their number, as long as it is within the bound. -/
theorem appendDigits_eq {bound : Nat} {cs : Text} (n taken : Nat) (h : Nat.ofDigitChars 10 cs n ≤ bound) :
    appendDigits bound n taken cs = (Nat.ofDigitChars 10 cs n, taken + cs.length, true) := by
  induction cs generalizing n taken with
  | nil => rfl
  | cons c cs ih =>
    have hstep : n * 10 + digitValue c = 10 * n + (c.toNat - '0'.toNat) := by
      unfold digitValue
      omega
    have hcons : Nat.ofDigitChars 10 (c :: cs) n = Nat.ofDigitChars 10 cs (10 * n + (c.toNat - '0'.toNat)) := by
      rw [Nat.ofDigitChars_eq_foldl, Nat.ofDigitChars_eq_foldl, List.foldl_cons]
    rw [hcons] at h ⊢
    -- appending digits never makes a number smaller, so no number on the way is above the bound
    have hle : 10 * n + (c.toNat - '0'.toNat) ≤ bound := by
      refine Nat.le_trans ?_ h
      rw [Nat.ofDigitChars_eq_ofDigitChars_zero]
      refine Nat.le_trans ?_ (Nat.le_add_right _ _)
      exact Nat.le_mul_of_pos_left _ (Nat.pow_pos (by decide))
    rw [appendDigits, hstep, if_neg (Nat.not_lt.mpr hle), ih _ _ h, List.length_cons, Nat.add_assoc,
      Nat.add_comm 1]

theorem spanDigits_append {ds rest : Text} (hds : ∀ c ∈ ds, c.isDigit = true) (hrest : EndsNumber rest) :
    spanDigits (ds ++ rest) = (ds, rest) := by
  unfold spanDigits
  rw [List.takeWhile_append_of_pos hds, List.dropWhile_append_of_pos hds]
  cases rest with
  | nil => simp
  | cons c rest =>
    have hc := (hrest c rfl).1
    simp [hc]

theorem readIntegerEnd_eq {negative : Bool} {n : Nat} {rest : Text} (hrest : EndsNumber rest) :
    readIntegerEnd negative n rest = .ok (ofSignificand negative n, rest) := by
  cases rest with
  | nil => rfl
  | cons c rest =>
    obtain ⟨-, hdot, he, hE⟩ := hrest c rfl
    rw [readIntegerEnd]
    · exact fun t h => hdot (List.cons.inj h).1
    · exact fun t h => he (List.cons.inj h).1
    · exact fun t h => hE (List.cons.inj h).1

/-- **A decimal number is read back**, as an integer of the sign in front of it. -/
theorem readNumber_ofNat (negative : Bool) {n : Nat} {rest : Text} (hn : n ≤ greatestSignificand)
    (hrest : EndsNumber rest) :
    readNumber negative (Decimal.ofNat n ++ rest) = .ok (ofSignificand negative n, rest) := by
  obtain ⟨c, cs, htext, hc, hcs, hzero⟩ := Decimal.ofNat_eq_cons n
  by_cases hc0 : c = '0'
  · -- a zero stands alone
    obtain ⟨rfl, rfl⟩ := hzero hc0
    rw [htext, hc0]
    cases rest with
    | nil => exact readIntegerEnd_eq hrest
    | cons d rest =>
      show (if d.isDigit = true then faultNext .invalidNumber (d :: rest) else _) = _
      rw [(hrest d rfl).1, if_neg Bool.false_ne_true]
      exact readIntegerEnd_eq hrest
  · have hall : ∀ d ∈ c :: cs, d.isDigit = true := List.forall_mem_cons.mpr ⟨hc, hcs⟩
    have hvalue : Nat.ofDigitChars 10 (c :: cs) 0 = n := by
      rw [← htext]
      exact Nat.ofDigitChars_ten_toDigits
    have hbound : Nat.ofDigitChars 10 (c :: cs) 0 ≤ greatestSignificand := hvalue ▸ hn
    have hdigits := appendDigits_eq 0 0 hbound
    rw [hvalue] at hdigits
    rw [htext, List.cons_append, readNumber, hc]
    · rw [if_neg (by simp), ← List.cons_append, spanDigits_append hall hrest]
      simp only [hdigits]
      exact readIntegerEnd_eq hrest
    · exact hc0

theorem isJsonBlank_of_isDigit {c : Char} (hc : c.isDigit = true) : isJsonBlank c = false := by
  unfold isJsonBlank
  rw [Bool.or_eq_false_iff, Bool.or_eq_false_iff, Bool.or_eq_false_iff]
  refine ⟨⟨⟨?_, ?_⟩, ?_⟩, ?_⟩ <;>
  · rw [decide_eq_false_iff_not]
    rintro rfl
    exact absurd hc (by decide)

/-- **An integer is read back** where it lies within the bounds, and these within 64 bits. -/
theorem readBounded_ofInt {least greatest n : Int} {expected b rest : Text} (hb : JsonBlank b)
    (hrest : EndsNumber rest) (hlo : least ≤ n) (hhi : n ≤ greatest)
    (hleast : -9223372036854775808 ≤ least) (hgreatest : greatest ≤ 18446744073709551615) :
    readBounded least greatest expected (b ++ (Decimal.ofInt n ++ rest)) = .ok (n, rest) := by
  have hwithin : (decide (least ≤ n) && decide (n ≤ greatest)) = true := by
    rw [decide_eq_true hlo, decide_eq_true hhi]
    rfl
  cases n with
  | ofNat n =>
    obtain ⟨c, cs, htext, hc, -, -⟩ := Decimal.ofNat_eq_cons n
    have hminus : c ≠ '-' := by
      rintro rfl
      exact absurd hc (by decide)
    have hn : n ≤ greatestSignificand := by
      have hcast : (n : Int) ≤ 18446744073709551615 := Int.le_trans hhi hgreatest
      unfold greatestSignificand
      omega
    have hskip : skipBlanks (b ++ (Decimal.ofInt (.ofNat n) ++ rest)) = c :: (cs ++ rest) := by
      show skipBlanks (b ++ (Decimal.ofNat n ++ rest)) = _
      rw [htext, List.cons_append, skipBlanks_append_cons hb (isJsonBlank_of_isDigit hc)]
    have hread := readNumber_ofNat false hn hrest
    rw [htext, List.cons_append] at hread
    rw [readBounded, hskip]
    simp only [hc, if_true, hread]
    show boundedInt least greatest expected (.integer (.ofNat n)) rest = _
    rw [boundedInt, if_pos hwithin]
  | negSucc n =>
    have hn : n + 1 ≤ greatestSignificand := by
      unfold greatestSignificand
      omega
    have hskip : skipBlanks (b ++ (Decimal.ofInt (.negSucc n) ++ rest)) = '-' :: (Decimal.ofNat (n + 1) ++ rest) :=
      skipBlanks_append_cons hb (by decide)
    have hsign : ofSignificand true (n + 1) = .integer (.negSucc n) := by
      unfold ofSignificand
      rw [if_neg (by decide), if_neg (by simp; omega)]
      rfl
    rw [readBounded, hskip]
    simp only [readNumber_ofNat true hn hrest, hsign]
    show boundedInt least greatest expected (.integer (.negSucc n)) rest = _
    rw [boundedInt, if_pos hwithin]

theorem readRank_rankText {b rest : Text} (r : Row) (hb : JsonBlank b) (hrest : EndsNumber rest) :
    readRank (b ++ (r.rankText ++ rest)) = .ok (r.rank, rest) := by
  have hlo : -2147483648 ≤ r.rank.toInt := r.rank.le_toInt
  have hhi : r.rank.toInt ≤ 2147483647 := Int.le_of_lt_add_one r.rank.toInt_lt
  unfold readRank Row.rankText
  rw [readBounded_ofInt hb hrest hlo hhi (by decide) (by decide)]
  show Except.ok (Int32.ofInt r.rank.toInt, rest) = _
  rw [Int32.ofInt_toInt]

theorem readStatus_statusText {b rest : Text} (r : Row) (hb : JsonBlank b) (hrest : EndsNumber rest) :
    readStatus (b ++ (r.statusText ++ rest)) = .ok (r.status, rest) := by
  have hlo : 0 ≤ Int.ofNat r.status.toNat := Int.natCast_nonneg _
  have hhi : Int.ofNat r.status.toNat ≤ 65535 := Int.ofNat_le.mpr (Nat.le_of_lt_succ r.status.toNat_lt)
  unfold readStatus Row.statusText
  rw [show Decimal.ofNat r.status.toNat = Decimal.ofInt (.ofNat r.status.toNat) from rfl,
    readBounded_ofInt hb hrest hlo hhi (by decide) (by decide)]
  show Except.ok (UInt16.ofNat r.status.toNat, rest) = _
  rw [UInt16.ofNat_toNat]

/-! ## Strings -/

/-- Four hexadecimal digits of one octet each. -/
theorem readFourDigits_append {ds t : Text} {n : Nat} (hlength : ds.length = 4) (hsize : Utf8.size ds = 4)
    (hn : Decimal.readHex? ds = some n) : readFourDigits (ds ++ t) = .ok (n, t) := by
  have htake : (ds ++ t).take 4 = ds := by rw [← hlength, List.take_left]
  have hdrop : (ds ++ t).drop 4 = t := by rw [← hlength, List.drop_left]
  unfold readFourDigits
  rw [htake, hdrop, hsize, if_neg (Nat.lt_irrefl 4), hn]

/-- The four digits of a control character. -/
theorem controlDigits : ∀ n < 0x20,
    let ds := "00".toList ++ (List.replicate (1 - n / 16) '0' ++ Decimal.hex n)
    ds.length = 4 ∧ Utf8.size ds = 4 ∧ Decimal.readHex? ds = some n ∧ isTrailing n = false ∧
      isLeading n = false := by decide

/-- **One character of a string** is read in whatever form it was written. -/
theorem readStringFrom_stringChar (x : Char) (fuel : Fuel) (before : Text) (c : Char) (t : Text) :
    readStringFrom (x :: fuel) before (stringChar c ++ t) = readStringFrom fuel (c :: before) t := by
  unfold stringChar
  by_cases hquote : c = '"'
  · subst hquote
    rfl
  by_cases hbackslash : c = '\\'
  · subst hbackslash
    rfl
  by_cases hbackspace : c = '\x08'
  · subst hbackspace
    rfl
  by_cases hfeed : c = '\x0C'
  · subst hfeed
    rfl
  by_cases hnewline : c = '\n'
  · subst hnewline
    rfl
  by_cases hreturn : c = '\r'
  · subst hreturn
    rfl
  by_cases htab : c = '\t'
  · subst htab
    rfl
  rw [if_neg hquote, if_neg hbackslash, if_neg hbackspace, if_neg hfeed, if_neg hnewline, if_neg hreturn,
    if_neg htab]
  by_cases hcontrol : c.toNat < 0x20
  · obtain ⟨hlength, hsize, hhex, htrailing, hleading⟩ := controlDigits c.toNat hcontrol
    have hdigits := readFourDigits_append (t := t) hlength hsize hhex
    have hescape : readEscape ('u' :: ("00".toList ++ (List.replicate (1 - c.toNat / 16) '0' ++
        Decimal.hex c.toNat) ++ t)) = .ok (c, t) := by
      rw [readEscape, hdigits]
      show (if isTrailing c.toNat = true then _ else if isLeading c.toNat = true then _ else _) = _
      rw [htrailing, hleading, if_neg Bool.false_ne_true, if_neg Bool.false_ne_true, Char.ofNat_toNat]
    have hlead : "\\u00".toList = '\\' :: 'u' :: "00".toList := rfl
    rw [List.append_assoc, List.append_assoc] at hescape
    rw [if_pos hcontrol, hlead, List.append_assoc, List.append_assoc, List.cons_append, List.cons_append,
      readStringFrom, hescape]
    rfl
  · rw [if_neg hcontrol, List.singleton_append, readStringFrom, if_neg hcontrol]
    · exact hquote
    · exact hbackslash

/-- The characters of a string, each for a unit of fuel. -/
theorem readStringFrom_flatMap {fuel : Fuel} {before s t : Text} (hfuel : s.length < fuel.length) :
    readStringFrom fuel before (s.flatMap stringChar ++ '"' :: t) = .ok (before.reverse ++ s, t) := by
  induction s generalizing fuel before with
  | nil =>
    cases fuel with
    | nil => exact absurd hfuel (by simp)
    | cons x fuel => rw [List.append_nil]; rfl
  | cons c s ih =>
    cases fuel with
    | nil => exact absurd hfuel (by simp)
    | cons x fuel =>
      rw [List.flatMap_cons, List.append_assoc, readStringFrom_stringChar,
        ih (Nat.lt_of_succ_lt_succ hfuel), List.reverse_cons, List.append_assoc, List.singleton_append]

theorem stringChar_ne_nil (c : Char) : stringChar c ≠ [] := by
  unfold stringChar
  repeat' split
  all_goals simp

/-- Parts that are not empty are no more than the characters that they have together. -/
theorem length_le_flatMap {α : Type} {f : α → Text} {xs : List α} (hf : ∀ x ∈ xs, f x ≠ []) :
    xs.length ≤ (xs.flatMap f).length := by
  induction xs with
  | nil => exact Nat.le_refl 0
  | cons x xs ih =>
    have hpos := List.length_pos_iff.mpr (hf x List.mem_cons_self)
    have hxs := ih fun y hy => hf y (List.mem_cons_of_mem _ hy)
    rw [List.flatMap_cons, List.length_append, List.length_cons]
    omega

/-- **A string is read back**, behind its opening quotation mark. -/
theorem readString_flatMap (s t : Text) : readString (s.flatMap stringChar ++ '"' :: t) = .ok (s, t) := by
  have hlength : s.length ≤ (s.flatMap stringChar).length := length_le_flatMap fun c _ => stringChar_ne_nil c
  unfold readString Text.fuel
  have hfuel : s.length < (' ' :: (s.flatMap stringChar ++ '"' :: t)).length := by
    rw [List.length_cons, List.length_append]
    omega
  rw [readStringFrom_flatMap hfuel, List.reverse_nil, List.nil_append]

theorem string_append (s t : Text) : string s ++ t = '"' :: (s.flatMap stringChar ++ '"' :: t) := by
  unfold string
  rw [List.cons_append, List.cons_append, List.append_assoc, List.singleton_append]

theorem readText_string {b t : Text} (hb : JsonBlank b) (s : Text) :
    readText (b ++ (string s ++ t)) = .ok (s, t) := by
  unfold readText
  rw [string_append, skipBlanks_append_cons hb (by decide)]
  exact readString_flatMap s t

theorem readOptionalText_string {b t : Text} (hb : JsonBlank b) (s : Text) :
    readOptionalText (b ++ (string s ++ t)) = .ok (some s, t) := by
  have hread := readText_string (b := []) (t := t) (by decide) s
  rw [List.nil_append, string_append] at hread
  unfold readOptionalText
  rw [string_append, skipBlanks_append_cons hb (by decide)]
  show (readText _).map _ = _
  rw [hread]
  rfl

end Json

end RankSieve
