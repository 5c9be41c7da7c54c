import RankSieve.Text.Utf8

/-!
# `RankSieve.Proofs.Utf8RoundTrip` — texts come back from their octets

Every text can be told from its octets: what `encode` writes, `decode?` reads. The reader goes octet by
octet, so the proof does too. `step_tailOctet` passes one octet that is not the first of its character,
and one lemma for each length of a character says that its first octet announces the others and that the
bounds set for the second are kept.

## Contents
- **Tail octets.** What one of them holds, and what the reader makes of it.
- **Whole characters.** `encodeChar_cases` parts them by the number of their octets, and
  `decodeFrom?_encodeChar` reads each kind.
- **Texts.** `decode?_encode`; characters of ASCII are single octets and occur in no other character
  (`mem_encode_ascii`).
-/

namespace RankSieve

namespace Utf8

/-! ## Tail octets -/

theorem toNat_octet {n : Nat} (h : n < 256) : (UInt8.ofNat n).toNat = n := by
  rw [UInt8.toNat_ofNat']
  exact Nat.mod_eq_of_lt h

theorem toNat_tailOctet (n k : Nat) : (tailOctet n k).toNat = 0x80 + n / Nat.pow 64 k % 64 := by
  unfold tailOctet
  exact toNat_octet (by omega)

/-- **A tail octet** within the bounds adds its six bits, and the last one completes the character. -/
theorem step_tailOctet {n k lo hi : Nat} (hlo : lo ≤ 0x80 + n / Nat.pow 64 k % 64)
    (hhi : 0x80 + n / Nat.pow 64 k % 64 ≤ hi) :
    step (.inside (k + 1) lo hi (n / Nat.pow 64 (k + 1))) (tailOctet n k) =
      if k = 0 then some (.between, some (Char.ofNat n))
      else some (.inside k 0x80 0xBF (n / Nat.pow 64 k), none) := by
  have hbits : n / Nat.pow 64 (k + 1) * 64 + (0x80 + n / Nat.pow 64 k % 64 - 0x80) = n / Nat.pow 64 k := by
    have hpow : Nat.pow 64 (k + 1) = Nat.pow 64 k * 64 := rfl
    rw [hpow, ← Nat.div_div_eq_div_mul]
    omega
  have hwithin : (decide (lo ≤ 0x80 + n / Nat.pow 64 k % 64) &&
      decide (0x80 + n / Nat.pow 64 k % 64 ≤ hi)) = true := by
    rw [decide_eq_true hlo, decide_eq_true hhi]
    rfl
  rw [step, toNat_tailOctet, if_pos hwithin, hbits]
  by_cases hk : k = 0
  · subst hk
    rw [if_pos (Nat.le_refl 1), if_pos rfl]
    show some (State.between, some (Char.ofNat (n / 1))) = _
    rw [Nat.div_one]
  · rw [if_neg (by omega), if_neg hk, Nat.add_sub_cancel]

/-! ## Whole characters -/

/-- A first octet that announces more. -/
theorem step_lead {b : UInt8} {k lo hi bits : Nat} (h : lead? b = some (k + 1, lo, hi, bits)) :
    step .between b = some (.inside (k + 1) lo hi bits, none) := by
  rw [step, h]
  rfl

theorem decodeFrom?_cons_more {q q' : State} {b : UInt8} {bs : Octets} (h : step q b = some (q', none)) :
    decodeFrom? q (b :: bs) = decodeFrom? q' bs := by
  rw [decodeFrom?.eq_def]
  simp only [h]

theorem decodeFrom?_cons_done {q q' : State} {b : UInt8} {bs : Octets} {c : Char}
    (h : step q b = some (q', some c)) : decodeFrom? q (b :: bs) = (decodeFrom? q' bs).map (c :: ·) := by
  rw [decodeFrom?.eq_def]
  simp only [h]

/-- The first octet of two. -/
theorem lead?_two {n : Nat} (hlo : 0x80 ≤ n) (hhi : n < 0x800) :
    lead? (UInt8.ofNat (0xC0 + n / 64)) = some (1, 0x80, 0xBF, n / Nat.pow 64 1) := by
  unfold lead?
  rw [toNat_octet (by omega)]
  simp only [show ¬0xC0 + n / 64 < 0x80 by omega, if_false,
    show (decide (0xC2 ≤ 0xC0 + n / 64) && decide (0xC0 + n / 64 ≤ 0xDF)) = true by simp; omega, if_true]
  show some (1, 0x80, 0xBF, _) = some (1, 0x80, 0xBF, n / 64)
  rw [Nat.add_sub_cancel_left]

/-- The first octet of three. Shorter forms and surrogates are ruled out by the bounds for the second. -/
theorem lead?_three {n : Nat} (hlo : 0x800 ≤ n) (hhi : n < 0x10000) (hchar : n < 0xD800 ∨ 0xDFFF < n) :
    ∃ lo hi, lead? (UInt8.ofNat (0xE0 + n / 4096)) = some (2, lo, hi, n / Nat.pow 64 2) ∧
      lo ≤ 0x80 + n / Nat.pow 64 1 % 64 ∧ 0x80 + n / Nat.pow 64 1 % 64 ≤ hi := by
  show ∃ lo hi, _ = some (2, lo, hi, n / 4096) ∧ lo ≤ 0x80 + n / 64 % 64 ∧ 0x80 + n / 64 % 64 ≤ hi
  unfold lead?
  rw [toNat_octet (by omega)]
  have hfour : n / 64 / 64 = n / 4096 := Nat.div_div_eq_div_mul n 64 64
  simp only [show ¬0xE0 + n / 4096 < 0x80 by omega, if_false,
    show (decide (0xC2 ≤ 0xE0 + n / 4096) && decide (0xE0 + n / 4096 ≤ 0xDF)) = false by simp; omega,
    beq_iff_eq]
  by_cases hfirst : n / 4096 = 0
  · rw [hfirst]
    exact ⟨0xA0, 0xBF, by simp, by omega, by omega⟩
  · by_cases hsurrogate : n / 4096 = 0xD
    · rw [hsurrogate]
      exact ⟨0x80, 0x9F, by simp, by omega, by omega⟩
    · refine ⟨0x80, 0xBF, ?_, by omega, by omega⟩
      rw [if_neg (by decide), if_neg (by omega), if_neg (by omega), if_pos (by simp; omega),
        Nat.add_sub_cancel_left]

/-- The first octet of four. -/
theorem lead?_four {n : Nat} (hlo : 0x10000 ≤ n) (hhi : n < 0x110000) :
    ∃ lo hi, lead? (UInt8.ofNat (0xF0 + n / 262144)) = some (3, lo, hi, n / Nat.pow 64 3) ∧
      lo ≤ 0x80 + n / Nat.pow 64 2 % 64 ∧ 0x80 + n / Nat.pow 64 2 % 64 ≤ hi := by
  show ∃ lo hi, _ = some (3, lo, hi, n / 262144) ∧ lo ≤ 0x80 + n / 4096 % 64 ∧ 0x80 + n / 4096 % 64 ≤ hi
  unfold lead?
  rw [toNat_octet (by omega)]
  have hfour : n / 4096 / 64 = n / 262144 := Nat.div_div_eq_div_mul n 4096 64
  simp only [show ¬0xF0 + n / 262144 < 0x80 by omega, if_false,
    show (decide (0xC2 ≤ 0xF0 + n / 262144) && decide (0xF0 + n / 262144 ≤ 0xDF)) = false by simp; omega,
    show (decide (0xE1 ≤ 0xF0 + n / 262144) && decide (0xF0 + n / 262144 ≤ 0xEF)) = false by simp; omega,
    beq_iff_eq]
  rw [if_neg (by decide), if_neg (by omega), if_neg (by omega), if_neg (by decide)]
  by_cases hfirst : n / 262144 = 0
  · rw [hfirst]
    exact ⟨0x90, 0xBF, by simp, by omega, by omega⟩
  · by_cases hlast : n / 262144 = 4
    · rw [hlast]
      exact ⟨0x80, 0x8F, by simp, by omega, by omega⟩
    · refine ⟨0x80, 0xBF, ?_, by omega, by omega⟩
      rw [if_neg (by omega), if_pos (by simp; omega), Nat.add_sub_cancel_left]

/-- A code point is no surrogate and within the range. -/
theorem toNat_char (c : Char) : c.toNat < 0xD800 ∨ 0xDFFF < c.toNat ∧ c.toNat < 0x110000 := c.valid

/-- The four lengths of a character in octets. -/
theorem encodeChar_cases (c : Char) :
    (c.toNat < 0x80 ∧ encodeChar c = [UInt8.ofNat c.toNat]) ∨
    (0x80 ≤ c.toNat ∧ c.toNat < 0x800 ∧
      encodeChar c = [UInt8.ofNat (0xC0 + c.toNat / 64), tailOctet c.toNat 0]) ∨
    (0x800 ≤ c.toNat ∧ c.toNat < 0x10000 ∧
      encodeChar c = [UInt8.ofNat (0xE0 + c.toNat / 4096), tailOctet c.toNat 1, tailOctet c.toNat 0]) ∨
    (0x10000 ≤ c.toNat ∧ encodeChar c =
      [UInt8.ofNat (0xF0 + c.toNat / 262144), tailOctet c.toNat 2, tailOctet c.toNat 1, tailOctet c.toNat 0]) := by
  unfold encodeChar
  by_cases hone : c.toNat < 0x80
  · exact .inl ⟨hone, if_pos hone⟩
  · rw [if_neg hone]
    by_cases htwo : c.toNat < 0x800
    · exact .inr (.inl ⟨by omega, htwo, if_pos htwo⟩)
    · rw [if_neg htwo]
      by_cases hthree : c.toNat < 0x10000
      · exact .inr (.inr (.inl ⟨by omega, hthree, if_pos hthree⟩))
      · exact .inr (.inr (.inr ⟨by omega, if_neg hthree⟩))

/-- **One character** is read from its octets, and reading goes on behind it. -/
theorem decodeFrom?_encodeChar (c : Char) (bs : Octets) :
    decodeFrom? .between (encodeChar c ++ bs) = (decodeFrom? .between bs).map (c :: ·) := by
  have hvalid := toNat_char c
  have hofNat : Char.ofNat c.toNat = c := Char.ofNat_toNat c
  rcases encodeChar_cases c with ⟨hone, h⟩ | ⟨hlo, hhi, h⟩ | ⟨hlo, hhi, h⟩ | ⟨hlo, h⟩
  · have hstep : step .between (UInt8.ofNat c.toNat) = some (.between, some c) := by
      rw [step, lead?, toNat_octet (n := c.toNat) (by omega)]
      simp only [hone, if_true, hofNat]
    rw [h]
    exact decodeFrom?_cons_done hstep
  · rw [h]
    show decodeFrom? .between (_ :: tailOctet c.toNat 0 :: bs) = _
    rw [decodeFrom?_cons_more (step_lead (lead?_two hlo hhi)),
      decodeFrom?_cons_done (step_tailOctet (by omega) (by omega)), hofNat]
  · obtain ⟨lo, hi, hlead, hlo', hhi'⟩ := lead?_three hlo hhi (by omega)
    rw [h]
    show decodeFrom? .between (_ :: tailOctet c.toNat 1 :: tailOctet c.toNat 0 :: bs) = _
    rw [decodeFrom?_cons_more (step_lead hlead), decodeFrom?_cons_more (step_tailOctet hlo' hhi'),
      decodeFrom?_cons_done (step_tailOctet (by omega) (by omega)), hofNat]
  · obtain ⟨lo, hi, hlead, hlo', hhi'⟩ := lead?_four (n := c.toNat) hlo (by omega)
    rw [h]
    show decodeFrom? .between
      (_ :: tailOctet c.toNat 2 :: tailOctet c.toNat 1 :: tailOctet c.toNat 0 :: bs) = _
    -- only the second octet has bounds of its own
    rw [decodeFrom?_cons_more (step_lead hlead), decodeFrom?_cons_more (step_tailOctet hlo' hhi'),
      decodeFrom?_cons_more (step_tailOctet (by omega) (by omega)),
      decodeFrom?_cons_done (step_tailOctet (by omega) (by omega)), hofNat]

/-! ## Texts -/

theorem encode_cons (c : Char) (t : Text) : encode (c :: t) = encodeChar c ++ encode t := rfl

theorem encode_append (s t : Text) : encode (s ++ t) = encode s ++ encode t := List.flatMap_append

/-- **Texts come back** from their octets. -/
theorem decode?_encode (t : Text) : decode? (encode t) = some t := by
  unfold decode?
  induction t with
  | nil => rfl
  | cons c t ih => rw [encode_cons, decodeFrom?_encodeChar, ih, Option.map_some]

/-- So no two texts have the same octets. -/
theorem encode_injective {s t : Text} (h : encode s = encode t) : s = t := by
  have hs := decode?_encode s
  rw [h, decode?_encode] at hs
  exact (Option.some.inj hs).symm

/-- All octets of a character beyond ASCII are beyond ASCII. -/
theorem le_of_mem_encodeChar {c : Char} {b : UInt8} (hc : 0x80 ≤ c.toNat) (hb : b ∈ encodeChar c) :
    0x80 ≤ b.toNat := by
  have hvalid := toNat_char c
  have htail (k : Nat) : 0x80 ≤ (tailOctet c.toNat k).toNat := by
    rw [toNat_tailOctet]
    omega
  rcases encodeChar_cases c with ⟨hone, h⟩ | ⟨hlo, hhi, h⟩ | ⟨hlo, hhi, h⟩ | ⟨hlo, h⟩
  · omega
  · rw [h, List.mem_cons, List.mem_singleton] at hb
    rcases hb with rfl | rfl
    · rw [toNat_octet (by omega)]; omega
    · exact htail 0
  · rw [h, List.mem_cons, List.mem_cons, List.mem_singleton] at hb
    rcases hb with rfl | rfl | rfl
    · rw [toNat_octet (by omega)]; omega
    · exact htail 1
    · exact htail 0
  · rw [h, List.mem_cons, List.mem_cons, List.mem_cons, List.mem_singleton] at hb
    rcases hb with rfl | rfl | rfl | rfl
    · rw [toNat_octet (by omega)]; omega
    · exact htail 2
    · exact htail 1
    · exact htail 0

/-- An octet of ASCII among the octets of a text is a character of the text. -/
theorem mem_encode_ascii {t : Text} {b : UInt8} (h : b ∈ encode t) (hb : b.toNat < 0x80) :
    Char.ofNat b.toNat ∈ t := by
  obtain ⟨c, hc, hbc⟩ := List.mem_flatMap.mp h
  by_cases hone : c.toNat < 0x80
  · unfold encodeChar at hbc
    rw [if_pos hone, List.mem_singleton] at hbc
    rw [hbc, toNat_octet (by omega), Char.ofNat_toNat]
    exact hc
  · have hle := le_of_mem_encodeChar (by omega) hbc
    omega

end Utf8

end RankSieve
