import RankSieve.Proofs.JsonValues

/-!
# `RankSieve.Proofs.JsonEnds` — JSON with a carriage return behind it

A line of a file is a record, and the carriage return behind it may or may not be part of the line. That
makes no difference to the row, since a carriage return is blank; but it stands at the end of what each
reader reads, so each has to be asked whether it would take it for something else.

Two runs of a reader are set side by side, one on a text with the carriage return behind it and one on the
text. They `Agree` if, where the first comes to an end, the second comes to the same end, with the carriage
return still behind what is left in the first. What is left is never longer than the text, and this is
carried along, since a reader that is bounded by the length of its text has a step less in the second run.

## Contents
- **Agreement.** `Agree` and its rules; `Behind` and `Same` are what texts and values agree in.
- **Words and strings**, **numbers**, **values that nobody asks for**: one lemma for each reader, named for it
  with `_cr`.
-/

namespace RankSieve.Json

/-! ## Agreement -/

/-- Two results agree where the first is no fault, if the second is none either and they are related. -/
def Agree {α β : Type} (R : α → β → Prop) (x : Except Fault α) (y : Except Fault β) : Prop :=
  ∀ a, x = .ok a → ∃ b, y = .ok b ∧ R a b

/-- A text of fewer than so many characters, with a carriage return behind it and without. -/
inductive Behind (n : Nat) : Text → Text → Prop where
  | mk (t : Text) : t.length < n → Behind n (t ++ ['\r']) t

/-- A value with the rest, which is of fewer than so many characters, with a carriage return behind it and
    without. -/
inductive Same {α : Type} (n : Nat) : α × Text → α × Text → Prop where
  | mk (a : α) (t : Text) : t.length < n → Same n (a, t ++ ['\r']) (a, t)

section

variable {α β γ δ : Type} {R : α → β → Prop} {S : γ → δ → Prop}

@[simp] theorem agree_error (f : Fault) (y : Except Fault β) : Agree R (.error f) y := fun _ h => nomatch h

@[simp] theorem agree_faultHere (cause : Cause) (rest : Text) (y : Except Fault β) :
    Agree R (faultHere cause rest) y := agree_error _ y

@[simp] theorem agree_faultNext (cause : Cause) (rest : Text) (y : Except Fault β) :
    Agree R (faultNext cause rest) y := agree_error _ y

theorem agree_ok {a : α} {b : β} (h : R a b) : Agree R (.ok a) (.ok b) := by
  rintro _ ⟨⟩
  exact ⟨b, rfl, h⟩

theorem Agree.bind {x : Except Fault α} {y : Except Fault β} {f : α → Except Fault γ} {g : β → Except Fault δ}
    (h : Agree R x y) (hfg : ∀ a b, R a b → Agree S (f a) (g b)) : Agree S (x >>= f) (y >>= g) := by
  cases x with
  | error e => exact agree_error e _
  | ok a =>
    obtain ⟨b, rfl, hab⟩ := h a rfl
    exact hfg a b hab

theorem Agree.map {x : Except Fault α} {y : Except Fault β} {f : α → γ} {g : β → δ}
    (h : Agree R x y) (hfg : ∀ a b, R a b → S (f a) (g b)) : Agree S (x.map f) (y.map g) := by
  cases x with
  | error e => exact agree_error e _
  | ok a =>
    obtain ⟨b, rfl, hab⟩ := h a rfl
    exact agree_ok (hfg a b hab)

theorem Agree.imp {R' : α → β → Prop} {x : Except Fault α} {y : Except Fault β} (h : Agree R x y)
    (himp : ∀ a b, R a b → R' a b) : Agree R' x y := by
  intro a ha
  obtain ⟨b, hb, hab⟩ := h a ha
  exact ⟨b, hb, himp a b hab⟩

end

theorem Agree.same_le {α : Type} {n m : Nat} {x y : Except Fault (α × Text)} (h : Agree (Same n) x y) (hnm : n ≤ m) :
    Agree (Same m) x y := by
  refine h.imp ?_
  rintro _ _ ⟨a, t, ht⟩
  exact ⟨a, t, Nat.lt_of_lt_of_le ht hnm⟩

theorem Agree.behind_le {n m : Nat} {x y : Except Fault Text} (h : Agree (Behind n) x y) (hnm : n ≤ m) :
    Agree (Behind m) x y := by
  refine h.imp ?_
  rintro _ t ⟨_, ht⟩
  exact ⟨t, Nat.lt_of_lt_of_le ht hnm⟩

/-! ## Words and strings -/

theorem readWord_cr {w : Text} (hw : '\r' ∉ w) (t : Text) :
    Agree (Behind (t.length + 1)) (readWord w (t ++ ['\r'])) (readWord w t) := by
  induction w generalizing t with
  | nil => exact agree_ok ⟨t, Nat.lt_succ_self _⟩
  | cons c w ih =>
    obtain ⟨hc, hw⟩ := not_or.mp (mt List.mem_cons.mpr hw)
    cases t with
    | nil => simp [readWord, hc]
    | cons d t =>
      by_cases hd : d = c
      · simpa [readWord, hd] using (ih hw t).behind_le (by simp)
      · simp [readWord, hd]

theorem hexDigit?_cr : Decimal.hexDigit? '\r' = none := by decide

/-- A carriage return is none of four hexadecimal digits. -/
theorem readHex?_cr (t : Text) : Decimal.readHex? (t ++ ['\r']) = none := by
  unfold Decimal.readHex?
  rw [List.foldlM_append]
  cases t.foldlM (fun n c => (Decimal.hexDigit? c).map (16 * n + ·)) 0 with
  | none => rfl
  | some n => simp [hexDigit?_cr]

theorem readFourDigits_cr (t : Text) :
    Agree (Same (t.length + 1)) (readFourDigits (t ++ ['\r'])) (readFourDigits t) := by
  unfold readFourDigits
  by_cases hlen : 4 ≤ t.length
  · rw [List.take_append_of_le_length hlen, List.drop_append_of_le_length hlen]
    split
    · simp
    · split
      · exact agree_ok ⟨_, _, by rw [List.length_drop]; omega⟩
      · simp
  · -- fewer than four characters: the carriage return would be one of the digits
    have htake : (t ++ ['\r']).take 4 = t ++ ['\r'] :=
      List.take_of_length_le (by rw [List.length_append, List.length_singleton]; omega)
    rw [htake, readHex?_cr]
    split <;> simp

theorem readTrailing_cr (leading : Nat) (t : Text) :
    Agree (Same (t.length + 1)) (readTrailing leading (t ++ ['\r'])) (readTrailing leading t) := by
  rcases t with _ | ⟨c, t⟩
  · simp [readTrailing]
  by_cases hc : c = '\\'
  · subst hc
    rcases t with _ | ⟨d, t⟩
    · simp [readTrailing]
    by_cases hd : d = 'u'
    · subst hd
      refine Agree.bind (readFourDigits_cr t) ?_
      rintro _ _ ⟨n, rest, hrest⟩
      dsimp only
      split
      · exact agree_ok ⟨_, _, by simp only [List.length_cons]; omega⟩
      · simp
    · simp [readTrailing, hd]
  · simp [readTrailing, hc]

theorem readEscape_cr (t : Text) : Agree (Same (t.length + 1)) (readEscape (t ++ ['\r'])) (readEscape t) := by
  rcases t with _ | ⟨c, t⟩
  · exact agree_faultNext _ _ _
  by_cases hc : c = 'u'
  · subst hc
    refine Agree.bind (readFourDigits_cr t) ?_
    rintro _ _ ⟨n, rest, hrest⟩
    dsimp only
    split
    · simp
    · split
      · exact (readTrailing_cr n rest).same_le (by simp only [List.length_cons]; omega)
      · exact agree_ok ⟨_, _, by simp only [List.length_cons]; omega⟩
  · cases hescaped : escapedChar? c with
    | none => simp [readEscape, hescaped]
    | some e =>
      have hread (u : Text) : readEscape (c :: u) = .ok (e, u) := by simp [readEscape, hescaped]
      rw [List.cons_append, hread, hread]
      exact agree_ok ⟨e, t, by simp only [List.length_cons]; omega⟩

/-- With enough steps for the text, a string is read in either run. -/
theorem readStringFrom_cr (fuel : Fuel) : ∀ {fuel' : Fuel} (before t : Text), t.length < fuel'.length →
    Agree (Same (t.length + 1)) (readStringFrom fuel before (t ++ ['\r'])) (readStringFrom fuel' before t) := by
  -- the steps of the first run carry the induction, and those of the second are enough for what is left
  induction fuel with
  | nil => intros; exact agree_faultHere _ _ _
  | cons x fuel ih =>
    intro fuel' before t hfuel
    rcases fuel' with _ | ⟨x', fuel'⟩
    · exact absurd hfuel (Nat.not_lt_zero _)
    rcases t with _ | ⟨c, t⟩
    · exact agree_faultNext _ _ _
    have hless : t.length < fuel'.length := by simpa using hfuel
    by_cases hquote : c = '"'
    · subst hquote
      exact agree_ok ⟨_, t, by simp only [List.length_cons]; omega⟩
    by_cases hslash : c = '\\'
    · subst hslash
      refine Agree.bind (readEscape_cr t) ?_
      rintro _ _ ⟨e, rest, hrest⟩
      exact (ih (e :: before) rest (by omega)).same_le (by simp only [List.length_cons]; omega)
    · have hstep (y : Char) (fuel : Fuel) (u : Text) : readStringFrom (y :: fuel) before (c :: u) =
          if c.toNat < 0x20 then faultNext .controlCharacter (c :: u) else readStringFrom fuel (c :: before) u := by
        rw [readStringFrom]
        · exact fun h => hquote h
        · exact fun h => hslash h
      rw [List.cons_append, hstep, hstep]
      by_cases hcontrol : c.toNat < 0x20
      · rw [if_pos hcontrol]
        exact agree_faultNext _ _ _
      · rw [if_neg hcontrol, if_neg hcontrol]
        exact (ih (c :: before) t hless).same_le (by simp)

theorem length_lt_fuel (t : Text) : t.length < t.fuel.length := Nat.lt_succ_self _

theorem readString_cr (t : Text) : Agree (Same (t.length + 1)) (readString (t ++ ['\r'])) (readString t) :=
  readStringFrom_cr _ [] t (length_lt_fuel t)

theorem skipEscape_cr (t : Text) : Agree (Behind (t.length + 1)) (skipEscape (t ++ ['\r'])) (skipEscape t) := by
  rcases t with _ | ⟨c, t⟩
  · exact agree_faultNext _ _ _
  by_cases hc : c = 'u'
  · subst hc
    refine Agree.map (readFourDigits_cr t) ?_
    rintro _ _ ⟨n, rest, hrest⟩
    exact ⟨rest, by simp only [List.length_cons]; omega⟩
  · cases hescaped : (escapedChar? c).isSome with
    | false => simp [skipEscape, hescaped]
    | true =>
      have hread (u : Text) : skipEscape (c :: u) = .ok u := by simp [skipEscape, hescaped]
      rw [List.cons_append, hread, hread]
      exact agree_ok ⟨t, by simp only [List.length_cons]; omega⟩

theorem skipStringFrom_cr (fuel : Fuel) : ∀ {fuel' : Fuel} (t : Text), t.length < fuel'.length →
    Agree (Behind (t.length + 1)) (skipStringFrom fuel (t ++ ['\r'])) (skipStringFrom fuel' t) := by
  induction fuel with
  | nil => intros; exact agree_faultHere _ _ _
  | cons x fuel ih =>
    intro fuel' t hfuel
    rcases fuel' with _ | ⟨x', fuel'⟩
    · exact absurd hfuel (Nat.not_lt_zero _)
    rcases t with _ | ⟨c, t⟩
    · exact agree_faultHere _ _ _
    have hless : t.length < fuel'.length := by simpa using hfuel
    by_cases hquote : c = '"'
    · subst hquote
      exact agree_ok ⟨t, by simp only [List.length_cons]; omega⟩
    by_cases hslash : c = '\\'
    · subst hslash
      refine Agree.bind (skipEscape_cr t) ?_
      rintro _ rest ⟨_, hrest⟩
      exact (ih rest (by omega)).behind_le (by simp only [List.length_cons]; omega)
    · have hstep (y : Char) (fuel : Fuel) (u : Text) : skipStringFrom (y :: fuel) (c :: u) =
          if c.toNat < 0x20 then faultHere .controlCharacter (c :: u) else skipStringFrom fuel u := by
        rw [skipStringFrom]
        · exact fun h => hquote h
        · exact fun h => hslash h
      rw [List.cons_append, hstep, hstep]
      by_cases hcontrol : c.toNat < 0x20
      · rw [if_pos hcontrol]
        exact agree_faultHere _ _ _
      · rw [if_neg hcontrol, if_neg hcontrol]
        exact (ih t hless).behind_le (by simp)

theorem skipString_cr (t : Text) : Agree (Behind (t.length + 1)) (skipString (t ++ ['\r'])) (skipString t) :=
  skipStringFrom_cr _ t (length_lt_fuel t)

/-! ## Numbers -/

theorem dropWhile_cr {p : Char → Bool} (hp : p '\r' = false) (t : Text) :
    (t ++ ['\r']).dropWhile p = t.dropWhile p ++ ['\r'] := by
  induction t with
  | nil => simp [hp]
  | cons c t ih => cases hc : p c <;> simp [hc, ih]

theorem takeWhile_cr {p : Char → Bool} (hp : p '\r' = false) (t : Text) :
    (t ++ ['\r']).takeWhile p = t.takeWhile p := by
  induction t with
  | nil => simp [hp]
  | cons c t ih => cases hc : p c <;> simp [hc, ih]

theorem spanDigits_cr (t : Text) : spanDigits (t ++ ['\r']) = ((spanDigits t).1, (spanDigits t).2 ++ ['\r']) := by
  unfold spanDigits
  rw [takeWhile_cr (by decide), dropWhile_cr (by decide)]

theorem length_spanDigits (t : Text) : (spanDigits t).2.length ≤ t.length :=
  (List.dropWhile_sublist _).length_le

theorem ofParts_cr (negative : Bool) (significand : Nat) (exponent : Int) (t : Text) :
    Agree (Same (t.length + 1)) (ofParts negative significand exponent (t ++ ['\r']))
      (ofParts negative significand exponent t) := by
  unfold ofParts
  split
  · exact agree_ok ⟨_, t, Nat.lt_succ_self _⟩
  · exact agree_faultHere _ _ _

/-- The digits of an exponent, after its sign. -/
def readExponentDigits (negative : Bool) (significand : Nat) (start : Int) (down : Bool) : Reads Number := fun t =>
  match t with
  | []     => faultHere .endInValue []
  | c :: _ =>
    if !c.isDigit then faultNext .invalidNumber t
    else
      let (digits, rest) := spanDigits t
      match appendDigits greatestExponent 0 0 digits with
      | (e, _, true)      =>
        let limit : Int := greatestExponent
        let exponent := if down then max (start - e) (-limit - 1) else min (start + e) limit
        ofParts negative significand exponent rest
      | (_, taken, false) =>
        if significand ≠ 0 && !down then faultHere .numberOutOfRange (t.drop (taken + 1))
        else .ok (.float negative .zero, rest)

/-- Without a sign all of the text is digits. -/
theorem readExponent_unsigned (negative : Bool) (significand : Nat) (start : Int) {c : Char} (t : Text)
    (hplus : c ≠ '+') (hminus : c ≠ '-') : readExponent negative significand start (c :: t) =
      readExponentDigits negative significand start false (c :: t) := by
  rw [readExponent]
  · rfl
  · exact fun _ h => hplus (List.cons.inj h).1
  · exact fun _ h => hminus (List.cons.inj h).1

section

variable (negative : Bool) (significand : Nat)

theorem readExponentDigits_cr (start : Int) (down : Bool) (t : Text) :
    Agree (Same (t.length + 1)) (readExponentDigits negative significand start down (t ++ ['\r']))
      (readExponentDigits negative significand start down t) := by
  rcases t with _ | ⟨c, t⟩
  · exact agree_faultNext _ _ _
  have hspan := spanDigits_cr (c :: t)
  have hlen := length_spanDigits (c :: t)
  rw [List.cons_append] at hspan ⊢
  unfold readExponentDigits
  dsimp only
  rw [hspan]
  split
  · exact agree_faultNext _ _ _
  · dsimp only
    split
    · exact (ofParts_cr _ _ _ _).same_le (by omega)
    · split
      · exact agree_faultHere _ _ _
      · exact agree_ok ⟨_, _, by omega⟩

theorem readExponent_cr (start : Int) (t : Text) :
    Agree (Same (t.length + 1)) (readExponent negative significand start (t ++ ['\r']))
      (readExponent negative significand start t) := by
  rcases t with _ | ⟨c, t⟩
  · exact agree_faultNext _ _ _
  by_cases hplus : c = '+'
  · subst hplus
    exact (readExponentDigits_cr negative significand start false t).same_le (by simp)
  by_cases hminus : c = '-'
  · subst hminus
    exact (readExponentDigits_cr negative significand start true t).same_le (by simp)
  rw [List.cons_append, readExponent_unsigned _ _ _ _ hplus hminus, readExponent_unsigned _ _ _ _ hplus hminus]
  exact readExponentDigits_cr negative significand start false (c :: t)

theorem readFloatEnd_cr (exponent : Int) (t : Text) :
    Agree (Same (t.length + 1)) (readFloatEnd negative significand exponent (t ++ ['\r']))
      (readFloatEnd negative significand exponent t) := by
  rcases t with _ | ⟨c, t⟩
  · exact ofParts_cr _ _ _ []
  by_cases he : c = 'e'
  · subst he
    exact (readExponent_cr _ _ _ t).same_le (by simp)
  by_cases hE : c = 'E'
  · subst hE
    exact (readExponent_cr _ _ _ t).same_le (by simp)
  simpa [readFloatEnd, he, hE] using ofParts_cr negative significand exponent (c :: t)

theorem readFraction_cr (exponent : Int) (t : Text) :
    Agree (Same (t.length + 1)) (readFraction negative significand exponent (t ++ ['\r']))
      (readFraction negative significand exponent t) := by
  have hspan := spanDigits_cr t
  have hlen := length_spanDigits t
  unfold readFraction
  rw [hspan]
  dsimp only
  split
  · cases (spanDigits t).2 with
    | nil => exact agree_faultNext _ _ _
    | cons c rest => exact agree_faultNext _ _ _
  · exact (readFloatEnd_cr _ _ _ _).same_le (by omega)

theorem readIntegerEnd_cr (t : Text) :
    Agree (Same (t.length + 1)) (readIntegerEnd negative significand (t ++ ['\r']))
      (readIntegerEnd negative significand t) := by
  rcases t with _ | ⟨c, t⟩
  · exact agree_ok ⟨_, [], by simp⟩
  by_cases hpoint : c = '.'
  · subst hpoint
    exact (readFraction_cr _ _ _ t).same_le (by simp)
  by_cases he : c = 'e'
  · subst he
    exact (readExponent_cr _ _ _ t).same_le (by simp)
  by_cases hE : c = 'E'
  · subst hE
    exact (readExponent_cr _ _ _ t).same_le (by simp)
  have hread (u : Text) : readIntegerEnd negative significand (c :: u) =
      .ok (ofSignificand negative significand, c :: u) := by simp [readIntegerEnd, hpoint, he, hE]
  rw [List.cons_append, hread, hread]
  exact agree_ok ⟨_, c :: t, by simp⟩

end

/-- A number, after its sign, takes a digit at least. -/
theorem readNumber_cr (negative : Bool) (t : Text) :
    Agree (Same (t.length + 1)) (readNumber negative (t ++ ['\r'])) (readNumber negative t) := by
  rcases t with _ | ⟨c, t⟩
  · exact agree_faultNext _ _ _
  by_cases hzero : c = '0'
  · subst hzero
    rcases t with _ | ⟨d, t⟩
    · exact (readIntegerEnd_cr negative 0 []).same_le (by simp)
    by_cases hd : d.isDigit = true
    · simp [readNumber, hd]
    · simpa [readNumber, hd] using (readIntegerEnd_cr negative 0 (d :: t)).same_le (by simp)
  · have hspan := spanDigits_cr (c :: t)
    have hlen := length_spanDigits (c :: t)
    rw [List.cons_append] at hspan ⊢
    cases hc : c.isDigit with
    | false => simp [readNumber, hc]
    | true =>
      rw [readNumber, readNumber, hc, hspan]
      · simp only [Bool.not_true, Bool.false_eq_true, if_false]
        split
        · exact (readIntegerEnd_cr _ _ _).same_le (by omega)
        · -- digits that were too many: a point, or an exponent, or nothing
          generalize (spanDigits (c :: t)).2 = rest at hlen ⊢
          rcases rest with _ | ⟨d, rest⟩
          · exact (readFloatEnd_cr _ _ _ []).same_le (by simp)
          by_cases hpoint : d = '.'
          · subst hpoint
            exact (readFraction_cr _ _ _ rest).same_le (by simp only [List.length_cons] at hlen ⊢; omega)
          · simpa [hpoint] using (readFloatEnd_cr _ _ _ (d :: rest)).same_le
              (by simp only [List.length_cons] at hlen ⊢; omega)
      · exact hzero
      · exact hzero

/-! ## Values that nobody asks for -/

theorem skipDigits_cr (t : Text) : skipDigits (t ++ ['\r']) = skipDigits t ++ ['\r'] :=
  dropWhile_cr (by decide) t

theorem length_skipDigits (t : Text) : (skipDigits t).length ≤ t.length := (List.dropWhile_sublist _).length_le

theorem length_skipDigits_cons {c : Char} (t : Text) (hc : c.isDigit = true) :
    (skipDigits (c :: t)).length ≤ t.length := by
  have hstep : skipDigits (c :: t) = skipDigits t := by simp [skipDigits, hc]
  rw [hstep]
  exact length_skipDigits t

/-- The digits of an exponent that nobody asks for, after its sign. -/
def skipExponentDigits (t : Text) : Except Fault Text :=
  match t with
  | []     => faultHere .invalidNumber []
  | c :: _ => if c.isDigit then .ok (skipDigits t) else faultNext .invalidNumber t

theorem skipExponent_unsigned {c : Char} (t : Text) (hplus : c ≠ '+') (hminus : c ≠ '-') :
    skipExponent (c :: t) = skipExponentDigits (c :: t) := by
  rw [skipExponent]
  · rfl
  · exact fun _ h => hplus (List.cons.inj h).1
  · exact fun _ h => hminus (List.cons.inj h).1

theorem skipExponentDigits_cr (t : Text) :
    Agree (Behind (t.length + 1)) (skipExponentDigits (t ++ ['\r'])) (skipExponentDigits t) := by
  rcases t with _ | ⟨c, t⟩
  · exact agree_faultNext _ _ _
  have hdigits := skipDigits_cr (c :: t)
  have hlen := length_skipDigits (c :: t)
  rw [List.cons_append] at hdigits ⊢
  unfold skipExponentDigits
  dsimp only
  rw [hdigits]
  split
  · exact agree_ok ⟨_, by omega⟩
  · exact agree_faultNext _ _ _

theorem skipExponent_cr (t : Text) :
    Agree (Behind (t.length + 1)) (skipExponent (t ++ ['\r'])) (skipExponent t) := by
  rcases t with _ | ⟨c, t⟩
  · exact agree_faultNext _ _ _
  by_cases hplus : c = '+'
  · subst hplus
    exact (skipExponentDigits_cr t).behind_le (by simp)
  by_cases hminus : c = '-'
  · subst hminus
    exact (skipExponentDigits_cr t).behind_le (by simp)
  rw [List.cons_append, skipExponent_unsigned _ hplus hminus, skipExponent_unsigned _ hplus hminus]
  exact skipExponentDigits_cr (c :: t)

theorem skipFloatEnd_cr (t : Text) :
    Agree (Behind (t.length + 1)) (skipFloatEnd (t ++ ['\r'])) (skipFloatEnd t) := by
  rcases t with _ | ⟨c, t⟩
  · exact agree_ok ⟨[], by simp⟩
  by_cases he : c = 'e'
  · subst he
    exact (skipExponent_cr t).behind_le (by simp)
  by_cases hE : c = 'E'
  · subst hE
    exact (skipExponent_cr t).behind_le (by simp)
  have hskip (u : Text) : skipFloatEnd (c :: u) = .ok (c :: u) := by simp [skipFloatEnd, he, hE]
  rw [List.cons_append, hskip, hskip]
  exact agree_ok ⟨c :: t, by simp⟩

theorem skipIntegerEnd_cr (t : Text) :
    Agree (Behind (t.length + 1)) (skipIntegerEnd (t ++ ['\r'])) (skipIntegerEnd t) := by
  rcases t with _ | ⟨c, t⟩
  · exact skipFloatEnd_cr []
  by_cases hpoint : c = '.'
  · subst hpoint
    rcases t with _ | ⟨d, t⟩
    · exact agree_faultNext _ _ _
    cases hd : d.isDigit with
    | false => simp [skipIntegerEnd, hd]
    | true =>
      have hskip (u : Text) : skipIntegerEnd ('.' :: d :: u) = skipFloatEnd (skipDigits (d :: u)) := by
        simp [skipIntegerEnd, hd]
      have hdigits := skipDigits_cr (d :: t)
      have hlen := length_skipDigits_cons t hd
      rw [List.cons_append] at hdigits
      rw [List.cons_append, List.cons_append, hskip, hskip, hdigits]
      exact (skipFloatEnd_cr _).behind_le (by simp only [List.length_cons]; omega)
  simpa [skipIntegerEnd, hpoint] using skipFloatEnd_cr (c :: t)

/-- A number that nobody asks for takes a digit at least. -/
theorem skipNumber_cr (t : Text) : Agree (Behind t.length) (skipNumber (t ++ ['\r'])) (skipNumber t) := by
  rcases t with _ | ⟨c, t⟩
  · exact agree_faultNext _ _ _
  by_cases hzero : c = '0'
  · subst hzero
    rcases t with _ | ⟨d, t⟩
    · exact skipFloatEnd_cr []
    cases hd : d.isDigit with
    | false => simpa [skipNumber, hd] using skipIntegerEnd_cr (d :: t)
    | true => simp [skipNumber, hd]
  · cases hc : c.isDigit with
    | false => simp [skipNumber, hc]
    | true =>
      have hskip (u : Text) : skipNumber (c :: u) = skipIntegerEnd (skipDigits (c :: u)) := by
        simp [skipNumber, hc]
      have hdigits := skipDigits_cr (c :: t)
      have hlen := length_skipDigits_cons t hc
      rw [List.cons_append] at hdigits
      rw [List.cons_append, hskip, hskip, hdigits]
      exact (skipIntegerEnd_cr _).behind_le (by simp only [List.length_cons]; omega)

/-- Passing blanks comes to the end in either run, or to the same character. -/
theorem skipBlanks_cr (t : Text) : (skipBlanks (t ++ ['\r']) = [] ∧ skipBlanks t = []) ∨
    ∃ c u, skipBlanks t = c :: u ∧ skipBlanks (t ++ ['\r']) = c :: (u ++ ['\r']) ∧ u.length < t.length := by
  induction t with
  | nil => exact .inl ⟨by decide, rfl⟩
  | cons c t ih =>
    cases hc : isJsonBlank c with
    | true =>
      have hstep (u : Text) : skipBlanks (c :: u) = skipBlanks u := by simp [skipBlanks, hc]
      rw [List.cons_append, hstep, hstep]
      refine ih.imp_right ?_
      rintro ⟨d, u, hd, hcr, hlen⟩
      exact ⟨d, u, hd, hcr, Nat.lt_succ_of_lt hlen⟩
    | false =>
      rw [List.cons_append, skipBlanks_cons hc, skipBlanks_cons hc]
      exact .inr ⟨c, t, rfl, rfl, Nat.lt_succ_self _⟩

theorem skipLeaf_cr (t : Text) : Agree (Behind t.length) (skipLeaf (t ++ ['\r'])) (skipLeaf t) := by
  rcases t with _ | ⟨c, t⟩
  · exact agree_faultNext _ _ _
  by_cases hn : c = 'n'
  · subst hn
    exact readWord_cr (by decide) t
  by_cases ht : c = 't'
  · subst ht
    exact readWord_cr (by decide) t
  by_cases hf : c = 'f'
  · subst hf
    exact readWord_cr (by decide) t
  by_cases hminus : c = '-'
  · subst hminus
    exact (skipNumber_cr t).behind_le (by simp)
  by_cases hquote : c = '"'
  · subst hquote
    exact skipString_cr t
  cases hc : c.isDigit with
  | false => simp [skipLeaf, hc]
  | true => simpa [skipLeaf, hn, ht, hf, hminus, hquote, hc] using skipNumber_cr (c :: t)

theorem passColon_cr (t : Text) : Agree (Behind t.length) (passColon (t ++ ['\r'])) (passColon t) := by
  unfold passColon
  rcases skipBlanks_cr t with ⟨h, -⟩ | ⟨c, u, h, hcr, hlen⟩
  · rw [h]
    exact agree_faultHere _ _ _
  rw [h, hcr]
  by_cases hcolon : c = ':'
  · subst hcolon
    exact agree_ok ⟨u, hlen⟩
  · simp [hcolon]

theorem skipKey_cr (t : Text) : Agree (Behind t.length) (skipKey (t ++ ['\r'])) (skipKey t) := by
  unfold skipKey
  rcases skipBlanks_cr t with ⟨h, -⟩ | ⟨c, u, h, hcr, hlen⟩
  · rw [h]
    exact agree_error _ _
  rw [h, hcr]
  split
  · exact agree_error _ _
  · next v hv =>
    obtain ⟨rfl, rfl⟩ := List.cons.inj hv
    refine Agree.bind (skipString_cr u) ?_
    rintro _ rest ⟨_, hrest⟩
    exact (passColon_cr rest).behind_le (by omega)
  · exact agree_error _ _

theorem skipToValue_cr (b : Bracket) (t : Text) :
    Agree (Behind (t.length + 1)) (skipToValue b (t ++ ['\r'])) (skipToValue b t) := by
  cases b with
  | list => exact agree_ok ⟨t, Nat.lt_succ_self _⟩
  | object => exact (skipKey_cr t).behind_le (Nat.le_succ _)

/-- The same place inside the same brackets, with a carriage return behind the rest and without. -/
inductive SameState (n : Nat) : SkipState → SkipState → Prop where
  | mk (stage : Stage) (brackets : List Bracket) (t : Text) :
      t.length < n → SameState n (stage, brackets, t ++ ['\r']) (stage, brackets, t)

theorem Agree.state_le {n m : Nat} {x y : Except Fault SkipState} (h : Agree (SameState n) x y) (hnm : n ≤ m) :
    Agree (SameState m) x y := by
  refine h.imp ?_
  rintro _ _ ⟨stage, brackets, t, ht⟩
  exact ⟨stage, brackets, t, Nat.lt_of_lt_of_le ht hnm⟩

theorem toValue_cr (b : Bracket) (outer : List Bracket) (t : Text) :
    Agree (SameState (t.length + 1)) ((skipToValue b (t ++ ['\r'])).map fun t => (.value, b :: outer, t))
      ((skipToValue b t).map fun t => (.value, b :: outer, t)) := by
  refine Agree.map (skipToValue_cr b t) ?_
  rintro _ rest ⟨_, hrest⟩
  exact ⟨_, _, rest, hrest⟩

theorem openBracket_cr (b : Bracket) (outer : List Bracket) (t : Text) :
    Agree (SameState (t.length + 1)) (openBracket b outer (t ++ ['\r'])) (openBracket b outer t) := by
  unfold openBracket
  rcases skipBlanks_cr t with ⟨h, -⟩ | ⟨c, u, h, hcr, hlen⟩
  · rw [h]
    exact agree_faultHere _ _ _
  rw [h, hcr]
  dsimp only
  split
  · exact agree_ok ⟨_, _, u, by omega⟩
  · exact (toValue_cr b outer (c :: u)).state_le (by simp only [List.length_cons]; omega)

/-- Inside a bracket, a character is passed. -/
theorem nextInBracket_cr (b : Bracket) (outer : List Bracket) (t : Text) :
    Agree (SameState t.length) (nextInBracket b outer (t ++ ['\r'])) (nextInBracket b outer t) := by
  unfold nextInBracket
  rcases skipBlanks_cr t with ⟨h, -⟩ | ⟨c, u, h, hcr, hlen⟩
  · rw [h]
    exact agree_faultHere _ _ _
  rw [h, hcr]
  dsimp only
  split
  · exact (toValue_cr b outer u).state_le (by omega)
  · split
    · exact agree_ok ⟨_, _, u, by omega⟩
    · exact agree_faultNext _ _ _

theorem beginValue_cr (outer : List Bracket) (t : Text) :
    Agree (SameState t.length) (beginValue outer (t ++ ['\r'])) (beginValue outer t) := by
  have hleaf (u : Text) : Agree (SameState u.length) ((skipLeaf (u ++ ['\r'])).map fun t => (.done, outer, t))
      ((skipLeaf u).map fun t => (.done, outer, t)) := by
    refine Agree.map (skipLeaf_cr u) ?_
    rintro _ rest ⟨_, hrest⟩
    exact ⟨_, _, rest, hrest⟩
  unfold beginValue
  rcases skipBlanks_cr t with ⟨h, -⟩ | ⟨c, u, h, hcr, hlen⟩
  · rw [h]
    exact agree_error _ _
  rw [h, hcr]
  by_cases hlist : c = '['
  · subst hlist
    exact (openBracket_cr .list outer u).state_le (by omega)
  by_cases hobject : c = '\x7b'
  · subst hobject
    exact (openBracket_cr .object outer u).state_le (by omega)
  · simpa [hlist, hobject] using (hleaf (c :: u)).state_le (by simp only [List.length_cons]; omega)

/-- Outside of all brackets nothing is passed any more. -/
theorem skipFrom_done (fuel : Fuel) (t : Text) : skipFrom fuel (.done, [], t) = .ok t := by
  cases fuel with
  | nil => rfl
  | cons x fuel => rfl

/-- With enough steps for the text, a value is passed in either run. -/
theorem skipFrom_cr (fuel : Fuel) : ∀ {fuel' : Fuel} (stage : Stage) (brackets : List Bracket) (t : Text),
    t.length < fuel'.length →
    Agree (Behind (t.length + 1)) (skipFrom fuel (stage, brackets, t ++ ['\r'])) (skipFrom fuel' (stage, brackets, t)) := by
  induction fuel with
  | nil =>
    intro fuel' stage brackets t _
    cases stage with
    | value => exact agree_faultHere _ _ _
    | done =>
      cases brackets with
      | nil =>
        rw [skipFrom_done, skipFrom_done]
        exact agree_ok ⟨t, Nat.lt_succ_self _⟩
      | cons b outer => exact agree_faultHere _ _ _
  | cons x fuel ih =>
    intro fuel' stage brackets t hfuel
    rcases fuel' with _ | ⟨x', fuel'⟩
    · exact absurd hfuel (Nat.not_lt_zero _)
    rw [List.length_cons] at hfuel
    -- a step passes a character at least, so a step less is enough behind it
    have hgo (s s' : SkipState) (hs : SameState t.length s s') :
        Agree (Behind (t.length + 1)) (skipFrom fuel s) (skipFrom fuel' s') := by
      obtain ⟨stage, brackets, rest, hrest⟩ := hs
      exact (ih stage brackets rest (by omega)).behind_le (by omega)
    cases stage with
    | value => exact Agree.bind (beginValue_cr brackets t) hgo
    | done =>
      cases brackets with
      | nil =>
        rw [skipFrom_done, skipFrom_done]
        exact agree_ok ⟨t, Nat.lt_succ_self _⟩
      | cons b outer => exact Agree.bind (nextInBracket_cr b outer t) hgo

theorem skipValue_cr (t : Text) : Agree (Behind (t.length + 1)) (skipValue (t ++ ['\r'])) (skipValue t) :=
  skipFrom_cr _ .value [] t (length_lt_fuel t)

end RankSieve.Json
