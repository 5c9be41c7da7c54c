import RankSieve.Proofs.JsonEnds

/-!
# `RankSieve.Proofs.RecordEnds` — a record with a carriage return behind it

The readers of a row, from its values to the record as a whole, come to the same row whether or not a
carriage return stands behind the record. The lemmas go on from those of the readers that they call, in the
order of the definitions.

## Contents
- **Values.** `mismatch_cr`: what is not what was expected is a fault in any case.
- **Objects and arrays.** `readMembersFrom_cr` and `readElements_cr` by induction on the members.
- **Records.** `decodeRow_of_cr`.
-/

namespace RankSieve.Json

/-! ## Values -/

section

variable {α β : Type} {R : α → β → Prop}

theorem agree_of_faults {γ : Type} {x : Except Fault γ} {f : γ → Except Fault α} {y : Except Fault β}
    (h : ∀ a, ∃ e, f a = .error e) : Agree R (x >>= f) y := by
  cases x with
  | error e => exact agree_error e y
  | ok a =>
    obtain ⟨e, he⟩ := h a
    show Agree R (f a) y
    rw [he]
    exact agree_error e y

/-- What is not what was expected is a fault in any case. -/
theorem mismatch_cr (expected t : Text) (y : Except Fault β) : Agree R (mismatch expected t) y := by
  unfold mismatch
  dsimp only
  split
  · exact agree_faultNext _ _ _
  · exact agree_of_faults fun rest => ⟨_, rfl⟩
  · exact agree_of_faults fun rest => ⟨_, rfl⟩
  · exact agree_of_faults fun rest => ⟨_, rfl⟩
  · exact agree_of_faults fun rest => ⟨_, rfl⟩
  · exact agree_of_faults fun rest => ⟨_, rfl⟩
  · exact agree_faultHere _ _ _
  · exact agree_faultHere _ _ _
  · split
    · exact agree_of_faults fun rest => ⟨_, rfl⟩
    · exact agree_faultNext _ _ _

end

section

variable (least greatest : Int) (expected : Text)

theorem boundedInt_cr (n : Number) (t : Text) :
    Agree (Same (t.length + 1)) (boundedInt least greatest expected n (t ++ ['\r']))
      (boundedInt least greatest expected n t) := by
  cases n with
  | integer n =>
    unfold boundedInt
    dsimp only
    split
    · exact agree_ok ⟨n, t, Nat.lt_succ_self _⟩
    · exact agree_faultHere _ _ _
  | float negative d => exact agree_faultHere _ _ _

theorem readBounded_cr (t : Text) :
    Agree (Same (t.length + 1)) (readBounded least greatest expected (t ++ ['\r']))
      (readBounded least greatest expected t) := by
  unfold readBounded
  rcases skipBlanks_cr t with ⟨h, -⟩ | ⟨c, u, h, hcr, hlen⟩
  · rw [h]
    exact agree_faultHere _ _ _
  rw [h, hcr]
  have hnumber (negative : Bool) (v : Text) (hv : v.length ≤ t.length) : Agree (Same (t.length + 1))
      (readNumber negative (v ++ ['\r']) >>= fun p => boundedInt least greatest expected p.1 p.2)
      (readNumber negative v >>= fun p => boundedInt least greatest expected p.1 p.2) := by
    refine Agree.bind (readNumber_cr negative v) ?_
    rintro _ _ ⟨n, rest, hrest⟩
    exact (boundedInt_cr least greatest expected n rest).same_le (by omega)
  by_cases hminus : c = '-'
  · subst hminus
    exact hnumber true u (by omega)
  cases hc : c.isDigit with
  | false => simpa [hminus, hc] using mismatch_cr expected _ _
  | true => simpa [hminus, hc] using hnumber false (c :: u) (by simp only [List.length_cons]; omega)

end

theorem readRank_cr (t : Text) : Agree (Same (t.length + 1)) (readRank (t ++ ['\r'])) (readRank t) := by
  refine Agree.map (readBounded_cr _ _ _ t) ?_
  rintro _ _ ⟨n, rest, hrest⟩
  exact ⟨_, rest, hrest⟩

theorem readStatus_cr (t : Text) : Agree (Same (t.length + 1)) (readStatus (t ++ ['\r'])) (readStatus t) := by
  refine Agree.map (readBounded_cr _ _ _ t) ?_
  rintro _ _ ⟨n, rest, hrest⟩
  exact ⟨_, rest, hrest⟩

theorem readText_cr (t : Text) : Agree (Same (t.length + 1)) (readText (t ++ ['\r'])) (readText t) := by
  unfold readText
  rcases skipBlanks_cr t with ⟨h, -⟩ | ⟨c, u, h, hcr, hlen⟩
  · rw [h]
    exact agree_faultHere _ _ _
  rw [h, hcr]
  by_cases hquote : c = '"'
  · subst hquote
    exact (readString_cr u).same_le (by omega)
  · simpa [hquote] using mismatch_cr _ _ _

theorem readOptionalText_cr (t : Text) :
    Agree (Same (t.length + 1)) (readOptionalText (t ++ ['\r'])) (readOptionalText t) := by
  unfold readOptionalText
  rcases skipBlanks_cr t with ⟨h, -⟩ | ⟨c, u, h, hcr, hlen⟩
  · rw [h]
    exact agree_error _ _
  rw [h, hcr]
  by_cases hnull : c = 'n'
  · subst hnull
    refine Agree.map (readWord_cr (by decide) u) ?_
    rintro _ rest ⟨_, hrest⟩
    exact ⟨none, rest, by omega⟩
  · have hsome : Agree (Same (t.length + 1)) ((readText (c :: u ++ ['\r'])).map fun p => (some p.1, p.2))
        ((readText (c :: u)).map fun p => (some p.1, p.2)) := by
      refine Agree.map (readText_cr (c :: u)) ?_
      rintro _ _ ⟨s, rest, hrest⟩
      exact ⟨some s, rest, by simp only [List.length_cons] at hrest; omega⟩
    simpa [hnull] using hsome

/-! ## Objects and arrays -/

theorem nextElement_cr (first : Bool) (t : Text) :
    Agree (Same (t.length + 1)) (nextElement first (t ++ ['\r'])) (nextElement first t) := by
  unfold nextElement
  rcases skipBlanks_cr t with ⟨h, -⟩ | ⟨c, u, h, hcr, hlen⟩
  · rw [h]
    exact agree_faultHere _ _ _
  rw [h, hcr]
  by_cases hclose : c = ']'
  · subst hclose
    exact agree_ok ⟨false, ']' :: u, by simp only [List.length_cons]; omega⟩
  simp only
  split
  · exact agree_ok ⟨true, c :: u, by simp only [List.length_cons]; omega⟩
  split
  · rcases skipBlanks_cr u with ⟨h, -⟩ | ⟨d, v, h, hcr, hlen'⟩
    · rw [h]
      exact agree_faultHere _ _ _
    rw [h, hcr]
    by_cases hd : d = ']'
    · subst hd
      exact agree_faultNext _ _ _
    · have helement : Agree (Same (t.length + 1)) (Except.ok (true, (d :: v) ++ ['\r'])) (.ok (true, d :: v)) :=
        agree_ok ⟨true, d :: v, by simp only [List.length_cons]; omega⟩
      simpa [hd] using helement
  · exact agree_faultNext _ _ _

theorem endArray_cr (t : Text) : Agree (Behind (t.length + 1)) (endArray (t ++ ['\r'])) (endArray t) := by
  unfold endArray
  rcases skipBlanks_cr t with ⟨h, -⟩ | ⟨c, u, h, hcr, hlen⟩
  · rw [h]
    exact agree_faultHere _ _ _
  rw [h, hcr]
  by_cases hclose : c = ']'
  · subst hclose
    exact agree_ok ⟨u, by omega⟩
  by_cases hcomma : c = ','
  · subst hcomma
    simp only
    split
    · exact agree_faultNext _ _ _
    · exact agree_faultNext _ _ _
  · simp [hclose, hcomma]

theorem nextKey_cr (first : Bool) (t : Text) :
    Agree (Same (t.length + 1)) (nextKey first (t ++ ['\r'])) (nextKey first t) := by
  have hkey (u : Text) (hu : u.length ≤ t.length) :
      Agree (Same (t.length + 1)) (nextKey.key (u ++ ['\r'])) (nextKey.key u) := by
    refine Agree.map (readString_cr u) ?_
    rintro _ _ ⟨k, rest, hrest⟩
    exact ⟨_, rest, by omega⟩
  unfold nextKey
  rcases skipBlanks_cr t with ⟨h, -⟩ | ⟨c, u, h, hcr, hlen⟩
  · rw [h]
    exact agree_faultHere _ _ _
  rw [h, hcr]
  by_cases hclose : c = '\x7d'
  · subst hclose
    exact agree_ok ⟨none, '\x7d' :: u, by simp only [List.length_cons]; omega⟩
  simp only
  split
  · split
    · exact hkey u (by omega)
    · exact agree_faultNext _ _ _
  split
  · rcases skipBlanks_cr u with ⟨h, -⟩ | ⟨d, v, h, hcr, hlen'⟩
    · rw [h]
      exact agree_faultHere _ _ _
    rw [h, hcr]
    by_cases hquote : d = '"'
    · subst hquote
      exact hkey v (by omega)
    by_cases hd : d = '\x7d'
    · subst hd
      exact agree_faultNext _ _ _
    · simp [hquote, hd]
  · exact agree_faultNext _ _ _

theorem PartialRow.read_cr (r : PartialRow) (m : Member) (t : Text) :
    Agree (Same (t.length + 1)) (r.read m (t ++ ['\r'])) (r.read m t) := by
  cases m with
  | rank =>
    refine Agree.map (readRank_cr t) ?_
    rintro _ _ ⟨v, rest, hrest⟩
    exact ⟨_, rest, hrest⟩
  | method | url =>
    refine Agree.map (readText_cr t) ?_
    rintro _ _ ⟨v, rest, hrest⟩
    exact ⟨_, rest, hrest⟩
  | status =>
    refine Agree.map (readStatus_cr t) ?_
    rintro _ _ ⟨v, rest, hrest⟩
    exact ⟨_, rest, hrest⟩
  | exchange =>
    refine Agree.map (readOptionalText_cr t) ?_
    rintro _ _ ⟨v, rest, hrest⟩
    exact ⟨_, rest, hrest⟩

/-- With enough steps for the text, the members of a row are read in either run. -/
theorem readMembersFrom_cr (fuel : Fuel) : ∀ {fuel' : Fuel} (first : Bool) (r : PartialRow) (t : Text),
    t.length < fuel'.length →
    Agree (Same (t.length + 1)) (readMembersFrom fuel first r (t ++ ['\r'])) (readMembersFrom fuel' first r t) := by
  induction fuel with
  | nil => intros; exact agree_faultHere _ _ _
  | cons x fuel ih =>
    intro fuel' first r t hfuel
    rcases fuel' with _ | ⟨x', fuel'⟩
    · exact absurd hfuel (Nat.not_lt_zero _)
    rw [List.length_cons] at hfuel
    refine Agree.bind (nextKey_cr first t) ?_
    rintro _ _ ⟨key, u, hu⟩
    cases key with
    | none =>
      -- the object is closed, and the row is whole or it is not
      dsimp only
      split
      · exact agree_ok ⟨_, u, hu⟩
      · exact agree_faultHere _ _ _
    | some k =>
      dsimp only
      split
      · -- a key that nobody asks for
        refine Agree.bind (passColon_cr u) ?_
        rintro _ v ⟨_, hv⟩
        refine Agree.bind (skipValue_cr v) ?_
        rintro _ rest ⟨_, hrest⟩
        exact (ih false r rest (by omega)).same_le (by omega)
      · -- a member of the row, which is not to come twice
        split
        · exact agree_faultHere _ _ _
        · refine Agree.bind (passColon_cr u) ?_
          rintro _ v ⟨_, hv⟩
          refine Agree.bind (r.read_cr _ v) ?_
          rintro _ _ ⟨r', rest, hrest⟩
          exact (ih false r' rest (by omega)).same_le (by omega)

theorem readElements_cr (ms : List Member) : ∀ (number : Nat) (r : PartialRow) (t : Text),
    Agree (Same (t.length + 1)) (readElements number ms r (t ++ ['\r'])) (readElements number ms r t) := by
  induction ms with
  | nil =>
    intro number r t
    unfold readElements
    split
    · exact agree_ok ⟨_, t, Nat.lt_succ_self _⟩
    · exact agree_faultHere _ _ _
  | cons m ms ih =>
    intro number r t
    refine Agree.bind (nextElement_cr (number = 0) t) ?_
    rintro _ _ ⟨more, u, hu⟩
    cases more with
    | true =>
      refine Agree.bind (r.read_cr m u) ?_
      rintro _ _ ⟨r', rest, hrest⟩
      exact (ih (number + 1) r' rest).same_le (by omega)
    | false =>
      simp only [Bool.false_eq_true, if_false]
      split
      · exact agree_ok ⟨_, u, hu⟩
      · exact agree_faultHere _ _ _

/-! ## Records -/

/-- The same value, and nothing but blanks behind it in the second run where there is nothing else in the
    first. -/
def SameValue {α : Type} (p q : α × Text) : Prop := p.1 = q.1 ∧ (skipBlanks p.2 = [] → skipBlanks q.2 = [])

theorem skipBlanks_of_cr {t : Text} (h : skipBlanks (t ++ ['\r']) = []) : skipBlanks t = [] := by
  rcases skipBlanks_cr t with ⟨-, ht⟩ | ⟨c, u, -, hcr, -⟩
  · exact ht
  · rw [hcr] at h
    cases h

theorem readObject_cr (t : Text) : Agree SameValue (readObject (t ++ ['\r'])) (readObject t) := by
  refine Agree.bind (readMembersFrom_cr _ true .empty t (length_lt_fuel t)) ?_
  rintro _ _ ⟨row, u, -⟩
  refine agree_ok ⟨rfl, fun hblank => ?_⟩
  dsimp only at hblank ⊢
  -- a character more is dropped in either run: the bracket that closes the object
  rcases skipBlanks_cr u with ⟨-, h⟩ | ⟨c, v, h, hcr, -⟩
  · rw [h]
    rfl
  · rw [hcr] at hblank
    rw [h]
    exact skipBlanks_of_cr hblank

theorem readTuple_cr (t : Text) : Agree SameValue (readTuple (t ++ ['\r'])) (readTuple t) := by
  refine Agree.bind (readElements_cr _ 0 .empty t) ?_
  rintro _ _ ⟨row, u, -⟩
  refine Agree.bind (endArray_cr u) ?_
  rintro _ rest ⟨_, -⟩
  exact agree_ok ⟨rfl, skipBlanks_of_cr⟩

theorem readRow_cr (t : Text) : Agree SameValue (readRow (t ++ ['\r'])) (readRow t) := by
  unfold readRow
  rcases skipBlanks_cr t with ⟨h, -⟩ | ⟨c, u, h, hcr, -⟩
  · rw [h]
    exact agree_faultHere _ _ _
  rw [h, hcr]
  by_cases hobject : c = '\x7b'
  · subst hobject
    exact readObject_cr u
  by_cases harray : c = '['
  · subst harray
    exact readTuple_cr u
  · simpa [hobject, harray] using mismatch_cr _ _ _

/-- **A carriage return behind a record** is not part of it. -/
theorem decodeRow_of_cr {t : Text} {row : Row} (h : decodeRow (t ++ ['\r']) = .ok row) : decodeRow t = .ok row := by
  have hdecode : Agree Eq (decodeRow (t ++ ['\r'])) (decodeRow t) := by
    refine Agree.bind (readRow_cr t) ?_
    rintro ⟨row, rest⟩ ⟨_, rest'⟩ ⟨rfl, hblank⟩
    dsimp only at hblank ⊢
    -- what is left of the first run is all blank, or it is no record
    cases hrest : skipBlanks rest with
    | nil =>
      rw [hblank hrest]
      exact agree_ok rfl
    | cons c u => exact agree_faultNext _ _ _
  obtain ⟨_, hok, rfl⟩ := hdecode row h
  exact hok

end RankSieve.Json
