import RankSieve.Pattern
import RankSieve.Proofs.Decimals

/-!
# `RankSieve.Proofs.PlainPatterns` — plain text is a search for itself

A pattern without signs of the language is a sequence of letters up to case. It occurs in a text exactly
where, with both folded, the one is a piece of the other.

The search works on sets of places kept as bits of a number, all places at once. So the proof goes by what a
single bit says: bit `j` is set behind a sequence of sets exactly where some bit `i` was set before and the
characters from place `i` on belong to the sets one by one.

## Contents
- **Places.** `testBit_memberMask` for one set, `testBit_ends_sets` for a sequence by induction on it.
- **Sequences of sets.** `occursIn_sets_iff`: such a sequence occurs where some end of the text begins so.
- **Plain text.** `readFrom_plain_append` passes it, `read?_plain` reads it, and `plain_occursIn_iff` is the search.
- **Digits.** `compile_ofNat` and `ofNat_occursIn_iff`: numbers are patterns under any limit, and have no case.
-/

namespace RankSieve

/-! ## Places -/

/-- **One place** belongs to the mask of a set exactly where a member stands behind it. -/
theorem testBit_memberMask (s : CharSet) (t : Text) (i : Nat) :
    (memberMask s t).testBit i = (t[i]?).any s.mem := by
  induction t generalizing i with
  | nil => simp [memberMask]
  | cons c t ih =>
    have hbit : (s.mem c).toNat < 2 := Bool.toNat_lt _
    cases i with
    | zero =>
      rw [memberMask, Nat.testBit_zero]
      cases h : s.mem c <;> simp [h]
    | succ i =>
      have hhalf : (2 * memberMask s t + (s.mem c).toNat) / 2 = memberMask s t := by omega
      rw [memberMask, Nat.testBit_add_one, hhalf, ih, List.getElem?_cons_succ]

/-- From no place a pattern leads nowhere. -/
theorem Plan.ends_zero (n : Nat) (p : Plan) : p.ends n 0 = 0 := by
  have hrepeat (move : Nat → Nat) (hmove : move 0 = 0) (times : Nat) : repeatMove move times 0 = 0 := by
    cases times with
    | zero => rfl
    | succ times => rw [repeatMove]; simp [hmove]
  have hgather (move : Nat → Nat) (hmove : move 0 = 0) (times : Nat) : gatherMoves move times 0 = 0 := by
    cases times with
    | zero => rfl
    | succ times => rw [gatherMoves]; simp [hmove]
  induction p with
  | stay => rfl
  | advance mask => rfl
  | hold mask => rfl
  | seq a b iha ihb => simp [Plan.ends, iha]
  | alt a b iha ihb => simp [Plan.ends, iha, ihb]
  | loop a least most ih =>
    cases most with
    | none => simp only [Plan.ends, hrepeat _ ih, hgather _ ih]
    | some m => simp only [Plan.ends, hrepeat _ ih, hgather _ ih]

/-- A sequence is followed node by node. -/
theorem ends_seqAll_cons (t : Text) (n : Nat) (a : Node) (as : List Node) (places : Nat) :
    ((Node.seqAll (a :: as)).plan t).ends n places =
      ((Node.seqAll as).plan t).ends n ((a.plan t).ends n places) := by
  cases as with
  | nil => rfl
  | cons b bs =>
    show (if (a.plan t).ends n places = 0 then 0 else _) = _
    by_cases hzero : (a.plan t).ends n places = 0
    · rw [if_pos hzero, hzero, Plan.ends_zero]
    · rw [if_neg hzero]

/-- A set takes a place one further, if a member stands there. -/
theorem testBit_ends_set (s : CharSet) (t : Text) (n places j : Nat) :
    (((Node.set s).plan t).ends n places).testBit j = true ↔
      ∃ i, places.testBit i = true ∧ j = i + 1 ∧ (t[i]?).any s.mem = true := by
  have hends : ((Node.set s).plan t).ends n places = (places &&& memberMask s t) <<< 1 := by
    show (if places = 0 then 0 else (places &&& memberMask s t) <<< 1) = _
    by_cases hzero : places = 0
    · rw [if_pos hzero, hzero, Nat.zero_and, Nat.zero_shiftLeft]
    · rw [if_neg hzero]
  rw [hends, Nat.testBit_shiftLeft, Nat.testBit_and, testBit_memberMask, Bool.and_eq_true, Bool.and_eq_true,
    decide_eq_true_eq]
  constructor
  · rintro ⟨hj, hplace, hmem⟩
    exact ⟨j - 1, hplace, by omega, hmem⟩
  · rintro ⟨i, hplace, rfl, hmem⟩
    rw [Nat.add_sub_cancel]
    exact ⟨by omega, hplace, hmem⟩

/-! ## Sequences of sets -/

/-- A text begins with members of some sets, one of each. -/
def BeginsIn : List CharSet → Text → Prop
  | [],      _      => True
  | _ :: _,  []     => False
  | s :: ss, c :: t => s.mem c = true ∧ BeginsIn ss t

theorem beginsIn_drop (s : CharSet) (ss : List CharSet) (t : Text) (i : Nat) :
    BeginsIn (s :: ss) (t.drop i) ↔ (t[i]?).any s.mem = true ∧ BeginsIn ss (t.drop (i + 1)) := by
  by_cases hi : i < t.length
  · rw [List.drop_eq_getElem_cons hi, List.getElem?_eq_getElem hi]
    exact Iff.rfl
  · rw [List.drop_eq_nil_of_le (Nat.le_of_not_lt hi), List.getElem?_eq_none (Nat.le_of_not_lt hi)]
    constructor
    · intro h
      exact absurd h id
    · rintro ⟨h, -⟩
      exact absurd h Bool.false_ne_true

/-- **Where a sequence of sets leads.** By induction on the sets: each of them takes a place one further. -/
theorem testBit_ends_sets (t : Text) (n : Nat) (ss : List CharSet) (places j : Nat) :
    (((Node.seqAll (ss.map .set)).plan t).ends n places).testBit j = true ↔
      ∃ i, places.testBit i = true ∧ j = i + ss.length ∧ BeginsIn ss (t.drop i) := by
  induction ss generalizing places with
  | nil =>
    constructor
    · intro h
      exact ⟨j, h, rfl, True.intro⟩
    · rintro ⟨i, hi, rfl, -⟩
      exact hi
  | cons s ss ih =>
    rw [List.map_cons, ends_seqAll_cons, ih, List.length_cons]
    constructor
    · rintro ⟨k, hk, rfl, hrest⟩
      obtain ⟨i, hi, rfl, hmem⟩ := (testBit_ends_set s t n places k).mp hk
      exact ⟨i, hi, by omega, (beginsIn_drop s ss t i).mpr ⟨hmem, hrest⟩⟩
    · rintro ⟨i, hi, rfl, hbegins⟩
      obtain ⟨hmem, hrest⟩ := (beginsIn_drop s ss t i).mp hbegins
      exact ⟨i + 1, (testBit_ends_set s t n places (i + 1)).mpr ⟨i, hi, rfl, hmem⟩, by omega, hrest⟩

/-- **A sequence of sets occurs** in a text exactly where some end of the text begins with their members. -/
theorem occursIn_sets_iff (ss : List CharSet) (t : Text) :
    (Node.seqAll (ss.map .set)).occursIn t = true ↔ ∃ i ≤ t.length, BeginsIn ss (t.drop i) := by
  -- the search begins at all places at once, the end of the text among them
  have hall (i : Nat) : (Nat.pow 2 (t.length + 1) - 1).testBit i = true ↔ i ≤ t.length := by
    show (2 ^ (t.length + 1) - 1).testBit i = true ↔ _
    rw [Nat.testBit_two_pow_sub_one, decide_eq_true_eq, Nat.lt_succ_iff]
  unfold Node.occursIn
  rw [bne_iff_ne]
  constructor
  · intro hne
    obtain ⟨j, hj⟩ := Nat.exists_testBit_of_ne_zero hne
    obtain ⟨i, hi, -, hbegins⟩ := (testBit_ends_sets _ _ _ _ _).mp hj
    exact ⟨i, (hall i).mp hi, hbegins⟩
  · rintro ⟨i, hi, hbegins⟩ hzero
    have hbit := (testBit_ends_sets t t.length ss _ _).mpr ⟨i, (hall i).mpr hi, rfl, hbegins⟩
    rw [hzero, Nat.zero_testBit] at hbit
    exact absurd hbit Bool.false_ne_true

/-! ## Plain text -/

/-- What plain text asks for: its characters up to case, one after the other. -/
def plainNode (v : Text) : Node := .seqAll ((v.map fun c => CharSet.like (fold c)).map .set)

/-- Letters up to case begin a text exactly where both are folded alike. -/
theorem beginsIn_like_iff (v t : Text) :
    BeginsIn (v.map fun c => CharSet.like (fold c)) t ↔ v.map fold <+: t.map fold := by
  induction v generalizing t with
  | nil => simp [BeginsIn]
  | cons c v ih =>
    cases t with
    | nil => simp [BeginsIn]
    | cons d t =>
      rw [List.map_cons, List.map_cons, List.map_cons, List.cons_prefix_cons, ← ih t]
      show (fold d == fold c) = true ∧ _ ↔ _
      rw [beq_iff_eq, eq_comm]

/-- **Plain text is found** exactly where it is a piece of the text, up to case. -/
theorem plain_occursIn_iff (v t : Text) :
    (plainNode v).occursIn t = true ↔ v.map fold <:+: t.map fold := by
  unfold plainNode
  rw [occursIn_sets_iff, List.infix_iff_prefix_suffix]
  constructor
  · rintro ⟨i, -, hbegins⟩
    refine ⟨(t.drop i).map fold, (beginsIn_like_iff v _).mp hbegins, ?_⟩
    rw [List.map_drop]
    exact List.drop_suffix i _
  · rintro ⟨rest, hprefix, before, hbefore⟩
    have hdrop : (t.drop before.length).map fold = rest := by
      rw [List.map_drop, ← hbefore, List.drop_left]
    refine ⟨before.length, ?_, (beginsIn_like_iff v _).mpr (hdrop ▸ hprefix)⟩
    have hlength := congrArg List.length hbefore
    rw [List.length_append, List.length_map] at hlength
    omega

/-- The characters with which a sign of the language begins. -/
def signs : Text := "()|[?*+\x7b\\.^$".toList

/-- Text without signs. -/
def PlainText (v : Text) : Prop := ∀ c ∈ v, c ∉ signs

instance (v : Text) : Decidable (PlainText v) :=
  decidable_of_iff ((v.all fun c => !signs.contains c) = true) (by simp [PlainText])

theorem PlainText.append {u v : Text} (hu : PlainText u) (hv : PlainText v) : PlainText (u ++ v) := by
  intro c hc
  rcases List.mem_append.mp hc with hc | hc
  · exact hu c hc
  · exact hv c hc

/-- What is read of a plain character: a letter up to case. -/
def plainPart (c : Char) : Part := .node (.set (.like (fold c))) 0

namespace Reader

/-- A character that begins no sign is read as itself. -/
theorem step_plain [PatternLibrary] {r : Reader} {c : Char} (hr : r.options = .initial) (hc : c ∉ signs) (t : Text) :
    r.step c t = some (r.add (plainPart c), t) := by
  have hne : ∀ d ∈ signs, c ≠ d := by
    rintro d hd rfl
    exact hc hd
  have hliteral : literalNode? r.options c false = some (.set (.like (fold c))) := by
    rw [hr]
    rfl
  rw [step]
  · rw [hliteral]
    rfl
  all_goals exact hne _ (by decide)

/-- The reader behind plain text, with a part for each of its characters. -/
def passed (r : Reader) (v : Text) : Reader :=
  { r with scope := { r.scope with parts := (v.map plainPart).reverse ++ r.scope.parts } }

theorem passed_cons (r : Reader) (c : Char) (v : Text) :
    (r.add (plainPart c)).passed v = r.passed (c :: v) := by
  unfold passed
  rw [List.map_cons, List.reverse_cons, List.append_assoc]
  rfl

/-- **Plain text is passed** character by character, whatever stands behind it. -/
theorem readFrom_plain_append [PatternLibrary] {v : Text} {r : Reader} (hv : PlainText v) (hr : r.options = .initial)
    (fuel : Nat) (t : Text) : readFrom (fuel + v.length) r (v ++ t) = readFrom fuel (r.passed v) t := by
  induction v generalizing r with
  | nil => rfl
  | cons c v ih =>
    have hskip : r.options.skip (c :: (v ++ t)) = c :: (v ++ t) := by rw [hr]; rfl
    have hstep := step_plain hr (hv c List.mem_cons_self) (v ++ t)
    have hrest := ih (r := r.add (plainPart c)) (fun d hd => hv d (List.mem_cons_of_mem c hd)) hr
    show readFrom (fuel + v.length + 1) r (c :: (v ++ t)) = _
    rw [readFrom, hskip]
    show (r.step c (v ++ t)).bind _ = _
    rw [hstep]
    refine hrest.trans ?_
    rw [passed_cons]

/-- Plain text up to the end leaves the scope with its parts. -/
theorem readFrom_plain [PatternLibrary] {v : Text} {r : Reader} (hv : PlainText v) (hr : r.options = .initial)
    (houters : r.outers = []) : readFrom (v.length + 1) r v = some (r.passed v).scope.node := by
  have hend : readFrom 1 (r.passed v) [] = some (r.passed v).scope.node := by
    have hskip : (r.passed v).options.skip [] = [] := by
      show r.options.skip [] = []
      rw [hr]
      rfl
    rw [readFrom, hskip]
    show (if r.outers.isEmpty = true then some (r.passed v).scope.node else none) = _
    rw [houters]
    rfl
  have hpass := readFrom_plain_append hv hr 1 []
  rw [List.append_nil, hend, Nat.add_comm] at hpass
  exact hpass

end Reader

/-- Parts in sequence are nested one deeper than the deepest of them. -/
theorem branchOf_depth_le {parts : List Part} {depth : Nat} (hparts : ∀ p ∈ parts, p.depth ≤ depth) :
    (branchOf parts).depth ≤ depth + 1 := by
  have hmax (ds : List Nat) (start : Nat) (hstart : start ≤ depth) (hds : ∀ d ∈ ds, d ≤ depth) :
      ds.foldl max start ≤ depth := by
    induction ds generalizing start with
    | nil => exact hstart
    | cons d ds ih =>
      obtain ⟨hd, hds⟩ := List.forall_mem_cons.mp hds
      exact ih (max start d) (Nat.max_le.mpr ⟨hstart, hd⟩) hds
  have hdeepest : (parts.map Part.depth).foldl max 0 ≤ depth :=
    hmax _ 0 (Nat.zero_le depth) (List.forall_mem_map.mpr hparts)
  show (if parts.length < 2 then _ else _ + 1) ≤ depth + 1
  split
  · exact Nat.le_succ_of_le hdeepest
  · exact Nat.succ_le_succ hdeepest

/-- Plain characters are letters up to case. -/
theorem nodes_plain (v : Text) :
    (v.map plainPart).filterMap Part.node? = (v.map fun c => CharSet.like (fold c)).map Node.set := by
  rw [List.filterMap_map, List.map_map, ← List.filterMap_eq_map]
  rfl

theorem depth_plain {v : Text} {p : Part} (hp : p ∈ v.map plainPart) : p.depth = 0 := by
  obtain ⟨c, -, rfl⟩ := List.mem_map.mp hp
  rfl

/-- A text is the pattern that is read to its end, unless that is nested too deeply. -/
theorem read?_of_readFrom [PatternLibrary] {v : Text} {n : Nested Node}
    (hread : Reader.readFrom (v.length + 1) .start v = some n) (hdepth : n.depth ≤ greatestDepth) : Node.read? v = some n.value := by
  unfold Node.read?
  rw [hread]
  exact if_pos hdepth

/-- **Plain text is read** as its characters in sequence. -/
theorem read?_plain [PatternLibrary] {v : Text} (hv : PlainText v) : Node.read? v = some (plainNode v) := by
  have hread : Reader.readFrom (v.length + 1) .start v = some (branchOf (v.map plainPart).reverse) := by
    refine (Reader.readFrom_plain hv rfl rfl).trans ?_
    show some (branchOf ((v.map plainPart).reverse ++ [])) = _
    rw [List.append_nil]
  have hdepth : (branchOf (v.map plainPart).reverse).depth ≤ 1 :=
    branchOf_depth_le fun p hp => Nat.le_of_eq (depth_plain (List.mem_reverse.mp hp))
  have hvalue : (branchOf (v.map plainPart).reverse).value = plainNode v := by
    show Node.seqAll (((v.map plainPart).reverse.reverse).filterMap Part.node?) = _
    rw [List.reverse_reverse, nodes_plain]
    rfl
  rw [read?_of_readFrom hread (Nat.le_trans hdepth (by decide)), hvalue]

/-- A plain text that keeps to the limit is a pattern. -/
theorem compile_plain [PatternLibrary] {limit : Nat} {v : Text} (hv : PlainText v)
    (hfits : (⟨v, plainNode v⟩ : Pattern).fits limit = true) : Pattern.compile limit v = .ok ⟨v, plainNode v⟩ := by
  unfold Pattern.compile
  rw [read?_plain hv]
  show (if (⟨v, plainNode v⟩ : Pattern).fits limit = true then _ else _) = _
  rw [if_pos hfits]

/-! ## Digits -/

/-- A digit begins no sign and has no case. -/
theorem digit_plain {c : Char} (hc : c.isDigit = true) : c ∉ signs ∧ fold c = c ∧ orbit (fold c) = [c] := by
  have hall : ∀ n < 58, 48 ≤ n → Char.ofNat n ∉ signs ∧ fold (Char.ofNat n) = Char.ofNat n ∧
      orbit (fold (Char.ofNat n)) = [Char.ofNat n] := by decide
  obtain ⟨hlo, hhi⟩ := Char.isDigit_iff_toNat.mp hc
  have h := hall c.toNat (Nat.lt_succ_of_le hhi) hlo
  rwa [Char.ofNat_toNat] at h

/-- Digits are a pattern with one word, unless there are too many of them. -/
theorem allWords?_digits {v : Text} (hv : ∀ c ∈ v, c.isDigit = true) (hlength : v.length ≤ 100) :
    (plainNode v).allWords? = some [v] := by
  have hdigit {c : Char} (hc : c.isDigit = true) : (Node.set (.like (fold c))).allWords? = some [[c]] := by
    show (some ((orbit (fold c)).map ([·]))).filter _ = _
    rw [(digit_plain hc).2.2]
    rfl
  induction v with
  | nil => rfl
  | cons c v ih =>
    obtain ⟨hc, hv⟩ := List.forall_mem_cons.mp hv
    have hrest := ih hv (Nat.le_of_succ_le hlength)
    cases v with
    | nil => exact hdigit hc
    | cons d v =>
      show ((Node.set (.like (fold c))).allWords?.bind fun us => (plainNode (d :: v)).allWords?.bind fun vs =>
        Node.fewWords? (Node.crossWords us vs)) = _
      rw [hdigit hc, hrest]
      show (if _ then some [c :: d :: v] else none) = _
      refine if_pos ?_
      simpa [Node.crossWords] using hlength

/-- **Numbers of five digits are patterns** under any limit: they are searched for as words. -/
theorem compile_ofNat [PatternLibrary] {limit n : Nat} (hn : n < 100000) :
    Pattern.compile limit (Decimal.ofNat n) = .ok ⟨Decimal.ofNat n, plainNode (Decimal.ofNat n)⟩ := by
  have hdigits : ∀ c ∈ Decimal.ofNat n, c.isDigit = true := fun _ => Decimal.isDigit_of_mem_ofNat
  have hlength : (Decimal.ofNat n).length ≤ 5 := (Nat.length_toDigits_le_iff (by decide) (by decide)).mpr hn
  have hwords : (plainNode (Decimal.ofNat n)).words? = some [Decimal.ofNat n] := by
    unfold Node.words?
    rw [allWords?_digits hdigits (Nat.le_trans hlength (by decide))]
    have hne : (Decimal.ofNat n).isEmpty = false := List.isEmpty_eq_false_iff.mpr (Decimal.ofNat_ne_nil n)
    simp [hne]
  refine compile_plain (fun c hc => (digit_plain (hdigits c hc)).1) ?_
  unfold Pattern.fits
  rw [hwords, Option.isSome_some, Bool.or_true]

/-- **A number is found in a number** where its digits are a piece of the other's. -/
theorem ofNat_occursIn_iff (m n : Nat) :
    (plainNode (Decimal.ofNat m)).occursIn (Decimal.ofNat n) = true ↔ Decimal.ofNat m <:+: Decimal.ofNat n := by
  have hfold (k : Nat) : (Decimal.ofNat k).map fold = Decimal.ofNat k := by
    rw [List.map_congr_left fun c hc => (digit_plain (Decimal.isDigit_of_mem_ofNat hc)).2.1, List.map_id']
  rw [plain_occursIn_iff, hfold, hfold]

end RankSieve
