import RankSieve.Proofs.QuickConditions

/-!
# `RankSieve.Proofs.NumericTerms` — comparisons with numbers of any size

A number behind a comparison sign may carry a sign of its own, zeros in front of it and blanks around it, and it
may have as many digits as one likes. As long as it lies within 32 bits, the condition compares the field
with the number that is written.

A number beyond them is not compared with. Like any other text it becomes a pattern, and a pattern that begins
with a comparison sign occurs in no number. So the condition holds of no row at all, even where the comparison
itself would hold of every row.

## Contents
- **Written numbers.** `Numeral` is a number as it may be written, `readInt32?_text` how it is read.
- **Comparisons.** `read?_compared`: a sign and a number are a comparison exactly within the bounds.
- **Patterns that cannot occur.** `Node.Blocked` nodes lead nowhere; `read?_signed` reads a number behind other
  characters and finds the first of them indispensable.
- **The main result.** `compile_numeral` for the numbers on both sides of the bounds.
-/

namespace RankSieve

/-! ## Written numbers -/

/-- The sign that a number carries. -/
inductive Sign where
  | none
  | plus
  | minus
  deriving DecidableEq

namespace Sign

def text : Sign → Text
  | .none  => []
  | .plus  => ['+']
  | .minus => ['-']

/-- The number of some size with the sign. -/
def apply : Sign → Nat → Int
  | .minus, size => -(size : Int)
  | _,      size => size

end Sign

/-- A whole number as it may be written: any number of digits, zeros in front among them. -/
structure Numeral where
  sign    : Sign
  digits  : Text
  ne_nil  : digits ≠ []
  isDigit : ∀ c ∈ digits, c.isDigit = true

namespace Numeral

def text (n : Numeral) : Text := n.sign.text ++ n.digits

/-- The number that is written. -/
def value (n : Numeral) : Int := n.sign.apply (Nat.ofDigitChars 10 n.digits 0)

/-- The number lies within 32 bits, so that it can be compared with. -/
def Fits (n : Numeral) : Prop := -2147483648 ≤ n.value ∧ n.value ≤ 2147483647

instance (n : Numeral) : Decidable n.Fits := inferInstanceAs (Decidable (_ ∧ _))

theorem mem_text {n : Numeral} {c : Char} (hc : c ∈ n.text) : c.isDigit = true ∨ c = '+' ∨ c = '-' := by
  rcases List.mem_append.mp hc with hc | hc
  · cases hsign : n.sign with
    | none => rw [hsign] at hc; exact absurd hc List.not_mem_nil
    | plus => rw [hsign] at hc; exact .inr (.inl (List.mem_singleton.mp hc))
    | minus => rw [hsign] at hc; exact .inr (.inr (List.mem_singleton.mp hc))
  · exact .inl (n.isDigit c hc)

theorem solid_text (n : Numeral) : Solid n.text := by
  constructor
  · exact List.append_ne_nil_of_right_ne_nil _ n.ne_nil
  · intro c hc
    rcases mem_text hc with hdigit | rfl | rfl
    · exact Decimal.isBlank_of_isDigit hdigit
    · decide
    · decide

/-- Between the blanks around a number, and in it, there is no equals sign. -/
theorem equals_not_mem (n : Numeral) {b b' : Text} (hb : Blank b) (hend : Blank b') :
    '=' ∉ b ++ (n.text ++ b') := by
  intro h
  rw [List.mem_append, List.mem_append] at h
  rcases h with h | h | h
  · exact absurd (hb '=' h) (by decide)
  · exact absurd (mem_text h) (by decide)
  · exact absurd (hend '=' h) (by decide)

/-- **A written number is read as its value**, with any number of digits. -/
theorem readInt?_text (n : Numeral) : Decimal.readInt? n.text = some n.value := by
  obtain ⟨sign, digits, hne, hdigits⟩ := n
  have hread := Decimal.readDigits?_digits hne hdigits
  cases sign with
  | none => exact Decimal.readInt?_digits hne hdigits
  | plus =>
    show (Decimal.readDigits? digits).map Int.ofNat = _
    rw [hread]
    rfl
  | minus =>
    show (Decimal.readDigits? digits).map (fun size => -(size : Int)) = _
    rw [hread]
    rfl

theorem readInt32?_text (n : Numeral) :
    Decimal.readInt32? n.text = if n.Fits then some (Int32.ofInt n.value) else none := by
  unfold Decimal.readInt32? Decimal.readBounded?
  rw [readInt?_text, Option.filter_some]
  by_cases hfits : n.Fits
  · have hbounds : (decide (-2147483648 ≤ n.value) && decide (n.value ≤ 2147483647)) = true := by
      rw [decide_eq_true hfits.1, decide_eq_true hfits.2]
      rfl
    rw [if_pos hbounds, if_pos hfits]
    rfl
  · have hbounds : ¬(decide (-2147483648 ≤ n.value) && decide (n.value ≤ 2147483647)) = true := by
      rw [Bool.and_eq_true, decide_eq_true_eq, decide_eq_true_eq]
      exact hfits
    rw [if_neg hbounds, if_neg hfits]
    rfl

theorem Fits.toInt_ofInt {n : Numeral} (hn : n.Fits) : (Int32.ofInt n.value).toInt = n.value :=
  Int32.toInt_ofInt_of_le hn.1 (Int.lt_add_one_of_le hn.2)

end Numeral

/-! ## Comparisons -/

namespace Comparator

/-- What a comparator says of two numbers. -/
def Relates : Comparator → Int → Int → Prop
  | .atLeast, actual, target => actual ≥ target
  | .atMost,  actual, target => actual ≤ target
  | .above,   actual, target => actual > target
  | .below,   actual, target => actual < target

theorem holds_iff (op : Comparator) (actual target : Int) :
    op.holds actual target = true ↔ op.Relates actual target := by
  cases op <;> exact decide_eq_true_iff

/-- The character that the sign begins with. -/
def first : Comparator → Char
  | .atLeast | .above => '>'
  | .atMost  | .below => '<'

theorem sign_eq (op : Comparator) : op.sign = op.first :: op.sign.tail := by cases op <;> rfl

theorem solid_sign (op : Comparator) : Solid op.sign := by cases op <;> decide

theorem plain_sign (op : Comparator) : PlainText op.sign := by cases op <;> decide

/-- A sign is read whole, if it does not go on in what stands behind it. -/
theorem read?_sign (op : Comparator) {rest : Text} (hrest : '=' ∉ rest) :
    read? (op.sign ++ rest) = some (op, rest) := by
  cases op with
  | atLeast => rfl
  | atMost => rfl
  | above | below =>
    cases rest with
    | nil => rfl
    | cons d rest =>
      have hd : d ≠ '=' := by rintro rfl; exact hrest List.mem_cons_self
      simp [sign, read?, hd]

end Comparator

/-- **A sign and a number** are a comparison with that number where 32 bits hold it, and none otherwise. -/
theorem Comparison.read?_compared {b : Text} (op : Comparator) (hb : Blank b) (n : Numeral) :
    Comparison.read? (op.sign ++ (b ++ n.text)) =
      if n.Fits then some ⟨op, Int32.ofInt n.value⟩ else none := by
  have hequals : '=' ∉ b ++ n.text := by
    have h := n.equals_not_mem hb blank_nil
    rwa [List.append_nil] at h
  have htrim : (b ++ n.text).trim = n.text := by
    have h := trim_around hb n.solid_text blank_nil
    rwa [List.append_nil] at h
  unfold Comparison.read?
  rw [Comparator.read?_sign op hequals]
  show (Decimal.readInt32? (b ++ n.text).trim).bind _ = _
  rw [htrim, n.readInt32?_text]
  by_cases hfits : n.Fits
  · rw [if_pos hfits, if_pos hfits]
    rfl
  · rw [if_neg hfits, if_neg hfits]
    rfl

/-! ## Patterns that cannot occur -/

/-- The node leads nowhere, from whatever places of the text. -/
def Node.Blocked (t : Text) (a : Node) : Prop := ∀ places, (a.plan t).ends t.length places = 0

namespace Node.Blocked

variable {t : Text} {a : Node}

/-- A letter that does not stand in the text leads nowhere. -/
theorem letter {c : Char} (hc : fold c ∉ t.map fold) : (Node.set (.like (fold c))).Blocked t := by
  intro places
  apply Nat.eq_of_testBit_eq
  intro j
  rw [Nat.zero_testBit, Bool.eq_false_iff]
  -- a place behind the letter would have the letter in front of it
  intro hbit
  obtain ⟨i, -, -, hmem⟩ := (testBit_ends_set _ t t.length places j).mp hbit
  obtain ⟨d, hd, hlike⟩ := (Option.any_eq_true _ _).mp hmem
  have hfold : fold d = fold c := beq_iff_eq.mp hlike
  exact hc (List.mem_map.mpr ⟨d, List.mem_of_getElem? hd, hfold⟩)

/-- What must be passed once is not passed any number of times. -/
theorem loop (ha : a.Blocked t) : (Node.loop a 1 none).Blocked t := by
  intro places
  have honce : repeatMove ((a.plan t).ends t.length) 1 places = 0 := by
    show (if (a.plan t).ends t.length places = places then places
      else (a.plan t).ends t.length places) = 0
    rw [ha places]
    split
    case isTrue h => exact h.symm
    case isFalse => rfl
  show gatherMoves ((a.plan t).ends t.length) (t.length + 1)
    (repeatMove ((a.plan t).ends t.length) 1 places) = 0
  rw [honce]
  -- this is where a loop leads that need not be passed at all, from no place
  exact Plan.ends_zero t.length (.loop (a.plan t) 0 none)

theorem seqAll (ha : a.Blocked t) (as : List Node) : (Node.seqAll (a :: as)).Blocked t := by
  intro places
  rw [ends_seqAll_cons, ha places, Plan.ends_zero]

theorem occursIn (ha : a.Blocked t) : a.occursIn t = false := by
  unfold Node.occursIn
  rw [ha]
  rfl

end Node.Blocked

/-- The node of a plain character. -/
def letterNode (c : Char) : Node := .set (.like (fold c))

/-- What is read of a plain character with a plus sign behind it. -/
def loopPart (c : Char) : Part := .node (.loop (letterNode c) 1 none) 1

namespace Reader

/-- The last of some plain characters stands first among the parts. -/
theorem passed_concat (r : Reader) (p : Text) (d : Char) :
    r.passed (p ++ [d]) = (r.passed p).add (plainPart d) := by
  unfold passed
  rw [List.map_append, List.reverse_append]
  rfl

/-- A plus sign repeats the character in front of it, and no question mark behind it makes it lazy. -/
theorem readFrom_plus [PatternLibrary] {r : Reader} {v : Text} (hr : r.options = .initial) (hv : PlainText v) (d : Char)
    (fuel : Nat) : readFrom (fuel + 1) (r.add (plainPart d)) ('+' :: v) = readFrom fuel (r.add (loopPart d)) v := by
  have hskip : (r.add (plainPart d)).options.skip ('+' :: v) = '+' :: v := by
    show r.options.skip ('+' :: v) = '+' :: v
    rw [hr]
    rfl
  have hlazy : passLazy v = v := by
    cases v with
    | nil => rfl
    | cons c v =>
      have hc : c ≠ '?' := by rintro rfl; exact absurd (hv _ List.mem_cons_self) (by decide)
      simp [passLazy, hc]
  rw [readFrom, hskip]
  show readFrom fuel (r.add (loopPart d)) (passLazy v) = _
  rw [hlazy]

end Reader

/-- A repeated character among plain ones is nested in nothing else. -/
theorem branchOf_plus (p v : Text) (d : Char) :
    (branchOf ((v.map plainPart).reverse ++ loopPart d :: (p.map plainPart).reverse)).value =
        .seqAll (p.map letterNode ++ .loop (letterNode d) 1 none :: v.map letterNode) ∧
      (branchOf ((v.map plainPart).reverse ++ loopPart d :: (p.map plainPart).reverse)).depth ≤ 2 := by
  have hnodes (u : Text) : (u.map plainPart).filterMap Part.node? = u.map letterNode := by
    rw [nodes_plain, List.map_map]
    rfl
  have hdepth (u : Text) : ∀ part ∈ (u.map plainPart).reverse, part.depth ≤ 1 := by
    intro part hpart
    rw [depth_plain (List.mem_reverse.mp hpart)]
    exact Nat.zero_le 1
  constructor
  · show Node.seqAll (((v.map plainPart).reverse ++ loopPart d :: (p.map plainPart).reverse).reverse.filterMap
      Part.node?) = _
    rw [List.reverse_append, List.reverse_cons, List.reverse_reverse, List.reverse_reverse, List.filterMap_append,
      List.filterMap_append, hnodes, hnodes, List.append_assoc]
    rfl
  · exact branchOf_depth_le (List.forall_mem_append.mpr
      ⟨hdepth v, List.forall_mem_cons.mpr ⟨Nat.le_refl 1, hdepth p⟩⟩)

/-- **A plus sign behind plain text** repeats the last character in front of it. -/
theorem read?_plus [PatternLibrary] {p v : Text} {d : Char} (hp : PlainText (p ++ [d])) (hv : PlainText v) :
    Node.read? (p ++ [d] ++ '+' :: v) =
      some (.seqAll (p.map letterNode ++ .loop (letterNode d) 1 none :: v.map letterNode)) := by
  obtain ⟨hvalue, hdepth⟩ := branchOf_plus p v d
  have hread : Reader.readFrom ((p ++ [d] ++ '+' :: v).length + 1) .start (p ++ [d] ++ '+' :: v) =
      some (branchOf ((v.map plainPart).reverse ++ loopPart d :: (p.map plainPart).reverse)) := by
    have hfuel : (p ++ [d] ++ '+' :: v).length + 1 = v.length + 1 + 1 + (p ++ [d]).length := by
      rw [List.length_append, List.length_cons]
      omega
    rw [hfuel, Reader.readFrom_plain_append hp rfl, Reader.passed_concat, Reader.readFrom_plus rfl hv]
    refine (Reader.readFrom_plain hv rfl rfl).trans ?_
    show some (branchOf ((v.map plainPart).reverse ++ loopPart d :: ((p.map plainPart).reverse ++ []))) = _
    rw [List.append_nil]
  rw [read?_of_readFrom hread (Nat.le_trans hdepth (by decide)), hvalue]

/-- **A number behind plain text is a pattern**, and the first character of that text is indispensable. -/
theorem read?_signed [PatternLibrary] {c : Char} {s : Text} (hplain : PlainText (c :: s)) (n : Numeral) :
    ∃ node, Node.read? (c :: s ++ n.text) = some node ∧
      ∀ t : Text, fold c ∉ t.map fold → node.occursIn t = false := by
  have hdigits : PlainText n.digits := fun d hd => (digit_plain (n.isDigit d hd)).1
  -- without a plus sign the whole text is plain
  have hrest {rest : Text} (h : PlainText rest) : ∃ node, Node.read? (c :: s ++ rest) = some node ∧
      ∀ t : Text, fold c ∉ t.map fold → node.occursIn t = false := by
    refine ⟨_, read?_plain (hplain.append h), ?_⟩
    intro t ht
    apply Node.Blocked.occursIn
    apply Node.Blocked.seqAll
    exact Node.Blocked.letter ht
  obtain ⟨sign, digits, hne, hd⟩ := n
  cases sign with
  | none => exact hrest hdigits
  | minus => exact hrest (PlainText.append (u := ['-']) (by decide) hdigits)
  | plus =>
    -- the plus sign repeats the last character in front of it, which may be the first too
    obtain hnil | ⟨p, d, hconcat⟩ := List.eq_nil_or_concat (c :: s)
    · exact absurd hnil (List.cons_ne_nil c s)
    · rw [List.concat_eq_append] at hconcat
      have hread := read?_plus (hconcat ▸ hplain) hdigits
      rw [← hconcat] at hread
      refine ⟨_, hread, ?_⟩
      intro t ht
      apply Node.Blocked.occursIn
      cases p with
      | nil =>
        obtain rfl : c = d := (List.cons.inj hconcat).1
        apply Node.Blocked.seqAll
        apply Node.Blocked.loop
        exact Node.Blocked.letter ht
      | cons e p =>
        obtain rfl : c = e := (List.cons.inj hconcat).1
        apply Node.Blocked.seqAll
        exact Node.Blocked.letter ht

/-! ## The main result -/

/-- A blank is no sign of the language. -/
theorem Blank.plain {b : Text} (hb : Blank b) : PlainText b := by
  intro c hc hsign
  have hsigns : Solid signs := by decide
  exact absurd (hb c hc) (Bool.eq_false_iff.mp (hsigns.2 c hsign))

namespace Field

/-- A field that is a number has a value in every row. -/
theorem number?_numeric {f : Field} (hf : f.isNumeric = true) (r : Row) : ∃ actual, f.number? r = some actual := by
  cases f with
  | rank => exact ⟨_, rfl⟩
  | status => exact ⟨_, rfl⟩
  | method => exact absurd hf Bool.false_ne_true
  | url => exact absurd hf Bool.false_ne_true

theorem mem_text_numeric {f : Field} (hf : f.isNumeric = true) {r : Row} {c : Char} (hc : c ∈ f.text r) :
    c.isDigit = true ∨ c = '-' := by
  cases f with
  | method => exact absurd hf Bool.false_ne_true
  | url => exact absurd hf Bool.false_ne_true
  | status => exact .inl (Decimal.isDigit_of_mem_ofNat hc)
  | rank =>
    change c ∈ Decimal.ofInt r.rank.toInt at hc
    cases hrank : r.rank.toInt with
    | ofNat n =>
      rw [hrank] at hc
      exact .inl (Decimal.isDigit_of_mem_ofNat hc)
    | negSucc n =>
      rw [hrank] at hc
      rcases List.mem_cons.mp hc with rfl | hc
      · exact .inr rfl
      · exact .inl (Decimal.isDigit_of_mem_ofNat hc)

/-- No comparison sign stands in a number, not even up to case. -/
theorem first_not_mem_text {f : Field} (hf : f.isNumeric = true) (op : Comparator) (r : Row) :
    fold op.first ∉ (f.text r).map fold := by
  intro h
  obtain ⟨d, hd, hfold⟩ := List.mem_map.mp h
  have hfirst : fold op.first ≠ '-' ∧ (fold op.first).isDigit = false := by cases op <;> decide
  rcases mem_text_numeric hf hd with hdigit | rfl
  · rw [(digit_plain hdigit).2.1] at hfold
    rw [hfold, hfirst.2] at hdigit
    exact Bool.false_ne_true hdigit
  · exact hfirst.1 hfold.symm

end Field

namespace Term

variable {limit : Nat} {f : Field} {b : Text}

/-- A comparison with a number that can be compared with. -/
theorem compileField_fits [PatternLibrary] (hf : f.isNumeric = true) (op : Comparator) (hb : Blank b)
    {n : Numeral} (hn : n.Fits) :
    compileField limit f (op.sign ++ (b ++ n.text)) = .ok (.field f (.compare ⟨op, Int32.ofInt n.value⟩)) := by
  unfold compileField
  rw [hf, if_pos rfl, Comparison.read?_compared op hb n, if_pos hn]

/-- A comparison with any other number is a pattern, if there is room for it. -/
theorem compileField_not_fits [PatternLibrary] (hf : f.isNumeric = true) (op : Comparator) (hb : Blank b)
    {n : Numeral} (hn : ¬n.Fits) {p : Pattern} (hsource : p.source = op.sign ++ (b ++ n.text))
    (hread : Node.read? p.source = some p.node) :
    compileField limit f p.source =
      if p.fits limit then .ok (.field f (.pattern p)) else .error (.badPattern p.source (.tooLarge limit)) := by
  unfold compileField compilePattern Pattern.compile
  rw [hread, hf, if_pos rfl, hsource, Comparison.read?_compared op hb n, if_neg hn, ← hsource]
  by_cases hfits : p.fits limit = true
  · simp only [if_pos hfits]
    rfl
  · simp only [if_neg hfits]
    rfl

theorem holds_compare_iff (op : Comparator) {n : Numeral} (hn : n.Fits) {r : Row} {actual : Int}
    (hactual : f.number? r = some actual) :
    holds r (.field f (.compare ⟨op, Int32.ofInt n.value⟩)) = true ↔ op.Relates actual n.value := by
  show (f.number? r).any (fun a => op.holds a (Int32.ofInt n.value).toInt) = true ↔ _
  rw [hactual, hn.toInt_ofInt]
  exact op.holds_iff actual n.value

/-- A token is a condition that compares a field with a number, whatever the row. -/
def Compares [PatternLibrary] (limit : Nat) (token : Text) (f : Field) (op : Comparator) (target : Int) : Prop :=
  ∃ term, compile limit token = .ok term ∧
    ∀ r, ∃ actual, f.number? r = some actual ∧ (term.holds r = true ↔ op.Relates actual target)

/-- A key, a colon, a comparison sign and a number, with blanks between them and behind. -/
def compared (key b₀ : Text) (op : Comparator) (b₁ : Text) (n : Numeral) (b₂ : Text) : Text :=
  key ++ ':' :: (b₀ ++ (op.sign ++ (b₁ ++ (n.text ++ b₂))))

/-- The value of such a token is the sign and the number. -/
theorem compile_compared [PatternLibrary] {key b₀ b₁ b₂ : Text} (hkey : ':' ∉ key)
    (hkeyed : Field.ofKey? (lower key.trim) = some f) (hb₀ : Blank b₀) (hb₁ : Blank b₁) (hb₂ : Blank b₂)
    (op : Comparator) (n : Numeral) :
    compile limit (compared key b₀ op b₁ n b₂) = compileField limit f (op.sign ++ (b₁ ++ n.text)) := by
  have hvalue : ¬Blank (b₀ ++ (op.sign ++ (b₁ ++ (n.text ++ b₂)))) := by
    intro hall
    refine n.solid_text.not_blank fun c hc => hall c ?_
    simp [hc]
  unfold compared
  rw [compile_keyed_trim key hkey hkeyed hvalue, trim_between hb₀ op.solid_sign hb₁ n.solid_text hb₂]

/-- **Numbers of any size behind a comparison sign.** Within 32 bits, the condition compares the field with the
    number. Beyond them the sign and the number are a pattern, which no row fulfils, unless it is too large. -/
theorem compile_numeral [PatternLibrary] (limit : Nat) {key b₀ b₁ b₂ : Text} {f : Field} (hkey : ':' ∉ key)
    (hkeyed : Field.ofKey? (lower key.trim) = some f) (hf : f.isNumeric = true)
    (hb₀ : Blank b₀) (hb₁ : Blank b₁) (hb₂ : Blank b₂) (op : Comparator) (n : Numeral) :
    let source := op.sign ++ (b₁ ++ n.text)
    (n.Fits → Compares limit (compared key b₀ op b₁ n b₂) f op n.value) ∧
      (¬n.Fits → ∃ p : Pattern, p.source = source ∧ Node.read? source = some p.node ∧
        compile limit (compared key b₀ op b₁ n b₂) =
          (if p.fits limit then .ok (.field f (.pattern p)) else .error (.badPattern source (.tooLarge limit))) ∧
        ∀ r, (Term.field f (.pattern p)).holds r = false) := by
  intro source
  have hcompile : compile limit (compared key b₀ op b₁ n b₂) = compileField limit f source :=
    compile_compared hkey hkeyed hb₀ hb₁ hb₂ op n
  constructor
  · intro hn
    refine ⟨_, hcompile.trans (compileField_fits hf op hb₁ hn), ?_⟩
    intro r
    obtain ⟨actual, hactual⟩ := Field.number?_numeric hf r
    exact ⟨actual, hactual, holds_compare_iff op hn hactual⟩
  · intro hn
    -- the pattern begins with the comparison sign, whatever follows it
    have hplain : PlainText (op.first :: (op.sign.tail ++ b₁)) := by
      rw [← List.cons_append, ← op.sign_eq]
      exact op.plain_sign.append hb₁.plain
    have hsource : op.first :: (op.sign.tail ++ b₁) ++ n.text = source := by
      rw [← List.cons_append, ← op.sign_eq, List.append_assoc]
    obtain ⟨node, hread, hnever⟩ := read?_signed hplain n
    rw [hsource] at hread
    let p : Pattern := ⟨source, node⟩
    have hpattern : compileField limit f p.source = _ := compileField_not_fits hf op hb₁ hn rfl hread
    refine ⟨p, rfl, hread, hcompile.trans hpattern, ?_⟩
    intro r
    apply hnever
    exact Field.first_not_mem_text hf op r

/-- The greatest number of 32 bits, written with all that may stand around it, and the next one. -/
theorem compile_numeral_greatest :
    let key : Text := " StatusCode ".toList
    let n : Numeral := ⟨.plus, "002147483647".toList, by decide, List.all_eq_true.mp (by decide)⟩
    let n' : Numeral := ⟨.plus, "002147483648".toList, by decide, List.all_eq_true.mp (by decide)⟩
    (':' ∉ key ∧ Field.ofKey? (lower key.trim) = some .status ∧ Field.status.isNumeric = true ∧
        Blank [' '] ∧ Blank ['\t'] ∧ Blank ['\u3000'] ∧ n.Fits ∧ ¬n'.Fits) ∧
      Compares 1048576 " StatusCode : <=\t+002147483647\u3000".toList .status .atMost 2147483647 ∧
      ∃ p : Pattern, p.source = "<=\t+002147483648".toList ∧
        Node.read? "<=\t+002147483648".toList = some p.node ∧
        compile 1048576 " StatusCode : <=\t+002147483648\u3000".toList =
          (if p.fits 1048576 then .ok (.field .status (.pattern p))
            else .error (.badPattern "<=\t+002147483648".toList (.tooLarge 1048576))) ∧
        ∀ r, (Term.field .status (.pattern p)).holds r = false := by
  intro key n n'
  have hkey : ':' ∉ key := by decide
  have hkeyed : Field.ofKey? (lower key.trim) = some .status := by decide +kernel
  have hspace : Blank [' '] := by decide
  have htab : Blank ['\t'] := by decide
  have hwide : Blank ['\u3000'] := by decide
  have hn : n.Fits := by decide
  have hn' : ¬n'.Fits := by decide
  obtain ⟨hfits, -⟩ := compile_numeral 1048576 hkey hkeyed rfl hspace htab hwide .atMost n
  obtain ⟨-, hbeyond⟩ := compile_numeral 1048576 hkey hkeyed rfl hspace htab hwide .atMost n'
  exact ⟨⟨hkey, hkeyed, rfl, hspace, htab, hwide, hn, hn'⟩, hfits hn, hbeyond hn'⟩

/-- Every rank is below the first number beyond 32 bits, but no row is found that way. -/
theorem numeral_beyond_bounds :
    ¬∀ (op : Comparator) (n : Numeral),
      Compares Settings.standard.patternSizeLimit (compared "rank".toList [] op [] n []) .rank op n.value := by
  intro h
  let n : Numeral := ⟨.none, "2147483648".toList, by decide, List.all_eq_true.mp (by decide)⟩
  let r : Row := ⟨1, "GET".toList, "/a".toList, 200, none⟩
  have hpattern : (compile Settings.standard.patternSizeLimit
      (compared "rank".toList [] .below [] n [])).toOption.map (holds r) = some false := by decide +kernel
  obtain ⟨term, hterm, hcompares⟩ := h .below n
  obtain ⟨actual, hactual, hiff⟩ := hcompares r
  obtain rfl : 1 = actual := Option.some.inj hactual
  have hholds : term.holds r = true := hiff.mpr (show (1 : Int) < 2147483648 by decide)
  rw [hterm] at hpattern
  exact absurd (hholds.symm.trans (Option.some.inj hpattern)) (by decide)

end Term

end RankSieve
