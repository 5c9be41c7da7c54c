import RankSieve.Pattern.Escape

/-!
# `RankSieve.Pattern.SetReader` — sets in brackets

A set in brackets is a union of characters, ranges, named sets and further brackets, or a chain of
such unions joined by `&&`, `--` and `~~`, which group to the left. `readBrackets` reads one.

A set that was read knows how deeply it is nested, since a pattern may be nested only so deep.
Options are worked in while reading: whatever ignores case is closed under change of case as soon as
it is read, so that no set has to be looked through a second time.
-/

namespace RankSieve

/-- What was read of a pattern, and how deeply it is nested. -/
structure Nested (α : Type) where
  value : α
  depth : Nat

/-- How sets in brackets can be joined. -/
inductive SetOperation where
  | intersection
  | difference
  | symmetricDifference
  deriving DecidableEq, Repr

/-- The join of two sets. -/
def SetOperation.apply : SetOperation → CharSet → CharSet → CharSet
  | .intersection,        s, t => .inter s t
  | .difference,          s, t => s.diff t
  | .symmetricDifference, s, t => s.symmDiff t

/-- Brackets that are open: whether they stand for the complement, the operation that waits for its
    right side, and the members of the present union, last one first. -/
structure OpenBrackets where
  negated : Bool
  pending : Option (SetOperation × Nested CharSet)
  members : List (Nested CharSet)

namespace OpenBrackets

/-- With one more member of the present union. -/
def add (b : OpenBrackets) (member : Nested CharSet) : OpenBrackets :=
  { b with members := member :: b.members }

/-- The present union; it counts as nesting if it has two members. -/
def union (b : OpenBrackets) : Nested CharSet :=
  match b.members with
  | []      => ⟨.empty, 0⟩
  | [m]     => m
  | m :: ms => ms.foldl (fun u n => ⟨.union n.value u.value, max u.depth (n.depth + 1)⟩)
      ⟨m.value, m.depth + 1⟩

/-- The set up to here. -/
def operand (b : OpenBrackets) : Nested CharSet :=
  match b.pending with
  | none                   => b.union
  | some (operation, left) =>
    let right := b.union
    ⟨operation.apply left.value right.value, max left.depth right.depth + 1⟩

/-- At an operation: what stands on its left, and an empty union on its right. -/
def operate (b : OpenBrackets) (operation : SetOperation) : OpenBrackets :=
  { b with pending := some (operation, b.operand), members := [] }

/-- The set of brackets that close. Without Unicode the complement is refused. -/
def close (b : OpenBrackets) (o : Options) : Option (Nested CharSet) :=
  if b.negated && !o.unicode then none
  else some ⟨b.operand.value.negatedIf b.negated, b.operand.depth + 1⟩

end OpenBrackets

/-- A range inside brackets under the options. -/
def rangeSet? (o : Options) (first last : Char) : Option CharSet :=
  if last < first then none
  else if o.unicode then
    some (if !o.ignoreCase then .range first last
      else if first = last then .like (fold first) else .folded (.range first last))
  else if last.toNat < 0x80 then
    some (if o.ignoreCase then .foldedAscii (.range first last) else .range first last)
  else none

variable [PatternLibrary]

/-- One thing inside brackets: a character, or a set by an escape. -/
def readMember (o : Options) : Text → Option (Escape × Text)
  | []        => none
  | '\\' :: t => readEscape o t
  | c :: t    => some (.literal c false, t)

/-- A set by itself inside brackets; looks are none. -/
def memberSet? (o : Options) : Escape → Option CharSet
  | .literal c _ => rangeSet? o c c
  | .set s       => some s
  | .look _      => none

/-- A member of a union: a range if a hyphen follows that is neither doubled nor last. -/
def readRange (o : Options) (t : Text) : Option (CharSet × Text) := do
  let (first, t) ← readMember o t
  match o.skip t with
  | []     => none
  | c :: t =>
    if c != '-' || o.peek t = some ']' || o.peek t = some '-' then
      let s ← memberSet? o first
      some (s, c :: t)
    else
      let (last, t) ← readMember o (o.skip t)
      match first, last with
      | .literal a _, .literal b _ => (rangeSet? o a b).map fun s => (s, t)
      | _, _                       => none

/-- The characters up to the first colon, and the rest from it on. -/
def upToColon (t : Text) : Text × Text := (t.takeWhile (· != ':'), t.dropWhile (· != ':'))

/-- A set by its name between colons, after the bracket that opens it; none where no such set
    stands there. -/
def namedSet? (t : Text) : Option (CharSet × Bool × Text) :=
  match t with
  | ':' :: t =>
    let (negated, t) := match t with
      | '^' :: t => (true, t)
      | t        => (false, t)
    match upToColon t with
    | (name, ':' :: ']' :: rest) => (CharSet.asciiNamed? name).map fun s => (s, negated, rest)
    | _                          => none
  | _ => none

/-- The set of a name under the options. -/
def namedSetUnder (o : Options) (s : CharSet) (negated : Bool) : Option CharSet :=
  if o.unicode then some ((if o.ignoreCase then .folded s else s).negatedIf negated)
  else if negated then none
  else some (if o.ignoreCase then .foldedAscii s else s)

/-- Opens brackets, after the bracket itself: a circumflex negates, and hyphens that come first, or
    a closing bracket that does, are members. -/
def openBrackets (o : Options) (t : Text) : Option (OpenBrackets × Text) := do
  let (negated, t) := match o.skip t with
    | '^' :: t => (true, t)
    | t        => (false, t)
  let (hyphens, t) ← o.gather (· != '-') t
  let members ← hyphens.mapM fun _ => (rangeSet? o '-' '-').map fun s => Nested.mk s 0
  match members, t with
  | [], ']' :: t =>
    let s ← rangeSet? o ']' ']'
    some (⟨negated, none, [⟨s, 0⟩]⟩, t)
  | _, _ => some (⟨negated, none, members⟩, t)

/-- Reads on in brackets that are open inside others; `fuel` bounds the members and signs. -/
def readBracketsFrom (o : Options) :
    (fuel : Nat) → OpenBrackets → List OpenBrackets → Text → Option (Nested CharSet × Text)
  | 0,        _, _,      _ => none
  | fuel + 1, b, outers, t =>
    match o.skip t with
    | []               => none
    | '&' :: '&' :: t  => readBracketsFrom o fuel (b.operate .intersection) outers t
    | '-' :: '-' :: t  => readBracketsFrom o fuel (b.operate .difference) outers t
    | '~' :: '~' :: t  => readBracketsFrom o fuel (b.operate .symmetricDifference) outers t
    | ']' :: t =>
      match b.close o, outers with
      | none,   _           => none
      | some s, []          => some (s, t)
      | some s, b' :: outers => readBracketsFrom o fuel (b'.add s) outers t
    | '[' :: t =>
      match namedSet? t with
      | some (s, negated, t) =>
        (namedSetUnder o s negated).bind fun s => readBracketsFrom o fuel (b.add ⟨s, 0⟩) outers t
      | none =>
        (openBrackets o t).bind fun (inner, t) => readBracketsFrom o fuel inner (b :: outers) t
    | t => (readRange o t).bind fun (s, t) => readBracketsFrom o fuel (b.add ⟨s, 0⟩) outers t

/-- Reads a set in brackets, after the first of them. -/
def readBrackets (o : Options) (t : Text) : Option (Nested CharSet × Text) :=
  (openBrackets o t).bind fun (b, rest) => readBracketsFrom o (t.length + 1) b [] rest

end RankSieve
