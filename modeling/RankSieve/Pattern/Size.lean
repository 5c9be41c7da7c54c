import RankSieve.Pattern.Node
import RankSieve.Text.Utf8

/-!
# `RankSieve.Pattern.Size` — how much memory a pattern takes

A pattern is compiled to states over octets, and a limit bounds the memory of the states. The
figures here follow the layout of such states closely enough to tell small patterns from large
ones: repetitions are unrolled, and a set costs by the number of its ranges.

## Contents
- **Estimate.** `Node.size` is the memory of a pattern in octets.
- **Words.** `Node.words?` lists the texts that a pattern matches, if they are few. Such a pattern
  is searched for word by word, without states, and no limit applies to it.
-/

namespace RankSieve

/-! ## Sets -/

/-- How many runs of neighbouring characters a partition has with a name of the kind given. -/
def Runs.countWhere (r : Runs) (p : Text → Bool) : Nat :=
  (r.names.foldl (fun (acc : Nat × Bool) name =>
    let here := p name
    (if here && !acc.2 then acc.1 + 1 else acc.1, here)) (0, false)).1

namespace CharSet

/-- How many ranges a set has, about. -/
def rangeCount : CharSet → Nat
  | .empty          => 0
  | .range _ _      => 1
  | .like target    => (orbit target).length
  | .listed table   => table.count
  | .category names => categoryRuns.countWhere fun n => names.any (·.toList == n)
  | .script code    => scriptRuns.countWhere (· == code)
  | .blank          => 10
  | .digit          => 71
  | .word           => 770
  | .folded s       => s.rangeCount + 1
  | .foldedAscii s  => s.rangeCount + 1
  | .union s t      => s.rangeCount + t.rangeCount
  | .inter s t      => max s.rangeCount t.rangeCount
  | .compl s        => s.rangeCount + 12

/-- Whether every member surely is an ASCII character. -/
def isAscii : CharSet → Bool
  | .empty         => true
  | .range _ last  => last.toNat < 0x80
  | .like target   => (orbit target).all fun c => c.toNat < 0x80
  | .folded s      => s.isAscii
  | .foldedAscii s => s.isAscii
  | .union s t     => s.isAscii && t.isAscii
  | .inter s t     => s.isAscii || t.isAscii
  | _              => false

/-- The memory of a set. One octet is a state of its own; the ranges of ASCII share one state. -/
def size (s : CharSet) : Nat :=
  match s with
  | .range a b => if a = b then 32 * Utf8.octetCount a else 64
  | s          => if s.isAscii then 24 + 16 * s.rangeCount else 64 * s.rangeCount + 16

end CharSet

/-! ## Estimate -/

namespace Node

/-- Whether a pattern matches nothing but empty pieces of text. -/
def isWidthless : Node → Bool
  | .empty     => true
  | .set _     => false
  | .look _    => true
  | .seq a b   => a.isWidthless && b.isWidthless
  | .alt a b   => a.isWidthless && b.isWidthless
  | .loop a _ most => a.isWidthless || most == some 0
  | .capture a => a.isWidthless

/-- The memory of the states of a part. A piece without width is not repeated, since once does. -/
def partSize : Node → Nat
  | .empty     => 16
  | .set s     => s.size
  | .look _    => 32
  | .seq a b   => a.partSize + b.partSize
  | .alt a b   => a.partSize + b.partSize + 32
  | .capture a => a.partSize + 64
  | .loop a least most =>
    let (least, most) := if a.isWidthless then (min least 1, some (min (most.getD 1) 1)) else (least, most)
    match most with
    | none   => max least 1 * a.partSize + 48
    | some m => least * a.partSize + (m - least) * (a.partSize + 48)

/-- The memory of a pattern, with the states that search for its beginning and note its ends. -/
def size (n : Node) : Nat := n.partSize + 250

/-! ## Words -/

/-- Every concatenation of one text and another. -/
def crossWords (us vs : List Text) : List Text := us.flatMap fun u => vs.map (u ++ ·)

/-- The members of a small set. -/
def wordsOfSet : CharSet → Option (List Text)
  | .range a b   =>
    if b.toNat - a.toNat < 10 then
      some ((List.range (b.toNat - a.toNat + 1)).map fun i => [Char.ofNat (a.toNat + i)])
    else none
  | .like target => some ((orbit target).map ([·]))
  | .union s t   => do some ((← wordsOfSet s) ++ (← wordsOfSet t))
  | .empty       => some []
  | _            => none

/-- A list of words that is not too long. -/
def fewWords? (ws : List Text) : Option (List Text) :=
  if ws.length ≤ 250 && ws.all (·.length ≤ 100) then some ws else none

/-- The texts that a pattern matches, if they are few and no ends are asked for. -/
def allWords? : Node → Option (List Text)
  | .empty     => some [[]]
  | .set s     => (wordsOfSet s).filter (·.length ≤ 10)
  | .look _    => none
  | .capture _ => none
  | .seq a b   => do
    let us ← a.allWords?
    let vs ← b.allWords?
    fewWords? (crossWords us vs)
  | .alt a b   => do fewWords? ((← a.allWords?) ++ (← b.allWords?))
  | .loop a least most =>
    if most = some least && least ≤ 10 then
      a.allWords?.bind fun ws =>
        (List.range least).foldlM (fun acc _ => fewWords? (crossWords acc ws)) [[]]
    else if least = 0 && most = some 1 then a.allWords?.map (· ++ [[]])
    else none

/-- The words of a pattern that is searched for word by word: none of them empty, and at most ten
    or all of them short. -/
def words? (n : Node) : Option (List Text) :=
  n.allWords?.filter fun ws =>
    !ws.isEmpty && ws.all (!·.isEmpty) && (ws.length ≤ 10 || ws.all fun w => Utf8.size w ≤ 4)

end Node

end RankSieve
