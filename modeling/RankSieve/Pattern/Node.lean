import RankSieve.Pattern.CharSet

/-!
# `RankSieve.Pattern.Node` — what a pattern asks for

## Contents
- **Looks.** `Look` is a condition on the place between two characters; `holds` decides it from the
  characters on either side.
- **Nodes.** `Node` is a pattern whose options have been worked into its sets and looks.
-/

namespace RankSieve

/-! ## Looks -/

/-- Which characters count as those of words at a word boundary. -/
inductive WordKind where
  | unicode
  | ascii
  deriving DecidableEq, Repr

/-- The word characters of a kind. -/
def WordKind.set : WordKind → CharSet
  | .unicode => .word
  | .ascii   => .asciiWord

/-- A condition on the place between two characters. -/
inductive Look where
  | textStart
  | textEnd
  | lineStart
  | lineEnd
  /-- As `lineStart`, where carriage returns end lines too and the two together are one ending. -/
  | lineStartCrlf
  | lineEndCrlf
  | boundary (kind : WordKind)
  | noBoundary (kind : WordKind)
  | wordStart (kind : WordKind)
  | wordEnd (kind : WordKind)
  /-- No word character on the left. -/
  | wordStartHalf (kind : WordKind)
  /-- No word character on the right. -/
  | wordEndHalf (kind : WordKind)
  deriving DecidableEq, Repr

/-- Whether a place with the given neighbours fulfils the condition. -/
def Look.holds (left right : Option Char) : Look → Bool
  | .textStart          => left.isNone
  | .textEnd            => right.isNone
  | .lineStart          => left.isNone || left == some '\n'
  | .lineEnd            => right.isNone || right == some '\n'
  | .lineStartCrlf      => left.isNone || left == some '\n' || (left == some '\r' && right != some '\n')
  | .lineEndCrlf        => right.isNone || right == some '\r' || (right == some '\n' && left != some '\r')
  | .boundary kind      => left.any kind.set.mem != right.any kind.set.mem
  | .noBoundary kind    => left.any kind.set.mem == right.any kind.set.mem
  | .wordStart kind     => !left.any kind.set.mem && right.any kind.set.mem
  | .wordEnd kind       => left.any kind.set.mem && !right.any kind.set.mem
  | .wordStartHalf kind => !left.any kind.set.mem
  | .wordEndHalf kind   => !right.any kind.set.mem

/-! ## Nodes -/

/-- A pattern. -/
inductive Node where
  | empty
  | set (s : CharSet)
  | look (l : Look)
  | seq (a b : Node)
  | alt (a b : Node)
  /-- At least so many times and, unless there is no bound, at most so many. -/
  | loop (a : Node) (least : Nat) (most : Option Nat)
  /-- A group whose match can be asked for. -/
  | capture (a : Node)

namespace Node

/-- One node after the other. -/
def seqAll : List Node → Node
  | []      => .empty
  | [n]     => n
  | n :: ns => .seq n (seqAll ns)

/-- One node or another, of those after the first given. -/
def altAll (n : Node) (ns : List Node) : Node := ns.foldl .alt n

end Node

end RankSieve
