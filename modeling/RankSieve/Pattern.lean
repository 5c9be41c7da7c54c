import RankSieve.Pattern.Reader
import RankSieve.Pattern.Search

/-!
# `RankSieve.Pattern` — patterns for pieces of text

A pattern is written as a regular expression, ignores case and may occur anywhere in a text. Plain
text without signs of the language is a search for that text.
-/

namespace RankSieve

/-- Why a text is no usable pattern. -/
inductive PatternError where
  /-- The text is no regular expression. -/
  | malformed (diagnosis : Text)
  /-- The pattern takes more memory than the limit allows. -/
  | tooLarge (limit : Nat)
  deriving DecidableEq, Repr

namespace Pattern

variable [PatternLibrary]

/-- Whether a pattern keeps to a limit of so many octets. One that is searched for word by word has no
    states, and keeps to any. -/
def fits (limit : Nat) (p : Pattern) : Bool := PatternLibrary.memory p ≤ limit || p.node.words?.isSome

/-- Compiles a pattern within a limit of so many octets of memory. -/
def compile (limit : Nat) (source : Text) : Except PatternError Pattern :=
  match Node.read? source with
  | none   => .error (.malformed (PatternLibrary.diagnosis source))
  | some n =>
    let p : Pattern := ⟨source, n⟩
    if p.fits limit then .ok p else .error (.tooLarge limit)

/-- Whether the pattern occurs in a text. -/
def occursIn (p : Pattern) (t : Text) : Bool := p.node.occursIn t

end Pattern

end RankSieve
