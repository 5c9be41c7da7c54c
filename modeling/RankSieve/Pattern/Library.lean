import RankSieve.Pattern.Property
import RankSieve.Pattern.Size

/-!
# `RankSieve.Pattern.Library` — what the library of patterns decides

The language of patterns and what a pattern matches are written out in the modules beside this one.
Three things are left to the library that compiles them, and `PatternLibrary` is its word on each: which
properties of characters it knows, how much memory a pattern takes, and how it puts what is wrong with a
text. Whatever is said of queries holds for every library.

## Contents
- **Patterns.** `Pattern` is a text with what it asks for.
- **Libraries.** `PatternLibrary`, and `PatternLibrary.tables`, the one of the programs that run.
-/

namespace RankSieve

/-- A pattern: its text and what it asks for. -/
structure Pattern where
  source : Text
  node   : Node

/-- What a library of patterns decides. -/
class PatternLibrary where
  /-- The characters that have a property, by its name alone or with a value, if it is known. -/
  property? : (name : Text) → (value : Option Text) → Option CharSet
  /-- The memory of the states of a pattern, in octets. -/
  memory : Pattern → Nat
  /-- What is wrong with a text that is no pattern. -/
  diagnosis : (source : Text) → Text

/-- The library with the property tables of the standard, an estimate of the memory and one sentence for
    whatever is wrong. It is the last choice, so that a library at hand comes first. -/
instance (priority := low) PatternLibrary.tables : PatternLibrary where
  property?
    | name, none       => CharSet.named? name
    | name, some value => CharSet.valued? name value
  memory p := p.node.size
  diagnosis _ := "regex parse error".toList

end RankSieve
