import RankSieve.Text.Category
import RankSieve.Text.Property

/-!
# `RankSieve.Text.Letter` — letters and numbers of any script
-/

namespace RankSieve

/-- Characters with the property `Alphabetic`. -/
def isLetter (c : Char) : Bool := alphabeticRanges.contains c

/-- Letters, and numbers of every kind. -/
def isLetterOrNumber (c : Char) : Bool := isLetter c || hasCategory ["Nd", "Nl", "No"] c

end RankSieve
