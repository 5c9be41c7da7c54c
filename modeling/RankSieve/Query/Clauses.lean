import RankSieve.Text.Blank

/-!
# `RankSieve.Query.Clauses` — a query as clauses of tokens

The words `AND` and `OR`, in any case and between blanks, separate the tokens of a query, and `AND`
binds tighter.

## Contents
- **Separators.** `separatorLength?` measures the separator that a text begins with.
- **Cutting.** `cutAtWord` cuts a text at a separating word, `splitClauses` at both, `OR` first.
-/

namespace RankSieve

/-! ## Separators -/

/-- What follows a word at the beginning of a text; the word is given in capitals, the text may have
    ASCII letters of either case. -/
def afterWord? : Text → Text → Option Text
  | [],      t      => some t
  | _ :: _,  []     => none
  | w :: ws, c :: t => if c.toUpper = w then afterWord? ws t else none

/-- The length of the separator that a text begins with: blanks, the word and blanks again. All
    blanks on both sides belong to it. -/
def separatorLength? (word : Text) (t : Text) : Option Nat :=
  let before := t.takeWhile isBlank
  match afterWord? word (t.dropWhile isBlank) with
  | none      => none
  | some rest =>
    let after := rest.takeWhile isBlank
    if before.isEmpty || after.isEmpty then none
    else some (before.length + word.length + after.length)

/-! ## Cutting -/

/-- A character in front of the first piece. -/
def consPiece (c : Char) : List Text → List Text
  | []      => [[c]]
  | p :: ps => (c :: p) :: ps

/-- The pieces of a text between separators, of which as many characters as given still belong to a
    separator already met. -/
def piecesFrom (word : Text) : Nat → Text → List Text
  | _,        []     => [[]]
  | owed + 1, _ :: t => piecesFrom word owed t
  | 0,        c :: t =>
    match separatorLength? word (c :: t) with
    | some (n + 1) => [] :: piecesFrom word n t
    | _            => consPiece c (piecesFrom word 0 t)

/-- The pieces of a text between separators, from left to right. A word whose blanks belong to the
    separator before it separates nothing. -/
def cutAtWord (word : Text) (t : Text) : List Text := piecesFrom word 0 t

/-- The tokens of a piece without `OR`: trimmed, empty ones left out. -/
def tokensOf (t : Text) : List Text :=
  ((cutAtWord ['A', 'N', 'D'] t).map Text.trim).filter fun token => !token.isEmpty

/-- The clauses of a query, each as its tokens. -/
def splitClauses (t : Text) : List (List Text) := (cutAtWord ['O', 'R'] t).map tokensOf

end RankSieve
