import RankSieve.Pattern.Node

/-!
# `RankSieve.Pattern.Search` — whether a pattern occurs in a text

A text of `n` characters has `n + 1` places. A set of places is a number whose bit `i` tells whether
place `i` belongs to it, and a pattern takes the places where a match may begin to the places where
it may end. All beginnings are followed at once, so the time grows with the text times the pattern,
never with the number of ways to match.

## Contents
- **Masks.** The places before a member of a set, and those where a look holds.
- **Plans.** `Node.plan` fixes the text: sets and looks become masks, worked out when first needed.
- **Moves.** `Plan.ends` follows a set of places through a plan.
-/

namespace RankSieve

/-! ## Masks -/

/-- The places that stand before a member of a set. -/
def memberMask (s : CharSet) : Text → Nat
  | []      => 0
  | c :: cs => 2 * memberMask s cs + (s.mem c).toNat

/-- The places where a look holds, given the character on the left of the first. -/
def lookMask (l : Look) : Option Char → Text → Nat
  | left, []      => (l.holds left none).toNat
  | left, c :: cs => 2 * lookMask l (some c) cs + (l.holds left (some c)).toNat

/-! ## Plans -/

/-- A pattern on a text, in terms of places. -/
inductive Plan where
  | stay
  /-- One place on, from the places of the mask. -/
  | advance (mask : Thunk Nat)
  /-- No move, at the places of the mask. -/
  | hold (mask : Thunk Nat)
  | seq (a b : Plan)
  | alt (a b : Plan)
  | loop (a : Plan) (least : Nat) (most : Option Nat)

/-- The plan of a node on a text. -/
def Node.plan (t : Text) : Node → Plan
  | .empty             => .stay
  | .set s             => .advance (Thunk.mk fun _ => memberMask s t)
  | .look l            => .hold (Thunk.mk fun _ => lookMask l none t)
  | .seq a b           => .seq (a.plan t) (b.plan t)
  | .alt a b           => .alt (a.plan t) (b.plan t)
  | .loop a least most => .loop (a.plan t) least most
  | .capture a         => a.plan t

/-! ## Moves -/

/-- So many moves in a row; moves that change nothing any more are left out. -/
def repeatMove (move : Nat → Nat) : (times : Nat) → Nat → Nat
  | 0,         places => places
  | times + 1, places =>
    let next := move places
    if next = places then places else repeatMove move times next

/-- At most so many moves in a row: every place passed on the way counts. -/
def gatherMoves (move : Nat → Nat) : (times : Nat) → Nat → Nat
  | 0,         places => places
  | times + 1, places =>
    let next := places ||| move places
    if next = places then places else gatherMoves move times next

/-- The places where a match may end that begins at one of the given places. The text has `n`
    characters: after as many moves and one more nothing new is reached. -/
def Plan.ends (n : Nat) : Plan → Nat → Nat
  | .stay,            places => places
  | .advance mask,    places => if places = 0 then 0 else (places &&& mask.get) <<< 1
  | .hold mask,       places => if places = 0 then 0 else places &&& mask.get
  | .seq a b,         places =>
    let middle := a.ends n places
    if middle = 0 then 0 else b.ends n middle
  | .alt a b,         places => a.ends n places ||| b.ends n places
  | .loop a least most, places =>
    let after := repeatMove (a.ends n) least places
    match most with
    | none   => gatherMoves (a.ends n) (n + 1) after
    | some m => gatherMoves (a.ends n) (m - least) after

/-- Whether a pattern occurs anywhere in a text. -/
def Node.occursIn (p : Node) (t : Text) : Bool :=
  (p.plan t).ends t.length (Nat.pow 2 (t.length + 1) - 1) != 0

end RankSieve
