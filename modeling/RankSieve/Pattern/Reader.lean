import RankSieve.Pattern.SetReader
import RankSieve.Text.Letter

/-!
# `RankSieve.Pattern.Reader` — patterns from text

Reads a pattern from left to right, with the groups that are open kept on a stack. Options are part
of the reader's state, since a change of them holds up to the end of its group, and what is read
comes out as nodes into which they have been worked.

## Contents
- **Parts.** What was read of a branch; `mark` stands for a change of options, which matches nothing
  but cannot be repeated and counts as a part.
- **Groups.** `openGroup` and `Reader.closeGroup` enter and leave one.
- **Reading.** `Reader.step` reads one sign, `Node.read?` a whole pattern.
-/

namespace RankSieve

/-! ## Parts -/

/-- A part of a branch. -/
inductive Part where
  | mark
  | node (n : Node) (depth : Nat)

namespace Part

/-- How deeply a part is nested. -/
def depth : Part → Nat
  | .mark     => 0
  | .node _ d => d

/-- What a part matches, if it matches anything. -/
def node? : Part → Option Node
  | .mark     => none
  | .node n _ => some n

end Part

/-- The branch of some parts, given last one first; two parts or more count as nesting. -/
def branchOf (parts : List Part) : Nested Node :=
  let nodes := parts.reverse.filterMap Part.node?
  let deepest := (parts.map Part.depth).foldl max 0
  ⟨.seqAll nodes, if parts.length < 2 then deepest else deepest + 1⟩

/-- A group that is open, or the whole pattern: whether its match can be asked for, the options
    outside it, and its finished branches and the parts of the present one, last ones first. -/
structure Scope where
  captures : Bool
  outside  : Options
  branches : List (Nested Node)
  parts    : List Part

namespace Scope

/-- A scope in which nothing has been read. -/
def start (captures : Bool) (outside : Options) : Scope := ⟨captures, outside, [], []⟩

/-- What the scope matches. -/
def node (s : Scope) : Nested Node :=
  let last := branchOf s.parts
  match s.branches.reverse with
  | []      => last
  | b :: bs =>
    let all := bs ++ [last]
    ⟨.altAll b.value (all.map Nested.value), (all.map Nested.depth).foldl max b.depth + 1⟩

/-- Ends a branch at a bar. -/
def endBranch (s : Scope) : Scope := { s with branches := branchOf s.parts :: s.branches, parts := [] }

/-- With one more part. -/
def add (s : Scope) (p : Part) : Scope := { s with parts := p :: s.parts }

end Scope

/-- What was read so far: the options in force, the names given to groups, the innermost scope and
    those around it. -/
structure Reader where
  options : Options
  names   : List Text
  scope   : Scope
  outers  : List Scope

namespace Reader

/-- Nothing read yet. -/
def start : Reader := ⟨.initial, [], .start false .initial, []⟩

/-- With one more part. -/
def add (r : Reader) (p : Part) : Reader := { r with scope := r.scope.add p }

/-- With one more node that contains no others. -/
def addLeaf (r : Reader) (n : Node) : Reader := r.add (.node n 0)

/-- The last part repeated; without one, or after a change of options, there is nothing to repeat. -/
def loopLast? (r : Reader) (least : Nat) (most : Option Nat) : Option Reader :=
  match r.scope.parts with
  | .node n d :: parts =>
    some { r with scope := { r.scope with parts := .node (.loop n least most) (d + 1) :: parts } }
  | _ => none

/-! ## Groups -/

/-- Characters that may begin the name of a group. -/
def isNameStart (c : Char) : Bool := c = '_' || isLetter c

/-- Characters that may follow in the name of a group. -/
def isNameChar (c : Char) : Bool :=
  c = '_' || c = '.' || c = '[' || c = ']' || isLetterOrNumber c

/-- The name of a group, and the rest after the bracket that closes it. No two groups share one. -/
def readName? (names : List Text) (t : Text) : Option (Text × Text) :=
  match Text.cutAt (· = '>') t with
  | some (c :: cs, rest) =>
    if isNameStart c && cs.all isNameChar && !names.contains (c :: cs) then some (c :: cs, rest)
    else none
  | _ => none

/-- Enters a group. -/
def enter (r : Reader) (captures : Bool) (inside : Options) : Reader :=
  { r with options := inside, scope := .start captures r.options, outers := r.scope :: r.outers }

/-- Enters a group with a name. -/
def enterNamed (r : Reader) (t : Text) : Option (Reader × Text) :=
  (readName? r.names t).map fun (name, rest) =>
    ({ r with names := name :: r.names }.enter true r.options, rest)

/-- Reads the beginning of a group, or a change of options, after the parenthesis. Conditions on
    what stands before or after a place are not part of the language. -/
def openGroup (r : Reader) (t : Text) : Option (Reader × Text) :=
  match r.options.skip t with
  | '?' :: '=' :: _             => none
  | '?' :: '!' :: _             => none
  | '?' :: '<' :: '=' :: _      => none
  | '?' :: '<' :: '!' :: _      => none
  | '?' :: 'P' :: '<' :: t      => r.enterNamed t
  | '?' :: '<' :: t             => r.enterNamed t
  | '?' :: t                    =>
    match readOptions r.options [] t with
    | some (o, _, ':' :: t)    => some (r.enter false o, t)
    | some (o, true, ')' :: t) => some ({ r with options := o }.add .mark, t)
    | _                        => none
  | t                           => some (r.enter true r.options, t)

/-- Leaves the innermost group; none where none is open. -/
def closeGroup (r : Reader) : Option Reader :=
  match r.outers with
  | []              => none
  | outer :: outers =>
    let inner := r.scope.node
    let node := if r.scope.captures then .capture inner.value else inner.value
    some { r with
      options := r.scope.outside
      scope   := outer.add (.node node (inner.depth + 1))
      outers  := outers }

/-! ## Reading -/

/-- A character under the options. An octet outside ASCII is no character without Unicode. -/
def literalNode? (o : Options) (c : Char) (asOctet : Bool) : Option Node :=
  if o.unicode then some (.set (if o.ignoreCase then .like (fold c) else .only c))
  else if asOctet && 0x80 ≤ c.toNat then none
  else some (.set (if o.ignoreCase && c.isAlpha then .foldedAscii (.only c) else .only c))

/-- The dot under the options. -/
def dotNode? (o : Options) : Option Node :=
  if !o.unicode then none
  else if o.dotAll then some (.set .all)
  else if o.crlf then some (.set (.compl (.union (.only '\n') (.only '\r'))))
  else some (.set (.compl (.only '\n')))

/-- The sign for the start of a line under the options. -/
def startLook (o : Options) : Look :=
  if !o.multiLine then .textStart else if o.crlf then .lineStartCrlf else .lineStart

/-- The sign for the end of a line under the options. -/
def endLook (o : Options) : Look :=
  if !o.multiLine then .textEnd else if o.crlf then .lineEndCrlf else .lineEnd

/-- The node of an escape under the options. -/
def escapeNode? (o : Options) : Escape → Option Node
  | .literal c asOctet => literalNode? o c asOctet
  | .set s             => some (.set s)
  | .look l            => some (.look l)

/-- Passes the sign that makes a repetition lazy: which match is found does not show here. -/
def passLazy : Text → Text
  | '?' :: t => t
  | t        => t

variable [PatternLibrary]

/-- Reads one sign of the pattern and what belongs to it. -/
def step (r : Reader) (c : Char) (t : Text) : Option (Reader × Text) :=
  match c with
  | '('    => r.openGroup t
  | ')'    => r.closeGroup.map fun r => (r, t)
  | '|'    => some ({ r with scope := r.scope.endBranch }, t)
  | '['    => (readBrackets r.options t).map fun (s, t) => (r.add (.node (.set s.value) s.depth), t)
  | '?'    => (r.loopLast? 0 (some 1)).map fun r => (r, passLazy t)
  | '*'    => (r.loopLast? 0 none).map fun r => (r, passLazy t)
  | '+'    => (r.loopLast? 1 none).map fun r => (r, passLazy t)
  | '\x7b' => do
    let (least, most, t) ← readCounts r.options t
    let r' ← r.loopLast? least most
    some (r', passLazy (r.options.skip t))
  | '\\'   => do
    let (e, t) ← readEscape r.options t
    let n ← escapeNode? r.options e
    some (r.addLeaf n, t)
  | '.'    => (dotNode? r.options).map fun n => (r.addLeaf n, t)
  | '^'    => some (r.addLeaf (.look (startLook r.options)), t)
  | '$'    => some (r.addLeaf (.look (endLook r.options)), t)
  | c      => (literalNode? r.options c false).map fun n => (r.addLeaf n, t)

/-- The whole pattern, if no group is open any more. -/
def finish (r : Reader) : Option (Nested Node) :=
  if r.outers.isEmpty then some r.scope.node else none

/-- Reads to the end of the text; `fuel` bounds the signs. -/
def readFrom : (fuel : Nat) → Reader → Text → Option (Nested Node)
  | 0,        _, _ => none
  | fuel + 1, r, t =>
    match r.options.skip t with
    | []     => r.finish
    | c :: t => (r.step c t).bind fun (r, t) => readFrom fuel r t

end Reader

/-- How deeply a pattern may be nested. -/
def greatestDepth : Nat := 250

/-- The pattern that a text writes; none where it writes none or nests too deeply. -/
def Node.read? [PatternLibrary] (t : Text) : Option Node :=
  (Reader.readFrom (t.length + 1) .start t).bind fun n =>
    if n.depth ≤ greatestDepth then some n.value else none

end RankSieve
