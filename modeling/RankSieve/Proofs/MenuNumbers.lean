import RankSieve.Proofs.NumeralGrammar
import RankSieve.Proofs.SessionRefinement

/-!
# `RankSieve.Proofs.MenuNumbers` — the numbers of the menu are the picks

The menu is listed section by section, with a number that is counted on, and an entry is picked out of one list
of all entries, by its place. Two traversals, and nothing in the program says that they agree.

What is listed is taken here as it is shown: a number is read off the line that it stands on. The lines that have
one are those of all entries in order, whatever the sections are (`filter_numberedLinesFrom`). From there it is a
matter of places in one list.

## Contents
- **Lists with numbers.** `listedNumber?` reads the number of a line, `shownEntry` is the text of one, and `listed_iff`
  says which lines have which number.
- **Arguments.** `AsksFor` is what an argument has to be to ask for a number.
- **Answers.** `Session.answer_pick`: an argument that picks an entry appends it, any other gets a hint.
- **The main result.** `PicksAsListed` sessions, and `Session.picksAsListed`: all of them are.
-/

namespace RankSieve

/-! ## Lists with numbers -/

/-- The number that a line of a list begins with: two blanks, the number in its column, a point and a blank. -/
def listedNumber? : Text → Option Nat
  | ' ' :: ' ' :: column =>
    let number := column.dropWhile isBlank
    if (number.dropWhile Char.isDigit).take 2 = ['.', ' '] then
      Decimal.readDigits? (number.takeWhile Char.isDigit)
    else none
  | _ => none

/-- An entry as it is shown under a number: the number at the right of its column, the label of the entry at the left
    of the next one, and behind these what the entry appends. -/
def shownEntry (n : Nat) (e : QuickFilter) : Text :=
  let number := Decimal.ofNat n
  "  ".toList ++ List.replicate (3 - number.length) ' ' ++ number ++ ". ".toList ++
    e.label ++ List.replicate (14 - e.label.length) ' ' ++ " ".toList ++ e.token

/-- Whether a line has a number. -/
def isListed (line : Text) : Bool := (listedNumber? line).isSome

/-- The line of an entry is what it is shown as. -/
theorem numberedLine_eq (n : Nat) (e : QuickFilter) : Menu.numberedLine n e = shownEntry n e := by
  simp [Menu.numberedLine, Menu.entryText, Text.padLeft, Text.padRight, shownEntry]

/-- The number of an entry is the one that its line has. -/
theorem listedNumber?_numberedLine (n : Nat) (e : QuickFilter) : listedNumber? (Menu.numberedLine n e) = some n := by
  have hpad : ∀ c ∈ List.replicate (3 - (Decimal.ofNat n).length) ' ', isBlank c = true := by
    intro c hc
    rw [List.eq_of_mem_replicate hc]
    rfl
  have hdigits : ∀ c ∈ Decimal.ofNat n, c.isDigit = true := fun c hc => Decimal.isDigit_of_mem_ofNat hc
  have hline : Menu.numberedLine n e = ' ' :: ' ' :: (List.replicate (3 - (Decimal.ofNat n).length) ' ' ++
      (Decimal.ofNat n ++ '.' :: ' ' :: Menu.entryText e)) := by
    simp [Menu.numberedLine, Text.padLeft]
  rw [hline, listedNumber?, List.dropWhile_append_of_pos hpad, dropWhile_solid_append (Decimal.solid_ofNat n),
    List.dropWhile_append_of_pos hdigits, List.takeWhile_append_of_pos hdigits]
  simp [Decimal.readDigits?_ofNat]

/-- The column of numbers is not as wide as the numbers may become. -/
example : listedNumber? "  1000. 404            status:404".toList = some 1000 := by decide +kernel

/-- Titles that cannot be taken for entries. -/
def Titled (m : Menu) : Prop := ∀ s ∈ m, isListed (s.title ++ [':']) = false

theorem titled_ofSettings (s : MenuSettings) : Titled (Menu.ofSettings s) := by
  intro t ht
  simp only [Menu.ofSettings, List.mem_cons, List.not_mem_nil, or_false] at ht
  rcases ht with rfl | rfl | rfl | rfl | rfl
  · rfl
  · rfl
  · rfl
  · rfl
  · rfl

/-- The lines of entries with the numbers that they have got. -/
def entryLines (entries : List (QuickFilter × Nat)) : List Text := entries.map fun (e, n) => Menu.numberedLine n e

theorem filter_entryLines (entries : List (QuickFilter × Nat)) :
    (entryLines entries).filter isListed = entryLines entries := by
  apply List.filter_eq_self.mpr
  intro line hline
  obtain ⟨⟨e, n⟩, -, rfl⟩ := List.mem_map.mp hline
  simp [isListed, listedNumber?_numberedLine]

/-- **The lines with a number** are those of the entries, counted through all sections. By induction on the
    sections: each one goes on where the one before it stopped. -/
theorem filter_numberedLinesFrom {m : Menu} (hm : Titled m) (number : Nat) :
    (Menu.numberedLinesFrom number m).filter isListed = entryLines (m.entries.zipIdx number) := by
  induction m generalizing number with
  | nil => rfl
  | cons s m ih =>
    have htitle : ¬isListed (s.title ++ [':']) = true := by simp [hm s List.mem_cons_self]
    have hrest := ih (fun t ht => hm t (List.mem_cons_of_mem s ht)) (number + s.entries.length)
    have hcount : s.entries.zipIdx number = s.entries.zipIdx.map fun (e, i) => (e, number + i) :=
      List.zipIdx_eq_map_add
    have hentries : s.entries.zipIdx.map (fun (e, i) => Menu.numberedLine (number + i) e) =
        entryLines (s.entries.zipIdx number) := by
      unfold entryLines
      rw [hcount, List.map_map]
      rfl
    have hsections : Menu.entries (s :: m) = s.entries ++ Menu.entries m := List.flatMap_cons
    rw [Menu.numberedLinesFrom, hentries, List.cons_append, List.filter_cons_of_neg htitle, List.filter_append,
      filter_entryLines, hrest, hsections, List.zipIdx_append]
    exact List.map_append.symm

/-- **Which line has a number**: that of the entry in this place, counted from one. -/
theorem listed_iff {m : Menu} (hm : Titled m) {line : Text} {n : Nat} :
    line ∈ m.numberedLines ∧ listedNumber? line = some n ↔
      ∃ e, 1 ≤ n ∧ m.entries[n - 1]? = some e ∧ line = Menu.numberedLine n e := by
  have hlines : m.numberedLines.filter isListed = entryLines (m.entries.zipIdx 1) := filter_numberedLinesFrom hm 1
  constructor
  · rintro ⟨hline, hn⟩
    have hmem : line ∈ m.numberedLines.filter isListed := by
      apply List.mem_filter.mpr
      exact ⟨hline, by simp [isListed, hn]⟩
    rw [hlines] at hmem
    obtain ⟨⟨e, i⟩, hentry, rfl⟩ := List.mem_map.mp hmem
    obtain rfl : i = n := Option.some.inj ((listedNumber?_numberedLine i e).symm.trans hn)
    rw [List.mk_mem_zipIdx_iff_le_and_getElem?_sub] at hentry
    exact ⟨e, hentry.1, hentry.2, rfl⟩
  · rintro ⟨e, hn, he, rfl⟩
    have hentry : (e, n) ∈ m.entries.zipIdx 1 := List.mk_mem_zipIdx_iff_le_and_getElem?_sub.mpr ⟨hn, he⟩
    have hmem : Menu.numberedLine n e ∈ entryLines (m.entries.zipIdx 1) := List.mem_map.mpr ⟨(e, n), hentry, rfl⟩
    rw [← hlines] at hmem
    exact ⟨(List.mem_filter.mp hmem).1, listedNumber?_numberedLine n e⟩

/-- **The numbers in the order shown** go from one to the number of entries. -/
theorem listed_numbers {m : Menu} (hm : Titled m) :
    m.numberedLines.filterMap listedNumber? = List.range' 1 m.entries.length := by
  have hnumbered : m.numberedLines.filterMap listedNumber? =
      (m.numberedLines.filter isListed).filterMap listedNumber? := by
    rw [List.filterMap_filter]
    apply List.filterMap_congr
    intro line _
    unfold isListed
    cases listedNumber? line <;> rfl
  have hlines : m.numberedLines.filter isListed = entryLines (m.entries.zipIdx 1) := filter_numberedLinesFrom hm 1
  rw [hnumbered, hlines, ← List.zipIdx_map_snd 1, ← List.filterMap_eq_map, entryLines, List.filterMap_map]
  apply List.filterMap_congr
  rintro ⟨e, n⟩ _
  exact listedNumber?_numberedLine n e

/-! ## Arguments -/

/-- An argument that asks for a number: digits, with any number of zeros in front and perhaps a plus sign, whose
    value fits into 64 bits. -/
def AsksFor (argument : Text) (n : Nat) : Prop :=
  n < UInt64.size ∧ ∃ m : Numeral, m.sign ≠ .minus ∧ m.text = argument ∧ m.value = n

theorem readNat?_of_asksFor {argument : Text} {n : Nat} (h : AsksFor argument n) :
    Decimal.readNat? argument = some n := Decimal.readNat?_eq_some_iff.mpr h.2

/-- **An argument that asks for an entry** picks it. -/
theorem pickedAt?_of_asksFor {menu : Menu} {argument : Text} {n : Nat} {e : QuickFilter} (h : AsksFor argument n)
    (hn : 1 ≤ n) (he : menu.entries[n - 1]? = some e) : pickedAt? menu argument = some e := by
  unfold pickedAt?
  rw [readNat?_of_asksFor h, Option.bind_some, if_pos ⟨hn, h.1⟩]
  exact he

/-- **Any other argument** picks nothing, whatever is wrong with it. -/
theorem pickedAt?_eq_none {menu : Menu} {argument : Text}
    (h : ∀ n, 1 ≤ n → n ≤ menu.entries.length → ¬AsksFor argument n) : pickedAt? menu argument = none := by
  unfold pickedAt?
  cases hread : Decimal.readNat? argument with
  | none => rfl
  | some n =>
    rw [Option.bind_some]
    by_cases hfits : 1 ≤ n ∧ n < UInt64.size
    · rw [if_pos hfits]
      apply List.getElem?_eq_none
      -- a number in the bounds of the menu would have been asked for
      by_contra hlt
      apply h n hfits.1 (by omega)
      exact ⟨hfits.2, Decimal.readNat?_eq_some_iff.mp hread⟩
    · rw [if_neg hfits]

/-! ## Answers -/

/-- What is said when no entry has the number. -/
def pickHint (count : Nat) : Text := "Pick a number between 1 and ".toList ++ Decimal.ofNat count ++ ['\n']

namespace Session

variable {s : Session} {line argument : Text}

/-- The answer to the command that lists the menu. -/
theorem answer_menu (h : commandOf? line = some ("menu".toList, argument)) :
    s.answer (.ofLine s.menu line) = (s, .say (s.menu.numberedLines.flatMap (· ++ ['\n'])), []) := by
  rw [ofLine_eq, h]
  rfl

/-- The answer to the command that picks an entry hangs on what its argument picks. -/
theorem answer_pick (h : commandOf? line = some ("pick".toList, argument)) :
    s.answer (.ofLine s.menu line) = (pickedAt? s.menu argument).elim (s, .say (pickHint s.menu.entries.length), [])
      fun e => s.answer (.edit (.ofQuickFilter e)) := by
  have hcommand : Command.ofLine s.menu line = Command.pick s.menu argument := by
    rw [ofLine_eq, h]
    rfl
  rw [hcommand, pick_eq]
  cases pickedAt? s.menu argument with
  | none =>
    have hhint : endLines ["Pick a number between 1 and ".toList ++ Decimal.ofNat s.menu.entries.length] =
        pickHint s.menu.entries.length := List.flatMap_singleton ..
    rw [Option.elim_none, ← hhint]
    rfl
  | some e => rfl

/-- With an entry of the menu appended to the query, which asks for the focus as well. -/
def appended (s : Session) (e : QuickFilter) : Session := s.withBar (s.bar.act (.quick e)).1

/-- What is said then, and reported. -/
theorem answer_quick (s : Session) (e : QuickFilter) :
    s.answer (.edit (.ofQuickFilter e)) =
      (s.appended e, .say (statusText s.rows (s.appended e).bar), (s.bar.act (.quick e)).2.2) := by
  have hstatus : (s.appended e).status = statusText s.rows (s.appended e).bar := status_eq (s.appended e)
  rw [← hstatus]
  rfl

end Session

/-! ## The main result -/

/-- **The numbers of the menu are the picks.** The command that lists the menu says the numbered lines. Their numbers
    count the entries without a gap, and under each of them stands one line. It shows an entry, by its label and by
    what it appends, and this is the entry that any argument asking for the number appends. All other arguments get a
    hint, and nothing else happens. -/
structure PicksAsListed (s : Session) : Prop where
  menu_said : ∀ line argument, commandOf? line = some ("menu".toList, argument) →
    s.answer (.ofLine s.menu line) = (s, .say (s.menu.numberedLines.flatMap (· ++ ['\n'])), [])
  numbers : s.menu.numberedLines.filterMap listedNumber? = List.range' 1 s.menu.entries.length
  picked : ∀ n, 1 ≤ n → n ≤ s.menu.entries.length → ∃ e, s.menu.entries[n - 1]? = some e ∧
    (∀ l, l ∈ s.menu.numberedLines ∧ listedNumber? l = some n ↔ l = shownEntry n e) ∧
    ∀ line argument, commandOf? line = some ("pick".toList, argument) → AsksFor argument n →
      s.answer (.ofLine s.menu line) =
        (s.appended e, .say (statusText s.rows (s.appended e).bar), (s.bar.act (.quick e)).2.2)
  refused : ∀ line argument, commandOf? line = some ("pick".toList, argument) →
    (∀ n, 1 ≤ n → n ≤ s.menu.entries.length → ¬AsksFor argument n) →
      s.answer (.ofLine s.menu line) = (s, .say (pickHint s.menu.entries.length), [])

/-- Whatever the settings list for the menu, and whatever the query is, picks are as listed. -/
theorem Session.picksAsListed (s : Session) : PicksAsListed s := by
  have htitled : Titled s.menu := titled_ofSettings s.settings.menu
  refine ⟨?_, listed_numbers htitled, ?_, ?_⟩
  · intro line argument hline
    exact answer_menu hline
  · intro n hn hbound
    have hlt : n - 1 < s.menu.entries.length := by omega
    have he : s.menu.entries[n - 1]? = some s.menu.entries[n - 1] := List.getElem?_eq_getElem hlt
    refine ⟨_, he, ?_, ?_⟩
    · intro l
      rw [listed_iff htitled, ← numberedLine_eq]
      constructor
      · rintro ⟨e, -, he', rfl⟩
        rw [Option.some.inj (he.symm.trans he')]
      · intro hl
        exact ⟨_, hn, he, hl⟩
    · intro line argument hline hasks
      rw [answer_pick hline, pickedAt?_of_asksFor hasks hn he]
      exact answer_quick s _
  · intro line argument hline hnone
    rw [answer_pick hline, pickedAt?_eq_none hnone]
    rfl

/-- A number with a plus sign and a zero in front, and one that no entry has. -/
theorem Session.picksAsListed_standard :
    let s : Session := ⟨[], Settings.standard, false, .start (.standard 1048576)⟩
    "    4. POST           method:POST".toList ∈ s.menu.numberedLines ∧
      (s.answer (.ofLine s.menu ":pick +04".toList)).1 = s.appended (.method "POST".toList) ∧
      s.answer (.ofLine s.menu ":pick 00".toList) = (s, .say (pickHint s.menu.entries.length), []) := by
  intro s
  obtain ⟨-, -, hpicked, hrefused⟩ := Session.picksAsListed s
  obtain ⟨e, he, hlisted, hanswer⟩ := hpicked 4 (by decide) (by decide)
  have hpost : s.menu.entries[4 - 1]? = some (.method "POST".toList) := by decide
  obtain rfl : QuickFilter.method "POST".toList = e := Option.some.inj (hpost.symm.trans he)
  refine ⟨((hlisted _).mpr (by decide +kernel)).1, ?_, ?_⟩
  · have hasks : AsksFor "+04".toList 4 := by
      refine ⟨by decide, ⟨.plus, "04".toList, by decide, List.all_eq_true.mp (by decide)⟩, ?_, ?_, ?_⟩
      · decide
      · decide
      · decide
    rw [hanswer ":pick +04".toList "+04".toList (by decide +kernel) hasks]
  · apply hrefused ":pick 00".toList "00".toList (by decide +kernel)
    intro n hn _ hasks
    have hread : Decimal.readNat? "00".toList = some 0 := by decide
    have hzero : 0 = n := Option.some.inj (hread.symm.trans (readNat?_of_asksFor hasks))
    omega

end RankSieve
