import RankSieve.Event.Directive
import RankSieve.Session

/-!
# `RankSieve.Script` — what a program does, step by step

A script is a program as a value: what it prints, which files it reads and writes, and how it goes on
with what came of that. It can be performed on the files of a computer, or be run on a `World`, which
is a value too, so that what a program does can be reasoned about.
-/

namespace RankSieve

/-- Steps, up to an exit code. -/
inductive Script where
  | finish (exitCode : Nat)
  /-- Writes to standard output. -/
  | print (text : Text) (next : Script)
  /-- Writes lines to standard error. -/
  | report (lines : List Text) (next : Script)
  /-- Reads a file as text. -/
  | load (path : Text) (next : Except FileFault Text → Script)
  /-- Makes or replaces a file. -/
  | save (path : Text) (content : Octets) (next : Except FileFault Unit → Script)
  /-- Holds a session with standard input, of whose events some are reported. -/
  | converse (session : Session) (shown : EventFilter) (next : Option SessionFault → Script)

/-- The lines of the events that a filter shows. -/
def EventFilter.linesOf (f : EventFilter) (events : List Event) : List Text :=
  (events.filter f.shows).map Event.line

/-- What a script can see and change. -/
structure World where
  directory : Directory
  input     : Octets
  output    : Sink
  /-- What was reported, each report with its own line ending. -/
  reports   : List Text
  deriving DecidableEq, Repr

namespace World

/-- Some files and standard input, before anything is written. -/
def start (directory : Directory) (input : Octets) : World := ⟨directory, input, .empty none, []⟩

end World

/-- Runs a script: the world after it, and its exit code. -/
def Script.run : Script → World → World × Nat
  | .finish code,           w => (w, code)
  | .print t next,          w => next.run { w with output := (w.output.write (Utf8.encode t)).1 }
  | .report ls next,        w => next.run { w with reports := w.reports ++ ls }
  | .load path next,        w => (next (w.directory.readText path)).run w
  | .save path bs next,     w =>
    match w.directory.write path bs with
    | .ok d      => (next (.ok ())).run { w with directory := d }
    | .error why => (next (.error why)).run w
  | .converse s shown next, w =>
    let (r, fault) := s.run w.directory w.output w.input
    (next fault).run ⟨r.directory, [], r.sink, w.reports ++ shown.linesOf r.events⟩

end RankSieve
