import RankSieve.Text.Blank

/-!
# `RankSieve.Event` — what the program reports about itself

An event tells of one thing that happened: how serious it is, which part of the program tells of it,
a message and named details. Operations give back their events; whether one is shown is decided by
the directives of `RankSieve.Event.Directive`.
-/

namespace RankSieve

/-- How serious an event is. -/
inductive Level where
  | error
  | warn
  | info
  | debug
  | trace
  deriving DecidableEq, Repr

namespace Level

/-- The name of a level, as it stands in front of an event. -/
def name : Level → Text
  | .error => "ERROR".toList
  | .warn  => "WARN".toList
  | .info  => "INFO".toList
  | .debug => "DEBUG".toList
  | .trace => "TRACE".toList

/-- The number of levels that are at least as serious. -/
def rank : Level → Nat
  | .error => 1
  | .warn  => 2
  | .info  => 3
  | .debug => 4
  | .trace => 5

end Level

/-- One event. -/
structure Event where
  level   : Level
  target  : Text
  message : Text
  /-- The names and the written values of the details. -/
  details : List (Text × Text)
  deriving DecidableEq, Repr

/-- An event on one line. -/
def Event.line (e : Event) : Text :=
  e.level.name ++ ' ' :: e.target ++ ": ".toList ++ e.message ++
    e.details.flatMap fun (name, value) => ' ' :: name ++ '=' :: value

end RankSieve
