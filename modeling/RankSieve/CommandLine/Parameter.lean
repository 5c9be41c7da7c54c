import RankSieve.Text.Blank

/-!
# `RankSieve.CommandLine.Parameter` — what the command line can say

## Contents
- **Commands.** The verbs, one of which the command line names.
- **Parameters.** Options with and without values, and the file of rows; their names, and the values
  that they take.
- **Levels.** Before the verb only general options stand, behind it also its own.
-/

namespace RankSieve.CommandLine

/-! ## Commands -/

/-- What the program can be told to do. -/
inductive Verb where
  | filter
  | save
  | converse
  | menu
  deriving DecidableEq, Repr

namespace Verb

/-- All of them, in the order in which they are listed. -/
def all : List Verb := [.filter, .save, .converse, .menu]

/-- How a verb is written. -/
def name : Verb → Text
  | .filter   => "filter".toList
  | .save     => "export".toList
  | .converse => "interactive".toList
  | .menu     => "menu".toList

/-- What a verb is for. -/
def purpose : Verb → Text
  | .filter   => "Print the rows that match a query".toList
  | .save     => "Write rows to a CSV file".toList
  | .converse => "Filter rows interactively, one query change per line".toList
  | .menu     => "List the quick-filter menu".toList

/-- The verb of a name. -/
def ofName? (name : Text) : Option Verb := all.find? fun v => v.name == name

end Verb

/-! ## Parameters -/

/-- What can be given on the command line beside a verb. -/
inductive Parameter where
  | config
  | verbose
  | quiet
  | color
  | help
  | version
  | query
  | format
  | output
  | visibleOnly
  /-- The file of rows, the only one given without a name. -/
  | file
  deriving DecidableEq, Repr

namespace Parameter

/-- The name behind two dashes. -/
def long : Parameter → Text
  | .config      => "config".toList
  | .verbose     => "verbose".toList
  | .quiet       => "quiet".toList
  | .color       => "color".toList
  | .help        => "help".toList
  | .version     => "version".toList
  | .query       => "filter".toList
  | .format      => "format".toList
  | .output      => "output".toList
  | .visibleOnly => "visible-only".toList
  | .file        => []

/-- The letter behind one dash. -/
def letter? : Parameter → Option Char
  | .config      => some 'c'
  | .verbose     => some 'v'
  | .quiet       => some 'q'
  | .color       => none
  | .help        => some 'h'
  | .version     => some 'V'
  | .query       => some 'f'
  | .format      => some 'F'
  | .output      => some 'o'
  | .visibleOnly => none
  | .file        => none

/-- What stands for the value of a parameter that takes one. -/
def placeholder? : Parameter → Option Text
  | .config => some "<CONFIG>".toList
  | .color  => some "<COLOR>".toList
  | .query  => some "<FILTER>".toList
  | .format => some "<FORMAT>".toList
  | .output => some "<OUTPUT>".toList
  | .file   => some "<FILE>".toList
  | _       => none

/-- Whether a value follows. -/
def takesValue (p : Parameter) : Bool := p.placeholder?.isSome

/-- How messages write a parameter. -/
def written : Parameter → Text
  | .file    => "<FILE>".toList
  | .verbose => "--verbose...".toList
  | p        => "--".toList ++ p.long ++ ((p.placeholder?.map (' ' :: ·)).getD [])

/-- The values of a parameter that has only some. -/
def choices : Parameter → List Text
  | .color  => ["auto", "always", "never"].map String.toList
  | .format => ["text", "json"].map String.toList
  | _       => []

/-- Whether a parameter can have no empty value. -/
def needsText : Parameter → Bool
  | .query => false
  | _      => true

end Parameter

/-! ## Levels -/

/-- Where on the command line: before any verb, or behind one. -/
abbrev Place := Option Verb

namespace Place

/-- The options that may stand anywhere. -/
def general : List Parameter := [.config, .verbose, .quiet, .color]

/-- The options that a verb has of its own. -/
def ofVerb : Verb → List Parameter
  | .filter   => [.query, .format, .output]
  | .save     => [.output, .query, .visibleOnly]
  | .converse => [.query]
  | .menu     => []

/-- The options that may stand at a place. -/
def options : Place → List Parameter
  | none   => general ++ [.help, .version]
  | some v => ofVerb v ++ general ++ [.help]

/-- What a verb cannot do without. -/
def required : Verb → List Parameter
  | .filter   => [.file]
  | .save     => [.output, .file]
  | .converse => [.file]
  | .menu     => []

/-- Whether a file of rows may stand at a place. -/
def takesFile : Place → Bool
  | none   => false
  | some v => required v |>.contains .file

/-- The option of a name. -/
def ofLong? (place : Place) (name : Text) : Option Parameter :=
  place.options.find? fun p => p.long == name

/-- The option of a letter. -/
def ofLetter? (place : Place) (c : Char) : Option Parameter :=
  place.options.find? fun p => p.letter? == some c

end Place

end RankSieve.CommandLine
