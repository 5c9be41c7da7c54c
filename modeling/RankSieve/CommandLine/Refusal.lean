import RankSieve.CommandLine.Parameter

/-!
# `RankSieve.CommandLine.Refusal` — command lines that start nothing

A command line may be wrong, or only ask about the program. Either way a text is all that comes of it.
-/

namespace RankSieve.CommandLine

/-! ## Faults -/

/-- What can be wrong with a command line. -/
inductive UsageError where
  | unexpected (word : Text)
  /-- A word where a verb should be. -/
  | unknownVerb (word : Text)
  | missingValue (p : Parameter)
  | invalidValue (p : Parameter) (value : Text)
  /-- A value for an option that takes none. -/
  | unneededValue (p : Parameter) (value : Text)
  | repeated (p : Parameter)
  | missing (ps : List Parameter)
  | missingVerb
  deriving DecidableEq, Repr

/-- Words of a list, with commas between them. -/
def commaSeparated (ts : List Text) : Text := List.intercalate ", ".toList ts

/-- The values to choose from, on a line of their own. -/
def choiceLines (p : Parameter) : List Text :=
  if p.choices.isEmpty then []
  else ["  [possible values: ".toList ++ commaSeparated p.choices ++ [']']]

/-- What is wrong, and what there is to say about it. -/
def UsageError.lines : UsageError → List Text
  | .unexpected word      => ["unexpected argument '".toList ++ word ++ "' found".toList]
  | .unknownVerb word     => ["unrecognized subcommand '".toList ++ word ++ ['\'']]
  | .missingValue p       =>
    ("a value is required for '".toList ++ p.written ++ "' but none was supplied".toList) :: choiceLines p
  | .invalidValue p value =>
    ("invalid value '".toList ++ value ++ "' for '".toList ++ p.written ++ ['\'']) :: choiceLines p
  | .unneededValue p value =>
    ["unexpected value '".toList ++ value ++ "' for '".toList ++ p.written ++
      "' found; no more were expected".toList]
  | .repeated p           =>
    ["the argument '".toList ++ p.written ++ "' cannot be used multiple times".toList]
  | .missing ps           =>
    "the following required arguments were not provided:".toList :: ps.map fun p => "  ".toList ++ p.written
  | .missingVerb          =>
    ["'anomaly-rank' requires a subcommand but one was not provided".toList,
      "  [subcommands: ".toList ++ commaSeparated (Verb.all.map Verb.name ++ ["help".toList]) ++ [']']]

/-! ## Help -/

/-- What help is about. -/
inductive Topic where
  | program
  | verb (v : Verb)
  | help
  deriving DecidableEq, Repr

/-- Lines of two columns, the second of them aligned. -/
def columns (entries : List (Text × Text)) : List Text :=
  let width := (entries.map (·.1.length)).foldl max 0
  entries.map fun (left, right) => "  ".toList ++ left.padRight width ++ "  ".toList ++ right

/-- What an option is for, and the names by which it is given. -/
def optionEntry (p : Parameter) (purpose : String) : Text × Text :=
  let names := match p.letter? with
    | some c => ['-', c, ',', ' ']
    | none   => List.replicate 4 ' '
  (names ++ p.written, purpose.toList)

/-- The options that may stand anywhere. -/
def generalEntries : List (Text × Text) := [
  optionEntry .config "TOML configuration file [env: ANOMALY_RANK_CONFIG]",
  optionEntry .verbose "Increase log verbosity (-v debug, -vv trace)",
  optionEntry .quiet "Only log errors",
  optionEntry .color "When to color output [default: auto] [possible values: auto, always, never]",
  optionEntry .help "Print help"]

/-- The options of a verb. -/
def verbEntries : Verb → List (Text × Text)
  | .filter   => [
    optionEntry .query "Query, e.g. \"method:POST AND status:>=500\"",
    optionEntry .format "Output format [default: text] [possible values: text, json]",
    optionEntry .output "Also write the output to this file"]
  | .save     => [
    optionEntry .output "Destination CSV file",
    optionEntry .query "Query used with --visible-only",
    optionEntry .visibleOnly "Export only rows matching the query instead of every row"]
  | .converse => [optionEntry .query "Query to start from"]
  | .menu     => []

/-- How a verb is used. -/
def usage : Verb → Text
  | .filter   => "Usage: anomaly-rank filter [OPTIONS] <FILE>".toList
  | .save     => "Usage: anomaly-rank export [OPTIONS] --output <OUTPUT> <FILE>".toList
  | .converse => "Usage: anomaly-rank interactive [OPTIONS] <FILE>".toList
  | .menu     => "Usage: anomaly-rank menu [OPTIONS]".toList

/-- The entry of the word that asks for help. -/
def helpEntry : Text × Text :=
  ("help".toList, "Print this message or the help of the given subcommand(s)".toList)

/-- The file of rows, where a verb takes one. -/
def fileLines (v : Verb) : List Text :=
  if Place.takesFile (some v) then
    ["Arguments:".toList] ++
      columns [(Parameter.file.written, "Ranked results file (JSON array or JSON Lines)".toList)] ++ [[]]
  else []

/-- The help on a topic. -/
def Topic.lines : Topic → List Text
  | .program =>
    ["Browse and filter anomaly-ranked HTTP exchanges".toList, [],
      "Usage: anomaly-rank [OPTIONS] <COMMAND>".toList, [], "Commands:".toList] ++
      columns (Verb.all.map (fun v => (v.name, v.purpose)) ++ [helpEntry]) ++
      [[], "Options:".toList] ++ columns (generalEntries ++ [optionEntry .version "Print version"])
  | .verb v  =>
    [v.purpose, [], usage v, []] ++ fileLines v ++
      ["Options:".toList] ++ columns (verbEntries v ++ generalEntries)
  | .help    =>
    [helpEntry.2, [], "Usage: anomaly-rank help [COMMAND]".toList, [], "Commands:".toList] ++
      columns (Verb.all.map fun v => (v.name, v.purpose))

/-! ## Refusals -/

/-- The release of the program. -/
def release : Text := "0.1.2".toList

/-- Why a command line starts nothing. -/
inductive Refusal where
  | usage (e : UsageError)
  /-- It asks for help. -/
  | help (topic : Topic)
  /-- It asks for the release. -/
  | version
  /-- It says nothing. -/
  | nothingSaid
  deriving DecidableEq, Repr

namespace Refusal

/-- What is said on standard output: what was asked for. -/
def output : Refusal → List Text
  | .usage _     => []
  | .help topic  => topic.lines
  | .version     => ["anomaly-rank ".toList ++ release]
  | .nothingSaid => []

/-- What is said on standard error: what is wrong. -/
def complaint : Refusal → List Text
  | .usage e     =>
    match e.lines with
    | []        => []
    | first :: more =>
      ["error: ".toList ++ first] ++ more ++ [[], "For more information, try '--help'.".toList]
  | .help _      => []
  | .version     => []
  | .nothingSaid => Topic.program.lines

/-- The exit code: only who asks gets an answer that counts as success. -/
def exitCode : Refusal → Nat
  | .usage _     => 2
  | .help _      => 0
  | .version     => 0
  | .nothingSaid => 2

end Refusal

end RankSieve.CommandLine
