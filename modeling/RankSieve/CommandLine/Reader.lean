import RankSieve.CommandLine.Refusal

/-!
# `RankSieve.CommandLine.Reader` — from words to an invocation

The words of a command line are read from left to right. The value of an option is looked at only when
the next option or the file comes, or the words end; so of several faults it may be a later one that
counts.

## Contents
- **Invocations.** What a command line says, once it is understood.
- **Words.** `shape` tells options from other words.
- **Gathering.** `Given` collects parameters, `Given.read` those of one place.
- **Reading.** `Invocation.read` reads a whole command line.
-/

namespace RankSieve.CommandLine

/-! ## Invocations -/

/-- Whether output is styled. -/
inductive ColorMode where
  | auto
  | always
  | never
  deriving DecidableEq, Repr

/-- How rows are printed. -/
inductive OutputFormat where
  | text
  | json
  deriving DecidableEq, Repr

/-- What to do. -/
inductive Job where
  | filter (file : Text) (query : Option Text) (format : OutputFormat) (output : Option Text)
  | save (file output : Text) (query : Option Text) (visibleOnly : Bool)
  | converse (file : Text) (query : Option Text)
  | menu
  deriving DecidableEq, Repr

/-- What a command line says. -/
structure Invocation where
  config  : Option Text
  /-- How often more events were asked for. -/
  verbose : Nat
  quiet   : Bool
  color   : ColorMode
  job     : Job
  deriving DecidableEq, Repr

/-! ## Words -/

/-- What a word looks like. -/
inductive Shape where
  /-- Two dashes alone: no options follow. -/
  | endOfOptions
  | long (name : Text) (value : Option Text)
  | letters (cs : Text)
  | word
  deriving DecidableEq, Repr

/-- What a word looks like. One dash alone is an option without letters. -/
def shape (word : Text) : Shape :=
  match word with
  | ['-', '-']       => .endOfOptions
  | '-' :: '-' :: cs =>
    match Text.cutAt (· = '=') cs with
    | some (name, value) => .long name (some value)
    | none               => .long cs none
  | '-' :: cs        => .letters cs
  | _                => .word

/-- The value that is attached to the letter of an option, with an equals sign or without. -/
def attachedValue? : Text → Option Text
  | []       => none
  | '=' :: v => some v
  | v        => some v

/-! ## Gathering -/

/-- The parameters given at one place. -/
structure Given where
  settled     : List (Parameter × Text)
  /-- The last one with a value, which may still be to come. -/
  pending     : Option (Parameter × Option Text)
  /-- Whether no more options follow. -/
  optionsOver : Bool
  deriving DecidableEq, Repr

/-- A fault of the command line. -/
def fault {α : Type} (e : UsageError) : Except Refusal α := .error (.usage e)

/-- Whether a parameter can have a value. -/
def checkValue (p : Parameter) (value : Text) : Except Refusal Unit :=
  if value.isEmpty && p.needsText then fault (.missingValue p)
  else if p.choices.isEmpty || p.choices.contains value then .ok ()
  else fault (.invalidValue p value)

namespace Given

/-- Nothing yet. -/
def empty : Given := ⟨[], none, false⟩

/-- Whether a parameter is settled. -/
def has (g : Given) (p : Parameter) : Bool := g.settled.any fun entry => entry.1 == p

/-- The value of a parameter. -/
def value? (g : Given) (p : Parameter) : Option Text :=
  (g.settled.find? fun entry => entry.1 == p).map (·.2)

/-- How often a parameter was given. -/
def count (g : Given) (p : Parameter) : Nat := g.settled.countP fun entry => entry.1 == p

/-- Settles a parameter. None is given twice, but for asking for more events. -/
def give (g : Given) (p : Parameter) (value : Text) : Except Refusal Given := do
  if g.has p && p != .verbose then fault (.repeated p)
  if p.takesValue then checkValue p value
  return { g with settled := g.settled ++ [(p, value)] }

/-- Settles the parameter that is pending. -/
def settle (g : Given) : Except Refusal Given :=
  match g.pending with
  | none             => .ok g
  | some (p, none)   => fault (.missingValue p)
  | some (p, some v) => { g with pending := none }.give p v

/-- Whether the next word is the value of an option. -/
def awaitsValue (g : Given) : Bool :=
  match g.pending with
  | some (_, none) => true
  | _              => false

/-- Takes an option without a value. -/
def takeFlag (place : Place) (g : Given) (p : Parameter) : Except Refusal Given := do
  let g ← g.settle
  match p with
  | .help    => .error (.help ((place.map .verb).getD .program))
  | .version => .error .version
  | p        => g.give p []

/-- Takes an option, with the value that is attached to it. -/
def takeOption (place : Place) (g : Given) (p : Parameter) (attached : Option Text) :
    Except Refusal Given :=
  if p.takesValue then do
    let g ← g.settle
    match attached with
    | some v => g.give p v
    | none   => return { g with pending := some (p, none) }
  else
    match attached with
    | some v => fault (.unneededValue p v)
    | none   => g.takeFlag place p

/-- Takes options by their letters. What follows the letter of an option with a value is the value. -/
def takeLetters (place : Place) : Given → Text → Except Refusal Given
  | g, []      => .ok g
  | g, c :: cs =>
    match place.ofLetter? c with
    | none   => fault (.unexpected ['-', c])
    | some p =>
      if p.takesValue then g.takeOption place p (attachedValue? cs)
      else do takeLetters place (← g.takeFlag place p) cs

/-- Whether the file of rows was given. -/
def hasFile (g : Given) : Bool := g.has .file || g.pending.any fun entry => entry.1 == .file

/-- The word that asks for help. -/
def helpWord : Text := "help".toList

/-- Whether a word can follow the options in front: a verb, or the word for help. -/
def isCommandWord (word : Text) : Bool := word == helpWord || (Verb.ofName? word).isSome

/-- Takes a word that is neither an option nor the value of one. -/
def takeWord (place : Place) (g : Given) (word : Text) : Except Refusal Given :=
  if place.takesFile && !g.hasFile then do
    return { ← g.settle with pending := some (.file, some word) }
  else if place.isNone && !(g.optionsOver && isCommandWord word) then fault (.unknownVerb word)
  else fault (.unexpected word)

/-- Takes any word at a place. -/
def take (place : Place) (g : Given) (word : Text) : Except Refusal Given :=
  if g.optionsOver then g.takeWord place word
  else
    match shape word with
    | .endOfOptions      => .ok { g with optionsOver := true }
    | .long name value   =>
      match place.ofLong? name with
      | some p => g.takeOption place p value
      | none   => fault (.unexpected ("--".toList ++ name))
    | .letters (c :: cs) => g.takeLetters place (c :: cs)
    | _                  =>
      match g.pending with
      | some (p, none) => .ok { g with pending := some (p, some word) }
      | _              => g.takeWord place word

/-- Takes the words of a place, up to a verb if it is the one in front. -/
def read (place : Place) : Given → List Text → Except Refusal (Given × Option (Text × List Text))
  | g, []            => .ok (g, none)
  | g, word :: words =>
    if place.isNone && !g.optionsOver && !g.awaitsValue && isCommandWord word then
      .ok (g, some (word, words))
    else do read place (← g.take place word) words

/-- Settles everything. The file of settings that the environment names counts where none is given. -/
def finish (environment : Option Text) (g : Given) : Except Refusal Given := do
  let g ← g.settle
  if !g.has .config && environment == some [] then fault (.missingValue .config)
  return g

end Given

/-! ## Reading -/

/-- The help that words ask for. -/
def helpOn : List Text → Refusal
  | []         => .help .program
  | [word]     =>
    if word == Given.helpWord then .help .help
    else
      match Verb.ofName? word with
      | some v => .help (.verb v)
      | none   => .usage (.unknownVerb word)
  | word :: next :: _ => .usage (.unknownVerb (if Given.isCommandWord word then next else word))

/-- The colour mode of a word. -/
def ColorMode.ofWord (word : Text) : ColorMode :=
  if word = "always".toList then .always else if word = "never".toList then .never else .auto

/-- The format of a word. -/
def OutputFormat.ofWord (word : Text) : OutputFormat := if word = "json".toList then .json else .text

/-- The job of a verb with its parameters. -/
def Job.ofGiven (verb : Verb) (g : Given) : Job :=
  let file := (g.value? .file).getD []
  let query := g.value? .query
  let format := ((g.value? .format).map OutputFormat.ofWord).getD .text
  match verb with
  | .filter   => .filter file query format (g.value? .output)
  | .save     => .save file ((g.value? .output).getD []) query (g.has .visibleOnly)
  | .converse => .converse file query
  | .menu     => .menu

namespace Invocation

/-- The invocation of parameters before and behind a verb. What stands behind it counts first. -/
def ofGiven (environment : Option Text) (verb : Verb) (front behind : Given) : Invocation where
  config  := (behind.value? .config).or ((front.value? .config).or environment)
  verbose := if behind.has .verbose then behind.count .verbose else front.count .verbose
  quiet   := behind.has .quiet || front.has .quiet
  color   := (((behind.value? .color).or (front.value? .color)).map ColorMode.ofWord).getD .auto
  job     := .ofGiven verb behind

/-- Reads the words behind a verb. -/
def readBehind (environment : Option Text) (verb : Verb) (words : List Text) : Except Refusal Given := do
  let (g, _) ← Given.empty.read (some verb) words
  let g ← g.finish environment
  match (Place.required verb).filter fun p => !g.has p with
  | []      => return g
  | p :: ps => fault (.missing (p :: ps))

/-- Reads a command line; the environment may name a file of settings. What stands behind the verb is
    read before the last option in front of it is looked at. -/
def read (environment : Option Text) (words : List Text) : Except Refusal Invocation := do
  let (front, command) ← Given.empty.read none words
  match command with
  | none              =>
    let front ← front.finish environment
    if front.settled.isEmpty && environment.isNone then .error .nothingSaid else fault .missingVerb
  | some (word, rest) =>
    match Verb.ofName? word with
    | none      => .error (helpOn rest)
    | some verb =>
      let behind ← readBehind environment verb rest
      let front ← front.finish environment
      return ofGiven environment verb front behind

end Invocation

end RankSieve.CommandLine
