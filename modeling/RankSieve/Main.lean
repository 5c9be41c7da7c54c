import RankSieve.Program

/-!
# `RankSieve.Main` — the program on a computer

Performs the script of the program: the files are those of the computer, a session reads standard input
line by line, and what is reported goes to standard error.
-/

namespace RankSieve.Main

/-! ## Files -/

/-- The fault of a number of the operating system, which may have come with its sign changed. -/
def faultOfNumber? (number : UInt32) : Option FileFault :=
  let n := number.toNat
  match (if n < 2147483648 then n else 4294967296 - n) with
  | 2  => some .notFound
  | 20 => some .notADirectory
  | 21 => some .isADirectory
  | 36 => some .nameTooLong
  | _  => none

/-- The fault behind an error of the operating system. -/
def faultOf (e : IO.Error) : FileFault :=
  let known? : Option FileFault := match e with
    | .noFileOrDirectory _ _ _   => some .notFound
    | .inappropriateType _ n _   => faultOfNumber? n
    | .invalidArgument _ n _     => faultOfNumber? n
    | _                          => none
  known?.getD (.other (toString e).toList)

/-- Runs an action on a file. -/
def attempt {α : Type} (path : Text) (action : String → IO α) : IO (Except FileFault α) := do
  if path.contains '\x00' then return .error .nulInName
  try
    return .ok (← action (String.ofList path))
  catch e =>
    return .error (faultOf e)

/-- Reads a file as text. -/
def readText (path : Text) : IO (Except FileFault Text) := do
  match ← attempt path fun name => IO.FS.readBinFile name with
  | .error why => return .error why
  | .ok bytes  =>
    match Utf8.decode? bytes.toList with
    | some t => return .ok t
    | none   => return .error .invalidText

/-- Makes or replaces a file. -/
def write (path : Text) (content : Octets) : IO (Except FileFault Unit) :=
  attempt path fun name => IO.FS.writeBinFile name ⟨content.toArray⟩

/-! ## Streams -/

/-- Writes to standard output. -/
def print (t : Text) : IO Unit := do
  let out ← IO.getStdout
  out.putStr (String.ofList t)
  out.flush

/-- Writes lines to standard error. -/
def report (lines : List Text) : IO Unit := do
  let err ← IO.getStderr
  for line in lines do
    err.putStrLn (String.ofList line)

/-- Reads octets of standard input up to a line feed, given those before backwards. At the end of the
    input there is no line any more. -/
partial def readLineFrom (before : List UInt8) : IO (Option Octets) := do
  let bytes ← (← IO.getStdin).read 1
  match bytes.toList with
  | []       => return if before.isEmpty then none else some before.reverse
  | b :: _   => if b = 10 then return some (closeLine 13 before) else readLineFrom (b :: before)

/-! ## Sessions -/

/-- Writes all rows of a session to a file, and says what came of it. -/
def saveAll (s : Session) (shown : EventFilter) (path : Text) : IO Unit := do
  match ← write path (Utf8.encode (Csv.ofRows s.rows)) with
  | .ok _      =>
    report (shown.linesOf [exportedEvent path s.rows.length])
    print (Session.exportReply path (.ok s.rows.length))
  | .error why => print (Session.exportReply path (.error (.create path why)))

/-- Holds a session, once it has been greeted. -/
partial def converse (s : Session) (shown : EventFilter) : IO (Option SessionFault) := do
  match ← readLineFrom [] with
  | none        => return none
  | some octets =>
    match Utf8.decode? octets with
    | none      => return some .invalidText
    | some line =>
      let (s, reply, events) := s.answer (.ofLine s.menu line)
      report (shown.linesOf events)
      match reply with
      | .leave     => return none
      | .say t     => print t
      | .save path => saveAll s shown path
      let (s, events) := s.grantFocus
      report (shown.linesOf events)
      converse s shown

/-! ## Scripts -/

/-- Performs a script, and gives its exit code. -/
def perform : Script → IO UInt32
  | .finish code           => return UInt32.ofNat code
  | .print t next          => do print t; perform next
  | .report lines next     => do report lines; perform next
  | .load path next        => do perform (next (← readText path))
  | .save path bs next     => do perform (next (← write path bs))
  | .converse s shown next => do
    print s.greeting
    perform (next (← converse s shown))

end RankSieve.Main

/-- The program. -/
def main (words : List String) : IO UInt32 := do
  let names := ["RUST_LOG", "ANOMALY_RANK_CONFIG", "CLICOLOR_FORCE"]
  let values ← names.mapM fun name => do return (name.toList, (← IO.getEnv name).map String.toList)
  let valueOf (name : RankSieve.Text) : Option RankSieve.Text :=
    (values.find? fun entry => entry.1 == name).bind (·.2)
  RankSieve.Main.perform (RankSieve.Program.script (.ofVariables valueOf) (words.map String.toList))
