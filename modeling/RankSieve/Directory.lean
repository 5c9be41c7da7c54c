import RankSieve.Text.Utf8

/-!
# `RankSieve.Directory` — named files

The files that a run of the program can see, and the directory that it was started in. A path that
begins with a slash is followed from the root, any other from the current directory, and two points
lead upwards from wherever they stand; above the root there is only the root. Directories are there as
far as files, or the current directory, lie in them.

## Contents
- **Faults.** Why a file cannot be reached, with the texts of the operating system.
- **Paths.** `Directory.resolve` follows a path name by name.
- **Access.** `Directory.read`, `readText` and `write`.
-/

namespace RankSieve

/-! ## Faults -/

/-- Why a file cannot be reached. -/
inductive FileFault where
  | notFound
  | notADirectory
  | isADirectory
  | nameTooLong
  | nulInName
  /-- The content is no text. -/
  | invalidText
  /-- Any other fault of the operating system, by its text. -/
  | other (text : Text)
  deriving DecidableEq, Repr

/-- The text of a fault. -/
def FileFault.message : FileFault → Text
  | .notFound      => "No such file or directory (os error 2)".toList
  | .notADirectory => "Not a directory (os error 20)".toList
  | .isADirectory  => "Is a directory (os error 21)".toList
  | .nameTooLong   => "File name too long (os error 36)".toList
  | .nulInName     => "file name contained an unexpected NUL byte".toList
  | .invalidText   => "stream did not contain valid UTF-8".toList
  | .other text    => text

/-! ## Paths -/

/-- The names on the way from the root to a file or a directory. -/
abbrev Names := List Text

/-- The current directory, and all files by the names on the way to them. -/
structure Directory where
  here  : Names
  files : List (Names × Octets)
  deriving DecidableEq, Repr

/-- Where a path leads. -/
inductive Destination where
  | file (names : Names)
  | directory
  /-- Nothing has the last name, but its directory is there. -/
  | free (names : Names)
  deriving DecidableEq, Repr

namespace Directory

/-- The content of the file at some names. -/
def contentAt? (d : Directory) (names : Names) : Option Octets :=
  (d.files.find? fun entry => entry.1 == names).map (·.2)

/-- Whether a directory lies at some names: the current directory lies there or below, or a file lies
    below. -/
def hasDirectory (d : Directory) (names : Names) : Bool :=
  names.isPrefixOf d.here ||
    d.files.any fun entry => names.isPrefixOf entry.1 && names.length < entry.1.length

/-- The longest name, in octets. -/
def longestName : Nat := 255

/-- The longest path, in octets. -/
def longestPath : Nat := 4095

/-- Follows the rest of a path from a directory. -/
def follow (d : Directory) : Names → List Text → Except FileFault Destination
  | _, [] => .ok .directory
  | ns, name :: rest =>
    if name.isEmpty || name == ['.'] then d.follow ns rest
    else if name == ['.', '.'] then d.follow ns.dropLast rest
    else if longestName < Utf8.size name then .error .nameTooLong
    else
      let names := ns ++ [name]
      if (d.contentAt? names).isSome then
        if rest.isEmpty then .ok (.file names) else .error .notADirectory
      else if d.hasDirectory names then d.follow names rest
      else if rest.isEmpty then .ok (.free names)
      else if rest.all (·.isEmpty) then .error .isADirectory
      else .error .notFound

/-- Where a path leads. -/
def resolve (d : Directory) (path : Text) : Except FileFault Destination :=
  if path.contains '\x00' then .error .nulInName
  else if longestPath < Utf8.size path then .error .nameTooLong
  else
    match path with
    | []       => .error .notFound
    | '/' :: t => d.follow [] (t.splitOn '/')
    | t        => d.follow d.here (t.splitOn '/')

/-! ## Access -/

/-- The content of a file. -/
def read (d : Directory) (path : Text) : Except FileFault Octets :=
  match d.resolve path with
  | .error .isADirectory => .error .notFound
  | .error e             => .error e
  | .ok .directory       => .error .isADirectory
  | .ok (.free _)        => .error .notFound
  | .ok (.file names)    => .ok ((d.contentAt? names).getD [])

/-- The content of a file that is a text. -/
def readText (d : Directory) (path : Text) : Except FileFault Text :=
  match d.read path with
  | .error e => .error e
  | .ok bs   =>
    match Utf8.decode? bs with
    | some t => .ok t
    | none   => .error .invalidText

/-- With the given content at some names. -/
def put (d : Directory) (names : Names) (content : Octets) : Directory :=
  if (d.contentAt? names).isSome then
    ⟨d.here, d.files.map fun entry => if entry.1 == names then (names, content) else entry⟩
  else ⟨d.here, d.files ++ [(names, content)]⟩

/-- Makes or replaces a file. -/
def write (d : Directory) (path : Text) (content : Octets) : Except FileFault Directory :=
  match d.resolve path with
  | .error e         => .error e
  | .ok .directory   => .error .isADirectory
  | .ok (.free names) => .ok (d.put names content)
  | .ok (.file names) => .ok (d.put names content)

end Directory

end RankSieve
