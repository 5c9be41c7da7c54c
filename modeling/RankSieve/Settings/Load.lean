import RankSieve.Directory
import RankSieve.Settings
import RankSieve.Toml.Decode

/-!
# `RankSieve.Settings.Load` — settings from a file

A file of settings has a table each for queries, the menu, the report and the events. Whatever it
leaves out keeps its standard value. How the library that reads documents puts what is wrong with a
text that is none is left to it: `TomlLibrary` is its word.
-/

namespace RankSieve

/-! ## Failures -/

/-- What a library of documents says is wrong with a text that is none. -/
class TomlLibrary where
  diagnosis : (source : Text) → Text

/-- The library of the programs that run, with one sentence for whatever is wrong. -/
instance (priority := low) TomlLibrary.sentence : TomlLibrary where
  diagnosis _ := "TOML parse error".toList

/-- What is wrong with a text that should hold settings. -/
inductive SettingsFault where
  /-- It is no document. -/
  | syntactic (diagnosis : Text)
  /-- The document does not hold settings; the text of the fault. -/
  | shape (text : Text)
  deriving DecidableEq, Repr

/-- The text of a fault. -/
def SettingsFault.message : SettingsFault → Text
  | .syntactic diagnosis => diagnosis
  | .shape text          => text

/-- Why no settings were loaded. -/
inductive SettingsError where
  | read (path : Text) (why : FileFault)
  | parse (path : Text) (why : SettingsFault)
  deriving DecidableEq, Repr

namespace SettingsError

/-- What lies behind the failure. -/
def cause : SettingsError → Text
  | .read _ why  => why.message
  | .parse _ why => why.message

/-- The text of the failure. -/
def message : SettingsError → Text
  | .read path why  => "Failed to read config file '".toList ++ path ++ "': ".toList ++ why.message
  | .parse path why => "Failed to parse config file '".toList ++ path ++ "': ".toList ++ why.message

end SettingsError

/-! ## Fields -/

namespace Settings

open Toml

/-- The fields for queries. -/
def queryFields : List (RecordField Settings) :=
  [⟨"pattern_size_limit".toList, fun s place item => do
    return { s with patternSizeLimit := ← decodeSize place item }⟩]

/-- The fields for the menu. -/
def menuFields : List (RecordField Settings) :=
  [⟨"methods".toList, fun s place item => do
      return { s with menu.methods := ← decodeList decodeText place item }⟩,
    ⟨"status_codes".toList, fun s place item => do
      return { s with menu.statusCodes := ← decodeList decodeUInt16 place item }⟩,
    ⟨"rank_thresholds".toList, fun s place item => do
      return { s with menu.rankThresholds := ← decodeList decodeInt32 place item }⟩]

/-- The fields for the report. -/
def displayFields : List (RecordField Settings) :=
  [⟨"max_url_width".toList, fun s place item => do
    return { s with maxUrlWidth := ← decodeSize place item }⟩]

/-- The fields for events. -/
def loggingFields : List (RecordField Settings) :=
  [⟨"level".toList, fun s place item => do
    return { s with logLevel := some (← decodeText place item) }⟩]

/-- The tables of a file. -/
def sections : List (RecordField Settings) :=
  [⟨"filter".toList, decodeRecord "FilterSettings".toList queryFields⟩,
    ⟨"menu".toList, decodeRecord "MenuConfig".toList menuFields⟩,
    ⟨"display".toList, decodeRecord "DisplayConfig".toList displayFields⟩,
    ⟨"logging".toList, decodeRecord "LoggingConfig".toList loggingFields⟩]

/-! ## Loading -/

variable [TomlLibrary]

/-- The settings that a text holds. -/
def ofText (t : Text) : Except SettingsFault Settings :=
  match readDocument t with
  | none   => .error (.syntactic (TomlLibrary.diagnosis t))
  | some d => (setNamed sections standard d.entries).mapError fun f => .shape (f.message t)

/-- The settings of a file's content, or of the fault in reading it. -/
def ofFile (path : Text) (content : Except FileFault Text) : Except SettingsError Settings :=
  match content with
  | .error why => .error (.read path why)
  | .ok t      => (ofText t).mapError (.parse path)

end Settings

end RankSieve
