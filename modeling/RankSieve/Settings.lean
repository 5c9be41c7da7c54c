import RankSieve.Text.Blank

/-!
# `RankSieve.Settings` — what a user can set
-/

namespace RankSieve

/-- What the menu of quick filters offers. -/
structure MenuSettings where
  methods        : List Text
  statusCodes    : List UInt16
  rankThresholds : List Int32
  deriving DecidableEq, Repr

/-- All settings. -/
structure Settings where
  /-- The memory that one pattern may take, in octets. -/
  patternSizeLimit : Nat
  menu             : MenuSettings
  /-- How many characters of a URL the table of rows shows; zero for all of them. -/
  maxUrlWidth      : Nat
  /-- Directives that choose the events to show. -/
  logLevel         : Option Text
  deriving DecidableEq, Repr

/-- The menu without settings of one's own. -/
def MenuSettings.standard : MenuSettings where
  methods        := ["GET", "POST", "PUT", "DELETE", "PATCH", "OPTIONS"].map String.toList
  statusCodes    := [200, 201, 301, 302, 400, 401, 403, 404, 500, 502, 503]
  rankThresholds := [5, 10, 20, 50, 100]

/-- The settings without any of one's own. -/
def Settings.standard : Settings where
  patternSizeLimit := 1048576
  menu             := .standard
  maxUrlWidth      := 100
  logLevel         := none

end RankSieve
