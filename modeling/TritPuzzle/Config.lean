import TritPuzzle.FileTree
import TritPuzzle.Json.Form
import TritPuzzle.Text.Decimal

/-!
# Configuration

A configuration file is a JSON record.  Every field has a default, so the empty
record is a configuration.

## Main definitions

* `Config`, `ScoringConfig` — the settings.
* `Config.parse` — the configuration that a text holds.
* `Config.load` — the configuration in a file.
-/

namespace TritPuzzle

/-- How wrong answers are dealt with. -/
structure ScoringConfig where
  /-- Every so many wrong answers the player gets a hint; never if zero. -/
  hintEvery : UInt32
  deriving DecidableEq, Repr

/-- The settings of the program. -/
structure Config where
  /-- The puzzle that is played when none is named. -/
  defaultPuzzle : String
  /-- How wrong answers are dealt with. -/
  scoring : ScoringConfig
  deriving DecidableEq, Repr

/-- The default for wrong answers: a hint every three. -/
def ScoringConfig.standard : ScoringConfig := { hintEvery := 3 }

/-- The default settings. -/
def Config.standard : Config :=
  { defaultPuzzle := "neutral-or-x", scoring := .standard }

/-- Why there is no configuration. -/
inductive ConfigError where
  /-- The file cannot be read. -/
  | unreadable (fault : FileFault)
  /-- The text is no configuration. -/
  | malformed (reason : String)
  deriving DecidableEq, Repr

/-- The message for a missing configuration. -/
def ConfigError.message : ConfigError → String
  | .unreadable fault => "I/O error: " ++ fault.message
  | .malformed reason => "parse error: " ++ reason

namespace ScoringConfig

/-- The settings in words. -/
def describe (c : ScoringConfig) : String :=
  "CheckerConfig \x7b nth_error_trigger: " ++ Text.decimal c.hintEvery.toNat ++ " \x7d"

/-- The settings in JSON. -/
def toJson (c : ScoringConfig) : Json :=
  .ofMembers [("nth_error_trigger", .ofNat c.hintEvery.toNat)]

/-- The settings that a JSON value is. -/
def ofJson? (j : Json) : Option ScoringConfig := do
  match ← j.fields? ["nth_error_trigger"] with
  | [hintEvery] => return { hintEvery := ← Json.fieldOr standard.hintEvery Json.uint32? hintEvery }
  | _ => none

end ScoringConfig

namespace Config

/-- The settings in JSON. -/
def toJson (c : Config) : Json :=
  .ofMembers [("default_puzzle", .ofText c.defaultPuzzle), ("checker", c.scoring.toJson)]

/-- The settings that a JSON value is. -/
def ofJson? (j : Json) : Option Config := do
  match ← j.fields? ["default_puzzle", "checker"] with
  | [puzzle, scoring] =>
    return {
      defaultPuzzle := ← Json.fieldOr standard.defaultPuzzle Json.text? puzzle
      scoring := ← Json.fieldOr standard.scoring ScoringConfig.ofJson? scoring }
  | _ => none

/-- The configuration that a text holds. -/
def parse (s : String) : Except ConfigError Config :=
  match (Json.parse? s).bind ofJson? with
  | some c => .ok c
  | none => .error (.malformed "no configuration")

end Config

/-- The configuration in a file. -/
def Config.load (file : FileState) : Except ConfigError Config := do
  Config.parse (← file.text.mapError .unreadable)

end TritPuzzle
