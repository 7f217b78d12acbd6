import Emend.Json.Literal
import Emend.Text.Case

/-!
# Settings

Every setting has a value from the first of three sources that has one: the environment, the settings
file, the default.
-/

namespace Emend

/-- A value of the settings file, as far as settings look at it: its text, and whether it counts as
present. -/
structure SettingValue where
  text : String
  truthy : Bool
  deriving DecidableEq, BEq, Repr, Inhabited

/-- The values of a settings file by their keys. A key without a value is as good as none. -/
abbrev SettingsFile := String → Option SettingValue

/-- The variables of the environment, by their names. -/
abbrev Environment := String → Option String

/-- What can be set. -/
structure Settings where
  /-- Relative paths of requests start here. -/
  projectRoot : String
  /-- The language of files whose extension tells none. -/
  defaultLanguage : Option String := none
  /-- Overlapping edits are refused. -/
  rejectOverlaps : Bool := true
  /-- New text takes over the indentation of the declaration that it concerns. -/
  normalizeIndentation : Bool := true
  /-- Changes are recorded for review. -/
  trackChanges : Bool := true
  /-- Every batch is logged. -/
  metricsEnabled : Bool := true
  /-- The folder of the log, inside the project. -/
  metricsDir : String := ".structedit"
  /-- The least severity that is told. -/
  logLevel : String := "WARNING"
  deriving DecidableEq, BEq, Repr, Inhabited

namespace Settings

/-- The keys of all settings. -/
def keys : List String :=
  ["project_root", "default_language", "reject_overlapping_edits", "normalize_indentation",
   "track_changes", "metrics_enabled", "metrics_dir", "log_level"]

/-- The variable that sets a key. -/
def variableName (key : String) : String := "STRUCTEDIT_" ++ Text.upper key

/-- A setting that is a text. -/
def textSetting (environment : Environment) (file : SettingsFile) (key default : String) : String :=
  match environment (variableName key) with
  | some s => s
  | none => ((file key).map (·.text)).getD default

/-- The words that switch a setting on. -/
def switchWords : List String := ["1", "true", "yes", "on"]

/-- A setting that is on or off; it is on by default. -/
def switchSetting (environment : Environment) (file : SettingsFile) (key : String) : Bool :=
  match environment (variableName key) with
  | some s => switchWords.contains (Text.lower s)
  | none => ((file key).map (·.truthy)).getD true

/-- The settings of all sources; `here` is the project root where none is set. -/
def ofSources (here : String) (environment : Environment) (file : SettingsFile) : Settings :=
  let text := textSetting environment file
  let switch := switchSetting environment file
  let root := text "project_root" ""
  let language := text "default_language" ""
  { projectRoot := if root.isEmpty then here else root
    defaultLanguage := if language.isEmpty then none else some language
    rejectOverlaps := switch "reject_overlapping_edits"
    normalizeIndentation := switch "normalize_indentation"
    trackChanges := switch "track_changes"
    metricsEnabled := switch "metrics_enabled"
    metricsDir := text "metrics_dir" ".structedit"
    logLevel := Text.upper (text "log_level" "WARNING") }

/-- A settings file that is given as an object. -/
def ofFields (fields : List (String × Json)) : SettingsFile := fun key =>
  match Json.get key fields with
  | .null => none
  | v => some ⟨v.toText, v.isTruthy⟩

end Settings

end Emend
