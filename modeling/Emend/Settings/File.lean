import Emend.Disk
import Emend.Settings.Basic
import Emend.Text.Lines
import Emend.Yaml.Reader

/-!
# Settings files

Where the settings file lies and what it sets. A file that is not YAML, or holds no mapping, sets
nothing.
-/

namespace Emend.Settings

/-- The names that a settings file can have. -/
def fileNames : List String := [".structedit.yaml", ".structedit.yml"]

/-- The paths at which the settings file can lie: the one that is asked for, or else those in the working
folder and in the home folder. -/
def candidates (d : Disk) (home : String) (asked : Option String) : List String :=
  match asked.filter (!·.isEmpty) with
  | some path => [path]
  | none => [d.herePath, home].flatMap fun folder =>
      fileNames.map fun name => String.ofList (Path.join folder.toList name.toList)

/-- The settings file: the first candidate that is a file. -/
def findFile (d : Disk) (home : String) (asked : Option String) : Option String :=
  (candidates d home asked).find? fun path => d.isFile path.toList

/-- A file that sets nothing. -/
def noFile : SettingsFile := fun _ => none

/-- What a value sets. -/
def ofValue (v : Yaml.Value) : SettingsFile := fun key =>
  match v with
  | .map entries =>
    match Yaml.Value.lookup key.toList entries with
    | some .null | none => none
    | some v => some ⟨v.text, v.isTruthy⟩
  | _ => none

/-- What the text of a file sets. A value that its kind does not allow is a failure; a text that is not
YAML is not. -/
def ofText (text : List Char) : Attempt SettingsFile :=
  match Yaml.read (Text.universalNewlines text) with
  | .ok v => .ok (ofValue v)
  | .error .malformed => .ok noFile
  | .error (.badValue reason) => .error (.badValue reason)
  | .error (.unknownWord word) => .error (.missingKey word)
  | .error .noDate => .error (.noAttribute "NoneType" "groupdict")

/-- What a file sets. A file that cannot be opened sets nothing. -/
def readFile (d : Disk) (path : String) : Attempt SettingsFile :=
  match d.readText path.toList with
  | .ok text => ofText text
  | .error f => if f.isStorageError then .ok noFile else .error f

/-- The settings of a run, with the file that is asked for. -/
def load (d : Disk) (home : String) (environment : Environment) (asked : Option String) :
    Attempt Settings := do
  let file ← match findFile d home asked with
    | some path => readFile d path
    | none => .ok noFile
  return ofSources d.herePath environment file

end Emend.Settings
