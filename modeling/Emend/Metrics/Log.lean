import Emend.Disk
import Emend.Failure
import Emend.Instruction.Basic
import Emend.Json.Printer
import Emend.Log

/-!
# The log of batches

Every batch that a session applies, or fails to apply, is one line of a log: an object written as
JSON. The log lies in a folder of the project.
-/

namespace Emend.Metrics

/-- A list of words. -/
def wordList (words : List String) : Json := .arr (words.map .str)

/-- What is logged of a batch: its file, its instructions, and the refusal by kind and wording if it was
refused. -/
def entry (request : Request) (error : Option EditError) : List (String × Json) :=
  [("file", .str request.filePath),
   ("edits", .int request.instructions.length),
   ("actions", wordList (request.instructions.map (·.action.name))),
   ("match_types", wordList (request.instructions.map (·.target.kind.name))),
   ("success", .bool error.isNone),
   ("error", Json.ofOption (error.map (·.message))),
   ("error_type", Json.ofOption (error.map (·.kindName)))]

/-- The folder of the log where none is set. -/
def defaultFolder : String := ".structedit"

/-- The name of the log. -/
def fileName : String := "edit_metrics.jsonl"

/-- The path of the log of a project; an empty root stands for the working folder. -/
def path (d : Disk) (root folder : String) : List Char :=
  let root := if root.isEmpty then d.herePath else root
  let folder := if folder.isEmpty then defaultFolder else folder
  Path.join (Path.join root.toList folder.toList) fileName.toList

/-- An entry as a line, with the time in front. A time in the entry itself takes its place. -/
def line (time : String) (fields : List (String × Json)) : List Char :=
  let stamped := fields.foldl (fun acc (k, v) => Json.insert k v acc) [("timestamp", Json.str time)]
  (Json.obj stamped).render.toList ++ ['\n']

/-- Add a line to a log whose folder is made if it is missing. -/
def append (d : Disk) (path text : List Char) : Attempt Unit × Disk :=
  match d.makeFolders (path.length + 1) (Path.directoryName path) with
  | (.error f, d) => (.error f, d)
  | (.ok (), d) =>
    match d.append path (Text.encode text) with
    | .error f => (.error f, d)
    | .ok d => (.ok (), d)

/-- Log an entry. A problem with the log is told and does no other harm. -/
def record (time : String) (root folder : String) (d : Disk) (fields : List (String × Json)) :
    Attempt Disk × List Note :=
  match append d (path d root folder) (line time fields) with
  | (.ok (), d) => (.ok d, [])
  | (.error f, d) =>
    if f.isStorageError then
      (.ok d, [⟨.warning, .metrics, s!"[Edit] Failed to write metrics: {f.message}"⟩])
    else (.error f, [])

end Emend.Metrics
