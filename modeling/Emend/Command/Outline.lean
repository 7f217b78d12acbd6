import Emend.Command.Screen
import Emend.Disk
import Emend.Json.Printer
import Emend.Outline.Registry

/-!
# Outlines

The declarations of a file: as a table with their lines, or as JSON.
-/

namespace Emend.Declaration

/-- The declaration as an object. -/
def toJson (d : Declaration) : Json :=
  .obj [("kind", .str d.kind), ("name", .str d.name), ("depth", .int d.depth),
    ("parent", Json.ofOption d.parent), ("startOffset", .int d.start), ("endOffset", .int d.stop),
    ("startLine", .int d.startLine), ("endLine", .int d.endLine)]

end Emend.Declaration

namespace Emend.Command

/-- The name of a declaration in the table, as deep as it lies. -/
def outlineLabel (d : Declaration) : String :=
  let indent := String.ofList (List.replicate (2 * d.depth.toNat) ' ')
  let scope := match d.parent with
    | some p => if p.isEmpty then "" else s!"  (in {p})"
    | none => ""
  indent ++ padRight 10 d.kind ++ "  " ++ d.name ++ scope

/-- A line of the table. Lines are counted from one; an unknown end is a question mark. -/
def outlineLine (d : Declaration) : String :=
  let last := if d.isComplete then toString (d.endLine + 1) else "?"
  "  " ++ padRight 50 (outlineLabel d) ++ s!"  {d.startLine + 1}-{last}"

/-- The lines of the table. -/
def outlineTable (file : String) (declarations : List Declaration) : List String :=
  if declarations.isEmpty then [s!"  (no declarations found in {file})"]
  else s!"\n{file}  [{declarations.length} node(s)]" :: rule :: declarations.map outlineLine

/-- The outline as it is shown. -/
def outlineLines (file : String) (json : Bool) (declarations : List Declaration) : List String :=
  if json then [Json.renderBlock 0 (.arr (declarations.map Declaration.toJson))]
  else outlineTable file declarations

/-- What a source is taken for: the language that is asked for, or else its path. -/
def outlineTag (file : String) (language : Option String) : String :=
  match language with
  | some l => if l.isEmpty then file else l
  | none => file

/-- Show the outline of a file. -/
def outline (registry : Registry) (s : Scene Disk) (file : String) (language : Option String)
    (json : Bool) : Ending × Scene Disk :=
  match s.work.files.readText file.toList with
  | .error f =>
    s.stop (if f.isStorageError then .complaint s!"Cannot read {file}: {f.message}" else .failure f)
  | .ok text =>
    match registry.extract text (outlineTag file language) with
    | .error f => s.stop (.failure f)
    | .ok found =>
      let s := s.on (·.tell found.notes)
      (.ok 0, s.on (·.printAll (outlineLines file json found.declarations)))

end Emend.Command
