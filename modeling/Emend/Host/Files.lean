import Emend.Host.Basic
import Emend.Host.Storage
import Emend.Outline.Registry

/-!
# Files on a disk

A host that edits files. Relative paths start from the project root; a file is replaced in one step,
so that it has either all edits of a batch or none. Symbols are the declarations of the file, nested.
-/

namespace Emend

/-- How files are edited. -/
structure FileHost where
  /-- Where relative paths start, as an absolute path. -/
  root : String
  /-- Overlapping edits are refused. -/
  strict : Bool := true
  /-- The language of files whose extension tells none. -/
  language : Option String := none
  registry : Registry

namespace FileHost

/-- The root of a project whose path may be relative to the working folder. -/
def rootOf (d : Disk) (path : String) : String :=
  String.ofList (Path.normalize (Path.join d.herePath.toList path.toList))

/-- The file of a path. An absolute path stays as it is. -/
def resolve (h : FileHost) (path : String) : String :=
  if Path.isAbsolute path.toList then path
  else String.ofList (Path.normalize (Path.join h.root.toList path.toList))

/-- The text of a file. -/
def read (h : FileHost) (d : Disk) (path : String) : Attempt (List Char) :=
  let file := h.resolve path
  if d.isFile file.toList then d.readText file.toList else .error (.fileNotFound file)

/-- The text of a file before and after a batch of edits. -/
def edited (h : FileHost) (d : Disk) (path : String) (edits : List Edit) :
    Attempt (List Char × List Char) := do
  let before ← h.read d path
  let after ← Attempt.ofBatch (applyEdits before edits h.strict)
  return (before, after)

/-- A batch that was not made; what is no refusal and no problem with a file goes on as a failure. -/
def refused (d : Disk) (path : String) (count : Nat) (notes : List Note) (f : Failure) : Reply Disk :=
  if f.isEditError || f.isStorageError then
    ⟨.ok false, d, notes ++ [⟨.warning, .host,
      s!"[Host] Failed to apply {count} edit(s) to {path}: {f.message}"⟩]⟩
  else ⟨.error f, d, notes⟩

/-- Make a batch of edits, as far as nothing goes wrong. -/
def applyDuring (h : FileHost) (o : Outage) (d : Disk) (path : String) (edits : List Edit) : Reply Disk :=
  let file := h.resolve path
  let edited : Attempt (List Char × List Char) := match o.read with
    | some reason => .error (.storage reason)
    | none => h.edited d file edits
  match edited with
  | .error f => refused d file edits.length [] f
  | .ok (before, after) =>
    let notes := appliedNotes edits before after
    match d.replaceDuring o file.toList (Text.encode after) with
    | (.error f, d) => refused d file edits.length notes f
    | (.ok (), d) =>
      ⟨.ok true, d, notes ++ [⟨.debug, .host,
        s!"[Host] Applied {edits.length} edit(s) to {file}"⟩]⟩

/-- Make a batch of edits, on storage that refuses nothing. -/
def apply (h : FileHost) (d : Disk) (path : String) (edits : List Edit) : Reply Disk :=
  h.applyDuring {} d path edits

/-- The symbols of a file. -/
def symbols (h : FileHost) (d : Disk) (path : String) : SymbolReport :=
  let file := h.resolve path
  match h.read d file with
  | .error f => ⟨.error f, []⟩
  | .ok text =>
    match h.registry.extract text (h.registry.languageFor (some file) h.language) with
    | .error f => ⟨.error f, []⟩
    | .ok found =>
      match Declaration.nest ⟨text, file⟩ found.declarations with
      | .error f => ⟨.error f, found.notes⟩
      | .ok forest =>
        ⟨.ok forest, found.notes ++ [⟨.debug, .symbols,
          s!"[Edit] Built symbol tree with {forest.length} root(s)"⟩]⟩

/-- The host that edits files. What it writes is stored at once. -/
def host (h : FileHost) : Host Disk where
  key := h.resolve
  read := h.read
  apply := h.apply
  symbols := h.symbols
  save := fun _ _ => true

end FileHost

end Emend
