import Emend.Failure
import Emend.Path
import Emend.Text.Utf8

/-!
# Files in folders

A tree of files, folders and symbolic links as a value. A path is followed folder by folder, and what
stands in the way decides how an operation fails. A link on the way is followed to where its own path leads,
so that two points behind it go up from there; a link under the last name is followed by what opens a file,
and stands for itself where a name is given away or taken.
-/

namespace Emend

/-- The names of the folders from the root down, and of the file or folder itself. -/
abbrev Place := List String

/-- What is in a place. -/
inductive Entry where
  | file (bytes : List UInt8)
  | folder
  /-- A symbolic link, with the path that it holds. -/
  | link (target : List Char)
  deriving DecidableEq, Repr, Inhabited

/-- Files in folders, and the folder that relative paths start from. -/
structure Disk where
  entries : List (Place × Entry) := []
  here : Place := []
  deriving Inhabited

namespace Disk

/-- The entry of a place. The root is always there. -/
def entry (d : Disk) (p : Place) : Option Entry :=
  if p.isEmpty then some .folder else d.entries.lookup p

/-- Put an entry into a place. -/
def put (d : Disk) (p : Place) (e : Entry) : Disk :=
  { d with entries := (p, e) :: d.entries.filter (·.1 != p) }

/-- Take away the entry of a place. -/
def erase (d : Disk) (p : Place) : Disk := { d with entries := d.entries.filter (·.1 != p) }

/-- The working folder as a path. -/
def herePath (d : Disk) : String := "/" ++ "/".intercalate d.here

/-! ## Following paths -/

/-- The number of bytes in a text. -/
def byteLength (s : List Char) : Nat := (s.map Text.byteWidth).foldr (· + ·) 0

/-- The most bytes in a name. -/
def nameLimit : Nat := 255

/-- The most bytes in a path. -/
def pathLimit : Nat := 4095

/-- The most links that are followed along one path. -/
def linkLimit : Nat := 40

/-- Follow names from a folder. The last one need not be there; everything before it has to be a folder. At a
link, `jump` goes on with the path of the link and the names that are left; a link under the last name is
passed over unless `last` says that it is followed too. -/
def followNames (d : Disk) (jump : Place → List (List Char) → Except FileProblem Place) (last : Bool)
    (start : Place) : List (List Char) → Except FileProblem Place
  | [] => .ok start
  | name :: rest =>
    if name.isEmpty || name == ['.'] then d.followNames jump last start rest
    else if name == ['.', '.'] then d.followNames jump last start.dropLast rest
    else if nameLimit < byteLength name then .error .nameTooLong
    else
      let there := start ++ [String.ofList name]
      match d.entry there with
      | some .folder => d.followNames jump last there rest
      | some (.link target) =>
        if rest.isEmpty && !last then .ok there
        else jump (if Path.isAbsolute target then [] else start) (Path.components target ++ rest)
      | some (.file _) => if rest.isEmpty then .ok there else .error .notDirectory
      | none => if rest.isEmpty then .ok there else .error .noSuchFile

/-- Follow names from a folder, and at most so many links. -/
def follow (d : Disk) (last : Bool) : Nat → Place → List (List Char) → Except FileProblem Place
  | 0 => d.followNames (fun _ _ => .error .tooManyLinks) last
  | links + 1 => d.followNames (d.follow last links) last

/-- Where a path leads, with a link under its last name followed or not. -/
def trace (d : Disk) (last : Bool) (path : List Char) : Except FileProblem Place :=
  if path.isEmpty then .error .noSuchFile
  else if pathLimit < byteLength path then .error .nameTooLong
  else d.follow last linkLimit (if Path.isAbsolute path then [] else d.here) (Path.components path)

/-- The place that a path leads to. -/
def locate (d : Disk) (path : List Char) : Except FileProblem Place := d.trace true path

/-- The place that a path names, where a link is a link. -/
def spot (d : Disk) (path : List Char) : Except FileProblem Place := d.trace false path

/-- The entry that a path leads to. -/
def entryAt (d : Disk) (path : List Char) : Option Entry :=
  if path.contains (Char.ofNat 0) then none
  else match d.locate path with
    | .ok p => d.entry p
    | .error _ => none

/-- The path leads to a file. -/
def isFile (d : Disk) (path : List Char) : Bool :=
  match d.entryAt path with
  | some (.file _) => true
  | _ => false

/-- The path leads to a folder. -/
def isFolder (d : Disk) (path : List Char) : Bool := d.entryAt path == some .folder

/-- A result, or the problem with a path. -/
def ofProblem {α : Type} (path : List Char) : Except FileProblem α → Attempt α
  | .ok a => .ok a
  | .error problem => .error (.file problem (String.ofList path))

/-- The place of a file that is opened, and the bytes in it if it is there. -/
def openAt (d : Disk) (path : List Char) : Attempt (Place × Option (List UInt8)) := do
  if path.contains (Char.ofNat 0) then throw .nullInPath
  let p ← ofProblem path (d.locate path)
  match d.entry p with
  | some (.file bytes) => return (p, some bytes)
  | none => return (p, none)
  | some _ => ofProblem path (.error .isDirectory)

/-! ## Reading and writing -/

/-- The bytes of a file. -/
def read (d : Disk) (path : List Char) : Attempt (List UInt8) := do
  match ← d.openAt path with
  | (_, some bytes) => return bytes
  | (_, none) => ofProblem path (.error .noSuchFile)

/-- The text of a file. -/
def readText (d : Disk) (path : List Char) : Attempt (List Char) := do
  let bytes ← d.read path
  match Text.decode? bytes with
  | some text => return text
  | none => throw .undecodable

/-- Give a file new bytes; a file that is not there is made. -/
def write (d : Disk) (path : List Char) (bytes : List UInt8) : Attempt Disk := do
  let (p, _) ← d.openAt path
  return d.put p (.file bytes)

/-- Add bytes to the end of a file; a file that is not there is made. -/
def append (d : Disk) (path : List Char) (bytes : List UInt8) : Attempt Disk := do
  let (p, old) ← d.openAt path
  return d.put p (.file (old.getD [] ++ bytes))

/-! ## Names -/

/-- The entry under a name, and its place. A link stands for itself. -/
def named (d : Disk) (path : List Char) : Attempt (Place × Option Entry) := do
  if path.contains (Char.ofNat 0) then throw .nullInPath
  let p ← ofProblem path (d.spot path)
  return (p, d.entry p)

/-- Take a name away from a file or a link. -/
def unlink (d : Disk) (path : List Char) : Attempt Disk := do
  match ← d.named path with
  | (_, none) => ofProblem path (.error .noSuchFile)
  | (_, some .folder) => ofProblem path (.error .isDirectory)
  | (p, some _) => return d.erase p

/-- A problem between two names. -/
def betweenNames (problem : FileProblem) (source target : List Char) : Failure :=
  .storage s!"{problem.message}: {Text.quote (String.ofList source)} -> {Text.quote (String.ofList target)}"

/-- Give a file or a link another name. What had this name before is lost, unless it is a folder. -/
def rename (d : Disk) (source target : List Char) : Attempt Disk := do
  let (p, moved) ← d.named source
  let (q, lost) ← d.named target
  match moved with
  | none => throw (betweenNames .noSuchFile source target)
  | some .folder => throw (betweenNames .isDirectory source target)
  | some entry =>
    if lost == some .folder then throw (betweenNames .isDirectory source target)
    else return (d.erase p).put q entry

/-! ## Making folders -/

/-- Make one folder. -/
def makeFolder (d : Disk) (path : List Char) : Attempt Disk := do
  match ← d.named path with
  | (_, some _) => ofProblem path (.error .exists)
  | (p, none) => return d.put p .folder

/-- The folder that a path is in, the path taken without slashes at its end. -/
def parentPath (path : List Char) : List Char :=
  if path.getLast? == some '/' then Path.directoryName (Path.directoryName path)
  else Path.directoryName path

/-- The last name of a path is not the working folder itself. -/
def endsInName (path : List Char) : Bool :=
  let path := if path.getLast? == some '/' then Path.directoryName path else path
  Path.baseName path != ['.']

/-- Make a folder and those around it that are missing, at most `depth` of them. A folder that is there is
as good. What was made before a problem stays. -/
def makeFolders (d : Disk) : Nat → List Char → Attempt Unit × Disk
  | 0, _ => (.ok (), d)
  | depth + 1, path =>
    let parent := parentPath path
    let around : Attempt Unit × Disk :=
      if parent.isEmpty || (d.entryAt parent).isSome then (.ok (), d)
      else match d.makeFolders depth parent with
        | (.error (.file .exists _), d) => (.ok (), d)
        | r => r
    match around with
    | (.error f, d) => (.error f, d)
    | (.ok (), d) =>
      if !endsInName path && !parent.isEmpty then (.ok (), d)
      else match d.makeFolder path with
        | .ok d => (.ok (), d)
        | .error f => (if d.isFolder path then .ok () else .error f, d)

end Disk

end Emend
