import Emend.Disk

/-!
# Replacing a file

A file gets a new text in one step: the text is put down beside it, under its name with a suffix, and what was
put down takes its place. Names, folders and links decide most of what this can run into; the text may have no
form in which it could be written; and the storage below can refuse on its own account. A file is then not read,
or the file beside it is not opened, not written to its end, or does not take the place of the file. What is left
beside the file after a problem with storage is taken away again, unless storage refuses that as well.
-/

namespace Emend

/-- What goes wrong on its own account while a file is edited, with the reason that storage gives. -/
structure Outage where
  /-- The file cannot be read. -/
  read : Option String := none
  /-- The file beside it cannot be opened. -/
  create : Option String := none
  /-- The new text has no form in which it could be written, as if half of a surrogate pair stood in it. -/
  unencodable : Bool := false
  /-- The file beside it takes so many bytes and no more. -/
  write : Option (Nat × String) := none
  /-- The file beside it cannot take the place of the file. -/
  move : Option String := none
  /-- The file beside it cannot be taken away. -/
  remove : Bool := false
  deriving DecidableEq, Repr, Inhabited

namespace Disk

/-- What is added to the name of a file while its new content is written. -/
def stagingSuffix : List Char := ".structedit_tmp".toList

/-- Put new bytes beside a file and have them take its place, up to what goes wrong first. What is opened beside
the file is what a link there leads to; what takes the place of the file is the link. -/
def stage (o : Outage) (d : Disk) (path : List Char) (bytes : List UInt8) : Attempt Unit × Disk :=
  match o.create with
  | some reason => (.error (.storage reason), d)
  | none =>
    match d.openAt (path ++ stagingSuffix) with
    | .error f => (.error f, d)
    | .ok (beside, _) =>
      if o.unencodable then (.error .unencodable, d.put beside (.file []))
      else match o.write with
      | some (count, reason) => (.error (.storage reason), d.put beside (.file (bytes.take count)))
      | none =>
        let d := d.put beside (.file bytes)
        match o.move with
        | some reason => (.error (.storage reason), d)
        | none =>
          match d.rename (path ++ stagingSuffix) path with
          | .error f => (.error f, d)
          | .ok d => (.ok (), d)

/-- Take a name away, if that can be done. -/
def clear (d : Disk) (path : List Char) : Disk :=
  match d.unlink path with
  | .ok d => d
  | .error _ => d

/-- Give a file new bytes in one step, as far as nothing goes wrong. The file is named by the normalized form of
the path. -/
def replaceDuring (o : Outage) (d : Disk) (path : List Char) (bytes : List UInt8) : Attempt Unit × Disk :=
  let path := Path.normalize (Path.join d.herePath.toList path)
  match d.stage o path bytes with
  | (.ok (), d) => (.ok (), d)
  | (.error f, d) => (.error f, if f.isStorageError && !o.remove then d.clear (path ++ stagingSuffix) else d)

/-- Give a file new bytes in one step, on storage that refuses nothing. -/
def replace (d : Disk) (path : List Char) (bytes : List UInt8) : Attempt Unit × Disk :=
  d.replaceDuring {} path bytes

end Disk

end Emend
