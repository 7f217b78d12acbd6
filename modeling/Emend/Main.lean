import Emend.Calendar
import Emend.Command.Reach
import Std.Time.DateTime.Timestamp

/-!
# The program

The command line on the files of a machine. What a command looks at is loaded, the command is run on
that, and what it changed is stored. No parser of a language is built in.
-/

namespace Emend.Program

open Command

/-! ## Files -/

/-- A place as a path. -/
def pathOf (p : Place) : String := "/" ++ "/".intercalate p

/-- The place of a path. -/
def placeOf (d : Disk) (path : List Char) : Place :=
  let whole := Path.normalize (Path.join d.herePath.toList path)
  ((Path.components whole).filter (!·.isEmpty)).map String.ofList

/-- The number of the error that says that a folder is no file. -/
def folderError : UInt32 := 21

/-- What is in a place of the machine. -/
def entryIn (p : Place) : IO (Option Entry) := do
  try
    return some (.file (← IO.FS.readBinFile (pathOf p)).toList)
  catch
    | .inappropriateType _ code _ => return if code = folderError then some .folder else none
    | .permissionDenied path code reason => throw (.permissionDenied path code reason)
    | _ => return none

/-- Load what is in a place, and the folders that it lies in. -/
def load (d : Disk) (p : Place) : IO Disk :=
  ((List.range p.length).map fun n => p.take (n + 1)).foldlM
    (fun d q => do
      match ← entryIn q with
      | some e => return d.put q e
      | none => return d) d

/-- Load what a command looks at. What is loaded can show that it looks at more. -/
def loadAll (around : Surroundings) (words : List String) : Nat → Disk → IO Disk
  | 0, d => return d
  | rounds + 1, d => do
    let paths := (pathsOf around d words).filter fun path => !path.contains (Char.ofNat 0)
    loadAll around words rounds (← (paths.map (placeOf d)).foldlM load d)

/-- How often what was loaded can show that more is to be loaded: the settings say where the project
lies, and the request names a file in it. -/
def loadRounds : Nat := 3

/-- Give a file new bytes in one step. -/
def storeFile (p : Place) (bytes : List UInt8) : IO Unit := do
  let staging := pathOf p ++ String.ofList Disk.stagingSuffix
  IO.FS.writeBinFile staging (ByteArray.mk bytes.toArray)
  IO.FS.rename staging (pathOf p)

/-- Store what changed. Folders come before what is in them. -/
def store (before after : Disk) : IO Unit := do
  for (p, e) in after.entries.mergeSort fun a b => a.1.length ≤ b.1.length do
    if before.entry p != some e then
      match e with
      | .folder => IO.FS.createDirAll (pathOf p)
      | .file bytes => storeFile p bytes
      | .link _ => pure ()
  for (p, _) in before.entries do
    if (after.entry p).isNone then IO.FS.removeFile (pathOf p)

/-! ## Identifiers -/

/-- The characters of identifiers. -/
def idCharacters : List Char := "abcdefghijklmnopqrstuvwxyz0123456789".toList

/-- The number of characters at the end of an identifier. -/
def idLength : Nat := 9

/-- A number written with the characters of identifiers, the last digits only. -/
def idEnding : Nat → Nat → List Char
  | 0, _ => []
  | places + 1, n =>
    idEnding places (n / idCharacters.length)
      ++ [idCharacters.getD (n % idCharacters.length) 'a']

/-- An identifier, from a time and a number drawn for it. -/
def idName (milliseconds seed : Nat) : String :=
  "change_" ++ toString milliseconds ++ "_" ++ String.ofList (idEnding idLength seed)

theorem length_idEnding (places n : Nat) : (idEnding places n).length = places := by
  induction places generalizing n with
  | zero => rfl
  | succ places ih => simp [idEnding, ih]

/-- Identifiers of different times differ, whatever was drawn. -/
theorem eq_of_idName_eq {m n seed seed' : Nat} (h : idName m seed = idName n seed') : m = n := by
  have hlists := congrArg String.toList h
  simp only [idName, String.toList_append, String.toList_ofList, List.append_assoc, List.append_cancel_left_eq] at hlists
  have hdigits := (List.append_inj' hlists (by simp [length_idEnding])).1
  have hnumbers := congrArg (fun digits => Nat.ofDigitChars 10 digits 0) hdigits
  simpa [Nat.toString_eq_ofList_toDigits] using hnumbers

/-- The identifiers of a run, from its time and a number drawn for it. The clock goes on from one to the next. -/
def idNames (milliseconds seed : Nat) : Identifiers :=
  .ofInjective (fun n => idName (milliseconds + n) (seed + n)) fun h => Nat.add_left_cancel (eq_of_idName_eq h)

/-! ## Running -/

/-- Show what has not been seen yet. -/
def emit (seen shown : Shown) : IO Unit := do
  IO.print (shown.out.drop seen.out.length)
  (← IO.getStdout).flush
  IO.eprint (shown.err.drop seen.err.length)

/-- Run a command on what was typed so far. Where a question waits for more, show what there is up to
it, read a line and start over. -/
partial def converse (around : Surroundings) (d : Disk) (words : List String) (typed : List Char)
    (seen : Shown) : IO Outcome := do
  let o := run around d typed words
  match o.screen.waited with
  | none =>
    emit seen o.screen.toShown
    return o
  | some shown =>
    emit seen shown
    let line ← (← IO.getStdin).getLine
    if line.isEmpty then
      emit shown o.screen.toShown
      return o
    converse around d words (typed ++ line.toList) shown

/-- The variables that settings are made with. -/
def environment : IO Environment := do
  let values ← Settings.keys.mapM fun key => do
    let name := Settings.variableName key
    return (name, ← IO.getEnv name)
  return fun name => (values.lookup name).join

/-- The working folder. -/
def workingFolder : IO Place := do
  let here := (← IO.currentDir).toString
  return placeOf {} here.toList

/-- What a command finds on this machine. -/
def surroundings : IO Surroundings := do
  let now := (← Std.Time.Timestamp.now).toNanosecondsSinceUnixEpoch.val.toNat
  let seed ← IO.rand 0 (Nat.pow idCharacters.length idLength)
  return {
    home := (← IO.getEnv "HOME").getD "/"
    environment := ← environment
    registry := .builtIn fun g _ => .error (.missingModule s!"No module named '{g.package}'")
    names := idNames (now / 1000000) seed
    time := Calendar.stamp (now / 1000) }

/-- Run a command line on the files of this machine. -/
def runHere (words : List String) : IO UInt32 := do
  let around ← surroundings
  let d ← loadAll around words loadRounds (← load { here := ← workingFolder } (← workingFolder))
  let o ← converse around d words [] {}
  store d o.disk
  match o.ending with
  | .ok code => return code.toUInt32
  | .error f =>
    IO.eprintln s!"structedit: {f.message}"
    return 1

end Emend.Program

/-- Run a command line. -/
def main (words : List String) : IO UInt32 := Emend.Program.runHere words
