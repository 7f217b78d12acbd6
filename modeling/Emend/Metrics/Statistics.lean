import Emend.Json.Arithmetic
import Emend.Json.Reader
import Emend.Metrics.Log
import Emend.Text.Blank
import Emend.Text.Lines
import Emend.Text.Slice

/-!
# Statistics of batches

What the last entries of the log add up to: how many edits there were, how many batches were applied,
and the shares of the actions, the kinds of match and the kinds of refusal. Lines that are no JSON are
passed over.
-/

namespace Emend.Metrics

/-! ## Tallies -/

/-- How often each of several values occurred, in the order in which they first did. -/
abbrev Tally := List (Json × Json)

namespace Tally

/-- The count of a key. -/
def count (k : Json.Key) (t : Tally) : Option Json :=
  (t.find? fun (v, _) => v.key.toOption == some k).map (·.2)

/-- Set the count of a value. -/
def set (k : Json.Key) (v n : Json) : Tally → Tally
  | [] => [(v, n)]
  | (w, m) :: rest =>
    if w.key.toOption == some k then (w, n) :: rest else (w, m) :: set k v n rest

/-- Count a value once more. -/
def tick (t : Tally) (v : Json) : Attempt Tally := do
  let k ← v.key
  let n ← Json.add ((t.count k).getD (.int 0)) (.int 1)
  return t.set k v n

/-- Add a count to that of a name. The counts of an empty tally are taken as they are. -/
def tickBy (started : Bool) (t : Tally) (name : String) (n : Json) : Attempt Tally := do
  let k := Json.Key.text name
  let total ← if started then Json.add n ((t.count k).getD (.int 0)) else .ok n
  return t.set k (.str name) total

/-- Count what a value holds: the items of a list, the characters of a text, or names with counts of
their own. -/
def update (t : Tally) (v : Json) : Attempt Tally :=
  match v with
  | .null => .ok t
  | .arr items => items.foldlM tick t
  | .str s => (s.toList.map fun c => Json.str (String.singleton c)).foldlM tick t
  | .obj fields => fields.foldlM (fun acc (name, n) => tickBy (!t.isEmpty) acc name n) t
  | v => .error (.notIterable v.kindName)

/-- The values by their counts, the highest first; of equal counts the one that occurred first. -/
def mostCommon (t : Tally) : Tally := t.mergeSort fun a b => !Json.numberLt a.2 b.2

/-- The percentage of each value among all, the highest first; nothing where the counts add up to zero. -/
def shares (t : Tally) : Attempt (List (Json × Float)) := do
  let total ← Json.sum (t.map (·.2))
  if !total.isTruthy then return []
  t.mostCommon.mapM fun (v, n) => do return (v, (← Json.divide n total) * 100.0)

end Tally

/-! ## Statistics -/

/-- What the last entries of the log add up to. -/
structure Statistics where
  batches : Nat := 0
  edits : Json := .int 0
  /-- The percentage of batches that were applied. -/
  successRate : Float := 0.0
  average : Float := 0.0
  actions : List (Json × Float) := []
  matchKinds : List (Json × Float) := []
  /-- The kinds of refusal by their numbers. -/
  errors : List (Json × Json) := []
  deriving BEq, Repr, Inhabited

/-- The fields of an entry. -/
def fields (entry : Json) : Attempt (List (String × Json)) :=
  match entry with
  | .obj fields => .ok fields
  | v => .error (.noAttribute v.kindName "get")

/-- A value of an entry, or what stands for it where it is missing. -/
def value (key : String) (missing : Json) (fields : List (String × Json)) : Json :=
  (Json.lookup key fields).getD missing

/-- Count the actions and the kinds of match of entries. -/
def tally (t : Tally × Tally) : List (List (String × Json)) → Attempt (Tally × Tally)
  | [] => .ok t
  | entry :: rest => do
    let actions ← t.1.update (value "actions" (.arr []) entry)
    let kinds ← t.2.update (value "match_types" (.arr []) entry)
    tally (actions, kinds) rest

/-- The statistics of entries. -/
def statistics (entries : List Json) : Attempt Statistics := do
  if entries.isEmpty then return {}
  let entries ← entries.mapM fields
  let batches := entries.length
  let successes := (entries.filter fun e => (value "success" (.bool false) e).isTruthy).length
  let edits ← Json.sum (entries.map (value "edits" (.int 0)))
  let (actions, kinds) ← tally ([], []) entries
  let named := (entries.map (Json.get "error_type")).filter (·.isTruthy)
  let errors ← named.foldlM Tally.tick []
  return {
    batches, edits
    successRate := (← Json.quotient successes batches) * 100.0
    average := ← Json.divide edits (.int batches)
    actions := ← actions.shares
    matchKinds := ← kinds.shares
    errors := errors.mostCommon }

/-- The entries of a log. -/
def entries (text : List Char) : List Json :=
  let ls := (Text.lines (Text.universalNewlines text)).map Text.trim
  ls.filterMap fun l => if l.isEmpty then none else (Json.parse l).toOption

/-- The statistics of the last entries of a log, which is empty if it is not there. A count of zero or
less leaves out that many entries at the start. -/
def read (d : Disk) (path : List Char) (last : Int) : Attempt Statistics := do
  if !d.isFile path then return {}
  let text ← d.readText path
  statistics (Text.sliceFrom (entries text) (-last))

end Emend.Metrics
