import Emend.Edit.Basic
import Emend.Ledger.Baseline
import Emend.Log
import Emend.Text.Quoted

/-!
# The ledger of changes

Edits that were made stand in the ledger until they are approved or rejected. The changes of one file
form a set, together with the baseline: the text that the file had when its set was opened. The
baseline stays as it is until the set is cleared, and the text that a change took away is read from it.
-/

namespace Emend

/-- An edit that waits for approval. -/
structure PendingChange where
  id : String
  path : String
  edit : Edit
  /-- What the baseline has in the range of the edit. -/
  replaced : List Char
  description : String
  deriving DecidableEq, BEq, Repr, Inhabited

namespace PendingChange

/-- The edit that takes the change back: the new text, where the edit put it, gives way to what it
replaced. -/
def inverse (c : PendingChange) : Edit :=
  ⟨.covering c.edit.range.start c.edit.newText, c.replaced⟩

/-- What is told when the change is recorded. -/
def note (c : PendingChange) : Note :=
  let before := String.ofList (Text.quoteChars c.replaced)
  let after := String.ofList (Text.quoteChars c.edit.newText)
  ⟨.debug, .ledger, s!"[Ledger] Added change {c.id}: {before} -> {after}"⟩

end PendingChange

/-- The changes of one file in the order in which they were recorded, and its baseline. -/
structure ChangeSet where
  path : String
  baseline : List Char
  changes : List PendingChange := []
  deriving DecidableEq, BEq, Repr, Inhabited

namespace ChangeSet

/-- The change of an identifier. -/
def find (s : ChangeSet) (id : String) : Option PendingChange := s.changes.find? (·.id == id)

/-- The set without a change. -/
def erase (s : ChangeSet) (id : String) : ChangeSet :=
  { s with changes := s.changes.filter (·.id != id) }

end ChangeSet

/-! ## Identifiers -/

/-- Where the identifiers of changes come from, one after the other. They may come again; but whatever is taken,
one that is not comes within so many tries. -/
structure Identifiers where
  name : Nat → String
  /-- How many tries are enough from an index on. -/
  tries : List String → Nat → Nat
  free : ∀ (taken : List String) (index : Nat), ∃ k, k < tries taken index ∧ name (index + k) ∉ taken

namespace Identifiers

instance : CoeFun Identifiers fun _ => Nat → String := ⟨name⟩

/-- If no identifier comes twice, one of more than are taken is free. -/
theorem exists_free (name : Nat → String) (h : ∀ {m n}, name m = name n → m = n) (taken : List String) :
    ∃ k, k < taken.length + 1 ∧ name k ∉ taken := by
  induction taken generalizing name with
  | nil => exact ⟨0, Nat.zero_lt_one, List.not_mem_nil⟩
  | cons first rest ih =>
    by_cases hfirst : ∃ j, name j = first
    · obtain ⟨j, rfl⟩ := hfirst
      -- what is left of the identifiers without the one that is taken first
      obtain ⟨k, hk, hfree⟩ := ih (fun n => name (if n < j then n else n + 1)) (by
        intro m n hmn
        have := h hmn
        split at this <;> split at this <;> omega)
      refine ⟨if k < j then k else k + 1, ?_, ?_⟩
      · rw [List.length_cons]
        split <;> omega
      · rw [List.mem_cons, not_or]
        refine ⟨fun heq => ?_, hfree⟩
        have := h heq
        split at this <;> omega
    · obtain ⟨k, hk, hfree⟩ := ih name h
      refine ⟨k, Nat.lt_succ_of_lt hk, ?_⟩
      rw [List.mem_cons, not_or]
      exact ⟨fun heq => hfirst ⟨k, heq⟩, hfree⟩

/-- Identifiers of which none comes twice. -/
def ofInjective (name : Nat → String) (h : ∀ {m n}, name m = name n → m = n) : Identifiers where
  name
  tries := fun taken _ => taken.length + 1
  free := fun taken index =>
    exists_free (fun k => name (index + k)) (fun hmn => Nat.add_left_cancel (h hmn)) taken

/-- Numbers from one on, each between two texts. -/
def numbered (before after : String) : Identifiers :=
  ofInjective (fun n => before ++ toString (n + 1) ++ after) fun {m n} hmn => by
    have hlists := congrArg String.toList hmn
    simp only [String.toList_append, List.append_cancel_right_eq, List.append_cancel_left_eq] at hlists
    have hnumbers := congrArg (fun digits => Nat.ofDigitChars 10 digits 0) hlists
    simpa [Nat.toString_eq_ofList_toDigits] using hnumbers

/-- The identifiers from some place on. -/
def later (names : Identifiers) (gap : Nat) : Identifiers where
  name := fun n => names (n + gap)
  tries := fun taken index => names.tries taken (index + gap)
  free := by
    intro taken index
    obtain ⟨k, hk, hfree⟩ := names.free taken (index + gap)
    exact ⟨k, hk, by rwa [Nat.add_right_comm]⟩

end Identifiers

/-! ## Ledgers -/

/-- The change sets, in the order in which they were opened. -/
structure Ledger where
  sets : List ChangeSet := []
  /-- How many identifiers were asked for. -/
  issued : Nat := 0
  deriving DecidableEq, BEq, Repr, Inhabited

namespace Ledger

/-! ## Looking -/

/-- The change set of a file. -/
def setOf (l : Ledger) (path : String) : Option ChangeSet := l.sets.find? (·.path == path)

/-- The pending changes of a file, in the order in which they were recorded. -/
def pending (l : Ledger) (path : String) : List PendingChange :=
  ((l.setOf path).map (·.changes)).getD []

/-- The baseline of a file that has a change set. -/
def baseline (l : Ledger) (path : String) : Option (List Char) := (l.setOf path).map (·.baseline)

/-- The change of an identifier. -/
def find (l : Ledger) (id : String) : Option PendingChange := l.sets.findSome? (·.find id)

/-- The identifiers of all pending changes. -/
def ids (l : Ledger) : List String := l.sets.flatMap fun s => s.changes.map (·.id)

/-! ## Recording -/

/-- Open the change set of a file, unless it is open. -/
def openSet (l : Ledger) (path : String) (baseline : List Char) : Ledger :=
  if (l.setOf path).isSome then l else { l with sets := l.sets ++ [⟨path, baseline, []⟩] }

/-- The index of the first identifier from `index` on that no pending change has, if it comes within so many
tries. -/
def freshFrom (names : Nat → String) (l : Ledger) : Nat → Nat → Nat
  | 0, index => index
  | tries + 1, index =>
    if (l.find (names index)).isSome then freshFrom names l tries (index + 1) else index

/-- The index of the identifier that the next change gets: the search goes on until one is free. -/
def nextIndex (names : Identifiers) (l : Ledger) : Nat :=
  freshFrom names l (names.tries l.ids l.issued) l.issued

/-- Put a change into the set of its file. -/
def insert (l : Ledger) (c : PendingChange) : Ledger :=
  { l with sets := l.sets.map fun s =>
      if s.path == c.path then { s with changes := s.changes ++ [c] } else s }

/-- Record the edits of a batch from number `number` on, against a baseline. The changes come back in the
order of the edits. -/
def recordFrom (names : Identifiers) (path : String) (baseline : List Char) (description : String)
    (total number : Nat) (l : Ledger) : List Edit → List PendingChange × Ledger
  | [] => ([], l)
  | e :: rest =>
    let index := l.nextIndex names
    let change : PendingChange := {
      id := names index
      path
      edit := e
      replaced := baselineText baseline e.range
      description := s!"{description} ({number}/{total})" }
    let (more, l) := recordFrom names path baseline description total (number + 1)
      ({ l with issued := index + 1 }.insert change) rest
    (change :: more, l)

/-- Record edits of a file whose text is `text` unless a baseline is known. -/
def record (names : Identifiers) (l : Ledger) (path : String) (text : List Char) (edits : List Edit)
    (description : String) : List PendingChange × Ledger :=
  let l := l.openSet path text
  recordFrom names path ((l.baseline path).getD []) description edits.length 1 l edits

/-! ## Dropping -/

/-- Drop a change from the first of the sets that has it. -/
def eraseFirst (id : String) : List ChangeSet → List ChangeSet
  | [] => []
  | s :: rest => if (s.find id).isSome then s.erase id :: rest else s :: eraseFirst id rest

/-- The ledger without a change. -/
def erase (l : Ledger) (id : String) : Ledger := { l with sets := eraseFirst id l.sets }

/-- The ledger without the changes of some identifiers. -/
def discard (l : Ledger) (ids : List String) : Ledger := ids.foldl erase l

/-- The ledger without the change set of a file, baseline included. -/
def clear (l : Ledger) (path : String) : Ledger := { l with sets := l.sets.filter (·.path != path) }

end Ledger

end Emend
