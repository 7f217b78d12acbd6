import Emend.Failure
import Emend.Ledger.Basic
import Emend.Resolve

/-!
# Hosts

A host is where documents are read, edits are made and symbols come from. It is a record of functions
over its own state; a host whose edit fails says so and returns the state that is left.

A workspace is the state of a host with the ledger of the changes made through it. Approving a change
drops its record; rejecting it makes the inverse edit, and drops the record if the host made that edit.
-/

namespace Emend

/-- What became of a batch of edits: whether the host made them, the state that it is left in, and what
was told. -/
structure Reply (σ : Type) where
  made : Attempt Bool
  state : σ
  notes : List Note := []

/-- Where documents are read, edits are made and symbols come from. -/
structure Host (σ : Type) where
  /-- The key under which the host knows the file of a path. -/
  key : String → String
  /-- The text of a file. -/
  read : σ → String → Attempt (List Char)
  /-- Make all edits of a batch in a file, or none. -/
  apply : σ → String → List Edit → Reply σ
  /-- The symbols of a file. -/
  symbols : σ → String → SymbolReport
  /-- Bring the text of a file to storage, if that is still to be done. -/
  save : σ → String → Bool

/-- What a reviewer decided on a change. -/
inductive Verdict where
  | approved
  | rejected
  deriving DecidableEq, BEq, Repr, Inhabited

/-- The word for a verdict. -/
def Verdict.name : Verdict → String
  | .approved => "approved"
  | .rejected => "rejected"

/-- The state of a host, and the changes made through it. -/
structure Workspace (σ : Type) where
  files : σ
  ledger : Ledger := {}
  /-- Every verdict so far, in order. -/
  verdicts : List (String × Verdict) := []
  /-- Everything told so far, in order. -/
  notes : List Note := []

namespace Workspace

variable {σ : Type}

/-- Tell something. -/
def tell (w : Workspace σ) (notes : List Note) : Workspace σ := { w with notes := w.notes ++ notes }

/-! ## Recording -/

/-- The text to be kept as the baseline of a file that has none yet. A file that cannot be read has an
empty one; what is not text has none at all. -/
def baselineOf (h : Host σ) (w : Workspace σ) (path : String) : Attempt (List Char × List Note) :=
  match h.read w.files path with
  | .ok text =>
    .ok (text, [⟨.debug, .ledger,
      s!"[Ledger] Captured baseline for {path} ({text.length} chars)"⟩])
  | .error f =>
    if f.isEditError || f.isStorageError then
      .ok ([], [⟨.warning, .ledger,
        s!"[Ledger] Failed to capture baseline for {path}: {f.message}"⟩])
    else .error f

/-- Record edits that are about to be made. -/
def record (h : Host σ) (names : Identifiers) (w : Workspace σ) (path : String) (edits : List Edit)
    (description : String) : Attempt (List PendingChange) × Workspace σ :=
  let captured : Attempt (List Char × List Note) :=
    if (w.ledger.setOf path).isSome then .ok ([], []) else baselineOf h w path
  match captured with
  | .error f => (.error f, w)
  | .ok (text, notes) =>
    let (changes, ledger) := w.ledger.record names path text edits description
    (.ok changes, { w with ledger }.tell (notes ++ changes.map PendingChange.note))

/-- Forget changes that were recorded but not made. -/
def discard (w : Workspace σ) (ids : List String) : Workspace σ :=
  { w with ledger := w.ledger.discard ids }

/-- Drop the change set of a file. -/
def clear (w : Workspace σ) (path : String) : Workspace σ :=
  if (w.ledger.setOf path).isSome then
    { w with ledger := w.ledger.clear path }.tell
      [⟨.debug, .ledger, s!"[Ledger] Cleared change set for {path}"⟩]
  else w

/-! ## Reviewing -/

/-- Drop the record of a change with a verdict on it. -/
def settle (w : Workspace σ) (c : PendingChange) (v : Verdict) (text : String) : Workspace σ :=
  { w with ledger := w.ledger.erase c.id, verdicts := w.verdicts ++ [(c.id, v)] }.tell
    [⟨.info, .ledger, text⟩]

/-- Keep a change. Says whether there is such a change. -/
def approve (w : Workspace σ) (id : String) : Bool × Workspace σ :=
  match w.ledger.find id with
  | none => (false, w)
  | some c => (true, w.settle c .approved s!"[Ledger] Approved: {c.description}")

/-- Take a change back. Says whether there is such a change and the host took it back; the record is
kept where it did not. -/
def reject (h : Host σ) (w : Workspace σ) (id : String) : Attempt Bool × Workspace σ :=
  match w.ledger.find id with
  | none => (.ok false, w)
  | some c =>
    let reply := h.apply w.files c.path [c.inverse]
    let w := { w with files := reply.state }.tell reply.notes
    match reply.made with
    | .ok true => (.ok true, w.settle c .rejected s!"[Ledger] Rejected: {c.description}")
    | .ok false =>
      (.ok false, w.tell [⟨.warning, .ledger, s!"[Ledger] Host refused to revert {id}"⟩])
    | .error f =>
      if f.isEditError || f.isStorageError then
        (.ok false, w.tell
          [⟨.warning, .ledger, s!"[Ledger] Reverting {id} failed: {f.message}"⟩])
      else (.error f, w)

end Workspace

end Emend
