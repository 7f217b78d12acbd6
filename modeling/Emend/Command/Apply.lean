import Emend.Command.Review
import Emend.Instruction.Wire
import Emend.Json.Reader

/-!
# Applying requests

A request is read from a file. Its edits are made, or only shown as a difference, and the changes can be
reviewed at once.
-/

namespace Emend.Command

variable {σ : Type}

/-- A failure with the place of the instruction at fault, counted from one. -/
def placed : Failure → String
  | .edit e (some culprit) => s!"edit {culprit.index + 1}: {e.message}"
  | f => f.message

/-- A failure with a request, as a reason to stop. -/
def requestStop (f : Failure) : Stop :=
  if f.isEditError then .complaint s!"Invalid request: {placed f}" else .failure f

/-- A failure with a batch, as a reason to stop. -/
def batchStop (f : Failure) : Stop :=
  if f.isEditError || f.isStorageError then .complaint s!"Edit failed: {placed f}" else .failure f

/-- Read a request from a file. -/
def readRequest (d : Disk) (path : String) : Except Stop Request := do
  let unreadable (reason : String) : Stop := .complaint s!"Cannot read request {path}: {reason}"
  let text ← (d.readText path.toList).mapError fun f =>
    if f.isStorageError then unreadable f.message else .failure f
  let value ← (Json.parse (Text.universalNewlines text)).mapError fun m => unreadable m.message
  (Request.ofJson value).mapError requestStop

/-- Show what a request would do. -/
def showPreview (session : Session σ) (s : Scene σ) (r : Request) : Ending × Scene σ :=
  match session.preview s.work r with
  | (.error f, w) => (s.move w).stop (batchStop f)
  | (.ok p, w) =>
    let shown := if p.diff.isEmpty then "(no changes)" else String.ofList (Diff.coloured p.diff)
    (.ok 0, (s.move w).on (·.print shown))

/-- Make the edits of a request, and have its changes reviewed if that is asked for. -/
def applyRequest (session : Session σ) (s : Scene σ) (r : Request) (track wantsReview : Bool) :
    Ending × Scene σ :=
  match session.apply s.work r (track || wantsReview) with
  | (.error f, w) => (s.move w).stop (batchStop f)
  | (.ok done, w) =>
    let s := (s.move w).on (·.print done.message)
    if wantsReview && !done.changes.isEmpty then review session s r.filePath else (.ok 0, s)

end Emend.Command
