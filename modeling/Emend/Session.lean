import Emend.Compile
import Emend.Diff.Unified
import Emend.Host.Basic
import Emend.Metrics.Log
import Emend.Settings.Basic

/-!
# Sessions

A session makes the edits of requests through a host. A request is compiled as a whole, checked for
overlaps, recorded in the ledger and then applied; a request that is refused before that leaves
everything as it was. The recorded changes of a file can be approved or rejected one by one or all
together.
-/

namespace Emend

/-- What a session works with. The state `σ` is the host's. -/
structure Session (σ : Type) where
  host : Host σ
  settings : Settings
  registry : Registry
  /-- Where the identifiers of changes come from. -/
  names : Identifiers
  /-- Log a batch. -/
  log : σ → List (String × Json) → Attempt σ × List Note

/-- What a request would do. -/
structure Preview where
  path : String
  edits : List Edit
  text : List Char
  /-- The difference to the text as it is; empty where there is none. -/
  diff : List Char
  deriving BEq, Repr

/-- What a request did. -/
structure Applied where
  message : String
  path : String
  edits : List Edit := []
  changes : List PendingChange := []
  deriving BEq, Repr

namespace Session

variable {σ : Type}

/-! ## Compiling -/

/-- Everything that the matches of a request are looked for in. -/
def context (s : Session σ) (files : σ) (document : Document) : Context where
  document
  symbols := s.host.symbols files document.uri
  outline := s.registry.extract document.text
    (s.registry.languageFor (some document.uri) s.settings.defaultLanguage)

/-- Refuse edits that overlap, where the settings say so. -/
def check (s : Session σ) (document : Document) (edits : List Edit) : Attempt Unit :=
  if s.settings.rejectOverlaps then do
    let splices ← Attempt.ofRange (document.splices edits)
    Attempt.ofBatch (checkOverlaps splices)
  else .ok ()

/-- The edits of instructions for a document. -/
def compileFor (s : Session σ) (files : σ) (document : Document) (instructions : List Instruction) :
    Attempt (List Edit) := do
  let edits ← (s.context files document).compile s.settings.normalizeIndentation instructions
  s.check document edits
  return edits

/-- The document of a request, and the edits of the request. -/
def compile (s : Session σ) (files : σ) (path : String) (request : Request) :
    Attempt (Document × List Edit) := do
  let text ← s.host.read files path
  let document : Document := ⟨text, path⟩
  let edits ← s.compileFor files document request.instructions
  return (document, edits)

/-- What is told while a request is compiled. -/
def compileNotes (s : Session σ) (files : σ) (path : String) (request : Request) : List Note :=
  match s.host.read files path with
  | .error _ => []
  | .ok text =>
    let document : Document := ⟨text, path⟩
    (s.context files document).compileNotes s.settings.normalizeIndentation request.instructions
      ++ (match s.compileFor files document request.instructions with
        | .ok edits => [⟨.debug, .session,
            s!"[Edit] Compiled {edits.length} instruction(s) for {path}"⟩]
        | .error _ => [])

/-! ## Applying -/

/-- What a request would do. Nothing is written. -/
def preview (s : Session σ) (w : Workspace σ) (request : Request) :
    Attempt Preview × Workspace σ :=
  let path := s.host.key request.filePath
  let told := w.tell (s.compileNotes w.files path request)
  match s.compile w.files path request with
  | .error f => (.error f, told)
  | .ok (document, edits) =>
    match Attempt.ofBatch (applyEdits document.text edits s.settings.rejectOverlaps) with
    | .error f => (.error f, told)
    | .ok text =>
      let diff := (Diff.unified request.filePath.toList document.text text).getD []
      (.ok ⟨path, edits, text, diff⟩, told.tell (appliedNotes edits document.text text))

/-- Log a batch, if batches are logged. -/
def logBatch (s : Session σ) (w : Workspace σ) (request : Request) (error : Option EditError) :
    Attempt Unit × Workspace σ :=
  if s.settings.metricsEnabled then
    match s.log w.files (Metrics.entry request error) with
    | (.ok files, notes) => (.ok (), { w with files }.tell notes)
    | (.error f, notes) => (.error f, w.tell notes)
  else (.ok (), w)

/-- End with a refusal, which is logged first. -/
def refuse {α : Type} (s : Session σ) (w : Workspace σ) (request : Request) (error : EditError)
    (f : Failure) (notes : List Note) : Attempt α × Workspace σ :=
  match s.logBatch w request (some error) with
  | (.ok (), w) => (.error f, w.tell notes)
  | (.error g, w) => (.error g, w)

/-- What is said about a request that was applied. -/
def appliedMessage (request : Request) (edits : List Edit) (recorded : Option Nat) : String :=
  s!"Applied {edits.length} edit(s) to {request.filePath}"
    ++ (match recorded with
      | some n => s!" ({n} pending change(s))"
      | none => "")

/-- Record the edits of a request, if they are tracked. -/
def recordEdits (s : Session σ) (w : Workspace σ) (path : String) (request : Request)
    (edits : List Edit) (track : Bool) : Attempt (List PendingChange) × Workspace σ :=
  if track then
    let comment := if request.comment.isEmpty then "No comment" else request.comment
    w.record s.host s.names path edits comment
  else (.ok [], w)

/-- Have the host make the edits of a request. Their changes are recorded by now, and are discarded where
the host refuses. -/
def make (s : Session σ) (w : Workspace σ) (path : String) (request : Request) (edits : List Edit)
    (changes : List PendingChange) (track : Bool) : Attempt Applied × Workspace σ :=
  let reply := s.host.apply w.files path edits
  let w := { w with files := reply.state }.tell reply.notes
  match reply.made with
  | .error f => (.error f, w)
  | .ok false =>
    let error := EditError.applyFailed edits.length request.filePath
    s.refuse (w.discard (changes.map (·.id))) request error (.ofError error)
      [⟨.warning, .session, s!"[Edit] {error.message}"⟩]
  | .ok true =>
    match s.logBatch w request none with
    | (.error f, w) => (.error f, w)
    | (.ok (), w) =>
      let message := appliedMessage request edits (if track then some changes.length else none)
      (.ok ⟨message, path, edits, changes⟩, w.tell [⟨.info, .session, s!"[Edit] {message}"⟩])

/-- Make the edits of a request, and record them as changes if they are tracked. -/
def apply (s : Session σ) (w : Workspace σ) (request : Request) (track : Bool := true) :
    Attempt Applied × Workspace σ :=
  let path := s.host.key request.filePath
  if request.instructions.isEmpty then (.ok { message := "No edits to apply.", path }, w)
  else
    let told := w.tell (s.compileNotes w.files path request)
    match s.compile w.files path request with
    | .error (.edit e culprit) => s.refuse told request e (.edit e culprit) []
    | .error f => (.error f, told)
    | .ok (_, edits) =>
      match s.recordEdits told path request edits track with
      | (.error f, w) => (.error f, w)
      | (.ok changes, w) => s.make w path request edits changes track

/-! ## Reviewing -/

/-- The pending changes of a file. -/
def pending (s : Session σ) (w : Workspace σ) (path : String) : List PendingChange :=
  w.ledger.pending (s.host.key path)

/-- Keep changes, and say how many of them there were. -/
def approveEach (w : Workspace σ) : List PendingChange → Nat × Workspace σ
  | [] => (0, w)
  | c :: rest =>
    let (kept, w) := w.approve c.id
    let (n, w) := approveEach w rest
    (n + kept.toNat, w)

/-- Keep every pending change of a file. -/
def approveAll (s : Session σ) (w : Workspace σ) (path : String) : Nat × Workspace σ :=
  approveEach w (s.pending w path)

/-- Take changes back, and say how many were taken back. -/
def rejectEach (h : Host σ) (w : Workspace σ) : List PendingChange → Attempt Nat × Workspace σ
  | [] => (.ok 0, w)
  | c :: rest =>
    match w.reject h c.id with
    | (.error f, w) => (.error f, w)
    | (.ok taken, w) =>
      let (n, w) := rejectEach h w rest
      (n.map (· + taken.toNat), w)

/-- The order of review: the change that starts last comes first, so that taking one back leaves those
after it in their places. -/
def reviewLe (a b : PendingChange) : Bool := decide (b.edit.range.start ≤ a.edit.range.start)

/-- The pending changes of a file in the order of review. Changes with one start keep their order. -/
def reviewOrder (s : Session σ) (w : Workspace σ) (path : String) : List PendingChange :=
  (s.pending w path).mergeSort reviewLe

/-- Take every pending change of a file back. -/
def rejectAll (s : Session σ) (w : Workspace σ) (path : String) : Attempt Nat × Workspace σ :=
  rejectEach s.host w (s.reviewOrder w path)

/-- Bring a file to storage and drop its change set. -/
def saveAndClear (s : Session σ) (w : Workspace σ) (path : String) : Bool × Workspace σ :=
  let file := s.host.key path
  if s.host.save w.files file then (true, w.clear file)
  else (false, w.tell [⟨.warning, .session, s!"[Host] Failed to save {file}"⟩])

end Session

end Emend
