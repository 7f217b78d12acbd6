import Emend.Edit.Batch
import Emend.Instruction.Basic
import Emend.Json.Literal
import Emend.Outline.Declaration

/-!
# Failures

Everything that can go wrong, by cause, and the wording of each. An `EditError` is the refusal of a
request; it is reported with the instruction that it concerns. The other failures come from outside
the request: files, patterns too large, values of the wrong kind in a log.
-/

namespace Emend

/-- What is wrong with a request. -/
inductive RequestFault where
  | notAnObject
  | missingParts
  | editsNotAList
  | editNotAnObject (kind : String)
  | unknownAction (value : Json)
  | unknownMatch (value : Json)
  | missingField (key : String)
  | notAnInteger (key : String) (value : Json)
  | belowMinimum (key : String) (minimum value : Int)
  | notAText (key : String)
  | missingNewText (action : Action)
  /-- A pattern that cannot be read, and why. -/
  | badPattern (source : List Char) (reason : String)
  /-- Something that is no match at all. -/
  | unhandledMatch (kind : String)
  deriving BEq, Repr

/-- The wording of a fault. -/
def RequestFault.message : RequestFault → String
  | .notAnObject => "Request must be a JSON object"
  | .missingParts => "Missing filePath or edits in request body."
  | .editsNotAList => "'edits' must be a list"
  | .editNotAnObject kind => s!"Edit must be an object, got {kind}"
  | .unknownAction v => s!"Unknown action type: {v.literal}"
  | .unknownMatch v => s!"Unknown match type: {v.literal}"
  | .missingField key => "Missing required field " ++ Text.quote key
  | .notAnInteger key v => "Field " ++ Text.quote key ++ s!" must be an integer, got {v.literal}"
  | .belowMinimum key least v => "Field " ++ Text.quote key ++ s!" must be >= {least}, got {v}"
  | .notAText key => "Field " ++ Text.quote key ++ " must be a non-empty string"
  | .missingNewText a => s!"Action '{a.name}' requires a string 'newText'"
  | .badPattern source reason =>
    "Invalid regex " ++ Text.quote (String.ofList source) ++ s!": {reason}"
  | .unhandledMatch kind => s!"Unhandled match type: {kind}"

/-- Why a request is refused. -/
inductive EditError where
  | request (fault : RequestFault)
  /-- The action of this name does not take this kind of match. Where the request is read, the kinds that
  it takes are named. -/
  | mismatch (action : String) (kind : MatchKind) (accepted : List MatchKind)
  | outOfRange (cause : OutOfRange)
  | notFound (spec : Match)
  /-- A declaration was found whose end is not known. -/
  | incomplete (spec : Match) (node : Declaration)
  | overlap (cause : Overlap)
  /-- The host did not make the edits. -/
  | applyFailed (count : Nat) (path : String)
  deriving BEq, Repr

/-- The wording of a refusal. -/
def EditError.message : EditError → String
  | .request fault => fault.message
  | .mismatch action kind accepted =>
    s!"Invalid match type for '{action}': {kind.name}"
      ++ (if accepted.isEmpty then ""
        else ". Must be one of: " ++ ", ".intercalate (accepted.map (·.name)) ++ ".")
  | .outOfRange cause => cause.message
  | .notFound spec => "Could not find " ++ spec.describe
  | .incomplete spec _ =>
    spec.describe ++ " was found but its end could not be determined"
  | .overlap cause => cause.message
  | .applyFailed count path => s!"Failed to apply {count} edit(s) to {path}"

/-- The name of the kind of refusal, as logs and reports give it. -/
def EditError.kindName : EditError → String
  | .request _ => "RequestError"
  | .mismatch .. => "InvalidActionForMatchError"
  | .outOfRange _ => "OutOfRangeError"
  | .notFound _ => "MatchNotFoundError"
  | .incomplete .. => "IncompleteNodeError"
  | .overlap _ => "OverlappingEditsError"
  | .applyFailed .. => "ApplyFailedError"

/-- Why a batch is refused, as the refusal of a request. -/
def EditError.ofBatch : BatchError → EditError
  | .outOfRange cause => .outOfRange cause
  | .overlap cause => .overlap cause

/-- The instruction that a refusal concerns, as it was written or as it was understood. -/
inductive Subject where
  | raw (value : Json)
  | instruction (i : Instruction)
  deriving BEq, Repr

/-- An instruction and its place in the request, counted from zero. -/
structure Culprit where
  index : Nat
  subject : Subject
  deriving BEq, Repr

/-- Why a file cannot be used. -/
inductive FileProblem where
  | noSuchFile
  | exists
  | isDirectory
  | notDirectory
  | nameTooLong
  | tooManyLinks
  deriving DecidableEq, BEq, Repr

/-- The wording of a file problem, with its number. -/
def FileProblem.message : FileProblem → String
  | .noSuchFile => "[Errno 2] No such file or directory"
  | .exists => "[Errno 17] File exists"
  | .isDirectory => "[Errno 21] Is a directory"
  | .notDirectory => "[Errno 20] Not a directory"
  | .nameTooLong => "[Errno 36] File name too long"
  | .tooManyLinks => "[Errno 40] Too many levels of symbolic links"

/-- Anything that can go wrong. -/
inductive Failure where
  /-- A request is refused, with the instruction at fault where one is. -/
  | edit (error : EditError) (culprit : Option Culprit)
  /-- Two positions make no range. -/
  | inverted (cause : Inverted)
  /-- A pattern repeats something more often than can be counted. -/
  | repetitionTooLarge
  /-- A list or an object stands where only a simple value can be looked up. -/
  | unhashable (kind : String)
  /-- The host has no such file. -/
  | fileNotFound (path : String)
  /-- The file system refuses. -/
  | file (problem : FileProblem) (path : String)
  /-- A path holds a null character. -/
  | nullInPath
  /-- The host's storage refuses. -/
  | storage (reason : String)
  /-- A file is not text. -/
  | undecodable
  /-- A text has no form in which it could be written. -/
  | unencodable
  /-- A value of one kind has no such part. -/
  | noAttribute (kind member : String)
  /-- Two values cannot be added. -/
  | notAddable (left right : String)
  /-- A value of another kind cannot be put behind a text or a list. -/
  | notJoinable (left right : String)
  /-- A value of this kind has no items. -/
  | notIterable (kind : String)
  /-- A value of this kind cannot stand in a column. -/
  | noColumn (kind : String)
  /-- A setting names no log level. -/
  | unknownLevel (name : String)
  /-- A value is outside what its kind allows. -/
  | badValue (reason : String)
  /-- A key is missing. -/
  | missingKey (key : String)
  /-- A module is missing. -/
  | missingModule (reason : String)
  /-- An extractor gives up. -/
  | extractor (kind reason : String)
  deriving BEq, Repr

namespace Failure

/-- The wording of a failure. -/
def message : Failure → String
  | .edit error _ => error.message
  | .inverted cause => cause.message
  | .repetitionTooLarge => "the repetition number is too large"
  | .unhashable kind => s!"unhashable type: '{kind}'"
  | .fileNotFound path => s!"File not found: {path}"
  | .file problem path => s!"{problem.message}: " ++ Text.quote path
  | .nullInPath => "embedded null byte"
  | .storage reason => reason
  | .undecodable => "not valid UTF-8"
  | .unencodable => "not encodable as UTF-8"
  | .noAttribute kind member => s!"'{kind}' object has no attribute '{member}'"
  | .notAddable left right => s!"unsupported operand type(s) for +: '{left}' and '{right}'"
  | .notJoinable left right => s!"can only concatenate {left} (not \"{right}\") to {left}"
  | .notIterable kind => s!"'{kind}' object is not iterable"
  | .noColumn kind => s!"unsupported format string passed to {kind}.__format__"
  | .unknownLevel name => "Unknown level: " ++ Text.quote name
  | .badValue reason => reason
  | .missingKey key => Text.quote key
  | .missingModule reason => reason
  | .extractor _ reason => reason

/-- The refusal of a request without an instruction at fault. -/
def ofError (e : EditError) : Failure := .edit e none

/-- Name the instruction at fault. Failures that are no refusal stay as they are. -/
def blame (index : Nat) (subject : Subject) : Failure → Failure
  | .edit e _ => .edit e (some ⟨index, subject⟩)
  | f => f

/-- The failure is the refusal of a request. -/
def isEditError : Failure → Bool
  | .edit .. => true
  | _ => false

/-- The failure comes from the file system or from the host's storage. -/
def isStorageError : Failure → Bool
  | .fileNotFound _ | .file .. | .storage _ => true
  | _ => false

end Failure

/-- A result, or what went wrong. -/
abbrev Attempt (α : Type) := Except Failure α

namespace Attempt

/-- A refusal. -/
def refuse {α : Type} (e : EditError) : Attempt α := .error (.ofError e)

/-- A result whose failure is a place outside the document. -/
def ofRange {α : Type} : Except OutOfRange α → Attempt α
  | .ok a => .ok a
  | .error e => refuse (.outOfRange e)

/-- A result whose failure is a pair of positions in the wrong order. -/
def ofOrder {α : Type} : Except Inverted α → Attempt α
  | .ok a => .ok a
  | .error e => .error (.inverted e)

/-- A result whose failure is the refusal of a batch. -/
def ofBatch {α : Type} : Except BatchError α → Attempt α
  | .ok a => .ok a
  | .error e => refuse (.ofBatch e)

end Attempt

end Emend
