import Emend.Failure

/-!
# Requests as JSON

The form in which requests arrive. Reading checks every field, in a fixed order, and names the first
one that is wrong; writing leaves out what is not set.
-/

namespace Emend

namespace Wire

/-- The fields of an object. -/
abbrev Fields := List (String × Json)

/-- A whole number of at least `minimum`. -/
def integer (key : String) (minimum : Int) : Json → Except RequestFault Int
  | .null => .error (.missingField key)
  | .int n => if n < minimum then .error (.belowMinimum key minimum n) else .ok n
  | v => .error (.notAnInteger key v)

/-- A line number. -/
def lineField (fields : Fields) (key : String) : Except RequestFault Int :=
  integer key 1 (Json.get key fields)

/-- The number of an occurrence, which is one where it is not given. -/
def occurrenceField (fields : Fields) : Except RequestFault Int :=
  integer "occurrence" 1 ((Json.lookup "occurrence" fields).getD (.int 1))

/-- A text that is not empty. -/
def textField (fields : Fields) (key : String) : Except RequestFault String :=
  match Json.get key fields with
  | .null => .error (.missingField key)
  | .str s => if s.isEmpty then .error (.notAText key) else .ok s
  | _ => .error (.notAText key)

/-- A text that may be missing. -/
def optionalTextField (fields : Fields) (key : String) : Except RequestFault (Option String) :=
  match Json.get key fields with
  | .null => .ok none
  | .str s => .ok (some s)
  | _ => .error (.notAText key)

/-- A depth that may be missing. -/
def depthField (fields : Fields) : Except RequestFault (Option Int) :=
  match Json.get "depth" fields with
  | .null => .ok none
  | v => (integer "depth" 0 v).map some

/-- The match of the given kind. -/
def matchOfKind (fields : Fields) : MatchKind → Except RequestFault Match
  | .lines => do
    let first ← lineField fields "startLine"
    let last ← lineField fields "endLine"
    return .lines first last
  | .line => do
    let number ← lineField fields "atLine"
    return .line number
  | .pattern => do
    let source ← textField fields "regex"
    let n ← occurrenceField fields
    return .pattern source.toList n
  | .literal => do
    let text ← textField fields "text"
    let n ← occurrenceField fields
    return .literal text.toList n
  | .wholeFile => return .wholeFile
  | .symbol => do
    let name ← textField fields "name"
    let kind ← optionalTextField fields "kind"
    let parentName ← optionalTextField fields "parentName"
    let parentKind ← optionalTextField fields "parentKind"
    let n ← occurrenceField fields
    return .symbol name kind parentName parentKind n
  | .declaration => do
    let kind ← textField fields "nodeType"
    let name ← textField fields "name"
    let depth ← depthField fields
    let parent ← optionalTextField fields "parent"
    let n ← occurrenceField fields
    return .declaration kind name depth parent n

/-- The kind of match that an instruction names. -/
def matchKind (fields : Fields) : Except RequestFault MatchKind :=
  let value := Json.get "match_type" fields
  match value with
  | .str s =>
    match MatchKind.ofName? s with
    | some k => .ok k
    | none => .error (.unknownMatch value)
  | _ => .error (.unknownMatch value)

/-- The match of an instruction. -/
def matchField (fields : Fields) : Except RequestFault Match := do
  let kind ← matchKind fields
  matchOfKind fields kind

/-- The action that a value names. A list or an object cannot be looked up among the actions. -/
def action (value : Json) : Attempt Action :=
  match value with
  | .str s =>
    match Action.ofName? s with
    | some a => .ok a
    | none => Attempt.refuse (.request (.unknownAction value))
  | .arr _ | .obj _ => .error (.unhashable value.kindName)
  | _ => Attempt.refuse (.request (.unknownAction value))

/-- The new text of an instruction; a deletion has none. -/
def newTextField (fields : Fields) (action : Action) : Except RequestFault (List Char) :=
  if action = .delete then .ok []
  else match Json.get "newText" fields with
    | .str s => .ok s.toList
    | _ => .error (.missingNewText action)

/-- A field read, or the refusal of the request. -/
def fieldRead {α : Type} : Except RequestFault α → Attempt α
  | .ok a => .ok a
  | .error f => Attempt.refuse (.request f)

end Wire

namespace Instruction

/-- An instruction whose action takes its match. -/
def pair (action : Action) (target : Match) (newText : List Char) : Attempt Instruction :=
  if action.accepts target.kind then .ok ⟨action, target, newText⟩
  else Attempt.refuse (.mismatch action.name target.kind action.accepted)

/-- Read an instruction. -/
def ofJson : Json → Attempt Instruction
  | .obj fields => do
    let action ← Wire.action (Json.get "action_type" fields)
    let target ← Wire.fieldRead (Wire.matchField fields)
    let newText ← Wire.fieldRead (Wire.newTextField fields action)
    pair action target newText
  | v => Attempt.refuse (.request (.editNotAnObject v.kindName))

end Instruction

namespace Request

/-- Read the instructions of a request, counted from `index`. -/
def instructionsFrom (index : Nat) : List Json → Attempt (List Instruction)
  | [] => .ok []
  | v :: rest => do
    let i ← (Instruction.ofJson v).mapError (Failure.blame index (.raw v))
    let more ← instructionsFrom (index + 1) rest
    return i :: more

/-- Read a request. -/
def ofJson : Json → Attempt Request
  | .obj fields =>
    let path := Json.get "filePath" fields
    match path.isTruthy, Json.get "edits" fields with
    | false, _ | _, .null => Attempt.refuse (.request .missingParts)
    | true, .arr items => do
      let instructions ← instructionsFrom 0 items
      let comment := Json.get "shortComment" fields
      return {
        filePath := path.toText
        instructions
        comment := if comment.isTruthy then comment.toText else "" }
    | true, _ => Attempt.refuse (.request .editsNotAList)
  | _ => Attempt.refuse (.request .notAnObject)

end Request

/-! ## Writing -/

namespace Match

/-- A field that is left out where there is no value. -/
def optionalField (key : String) (value : Option Json) : List (String × Json) :=
  match value with
  | some v => [(key, v)]
  | none => []

/-- The fields of a match. -/
def toFields (m : Match) : List (String × Json) :=
  ("match_type", .str m.kind.name) ::
  match m with
  | .lines first last => [("startLine", .int first), ("endLine", .int last)]
  | .line number => [("atLine", .int number)]
  | .pattern source n => [("regex", .str (String.ofList source)), ("occurrence", .int n)]
  | .literal text n => [("text", .str (String.ofList text)), ("occurrence", .int n)]
  | .wholeFile => []
  | .symbol name kind parentName parentKind n =>
    [("name", .str name), ("occurrence", .int n)] ++ optionalField "kind" (kind.map .str)
      ++ optionalField "parentName" (parentName.map .str)
      ++ optionalField "parentKind" (parentKind.map .str)
  | .declaration kind name depth parent n =>
    [("nodeType", .str kind), ("name", .str name), ("occurrence", .int n)]
      ++ optionalField "depth" (depth.map .int) ++ optionalField "parent" (parent.map .str)

/-- The match as a JSON object. -/
def toJson (m : Match) : Json := .obj m.toFields

end Match

/-- The position as a JSON object. -/
def Position.toJson (p : Position) : Json :=
  .obj [("line", .int p.line), ("character", .int p.character)]

/-- The edit as a JSON object. -/
def Edit.toJson (e : Edit) : Json :=
  .obj [("range", .obj [("start", e.range.start.toJson), ("end", e.range.stop.toJson)]),
    ("newText", .str (String.ofList e.newText))]

/-- The instruction as a JSON object. -/
def Instruction.toJson (i : Instruction) : Json :=
  .obj (("action_type", .str i.action.name) :: i.target.toFields
    ++ (if i.action = .delete then [] else [("newText", .str (String.ofList i.newText))]))

/-- The request as a JSON object. -/
def Request.toJson (r : Request) : Json :=
  .obj [("filePath", .str r.filePath), ("shortComment", .str r.comment),
    ("edits", .arr (r.instructions.map (·.toJson)))]

end Emend
