import Emend.Resolve
import Emend.Text.Slice

/-!
# From instructions to edits

An instruction and the range that its match was found in make one edit. A whole batch is compiled in
two passes: every match is resolved before any edit is made, so that a bad instruction stops the batch
before there is anything to apply.
-/

namespace Emend

open Text

/-- Indent every line of a text but the first; blank lines stay as they are. A text that already starts
with the indentation counts as indented and only loses it in front. -/
def applyIndentation (text indent : List Char) : List Char :=
  if indent.isEmpty then text
  else if indent.isPrefixOf text then text.drop indent.length
  else match lines text with
    | [] => text
    | first :: rest =>
      unlines (first :: rest.map fun line => if isBlankText line then line else indent ++ line)

namespace Document

/-- The blanks of a line that stand before a position. -/
def indentBefore (d : Document) (p : Position) : Attempt (List Char) := do
  let line ← Attempt.ofRange (d.lineText p.line)
  return leadingBlanks (sliceTo line p.character)

/-- The ending of a line as characters. -/
def endingChars (d : Document) (line : Int) : Attempt (List Char) :=
  (Attempt.ofRange (d.endingAt line)).map (·.chars)

/-- The character before a position ends a line. A position at the start of the text has none. -/
def followsBreak (d : Document) (p : Position) : Attempt (Option Bool) := do
  let offset ← Attempt.ofRange (d.offsetAt p)
  return if offset = 0 then none
    else (d.text[offset - 1]?).map fun c => c == '\r' || c == '\n'

end Document

namespace Instruction

/-- The indentation that the new text of an instruction takes over. -/
def indent (i : Instruction) (d : Document) (normalize : Bool) (resolved : Range) :
    Attempt (List Char) :=
  if normalize && i.target.kind.isStructural then d.indentBefore resolved.start else .ok []

/-- The new text of an instruction, indented like the declaration that it concerns. -/
def indentedText (i : Instruction) (d : Document) (normalize : Bool) (resolved : Range) :
    Attempt (List Char) :=
  (i.indent d normalize resolved).map (applyIndentation i.newText)

/-- The edit that replaces a range. -/
def replaceEdit (i : Instruction) (d : Document) (normalize : Bool) (resolved : Range) :
    Attempt Edit := do
  let text ← i.indentedText d normalize resolved
  return ⟨resolved, text⟩

/-- The edit that deletes a range. Lines are deleted together with the break after them. -/
def deleteEdit (i : Instruction) (d : Document) (resolved : Range) : Attempt Edit :=
  if i.target.kind = .lines ∧ resolved.stop.line + 1 < d.lineCount then
    (Attempt.ofOrder (Range.between resolved.start ⟨resolved.stop.line + 1, 0⟩)).map fun r => ⟨r, []⟩
  else .ok ⟨resolved, []⟩

/-- The edit that inserts before a range. A line gets its ending; a declaration that is pushed to a new
line keeps its column. -/
def insertBeforeEdit (i : Instruction) (d : Document) (normalize : Bool) (resolved : Range) :
    Attempt Edit := do
  if i.target.kind = .line then
    let ending ← d.endingChars resolved.start.line
    return ⟨.emptyAt resolved.start, i.newText ++ ending⟩
  else
    let indent ← i.indent d normalize resolved
    let text := applyIndentation i.newText indent
    let tail := if text.getLast? == some '\n' then indent else []
    return ⟨.emptyAt resolved.start, text ++ tail⟩

/-- The edit that inserts after a range. A line starts on the next line; behind a declaration one line
is left empty, unless the declaration ends with a break. -/
def insertAfterEdit (i : Instruction) (d : Document) (normalize : Bool) (resolved : Range) :
    Attempt Edit := do
  let place := Range.emptyAt resolved.stop
  if i.target.kind = .line then
    let ending ← d.endingChars resolved.stop.line
    return ⟨place, ending ++ i.newText⟩
  else
    let text ← i.indentedText d normalize resolved
    if !i.target.kind.isStructural then return ⟨place, text⟩
    match ← d.followsBreak resolved.stop with
    | some false =>
      let indent ← i.indent d normalize resolved
      let ending ← d.endingChars resolved.stop.line
      return ⟨place, ending ++ ending ++ indent ++ text⟩
    | _ => return ⟨place, text⟩

/-- The edit of an instruction whose match was found in a range. -/
def compile (i : Instruction) (d : Document) (normalize : Bool) (resolved : Range) : Attempt Edit :=
  if !i.action.accepts i.target.kind then
    Attempt.refuse (.mismatch i.action.name i.target.kind [])
  else match i.action with
    | .replace => i.replaceEdit d normalize resolved
    | .delete => i.deleteEdit d resolved
    | .insertBefore => i.insertBeforeEdit d normalize resolved
    | .insertAfter => i.insertAfterEdit d normalize resolved
    | .prepend => .ok ⟨.emptyAt ⟨resolved.start.line, 0⟩, i.newText⟩
    | .append => .ok ⟨.emptyAt resolved.stop, i.newText⟩

/-- The edit of an action given by its name. A name that is no action takes no match. -/
def compileNamed (name : String) (target : Match) (newText : List Char) (d : Document)
    (normalize : Bool) (resolved : Range) : Attempt Edit :=
  match Action.ofName? name with
  | some action => (Instruction.mk action target newText).compile d normalize resolved
  | none => Attempt.refuse (.mismatch name target.kind [])

/-- Inserting before a declaration needs its start only. -/
def acceptsOpenEnd (i : Instruction) : Bool :=
  i.action == .insertBefore && i.target.kind == .declaration

end Instruction

/-! ## Batches -/

namespace Context

/-- The ranges of the matches of a batch, counted from `index`. -/
def resolveFrom (c : Context) (index : Nat) : List Instruction → Attempt (List Range)
  | [] => .ok []
  | i :: rest => do
    let r ← (c.resolve i.acceptsOpenEnd i.target).mapError (Failure.blame index (.instruction i))
    let more ← c.resolveFrom (index + 1) rest
    return r :: more

/-- The edits of instructions with their ranges, counted from `index`. -/
def editsFrom (d : Document) (normalize : Bool) (index : Nat) :
    List (Instruction × Range) → Attempt (List Edit)
  | [] => .ok []
  | (i, r) :: rest => do
    let e ← (i.compile d normalize r).mapError (Failure.blame index (.instruction i))
    let more ← editsFrom d normalize (index + 1) rest
    return e :: more

/-- The edits of a batch. -/
def compile (c : Context) (normalize : Bool) (instructions : List Instruction) :
    Attempt (List Edit) := do
  let ranges ← c.resolveFrom 0 instructions
  editsFrom c.document normalize 0 (instructions.zip ranges)

/-! ## What is told -/

/-- The name of the document in notes. -/
def shownUri (c : Context) : String :=
  if c.document.uri.isEmpty then "<buffer>" else c.document.uri

/-- What is told when declarations are asked for the first time. -/
def outlineNotes (c : Context) (given : Bool) : List Note :=
  match given, c.outline with
  | false, .ok found => found.notes ++
    [⟨.debug, .resolver,
      s!"[Edit] Extracted {found.declarations.length} structural node(s) from {c.shownUri}"⟩]
  | _, _ => []

/-- What is told while matches are resolved: what is looked at for the first time, and which match is
not found. -/
def resolveNotes (c : Context) : Nat → Bool → Bool → List Instruction → List Note
  | _, _, _, [] => []
  | index, outlineSeen, symbolsSeen, i :: rest =>
    let isDeclaration := i.target.kind == .declaration
    let isSymbol := i.target.kind == .symbol
    let first := (if isDeclaration then c.outlineNotes outlineSeen else [])
      ++ (if isSymbol && !symbolsSeen then c.symbols.notes else [])
    match c.resolve i.acceptsOpenEnd i.target with
    | .ok _ =>
      first ++ c.resolveNotes (index + 1) (outlineSeen || isDeclaration) (symbolsSeen || isSymbol) rest
    | .error f =>
      if f.isEditError then
        first ++ [⟨.warning, .compiler,
          s!"[Edit] Instruction {index + 1} ({i.action.name}) failed to resolve: {f.message}"⟩]
      else first

/-- What is told while a batch is compiled. -/
def compileNotes (c : Context) (normalize : Bool) (instructions : List Instruction) : List Note :=
  c.resolveNotes 0 false false instructions ++
    (match c.compile normalize instructions with
      | .ok edits =>
        [⟨.debug, .compiler, s!"[Edit] Compiled {edits.length} edit(s) for {c.shownUri}"⟩]
      | .error _ => [])

end Context

end Emend
