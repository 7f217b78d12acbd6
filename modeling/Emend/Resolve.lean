import Emend.Outline.Registry
import Emend.Outline.Symbol
import Emend.Pattern.Compile

/-!
# From a match to a range

Where a match lies in a document. Lines and texts are looked for in the document itself; symbols come
from the host, and declarations from an extractor.
-/

namespace Emend

/-- The symbols of a file or why there are none, and what is told on the way to them. -/
structure SymbolReport where
  symbols : Attempt (List Symbol) := .ok []
  notes : List Note := []

/-- Everything that a match can be looked for in. The symbols and the declarations are looked at only
by matches that ask for them; a failure to find any is theirs. -/
structure Context where
  document : Document
  symbols : SymbolReport := {}
  outline : Attempt Extraction := .ok ⟨[], []⟩

namespace Context

/-- The range of lines. -/
def linesRange (d : Document) (first last : Int) : Attempt Range := do
  if first - 1 < 0 ∨ last - 1 ≥ d.lineCount ∨ first - 1 > last - 1 then
    Attempt.refuse (.outOfRange (.lineSpan first last d.lineCount))
  let r ← Attempt.ofRange (d.lineRange (last - 1))
  Attempt.ofOrder (Range.between ⟨first - 1, 0⟩ r.stop)

/-- The range of one line. -/
def lineNumberRange (d : Document) (number : Int) : Attempt Range :=
  if number - 1 < 0 ∨ number - 1 ≥ d.lineCount then
    Attempt.refuse (.outOfRange (.lineNumber number d.lineCount))
  else Attempt.ofRange (d.lineRange (number - 1))

/-- The range between two offsets. -/
def offsetRange (d : Document) (start stop : Int) : Attempt Range := do
  let a ← Attempt.ofRange (d.positionAt start)
  let b ← Attempt.ofRange (d.positionAt stop)
  Attempt.ofOrder (Range.between a b)

/-- The range of an occurrence. -/
def searchRange (d : Document) (m : Match) (needle : Pattern.Needle) (n : Int) : Attempt Range := do
  match ← needle.findNth d.text n with
  | some (start, stop) => offsetRange d start stop
  | none => Attempt.refuse (.notFound m)

/-- The range of a declaration. One whose end is not known has a start only: it is accepted as an empty
range where `openEnd` says so. -/
def declarationRange (d : Document) (m : Match) (node : Declaration) (openEnd : Bool) :
    Attempt Range := do
  let start ← Attempt.ofRange (d.positionAt node.start)
  if node.isComplete then
    let stop ← Attempt.ofRange (d.positionAt node.stop)
    Attempt.ofOrder (Range.between start stop)
  else if openEnd then return .emptyAt start
  else Attempt.refuse (.incomplete m node)

/-- The range of a match. -/
def resolve (c : Context) (openEnd : Bool) (m : Match) : Attempt Range :=
  match m with
  | .lines first last => linesRange c.document first last
  | .line number => lineNumberRange c.document number
  | .pattern source n => searchRange c.document m (.pattern source) n
  | .literal text n => searchRange c.document m (.literal text) n
  | .wholeFile => .ok c.document.fullRange
  | .symbol name kind parentName parentKind occurrence => do
    let forest ← c.symbols.symbols
    match Symbol.find forest { name, kind, parentName, parentKind, occurrence } with
    | some s => return s.range
    | none => Attempt.refuse (.notFound m)
  | .declaration kind name depth parent occurrence => do
    let found ← c.outline
    match Declaration.find found.declarations
        { name, kind := some kind, parentName := parent, depth, occurrence } with
    | some node => declarationRange c.document m node openEnd
    | none => Attempt.refuse (.notFound m)

end Context

end Emend
