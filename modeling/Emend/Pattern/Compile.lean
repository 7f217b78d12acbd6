import Emend.Failure
import Emend.Pattern.Escape
import Emend.Pattern.Matcher
import Emend.Pattern.Reader
import Emend.Pattern.Resolve

/-!
# Patterns ready to search

From the text of a pattern to one that can be searched for, and the search for an occurrence of a
pattern or of a literal text, which is searched for as a pattern too.
-/

namespace Emend.Pattern

/-- Make a pattern ready to search for. -/
def compile (source : List Char) : Except Rejection Node := do
  let tree ← read source
  resolveAll tree.widths tree.options tree.items

/-- Why a pattern is refused. Numbers that are too large and options that exclude each other are no
fault of the request's form. -/
def Rejection.toFailure (source : List Char) : Rejection → Failure
  | .problem p position => .ofError (.request (.badPattern source (p.messageAt position source)))
  | .repetitionTooLarge => .repetitionTooLarge
  | .exclusiveOptions => .badValue "ASCII and UNICODE flags are incompatible"

/-- What to look for in a text. -/
inductive Needle where
  /-- A pattern, by its source. -/
  | pattern (source : List Char)
  /-- A text, character for character. -/
  | literal (text : List Char)
  deriving DecidableEq, BEq, Repr

/-- The source of the pattern to search for. A text is escaped, so that it stands for itself. -/
def Needle.source : Needle → List Char
  | .pattern source => source
  | .literal text => escaped text

/-- The needle as a pattern to search for. -/
def Needle.node (needle : Needle) : Attempt Node :=
  (compile needle.source).mapError (·.toFailure needle.source)

/-- Where the `n`-th occurrence lies, counted from one. A pattern that cannot be read is noticed only
when there is something to count. -/
def Needle.findNth (needle : Needle) (content : List Char) (n : Int) : Attempt (Option (Nat × Nat)) :=
  if n < 1 then .ok none
  else do
    let node ← needle.node
    return Pattern.findNth node content n

end Emend.Pattern
