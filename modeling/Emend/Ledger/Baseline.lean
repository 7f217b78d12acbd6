import Emend.Document.Position
import Emend.Text.Lines
import Emend.Text.Slice

/-!
# Text of a range in a baseline

A ledger keeps the text that a change took away, read from the baseline of its file. The baseline may
be older than the change, so a range may lie outside of it: lines that are missing read as empty, and
columns are moved into their line.
-/

namespace Emend

open Text

/-- A line of a text, and nothing where the text has no such line. -/
def lineOrEmpty (ls : List (List Char)) (n : Int) : List Char :=
  if n < 0 then [] else ls.getD n.toNat []

/-- The lines strictly between two lines. -/
def linesBetween (ls : List (List Char)) (first last : Int) : List (List Char) :=
  (List.range (last - first - 1).toNat).map fun (k : Nat) => lineOrEmpty ls (first + 1 + k)

/-- The text of a range, whatever the range. -/
def baselineText (text : List Char) (r : Range) : List Char :=
  let ls := lines text
  let first := lineOrEmpty ls r.start.line
  let last := lineOrEmpty ls r.stop.line
  if r.start.line = r.stop.line then slice first r.start.character r.stop.character
  else unlines (sliceFrom first r.start.character ::
    linesBetween ls r.start.line r.stop.line ++ [sliceTo last r.stop.character])

end Emend
