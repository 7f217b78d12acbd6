import Emend.Document.Position

/-!
# Edits

An edit puts a text in the place of a range. Over an empty range it is an insertion, and with an empty
text it is a deletion.
-/

namespace Emend

/-- Put a text in the place of a range. -/
structure Edit where
  range : Range
  newText : List Char
  deriving DecidableEq, BEq, Repr, Inhabited

namespace Edit

/-- The edit adds text and takes none away. -/
def isInsertion (e : Edit) : Bool := e.range.isEmpty

/-- The edit adds no text. -/
def isDeletion (e : Edit) : Bool := e.newText.isEmpty

end Edit

end Emend
