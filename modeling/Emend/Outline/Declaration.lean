/-!
# Declarations

A named part of a source text: a function, a class, a type. An extractor that only sees where a
declaration starts leaves its end unknown.
-/

namespace Emend

/-- A named part of a source text, at character offsets. -/
structure Declaration where
  kind : String
  name : String
  /-- How many scopes the declaration lies in. -/
  depth : Int
  start : Int
  /-- Where it ends; negative where that is not known. -/
  stop : Int
  startLine : Int
  endLine : Int
  /-- The name of the scope that it lies in. -/
  parent : Option String := none
  parentKind : Option String := none
  deriving DecidableEq, BEq, Repr, Inhabited

namespace Declaration

/-- The end is known. -/
def isComplete (d : Declaration) : Bool := 0 ≤ d.stop

end Declaration

/-- The kinds whose members are members of a class rather than functions and variables. -/
def isClassLike (kind : String) : Bool := ["class", "interface", "trait", "enum"].contains kind

end Emend
