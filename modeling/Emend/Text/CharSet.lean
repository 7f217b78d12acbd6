/-!
# Sets of characters

A property of characters given by the code points at which membership switches. Membership is a
binary search, so a table of a thousand bounds costs ten comparisons.
-/

namespace Emend.Text

/-- A set of characters, as the ascending code points at which membership switches. -/
structure CharSet where
  /-- Outside before the first bound, inside up to the second, and so on. -/
  bounds : Array Nat

namespace CharSet

/-- The set with the given bounds. -/
def ofBounds (bounds : Array Nat) : CharSet := ⟨bounds⟩

/-- How many of the bounds are at most `n`, when the answer lies between `lo` and `hi`. -/
def rank (s : CharSet) (n lo hi : Nat) : Nat :=
  if lo < hi then
    let mid := (lo + hi) / 2
    if s.bounds.getD mid 0 ≤ n then s.rank n (mid + 1) hi else s.rank n lo mid
  else lo
termination_by hi - lo

/-- A character is inside when an odd number of bounds lie at or below it. -/
def contains (s : CharSet) (c : Char) : Bool :=
  s.rank c.toNat 0 s.bounds.size % 2 == 1

end CharSet

end Emend.Text
