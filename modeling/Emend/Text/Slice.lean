/-!
# Slices with signed bounds

A bound below zero counts from the end, and a bound outside the list is moved to its nearest end, so
that every pair of bounds selects something.
-/

namespace Emend.Text

/-- The position that a signed bound stands for in a list of length `n`. -/
def clampBound (n : Nat) (i : Int) : Nat :=
  if i < 0 then (n + i).toNat else min i.toNat n

/-- The part of a list from one bound up to another. -/
def slice {α : Type} (s : List α) (start stop : Int) : List α :=
  let a := clampBound s.length start
  let b := clampBound s.length stop
  (s.drop a).take (b - a)

/-- The part of a list from a bound on. -/
def sliceFrom {α : Type} (s : List α) (start : Int) : List α := s.drop (clampBound s.length start)

/-- The part of a list up to a bound. -/
def sliceTo {α : Type} (s : List α) (stop : Int) : List α := s.take (clampBound s.length stop)

end Emend.Text
