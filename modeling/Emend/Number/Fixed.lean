import Emend.Number.Binary

/-!
# Decimals with fixed places

The text of a number with a fixed number of places after the point. The exact value is rounded, and a
tie goes to the even neighbour.
-/

namespace Emend.Fixed

/-- A count of units of `10 ^ -places`, with the point put in. -/
def placed (places units : Nat) : List Char :=
  let digits := Nat.toDigits 10 units
  let digits := List.replicate (places + 1 - digits.length) '0' ++ digits
  let whole := digits.take (digits.length - places)
  if places = 0 then whole else whole ++ '.' :: digits.drop (digits.length - places)

/-- The number with `places` digits after the point. -/
def render (places : Nat) (x : Float) : String :=
  let sign := if Binary.isNegative x then "-" else ""
  match Binary.magnitude x with
  | .undefined => "nan"
  | .infinite => sign ++ "inf"
  | .finite m e =>
    let (num, den) := Binary.scale 2 (m * Nat.pow 10 places) e
    sign ++ String.ofList (placed places (Binary.roundDiv num den))

end Emend.Fixed
