import Emend.Number.Binary

/-!
# Shortest decimals

The text of a floating-point number: the fewest digits that are read back as the same number, and of
those the ones nearest to it.
-/

namespace Emend.Shortest

/-- Digits without leading zeros, and the place of the point: `0.d₁d₂… * 10 ^ point`. -/
structure Decimal where
  digits : List Char
  point : Int
  deriving DecidableEq, Repr

/-- The numbers that are read back as a given one: everything between two neighbours' midpoints, in
units of `1 / den`. -/
structure Interval where
  low : Nat
  value : Nat
  high : Nat
  den : Nat
  /-- The midpoints themselves belong to it. -/
  closed : Bool

/-- The numbers that are read back as `m * 2 ^ e`. -/
def Interval.around (m : Nat) (e : Int) : Interval :=
  let lowest := if m = Binary.powerOfTwo 52 ∧ e > -1074 then 4 * m - 1 else 4 * m - 2
  let (_, den) := Binary.scale 2 1 (e - 2)
  let up (n : Nat) := (Binary.scale 2 n (e - 2)).1
  { low := up lowest, value := up (4 * m), high := up (4 * m + 2), den, closed := m % 2 = 0 }

/-- The same numbers counted in units of `10 ^ exponent`. -/
def Interval.inUnits (i : Interval) (exponent : Int) : Interval :=
  if exponent < 0 then
    let f := Nat.pow 10 (-exponent).toNat
    { i with low := i.low * f, value := i.value * f, high := i.high * f }
  else { i with den := i.den * Nat.pow 10 exponent.toNat }

/-- The place of the point in the value: the least `k` with `value < 10 ^ k`. -/
def Interval.point (i : Interval) : Int :=
  let bits : Int := (i.value.log2 : Int) - i.den.log2 - 1
  let least := bits * 30103 / 100000 - 1
  let below (k : Int) : Bool :=
    let (n, d) := Binary.scale 10 1 k
    i.value * d < n * i.den
  if below least then least
  else if below (least + 1) then least + 1
  else if below (least + 2) then least + 2
  else least + 3

/-- The grid point that is nearest to the value among the two around it that belong to the interval. -/
def Interval.gridPoint? (i : Interval) : Option Nat :=
  let floor := i.value / i.den
  let belowOk := if i.closed then i.low ≤ floor * i.den else i.low < floor * i.den
  let aboveOk := if i.closed then (floor + 1) * i.den ≤ i.high else (floor + 1) * i.den < i.high
  let toFloor := i.value - floor * i.den
  let toCeil := (floor + 1) * i.den - i.value
  if belowOk && (!aboveOk || toFloor < toCeil || (toFloor == toCeil && floor % 2 == 0)) then some floor
  else if aboveOk then some (floor + 1)
  else none

/-- Try `count`, `count + 1`, … digits, at most `more` further ones. -/
def search (i : Interval) (point : Int) (count : Nat) : Nat → Decimal
  | 0 => ⟨Nat.toDigits 10 ((i.inUnits (point - count)).value / (i.inUnits (point - count)).den), point⟩
  | more + 1 =>
    match (i.inUnits (point - count)).gridPoint? with
    | some n =>
      let digits := Nat.toDigits 10 n
      ⟨digits, point + (digits.length - count)⟩
    | none => search i point (count + 1) more

/-- The fewest digits that are read back as the positive number `m * 2 ^ e`. -/
def decimal (m : Nat) (e : Int) : Decimal :=
  let i := Interval.around m e
  let d := search i i.point 1 17
  { d with digits := (d.digits.reverse.dropWhile (· == '0')).reverse }

/-- An exponent with its sign and at least two digits. -/
def exponentText (e : Int) : List Char :=
  let digits := Nat.toDigits 10 e.natAbs
  (if e < 0 then '-' else '+') :: (if digits.length < 2 then '0' :: digits else digits)

/-- Positional from `10 ^ -4` up to below `10 ^ 16`, with a digit on either side of the point; otherwise
one digit before the point, and an exponent. -/
def Decimal.render (d : Decimal) : List Char :=
  if -4 < d.point && d.point ≤ 16 then
    if d.point ≤ 0 then '0' :: '.' :: List.replicate (-d.point).toNat '0' ++ d.digits
    else
      let k := d.point.toNat
      if d.digits.length ≤ k then
        d.digits ++ List.replicate (k - d.digits.length) '0' ++ ['.', '0']
      else d.digits.take k ++ '.' :: d.digits.drop k
  else
    let mantissa := match d.digits with
      | first :: second :: rest => first :: '.' :: second :: rest
      | ds => ds
    mantissa ++ 'e' :: exponentText (d.point - 1)

/-- The text of a floating-point number. -/
def render (x : Float) : String :=
  let sign := if Binary.isNegative x then "-" else ""
  match Binary.magnitude x with
  | .undefined => "nan"
  | .infinite => sign ++ "inf"
  | .finite m e => sign ++ (if m = 0 then "0.0" else String.ofList (decimal m e).render)

end Emend.Shortest
