/-!
# Binary fractions

A finite floating-point number is exactly a natural number times a power of two, with a sign. This
module takes numbers apart that way, and rounds a quotient of natural numbers to the nearest number
that can be represented.
-/

namespace Emend

/-- What a floating-point number stands for. -/
inductive Magnitude where
  /-- The number `mantissa * 2 ^ exponent`. -/
  | finite (mantissa : Nat) (exponent : Int)
  | infinite
  | undefined
  deriving DecidableEq, Repr

namespace Binary

/-- Two to the power of `k`. -/
def powerOfTwo (k : Nat) : Nat := Nat.pow 2 k

/-- The sign bit. -/
def isNegative (x : Float) : Bool := x.toBits ≥ 0x8000000000000000

/-- What the number stands for, its sign apart. -/
def magnitude (x : Float) : Magnitude :=
  let bits := x.toBits.toNat % powerOfTwo 63
  let fraction := bits % powerOfTwo 52
  let exponent : Nat := bits / powerOfTwo 52
  if exponent = 2047 then (if fraction = 0 then .infinite else .undefined)
  else if exponent = 0 then .finite fraction (-1074)
  else .finite (powerOfTwo 52 + fraction) ((exponent : Int) - 1075)

/-- `n * base ^ e` as a quotient. -/
def scale (base n : Nat) (e : Int) : Nat × Nat :=
  if e < 0 then (n, Nat.pow base (-e).toNat) else (n * Nat.pow base e.toNat, 1)

/-- The natural number nearest to a quotient; a tie goes to the even neighbour. -/
def roundDiv (num den : Nat) : Nat :=
  let low := num / den
  let rest := 2 * (num % den)
  if rest < den then low
  else if den < rest then low + 1
  else low + low % 2

/-- A quotient times a power of two, rounded to a natural number. -/
def roundShifted (num den : Nat) (shift : Int) : Nat :=
  if shift < 0 then roundDiv num (den * powerOfTwo (-shift).toNat)
  else roundDiv (num * powerOfTwo shift.toNat) den

/-- The number with a mantissa that was shifted, if it is not too large. The mantissa carries into the exponent where
rounding reaches the next power of two. -/
def pack? (shift : Int) (mantissa : Nat) : Option Float :=
  let bits := if mantissa < powerOfTwo 52 then mantissa
    else (1075 - shift).toNat * powerOfTwo 52 + (mantissa - powerOfTwo 52)
  if 1075 - shift ≥ 2047 || bits ≥ 2047 * powerOfTwo 52 then none
  else some (Float.ofBits (UInt64.ofNat bits))

/-- The shift that leaves 53 bits before the point, or as many as a subnormal number has. An estimate leaves 53 or
54. -/
def shiftOf (num den : Nat) (estimate : Int) : Int :=
  let shift := if roundShifted num den estimate ≥ powerOfTwo 53 then estimate - 1 else estimate
  if shift > 1074 then 1074 else shift

/-- The number nearest to a quotient with an estimate of its shift. -/
def ofEstimate? (num den : Nat) (estimate : Int) : Option Float :=
  let shift := shiftOf num den estimate
  pack? shift (roundShifted num den shift)

/-- The number nearest to a quotient of natural numbers, if it is not too large. -/
def ofQuotient? (num den : Nat) : Option Float :=
  if num = 0 then some 0.0 else ofEstimate? num den (53 - ((num.log2 : Int) - den.log2))

/-- The quotient of two integers, rounded once. The divisor is not zero. -/
def ofRatio? (num : Int) (den : Nat) : Option Float :=
  (ofQuotient? num.natAbs den).map fun x => if num < 0 then -x else x

/-- The number `digits * 10 ^ exponent`, rounded to the nearest; beyond every finite number it is
infinite. -/
def ofDecimal (negative : Bool) (digits : Nat) (exponent : Int) : Float :=
  let size : Int := (Nat.toDigits 10 digits).length + exponent
  let x :=
    if digits = 0 || size < -400 then 0.0
    else if size > 400 then 1.0 / 0.0
    else if exponent < 0 then Float.ofScientific digits true (-exponent).toNat
    else Float.ofScientific digits false exponent.toNat
  if negative then -x else x

end Binary

end Emend
