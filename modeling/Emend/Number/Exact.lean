import Emend.Number.Shortest

/-!
# Exact values

Whole and floating-point numbers by what they stand for, so that numbers of both kinds can be compared.
-/

namespace Emend

/-- What a number stands for: `mantissa * 2 ^ exponent` with an odd mantissa, zero, or a number that is not
finite. -/
inductive Exact where
  | finite (mantissa exponent : Int)
  | infinite (negative : Bool)
  | undefined
  deriving DecidableEq, BEq, Repr

namespace Exact

/-- A product without the powers of two in its mantissa, at most `fuel` of them. -/
def reduce : Nat → Int → Int → Exact
  | 0, m, e => .finite m e
  | fuel + 1, m, e =>
    if m = 0 then .finite 0 0 else if m % 2 = 0 then reduce fuel (m / 2) (e + 1) else .finite m e

/-- What a whole number stands for. -/
def ofInt (n : Int) : Exact := reduce (n.natAbs.log2 + 1) n 0

/-- What a floating-point number stands for. -/
def ofFloat (x : Float) : Exact :=
  match Binary.magnitude x with
  | .finite m e => reduce 64 (if Binary.isNegative x then -m else m) e
  | .infinite => .infinite (Binary.isNegative x)
  | .undefined => .undefined

/-- One number is less than another. Nothing is less than an undefined one, nor is that less than
anything. -/
def lt : Exact → Exact → Bool
  | .undefined, _ | _, .undefined => false
  | .infinite a, .infinite b => a && !b
  | .infinite a, .finite _ _ => a
  | .finite _ _, .infinite b => !b
  | .finite m e, .finite n f =>
    let low := min e f
    m * Binary.powerOfTwo (e - low).toNat < n * Binary.powerOfTwo (f - low).toNat

end Exact

end Emend
