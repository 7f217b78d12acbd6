import Emend.Failure
import Emend.Number.Exact

/-!
# Sums and shares of values

Log entries are added up as they come: whole numbers and floating-point numbers count, true counts as
one and false as zero, and texts and lists are joined. Anything else cannot be added. Whole numbers have no bound, but
one that is too large for a floating-point number cannot be made one.
-/

namespace Emend.Json

/-- The whole number that a value counts as. -/
def whole? : Json → Option Int
  | .int n => some n
  | .bool b => some b.toInt
  | _ => none

/-- The floating-point number nearest to a whole number, which must not be too large for one. -/
def floatOfInt (n : Int) : Attempt Float :=
  match Binary.ofRatio? n 1 with
  | some x => .ok x
  | none => .error (.badValue "int too large to convert to float")

/-- The floating-point number that a value counts as, if it is a number. -/
def float? : Json → Option (Attempt Float)
  | .float x => some (.ok x)
  | v => v.whole?.map floatOfInt

/-- The sum of two values. -/
def add (a b : Json) : Attempt Json :=
  match a.whole?, b.whole? with
  | some m, some n => .ok (.int (m + n))
  | _, _ =>
    match a.float?, b.float?, a, b with
    | some x, some y, _, _ => do return .float ((← x) + (← y))
    | _, _, .str s, .str t => .ok (.str (s ++ t))
    | _, _, .arr xs, .arr ys => .ok (.arr (xs ++ ys))
    | _, _, .str _, _ | _, _, .arr _, _ => .error (.notJoinable a.kindName b.kindName)
    | _, _, _, _ => .error (.notAddable a.kindName b.kindName)

/-- The sum of values, from the left. -/
def sum (vs : List Json) : Attempt Json := vs.foldlM add (.int 0)

/-- A quotient of whole numbers, rounded once, which must not be too large for a floating-point number. It has the
sign of the quotient even where it is zero. -/
def quotient (m n : Int) : Attempt Float :=
  match Binary.ofQuotient? m.natAbs n.natAbs with
  | some size => .ok (if decide (m < 0) != decide (n < 0) then -size else size)
  | none => .error (.badValue "integer division result too large for a float")

/-- The quotient of two values that are numbers; zero where one is not. -/
def divide (a b : Json) : Attempt Float :=
  match a.whole?, b.whole? with
  | some m, some n => quotient m n
  | _, _ => do
    let x ← a.float?.getD (.ok 0.0)
    let y ← b.float?.getD (.ok 1.0)
    return x / y

/-- What a number stands for. -/
def exactValue : Json → Option Exact
  | .float x => some (.ofFloat x)
  | v => v.whole?.map .ofInt

/-- One number is less than another. -/
def numberLt (a b : Json) : Bool :=
  match a.exactValue, b.exactValue with
  | some x, some y => x.lt y
  | _, _ => false

/-! ## Keys -/

/-- What a value is where it is counted: numbers are the same if they are equal, whatever their kind. -/
inductive Key where
  | null
  | number (value : Exact)
  | text (s : String)
  deriving DecidableEq, BEq, Repr

/-- The key that a value is. A list or an object is none. -/
def key (v : Json) : Attempt Key :=
  match v with
  | .null => .ok .null
  | .str s => .ok (.text s)
  | .arr _ | .obj _ => .error (.unhashable v.kindName)
  | v => .ok (.number ((exactValue v).getD .undefined))

end Emend.Json
