import Emend.Text.Blank
import Emend.Text.Digits

/-!
# Numerals

Whole numbers as they are typed: blanks around them, a sign in front, digits of any script, and single
underscores between digits.
-/

namespace Emend.Numeral

/-- The value of a digit: a digit of any script, or a Latin letter from ten on. -/
def digit? (c : Char) : Option Nat :=
  match Text.digitValue? c with
  | some d => some d
  | none =>
    if 'a' ≤ c && c ≤ 'z' then some (c.toNat - 87)
    else if 'A' ≤ c && c ≤ 'Z' then some (c.toNat - 55)
    else none

/-- The number that digits below `base` continue, given the number before them and whether the last
character was an underscore. -/
def digitsFrom (base n : Nat) (afterUnderscore : Bool) : List Char → Option Nat
  | [] => if afterUnderscore then none else some n
  | c :: rest =>
    if c == '_' then (if afterUnderscore then none else digitsFrom base n true rest)
    else match digit? c with
      | some d => if d < base then digitsFrom base (n * base + d) false rest else none
      | none => none

/-- The number that digits write, if there are any. -/
def unsigned? (base : Nat) (cs : List Char) : Option Nat := digitsFrom base 0 true cs

/-- The number that a numeral writes in a base. -/
def parse? (base : Nat) (cs : List Char) : Option Int :=
  match Text.trim cs with
  | '-' :: rest => (unsigned? base rest).map fun n => -(n : Int)
  | '+' :: rest => (unsigned? base rest).map fun n => (n : Int)
  | rest => (unsigned? base rest).map fun n => (n : Int)

end Emend.Numeral
