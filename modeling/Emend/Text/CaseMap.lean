/-!
# Maps between cases

A map from characters to characters given by runs of code points that move by the same distance, and
by the few characters that become several.
-/

namespace Emend.Text

/-- Every `step`-th code point from `first` to `last` moves by `shift`. -/
structure CaseRun where
  first : Nat
  last : Nat
  step : Nat
  shift : Int

/-- Where the run sends a code point, if the run covers it. -/
def CaseRun.image? (r : CaseRun) (n : Nat) : Option Nat :=
  if r.first ≤ n && n ≤ r.last && (n - r.first) % r.step == 0 then
    some (Int.toNat (n + r.shift))
  else none

/-- What the run sends to a code point. -/
def CaseRun.source? (r : CaseRun) (n : Nat) : Option Nat :=
  let source := (n : Int) - r.shift
  if source < 0 then none
  else if r.image? source.toNat == some n then some source.toNat
  else none

/-- The run covers a code point between two others. -/
def CaseRun.meets (r : CaseRun) (low high : Nat) : Bool :=
  let least := if low ≤ r.first then r.first
    else r.first + (low - r.first + r.step - 1) / r.step * r.step
  least ≤ min r.last high

/-- A map from one case to another. A character in no run and not spread stays as it is. -/
structure CaseMap where
  runs : Array CaseRun
  spread : Array (Nat × List Nat)

namespace CaseMap

/-- The image of a character, if the map moves it. -/
def image? (m : CaseMap) (c : Char) : Option (List Char) :=
  match m.spread.find? (·.1 == c.toNat) with
  | some (_, image) => some (image.map Char.ofNat)
  | none => (m.runs.findSome? (·.image? c.toNat)).map fun n => [Char.ofNat n]

/-- The image of a character. -/
def apply (m : CaseMap) (c : Char) : List Char :=
  (m.image? c).getD [c]

/-- The characters that the map sends to a single one. -/
def sources (m : CaseMap) (n : Nat) : List Nat := m.runs.toList.filterMap (·.source? n)

/-- The map moves a character between two code points. -/
def moves (m : CaseMap) (low high : Nat) : Bool :=
  m.runs.any (·.meets low high) || m.spread.any fun (n, _) => low ≤ n && n ≤ high

end CaseMap

end Emend.Text
