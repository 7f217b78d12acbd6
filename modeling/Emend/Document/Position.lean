/-!
# Positions and ranges

A position is a line and a character of that line, both counted from zero. Positions are ordered by
line first. A range is a pair of positions that does not run backwards.
-/

namespace Emend

/-- A place in a text: a line and a character of that line, counted from zero. -/
structure Position where
  line : Int
  character : Int
  deriving DecidableEq, BEq, Repr, Inhabited

namespace Position

/-- The start of a text. -/
def zero : Position := ⟨0, 0⟩

instance : LT Position :=
  ⟨fun p q => p.line < q.line ∨ (p.line = q.line ∧ p.character < q.character)⟩

instance : LE Position :=
  ⟨fun p q => p.line < q.line ∨ (p.line = q.line ∧ p.character ≤ q.character)⟩

theorem lt_def (p q : Position) :
    p < q ↔ p.line < q.line ∨ (p.line = q.line ∧ p.character < q.character) := Iff.rfl

theorem le_def (p q : Position) :
    p ≤ q ↔ p.line < q.line ∨ (p.line = q.line ∧ p.character ≤ q.character) := Iff.rfl

instance (p q : Position) : Decidable (p < q) := decidable_of_iff _ (lt_def p q).symm

instance (p q : Position) : Decidable (p ≤ q) := decidable_of_iff _ (le_def p q).symm

theorem le_refl (p : Position) : p ≤ p := by simp [le_def]

/-- The position as `line:character`. -/
def render (p : Position) : String := s!"{p.line}:{p.character}"

/-- The position after one more character: a line feed starts the next line. -/
def advance (p : Position) (c : Char) : Position :=
  if c = '\n' then ⟨p.line + 1, 0⟩ else ⟨p.line, p.character + 1⟩

/-- The position reached after writing a text that starts at `p`. -/
def extent (p : Position) (text : List Char) : Position := text.foldl advance p

theorem extent_nil (p : Position) : p.extent [] = p := rfl

theorem extent_cons (p : Position) (c : Char) (text : List Char) :
    p.extent (c :: text) = (p.advance c).extent text := rfl

theorem extent_append (p : Position) (s t : List Char) :
    p.extent (s ++ t) = (p.extent s).extent t := List.foldl_append

theorem le_trans {p q r : Position} (hpq : p ≤ q) (hqr : q ≤ r) : p ≤ r := by
  rw [le_def] at *
  omega

theorem le_advance (p : Position) (c : Char) : p ≤ p.advance c := by
  unfold advance
  split
  · exact Or.inl (Int.lt_succ p.line)
  · exact Or.inr ⟨rfl, Int.le_of_lt (Int.lt_succ p.character)⟩

/-- Writing never moves backwards. -/
theorem le_extent (p : Position) (text : List Char) : p ≤ p.extent text := by
  induction text generalizing p with
  | nil => exact le_refl p
  | cons c text ih => exact le_trans (le_advance p c) (ih _)

end Position

/-- The part of a text between two positions. -/
structure Range where
  start : Position
  stop : Position
  start_le_stop : start ≤ stop
  deriving DecidableEq, Repr

/-- Two positions that make no range, because the second comes first. -/
structure Inverted where
  start : Position
  stop : Position
  deriving DecidableEq, BEq, Repr

/-- What is wrong with two positions in the wrong order. -/
def Inverted.message (i : Inverted) : String :=
  s!"Invalid range: start ({i.start.render}) > end ({i.stop.render})"

namespace Range

/-- The range between two positions in order. -/
def between (start stop : Position) : Except Inverted Range :=
  if h : start ≤ stop then .ok ⟨start, stop, h⟩ else .error ⟨start, stop⟩

/-- The empty range at a position. -/
def emptyAt (p : Position) : Range := ⟨p, p, p.le_refl⟩

/-- Nothing lies in the range. -/
def isEmpty (r : Range) : Bool := r.start = r.stop

/-- The range that a text covers once it is written at `p`. -/
def covering (p : Position) (text : List Char) : Range := ⟨p, p.extent text, p.le_extent text⟩

/-- The range as `line:character-line:character`. -/
def render (r : Range) : String := s!"{r.start.render}-{r.stop.render}"

instance : Inhabited Range := ⟨emptyAt .zero⟩

instance : BEq Range := ⟨fun r s => r.start == s.start && r.stop == s.stop⟩

end Range

end Emend
