import Emend.Document.Basic
import Emend.Failure
import Emend.Log
import Emend.Outline.Declaration
import Emend.Text.Case

/-!
# Symbols

The declarations of a text as a forest, and the choice of one of them: by name, by kind, by the
declaration around it, by depth, and by its number among those that qualify. The same choice is made
from the forest and from the flat list of declarations.
-/

namespace Emend

/-- A declaration with those inside it. -/
structure Symbol where
  name : String
  kind : String
  range : Range
  detail : String := ""
  children : List Symbol := []
  deriving Inhabited

/-! ## Choosing -/

/-- What is known of a declaration and of the one around it. -/
structure Facts where
  name : String
  kind : String
  parentName : Option String
  parentKind : Option String
  depth : Int
  deriving DecidableEq, BEq, Repr

/-- What is asked of a declaration. What is not given is not asked; the kind of the parent is asked only
together with its name. -/
structure Criteria where
  name : String
  kind : Option String := none
  parentName : Option String := none
  parentKind : Option String := none
  depth : Option Int := none
  occurrence : Int := 1
  deriving DecidableEq, BEq, Repr

namespace Criteria

/-- The wanted kind, if one is wanted, is the actual one up to case. -/
def kindFits (wanted actual : Option String) : Bool :=
  match wanted, actual with
  | none, _ => true
  | some w, some a => Text.sameWord a w
  | some _, none => false

/-- A declaration qualifies. -/
def accepts (c : Criteria) (f : Facts) : Bool :=
  f.name == c.name && kindFits c.kind (some f.kind) && c.depth.all (· == f.depth)
    && (match c.parentName with
      | none => true
      | some p => f.parentName == some p && kindFits c.parentKind f.parentKind)

end Criteria

/-- The item after `skip` others among those that qualify. -/
def nthWhere {α : Type} (p : α → Bool) : Nat → List α → Option α
  | _, [] => none
  | skip, a :: rest =>
    if p a then
      match skip with
      | 0 => some a
      | skip + 1 => nthWhere p skip rest
    else nthWhere p skip rest

/-- The item of the given number, counted from one, among those whose facts qualify. -/
def choose {α : Type} (facts : α → Facts) (c : Criteria) (items : List α) : Option α :=
  if c.occurrence < 1 then none
  else nthWhere (fun a => c.accepts (facts a)) (c.occurrence - 1).toNat items

/-! ## The forest -/

namespace Symbol

mutual

/-- How many symbols a symbol and those inside it are. -/
def size : Symbol → Nat
  | ⟨_, _, _, _, children⟩ => sizeOfAll children + 1

/-- How many symbols there are in a forest. -/
def sizeOfAll : List Symbol → Nat
  | [] => 0
  | s :: rest => s.size + sizeOfAll rest

end

/-- A symbol on a walk, with the one around it and the number of those around it. -/
structure Visit where
  symbol : Symbol
  parent : Option Symbol
  depth : Nat

/-- The facts of a visited symbol. -/
def Visit.facts (v : Visit) : Facts where
  name := v.symbol.name
  kind := v.symbol.kind
  parentName := v.parent.map (·.name)
  parentKind := v.parent.map (·.kind)
  depth := v.depth

/-- The visits of the symbols right inside a visited one. -/
def Visit.inside (v : Visit) : List Visit :=
  v.symbol.children.map fun s => ⟨s, some v.symbol, v.depth + 1⟩

/-- How many symbols are still to be visited. -/
def pendingSize (pending : List Visit) : Nat := sizeOfAll (pending.map (·.symbol))

theorem sizeOfAll_append (a b : List Symbol) : sizeOfAll (a ++ b) = sizeOfAll a + sizeOfAll b := by
  induction a with
  | nil => simp [sizeOfAll]
  | cons s rest ih => simp [sizeOfAll, ih, Nat.add_assoc]

theorem size_eq (s : Symbol) : s.size = sizeOfAll s.children + 1 := by
  cases s
  rfl

theorem pendingSize_step (v : Visit) (rest : List Visit) :
    pendingSize (v.inside ++ rest) < pendingSize (v :: rest) := by
  simp [pendingSize, Visit.inside, sizeOfAll, sizeOfAll_append, size_eq, Function.comp_def]

/-- The visits in the order of the text: a symbol before those inside it, and those before the next. -/
def walk : List Visit → List Visit
  | [] => []
  | v :: rest => v :: walk (v.inside ++ rest)
termination_by pending => pendingSize pending
decreasing_by exact pendingSize_step v rest

/-- The visits of a whole forest. -/
def visits (forest : List Symbol) : List Visit := walk (forest.map fun s => ⟨s, none, 0⟩)

/-- The symbol of a forest that the criteria choose. -/
def find (forest : List Symbol) (c : Criteria) : Option Symbol :=
  (choose Visit.facts c (visits forest)).map (·.symbol)

end Symbol

namespace Declaration

/-- The facts of a declaration. -/
def facts (d : Declaration) : Facts where
  name := d.name
  kind := d.kind
  parentName := d.parent
  parentKind := d.parentKind
  depth := d.depth

/-- The declaration that the criteria choose. -/
def find (declarations : List Declaration) (c : Criteria) : Option Declaration :=
  choose facts c declarations

/-! ## Nesting -/

/-- The order of nesting: by start, and of two that start together the longer one first. -/
def nestingLe (a b : Declaration) : Bool :=
  a.start < b.start || (a.start == b.start && b.stop ≤ a.stop)

/-- Where a declaration ends for nesting: one without a known end holds nothing. -/
def nestingStop (d : Declaration) : Int := if d.isComplete then d.stop else d.start

/-- A declaration as a symbol without children. -/
def toSymbol (document : Document) (d : Declaration) : Attempt Symbol := do
  let start ← Attempt.ofRange (document.positionAt d.start)
  let stop ← Attempt.ofRange (document.positionAt d.nestingStop)
  let range ← Attempt.ofOrder (Range.between start stop)
  return { name := d.name, kind := Text.capitalize d.kind, range, detail := d.parent.getD "" }

/-- A symbol that may still take in others, up to its end. Its children stand last first. -/
structure Open where
  symbol : Symbol
  stop : Int
  children : List Symbol := []

/-- The symbol with the children that it took in. -/
def Open.close (o : Open) : Symbol := { o.symbol with children := o.children.reverse }

/-- The open symbols, innermost first, and the finished roots, last first. -/
structure Nest where
  stack : List Open := []
  roots : List Symbol := []

namespace Nest

/-- Close the open symbols that end at or before a place. -/
def closeUpTo (place : Int) : List Open → List Symbol → Nest
  | [], roots => ⟨[], roots⟩
  | o :: rest, roots =>
    if o.stop ≤ place then
      match rest with
      | [] => ⟨[], o.close :: roots⟩
      | p :: rest => closeUpTo place ({ p with children := o.close :: p.children } :: rest) roots
    else ⟨o :: rest, roots⟩
termination_by stack => stack.length

/-- Close every open symbol. -/
def closeAll : List Open → List Symbol → List Symbol
  | [], roots => roots.reverse
  | [o], roots => (o.close :: roots).reverse
  | o :: p :: rest, roots => closeAll ({ p with children := o.close :: p.children } :: rest) roots
termination_by stack => stack.length

/-- Take in the next symbol in the order of nesting. -/
def add (n : Nest) (s : Symbol) (start stop : Int) : Nest :=
  let closed := closeUpTo start n.stack n.roots
  { closed with stack := { symbol := s, stop } :: closed.stack }

end Nest

/-- Nest declarations that stand in the order of nesting. -/
def nestFrom (document : Document) (n : Nest) : List Declaration → Attempt (List Symbol)
  | [] => .ok (Nest.closeAll n.stack n.roots)
  | d :: rest => do
    let s ← d.toSymbol document
    nestFrom document (n.add s d.start d.nestingStop) rest

/-- The declarations of a document as a forest, nested by containment. -/
def nest (document : Document) (declarations : List Declaration) : Attempt (List Symbol) :=
  nestFrom document {} (declarations.mergeSort nestingLe)

end Declaration

end Emend
