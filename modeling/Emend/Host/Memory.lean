import Emend.Host.Basic

/-!
# Texts in memory

A host that keeps texts under their paths. It can be told to refuse every batch, or to fail on it, and
to refuse to save.
-/

namespace Emend

/-- How a host in memory treats batches. -/
inductive MemoryMode where
  | healthy
  | refusing
  | failing
  deriving DecidableEq, BEq, Repr, Inhabited

/-- Texts under their paths. -/
structure Memory where
  texts : List (String × List Char) := []
  mode : MemoryMode := .healthy
  saves : Bool := true
  deriving Inhabited

namespace Memory

/-- The text of a path. -/
def text? (m : Memory) (path : String) : Option (List Char) := m.texts.lookup path

/-- Set the text of a path. -/
def set (m : Memory) (path : String) (text : List Char) : Memory :=
  { m with texts := (path, text) :: m.texts.filter (·.1 != path) }

/-- Take a path away. -/
def remove (m : Memory) (path : String) : Memory :=
  { m with texts := m.texts.filter (·.1 != path) }

/-- The text of a path that has to be there. -/
def read (m : Memory) (path : String) : Attempt (List Char) :=
  match m.text? path with
  | some text => .ok text
  | none => .error (.fileNotFound path)

/-- The text after a batch of edits. -/
def edited (m : Memory) (strict : Bool) (path : String) (edits : List Edit) : Attempt (List Char) := do
  let text ← m.read path
  Attempt.ofBatch (applyEdits text edits strict)

/-- Make a batch of edits. -/
def apply (strict : Bool) (m : Memory) (path : String) (edits : List Edit) : Reply Memory :=
  match m.mode with
  | .refusing => ⟨.ok false, m, []⟩
  | .failing => ⟨.error (.storage "disk full"), m, []⟩
  | .healthy =>
    match m.edited strict path edits with
    | .ok text => ⟨.ok true, m.set path text, []⟩
    | .error f => ⟨.error f, m, []⟩

/-- The host that keeps texts in memory, with the symbols that it is given. -/
def host (strict : Bool) (symbols : String → List Symbol) : Host Memory where
  key := id
  read := read
  apply := apply strict
  symbols := fun _ path => ⟨.ok (symbols path), []⟩
  save := fun m _ => m.saves

end Memory

end Emend
