import Emend.Outline.Declaration
import Emend.Outline.Grammar
import Emend.Outline.SyntaxTree

/-!
# Declarations of a syntax tree

A walk in the order of the text that carries along what a node inherits from those around it: its depth,
the name and kind of the scope that it lies in, and the kind of its owner.
-/

namespace Emend

namespace SyntaxTree

/-- The text of a node. -/
def textIn (t : SyntaxTree) (source : Source) : String := source.between t.startByte t.stopByte

/-- The kinds of node that are the end of a chain of declarators. -/
def identifierKinds : List String :=
  ["identifier", "field_identifier", "type_identifier", "property_identifier", "constant", "name",
   "destructor_name", "operator_name"]

/-- The name at the end of a chain of declarators. -/
def declaratorName (source : Source) (t : SyntaxTree) : String :=
  if identifierKinds.contains t.kind then t.textIn source
  else match t.child? "name" with
    | some name => name.textIn source
    | none =>
      match _h : t.child? "declarator" with
      | some d => declaratorName source d
      | none => ""
termination_by t.size
decreasing_by exact size_child?_lt _h

/-- The name that a node declares: its name, or else its property, or else what its declarators
declare. -/
def nameIn (source : Source) (t : SyntaxTree) : String :=
  match t.child? "name" with
  | some name => name.textIn source
  | none =>
    match t.child? "property" with
    | some name => name.textIn source
    | none =>
      match t.child? "declarator" with
      | some d => d.declaratorName source
      | none => ""

/-- The name of a scope. A block of implementations is named by its type. -/
def scopeName (source : Source) (t : SyntaxTree) : String :=
  if t.kind == "impl_item" then ((t.child? "type").map (·.textIn source)).getD ""
  else t.nameIn source

/-- The kinds of value that make a variable a function. -/
def functionValueKinds : List String :=
  ["arrow_function", "function_expression", "function", "generator_function"]

/-- The node is one of several kinds. -/
def isOneOf (t : SyntaxTree) (kinds : List String) : Bool := kinds.contains t.kind

/-- A declaration that is the only one of the given kind of wrapper spans the wrapper. -/
def spanOrWrapper (t : SyntaxTree) (parent : Option SyntaxTree) (wrappers : List String) : SyntaxTree :=
  match parent with
  | some p => if p.isOneOf wrappers && p.namedCount == 1 then p else t
  | none => t

/-- The kind of a type by its definition. -/
def typeKind (t : SyntaxTree) (otherwise : String) : String :=
  match t.child? "type" with
  | some d =>
    if d.kind == "struct_type" then "class"
    else if d.kind == "interface_type" then "interface"
    else otherwise
  | none => otherwise

end SyntaxTree

/-- What a node declares, and the node whose span that is. -/
structure Declared where
  kind : String
  name : String
  span : SyntaxTree

namespace Grammar

open SyntaxTree

/-- The kind of declaration and its span, the name apart. -/
def shape? (g : Grammar) (t : SyntaxTree) (parent : Option SyntaxTree) :
    Option (String × SyntaxTree) := do
  let kind ← g.kinds.lookup t.kind
  if g.bodyRequired.contains t.kind && (t.child? "body").isNone then none
  else if t.kind == "variable_declarator" then
    let value ← t.child? "value"
    if value.isOneOf functionValueKinds then
      some (kind, t.spanOrWrapper parent ["lexical_declaration", "variable_declaration"])
    else none
  else if t.kind == "assignment" then
    let left ← t.child? "left"
    let statement ← parent
    if left.kind == "identifier" && statement.kind == "expression_statement" then some (kind, statement)
    else none
  else if t.kind == "type_spec" then
    some (t.typeKind kind, t.spanOrWrapper parent ["type_declaration"])
  else match parent with
    | some p => some (kind, if p.kind == "decorated_definition" then p else t)
    | none => some (kind, t)

/-- What a node declares. A declaration without a name is none. -/
def declared? (g : Grammar) (source : Source) (t : SyntaxTree) (parent : Option SyntaxTree) :
    Option Declared := do
  let (kind, span) ← g.shape? t parent
  let name :=
    if t.kind == "assignment" then ((t.child? "left").map (·.textIn source)).getD ""
    else t.nameIn source
  if name.isEmpty then none else some ⟨kind, name, span⟩

/-! ## The walk -/

/-- What a node inherits from those around it. -/
structure Inherited where
  depth : Nat := 0
  parent : Option String := none
  parentKind : Option String := none
  /-- The kind of the nearest declaration or named scope around. -/
  owner : Option String := none
  deriving DecidableEq, BEq, Repr, Inhabited

/-- The kind under which a declaration is reported, given its owner. What belongs to a class is a method
or a property, and a variable of a function is not reported. -/
def reportedKind (owner : Option String) (kind : String) : Option String :=
  if owner.any isClassLike && kind == "function" then some "method"
  else if owner.any isClassLike && kind == "variable" then some "property"
  else if kind == "variable" && (owner == some "function" || owner == some "method") then none
  else some kind

/-- The first text that is not empty, and else the last resort. -/
def firstName (names : List String) (otherwise : Option String) : Option String :=
  (names.find? (!·.isEmpty)).or otherwise

/-- What the children of a node inherit. -/
def bequeath (g : Grammar) (source : Source) (t : SyntaxTree) (declared : Option Declared)
    (reported : Option String) (i : Inherited) : Inherited :=
  let depth := if t.isOneOf g.scopes then i.depth + 1 else i.depth
  if t.isOneOf g.namedScopes then
    let kind := reported.getD "class"
    { depth
      parent := firstName [(declared.map (·.name)).getD "", t.scopeName source] i.parent
      parentKind := some kind
      owner := some kind }
  else { i with depth, owner := reported.or i.owner }

/-- A node on the walk. -/
structure Visit where
  node : SyntaxTree
  around : Option SyntaxTree
  inherited : Inherited

/-- The declaration that a visited node is reported as. -/
def report (source : Source) (i : Inherited) (kind : String) (d : Declared) : Declaration where
  kind
  name := d.name
  depth := i.depth
  start := source.offsetOfByte d.span.startByte
  stop := source.offsetOfByte d.span.stopByte
  startLine := source.lineOfByte d.span.startByte
  endLine := source.lineOfByte d.span.stopByte
  parent := i.parent
  parentKind := i.parentKind

/-- The declaration of a visited node, if it is reported, and what its children inherit. -/
def visit (g : Grammar) (source : Source) (v : Visit) : Option Declaration × Inherited :=
  let declared := g.declared? source v.node v.around
  let kind := declared.bind fun d => reportedKind v.inherited.owner d.kind
  let reported := match declared, kind with
    | some d, some k => some (report source v.inherited k d)
    | _, _ => none
  (reported, g.bequeath source v.node declared kind v.inherited)

/-- How many nodes are still to be visited. -/
def pendingSize (pending : List Visit) : Nat := SyntaxTree.sizeOfAll (pending.map (·.node))

/-- The visits of the children of a node. -/
def inside (v : Visit) (i : Inherited) : List Visit :=
  v.node.children.map fun t => ⟨t, some v.node, i⟩

theorem pendingSize_step (v : Visit) (i : Inherited) (rest : List Visit) :
    pendingSize (inside v i ++ rest) < pendingSize (v :: rest) := by
  simp [pendingSize, inside, SyntaxTree.sizeOfAll, SyntaxTree.sizeOfAll_append,
    SyntaxTree.size_eq, Function.comp_def]

/-- The declarations of the nodes to visit and of all inside them, in the order of the text. -/
def walk (g : Grammar) (source : Source) : List Visit → List Declaration
  | [] => []
  | v :: rest =>
    let (reported, i) := g.visit source v
    reported.toList ++ walk g source (inside v i ++ rest)
termination_by pending => pendingSize pending
decreasing_by exact pendingSize_step v _ rest

/-- The declarations of a source text, given its syntax tree. -/
def declarations (g : Grammar) (source : Source) (root : SyntaxTree) : List Declaration :=
  g.walk source [⟨root, none, {}⟩]

end Grammar

end Emend
