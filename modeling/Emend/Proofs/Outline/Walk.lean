import Emend.Outline.Walk
import Emend.Proofs.Outline.Forest
import Emend.Proofs.Outline.Parsed

/-!
# Declarations of a syntax tree, and those around them

The walk over a syntax tree is a recursion over the tree that tells with each declaration those that it lies in
(`declarations_eq`). A declaration is reported of a node that has a shape and a name (`reported_cases`), and it spans
that node or the one around it (`shape?_cases`).

Main statements:

* `walk_eq_flatMap`, `declarations_eq`: the walk as a recursion over the tree.
* `shape?_cases`, `declared?_cases`, `reported_cases`: what is reported of a node.
-/

namespace Emend

open Declaration (Nested)

namespace Grammar

open SyntaxTree

variable {g : Grammar} {source : Source} {text : List Char} {t : SyntaxTree} {around : Option SyntaxTree}

/-! ## The walk as a recursion -/

mutual

/-- The declarations of a node and of all inside it, each with the innermost of those around it. -/
def enclosed (g : Grammar) (source : Source) (around : Option SyntaxTree) (i : Inherited)
    (outer : List Declaration) : SyntaxTree → List Nested
  | ⟨kind, named, role, start, stop, children⟩ =>
    let t : SyntaxTree := ⟨kind, named, role, start, stop, children⟩
    let (reported, below) := g.visit source ⟨t, around, i⟩
    reported.toList.map (fun x => ⟨x, outer.head?, outer.length⟩)
      ++ enclosedAll g source (some t) below (reported.toList ++ outer) children

/-- The declarations of nodes side by side and of all inside them. -/
def enclosedAll (g : Grammar) (source : Source) (around : Option SyntaxTree) (i : Inherited)
    (outer : List Declaration) : List SyntaxTree → List Nested
  | [] => []
  | t :: rest => enclosed g source around i outer t ++ enclosedAll g source around i outer rest

end

theorem enclosedAll_eq_flatMap (around : Option SyntaxTree) (i : Inherited) (outer : List Declaration)
    (trees : List SyntaxTree) :
    g.enclosedAll source around i outer trees = trees.flatMap (g.enclosed source around i outer) := by
  induction trees with
  | nil => rfl
  | cons t rest ih => rw [enclosedAll, ih, List.flatMap_cons]

/-- What the children of a visited node inherit. -/
def below (g : Grammar) (source : Source) (v : Visit) : Inherited := (g.visit source v).2

/-- The declaration of a visited node, if it is reported. -/
def reported (g : Grammar) (source : Source) (v : Visit) : Option Declaration := (g.visit source v).1

theorem enclosed_eq (around : Option SyntaxTree) (i : Inherited) (outer : List Declaration) (t : SyntaxTree) :
    g.enclosed source around i outer t
      = (g.reported source ⟨t, around, i⟩).toList.map (fun x => ⟨x, outer.head?, outer.length⟩)
        ++ t.children.flatMap (g.enclosed source (some t) (g.below source ⟨t, around, i⟩)
          ((g.reported source ⟨t, around, i⟩).toList ++ outer)) := by
  rw [← enclosedAll_eq_flatMap]
  cases t
  rfl

mutual

/-- The declarations of a node are the same whatever is around it. -/
theorem map_node_enclosed (around : Option SyntaxTree) (i : Inherited) (outer outer' : List Declaration) :
    ∀ t, (g.enclosed source around i outer t).map (·.node) = (g.enclosed source around i outer' t).map (·.node)
  | ⟨kind, named, role, start, stop, children⟩ => by
    rw [enclosed, enclosed]
    simp only [List.map_append, List.map_map, Function.comp_def]
    exact congrArg _ (map_node_enclosedAll _ _ _ _ children)

theorem map_node_enclosedAll (around : Option SyntaxTree) (i : Inherited) (outer outer' : List Declaration) :
    ∀ trees, (g.enclosedAll source around i outer trees).map (·.node)
      = (g.enclosedAll source around i outer' trees).map (·.node)
  | [] => rfl
  | t :: rest => by
    rw [enclosedAll, enclosedAll, List.map_append, List.map_append, map_node_enclosed _ _ outer outer' t,
      map_node_enclosedAll _ _ outer outer' rest]

end

/-- The declarations of a visited node and of all inside it. -/
def declarationsOf (g : Grammar) (source : Source) (v : Visit) : List Declaration :=
  (g.enclosed source v.around v.inherited [] v.node).map (·.node)

theorem declarationsOf_eq (v : Visit) :
    g.declarationsOf source v = (g.reported source v).toList
      ++ (inside v (g.below source v)).flatMap (g.declarationsOf source) := by
  have heach : ∀ t, (g.enclosed source (some v.node) (g.below source v) ((g.reported source v).toList ++ [])
      t).map (·.node) = g.declarationsOf source ⟨t, some v.node, g.below source v⟩ :=
    fun t => map_node_enclosed _ _ _ _ t
  rw [declarationsOf, enclosed_eq, List.map_append, List.map_map, List.map_flatMap, inside, List.flatMap_map]
  simp only [heach, Function.comp_def, List.map_id']

/-- The walk meets the declarations of each node that it starts from, with those inside of it, in turn. -/
theorem walk_eq_flatMap (pending : List Visit) :
    g.walk source pending = pending.flatMap (g.declarationsOf source) := by
  -- Induction on the walk, which takes a node and puts its children in its place.
  induction pending using walk.induct g source with
  | case1 => rw [walk, List.flatMap_nil]
  | case2 v rest reported i hvisit ih =>
    have hreported : g.reported source v = reported := congrArg Prod.fst hvisit
    have hbelow : g.below source v = i := congrArg Prod.snd hvisit
    rw [walk, hvisit]
    simp only
    rw [ih, List.flatMap_cons, declarationsOf_eq, hreported, hbelow, List.flatMap_append, List.append_assoc]

/-- The declarations of a tree are those of its root and of all inside it. -/
theorem declarations_eq (root : SyntaxTree) :
    g.declarations source root = (g.enclosed source none {} [] root).map (·.node) := by
  rw [declarations, walk_eq_flatMap, List.flatMap_singleton]
  rfl

/-! ## What a node declares -/

theorem spanOrWrapper_cases (t : SyntaxTree) (around : Option SyntaxTree) (wrappers : List String) :
    t.spanOrWrapper around wrappers = t ∨ around = some (t.spanOrWrapper around wrappers) := by
  unfold spanOrWrapper
  split
  · split
    · exact .inr rfl
    · exact .inl rfl
  · exact .inl rfl

theorem typeKind_cases (t : SyntaxTree) (otherwise : String) :
    t.typeKind otherwise = otherwise ∨ t.typeKind otherwise = "class" ∨ t.typeKind otherwise = "interface" := by
  unfold typeKind
  split
  · split
    · exact .inr (.inl rfl)
    · split
      · exact .inr (.inr rfl)
      · exact .inl rfl
  · exact .inl rfl

/-- What a node declares has the kind that the grammar gives it, or that of a type by its definition. It spans the
node or the one around it. -/
theorem shape?_cases {kind : String} {span : SyntaxTree} (h : g.shape? t around = some (kind, span)) :
    (∃ known, g.kinds.lookup t.kind = some known ∧ (kind = known ∨ kind = "class" ∨ kind = "interface")) ∧
      (span = t ∨ around = some span) := by
  unfold shape? at h
  simp only [Option.bind_eq_bind, Option.bind_eq_some_iff] at h
  obtain ⟨known, hknown, h⟩ := h
  -- The shapes of the grammar one by one; each gives the span of the node itself or of the one around it.
  split at h
  · simp at h
  · split at h
    · obtain ⟨value, -, h⟩ := Option.bind_eq_some_iff.mp h
      split at h
      · obtain ⟨rfl, rfl⟩ := Prod.mk.inj (Option.some.inj h)
        exact ⟨⟨known, hknown, .inl rfl⟩, spanOrWrapper_cases _ _ _⟩
      · simp at h
    · split at h
      · obtain ⟨left, -, h⟩ := Option.bind_eq_some_iff.mp h
        obtain ⟨statement, hstatement, h⟩ := Option.bind_eq_some_iff.mp h
        split at h
        · obtain ⟨rfl, rfl⟩ := Prod.mk.inj (Option.some.inj h)
          exact ⟨⟨known, hknown, .inl rfl⟩, .inr hstatement⟩
        · simp at h
      · split at h
        · obtain ⟨rfl, rfl⟩ := Prod.mk.inj (Option.some.inj h)
          exact ⟨⟨known, hknown, typeKind_cases _ _⟩, spanOrWrapper_cases _ _ _⟩
        · split at h
          · obtain ⟨rfl, rfl⟩ := Prod.mk.inj (Option.some.inj h)
            refine ⟨⟨known, hknown, .inl rfl⟩, ?_⟩
            split
            · exact .inr rfl
            · exact .inl rfl
          · obtain ⟨rfl, rfl⟩ := Prod.mk.inj (Option.some.inj h)
            exact ⟨⟨known, hknown, .inl rfl⟩, .inl rfl⟩

/-- What is declared has a shape, and a name that is not empty. -/
theorem declared?_cases {d : Declared} (h : g.declared? source t around = some d) :
    g.shape? t around = some (d.kind, d.span) ∧ d.name ≠ "" ∧
      (d.name = t.nameIn source ∨ d.name = ((t.child? "left").map (·.textIn source)).getD "") := by
  obtain ⟨⟨kind, span⟩, hshape, h⟩ := Option.bind_eq_some_iff.mp h
  simp only at h
  -- An assignment is named by its left side, and anything else by its own name.
  split at h
  · obtain ⟨hname, h⟩ := Option.ite_none_left_eq_some.mp h
    obtain rfl := Option.some.inj h
    exact ⟨hshape, by simpa using hname, .inr rfl⟩
  · obtain ⟨hname, h⟩ := Option.ite_none_left_eq_some.mp h
    obtain rfl := Option.some.inj h
    exact ⟨hshape, by simpa using hname, .inl rfl⟩

/-- A node that declares something is not empty. -/
theorem lt_of_declared? {d : Declared} (hparsed : t.Parsed text) (h : g.declared? source t around = some d) :
    t.startByte < t.stopByte := by
  -- Either name is the text of a part of the node, and it is not empty.
  obtain ⟨-, hne, hname | hname⟩ := declared?_cases h
  · exact hparsed.lt_of_nameIn (hname ▸ hne)
  · cases hleft : t.child? "left" with
    | none => exact absurd (by rw [hname, hleft]; rfl) hne
    | some left =>
      rw [hname, hleft] at hne
      exact hparsed.lt_of_child? hleft (lt_of_textIn hne)

/-- What is reported of a node is what it declares, under the kind that its owner makes it. -/
theorem reported_cases {v : Visit} {x : Declaration} (h : g.reported source v = some x) :
    ∃ d kind, g.declared? source v.node v.around = some d ∧
      reportedKind v.inherited.owner d.kind = some kind ∧ x = report source v.inherited kind d := by
  unfold reported visit at h
  simp only at h
  -- What has no name or no kind to be reported by is passed over.
  cases hdeclared : g.declared? source v.node v.around with
  | none => simp [hdeclared] at h
  | some d =>
    rw [hdeclared] at h
    cases hkind : reportedKind v.inherited.owner d.kind with
    | none => simp [hkind] at h
    | some kind =>
      simp only [Option.bind_some, hkind] at h
      exact ⟨d, kind, rfl, hkind, (Option.some.inj h).symm⟩

end Grammar

end Emend
