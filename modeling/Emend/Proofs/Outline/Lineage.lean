import Emend.Outline.Registry
import Emend.Proofs.Outline.Walk

/-!
# Declarations by their lineage

The walk over a syntax tree hands down from node to node what those inside inherit. The same can be said of each node
by itself, from the nodes around it (`Grammar.declarationIn`). The walk reports what there is to say of each place of
the tree, once, and in the order of the places (`declarations_eq_filterMap`).

Main statements:

* `mem_places_iff`, `pairwise_places`: the places of a tree, in their order.
* `reported_eq_declarationIn`, `below_eq_inheritedIn`: what a node hands down is said by the nodes around it.
* `declarationsOf_eq_filterMap`, `declarations_eq_filterMap`: what the walk reports.
-/

namespace Emend

/-! ## Places of a tree -/

namespace SyntaxTree

/-- The node at a place with those around it, innermost first. A place tells step by step which child to go to. -/
def lineage? (around : List SyntaxTree) (t : SyntaxTree) : List Nat → Option (List SyntaxTree)
  | [] => some (t :: around)
  | k :: rest => t.children[k]?.bind fun c => c.lineage? (t :: around) rest

mutual

/-- The places of a tree: the root, and then those in each child. -/
def places : SyntaxTree → List (List Nat)
  | ⟨_, _, _, _, _, children⟩ => [] :: placesFrom 0 children

/-- The places in trees side by side, the first of which is child number `k`. -/
def placesFrom (k : Nat) : List SyntaxTree → List (List Nat)
  | [] => []
  | t :: rest => t.places.map (k :: ·) ++ placesFrom (k + 1) rest

end

theorem places_eq (t : SyntaxTree) : t.places = [] :: placesFrom 0 t.children := by
  cases t
  rw [places]

theorem mem_placesFrom_iff {k : Nat} {trees : List SyntaxTree} {p : List Nat} :
    p ∈ placesFrom k trees ↔ ∃ j c q, trees[j]? = some c ∧ q ∈ c.places ∧ p = (k + j) :: q := by
  -- Induction on the siblings, the number of the first one free.
  induction trees generalizing k with
  | nil => simp [placesFrom]
  | cons t rest ih =>
    rw [placesFrom, List.mem_append, List.mem_map, ih]
    constructor
    · rintro (⟨q, hq, rfl⟩ | ⟨j, c, q, hc, hq, rfl⟩)
      · exact ⟨0, t, q, rfl, hq, rfl⟩
      · exact ⟨j + 1, c, q, hc, hq, by rw [Nat.add_right_comm, Nat.add_assoc]⟩
    · rintro ⟨j, c, q, hc, hq, rfl⟩
      rcases j with _ | j
      · obtain rfl : t = c := by simpa using hc
        exact .inl ⟨q, hq, rfl⟩
      · exact .inr ⟨j, c, q, hc, hq, by rw [Nat.add_right_comm, Nat.add_assoc]⟩

/-- The places of a tree are those that lead to a node. -/
theorem mem_places_iff (around : List SyntaxTree) (t : SyntaxTree) (p : List Nat) :
    p ∈ t.places ↔ (t.lineage? around p).isSome := by
  -- Induction on the path, one child per step.
  induction p generalizing around t with
  | nil => simp [places_eq, lineage?]
  | cons k rest ih =>
    rw [places_eq, List.mem_cons, mem_placesFrom_iff, lineage?]
    constructor
    · rintro (h | ⟨j, c, q, hc, hq, hp⟩)
      · simp at h
      · obtain ⟨rfl, rfl⟩ : k = j ∧ rest = q := by simpa using hp
        rw [hc]
        exact (ih (t :: around) c).mp hq
    · intro h
      rcases hc : t.children[k]? with _ | c
      · simp [hc] at h
      · rw [hc] at h
        exact .inr ⟨k, c, rest, hc, (ih (t :: around) c).mpr h, by rw [Nat.zero_add]⟩

mutual

/-- The places come in order: a node before those inside it, and each child after the one before it. -/
theorem pairwise_places : ∀ t : SyntaxTree, t.places.Pairwise (· < ·)
  | ⟨_, _, _, _, _, children⟩ => by
    rw [places, List.pairwise_cons]
    refine ⟨?_, pairwise_placesFrom 0 children⟩
    intro p hp
    obtain ⟨j, c, q, -, -, rfl⟩ := mem_placesFrom_iff.mp hp
    exact List.nil_lt_cons _ _

theorem pairwise_placesFrom (k : Nat) : ∀ trees : List SyntaxTree, (placesFrom k trees).Pairwise (· < ·)
  | [] => by
    rw [placesFrom]
    exact .nil
  | t :: rest => by
    rw [placesFrom, List.pairwise_append, List.pairwise_map]
    -- Paths into one child are in order by their tails, and paths into two children by their heads.
    refine ⟨?_, pairwise_placesFrom (k + 1) rest, ?_⟩
    · refine (pairwise_places t).imp ?_
      intro p q hpq
      exact List.cons_lt_cons_iff.mpr (.inr ⟨rfl, hpq⟩)
    · intro p hp q hq
      obtain ⟨p', -, rfl⟩ := List.mem_map.mp hp
      obtain ⟨j, c, q', -, -, rfl⟩ := mem_placesFrom_iff.mp hq
      exact List.cons_lt_cons_iff.mpr (.inl (by omega))

end

/-- What is found along the places of a tree: that of the root, and then what is found in each child. -/
theorem filterMap_places {β : Type} (f : List SyntaxTree → Option β) (around : List SyntaxTree)
    (t : SyntaxTree) :
    t.places.filterMap (fun p => (t.lineage? around p).bind f)
      = (f (t :: around)).toList ++ t.children.flatMap fun c =>
        c.places.filterMap fun p => (c.lineage? (t :: around) p).bind f := by
  have hchildren : ∀ before rest : List SyntaxTree, t.children = before ++ rest →
      (placesFrom before.length rest).filterMap (fun p => (t.lineage? around p).bind f)
        = rest.flatMap fun c => c.places.filterMap fun p => (c.lineage? (t :: around) p).bind f := by
    intro before rest h
    -- induction on the children that are left: those before them say the number of the next
    induction rest generalizing before with
    | nil => rfl
    | cons c rest ih =>
      have hc : t.children[before.length]? = some c := by simp [h]
      have hrest := ih (before ++ [c]) (by simp [h])
      rw [List.length_append, List.length_singleton] at hrest
      rw [placesFrom, List.filterMap_append, List.filterMap_map, hrest, List.flatMap_cons]
      simp only [Function.comp_def, lineage?, hc, Option.bind_some]
  have hall := hchildren [] t.children rfl
  rw [List.length_nil] at hall
  rw [places_eq, List.filterMap_cons, hall, lineage?, Option.bind_some]
  cases f (t :: around) <;> rfl

/-- The nodes of a tree in order, each with those around it, innermost first. -/
def lineages (around : List SyntaxTree) (t : SyntaxTree) : List (List SyntaxTree) :=
  t.places.filterMap fun p => t.lineage? around p

theorem lineages_eq (around : List SyntaxTree) (t : SyntaxTree) :
    t.lineages around = (t :: around) :: t.children.flatMap (lineages (t :: around)) := by
  have hall := filterMap_places some around t
  simp only [Option.bind_fun_some] at hall
  exact hall

end SyntaxTree

/-! ## Lineages -/

namespace Grammar

open SyntaxTree

variable {g : Grammar} {source : Source} {t : SyntaxTree} {around : List SyntaxTree}

/-- What a function or a variable becomes under its owner: a method or a property of what is like a class, and a
variable nothing under a function or a method. -/
def kindUnder (owner : Option String) (kind : String) : Option String :=
  match owner with
  | none => some kind
  | some o =>
    if isClassLike o then
      some (if kind = "function" then "method" else if kind = "variable" then "property" else kind)
    else if kind = "variable" ∧ (o = "function" ∨ o = "method") then none
    else some kind

/-- The kind of the owner, given the nodes around: of the innermost one that is a named scope or is reported. A named
scope that is not reported counts as a class. -/
def ownerIn (g : Grammar) (source : Source) : List SyntaxTree → Option String
  | [] => none
  | t :: around =>
    let kind := (g.declared? source t around.head?).bind fun d => kindUnder (g.ownerIn source around) d.kind
    if t.isOneOf g.namedScopes then some (kind.getD "class") else kind.or (g.ownerIn source around)

/-- The kind under which the first node of a lineage is reported. -/
def kindIn (g : Grammar) (source : Source) : List SyntaxTree → Option String
  | [] => none
  | t :: around => (g.declared? source t around.head?).bind fun d => kindUnder (g.ownerIn source around) d.kind

/-- The name of the first node of a lineage: what it declares, or else what it is called as a scope. -/
def titleIn (g : Grammar) (source : Source) : List SyntaxTree → String
  | [] => ""
  | t :: around => ((g.declared? source t around.head?).map (·.name)).getD (t.scopeName source)

/-- The name of the innermost named scope that has one. -/
def parentIn (g : Grammar) (source : Source) : List SyntaxTree → Option String
  | [] => none
  | t :: around =>
    if t.isOneOf g.namedScopes ∧ g.titleIn source (t :: around) ≠ "" then some (g.titleIn source (t :: around))
    else g.parentIn source around

/-- The kind under which the innermost named scope is reported, and class if it is not. -/
def parentKindIn (g : Grammar) (source : Source) : List SyntaxTree → Option String
  | [] => none
  | t :: around =>
    if t.isOneOf g.namedScopes then some ((g.kindIn source (t :: around)).getD "class")
    else g.parentKindIn source around

/-- The declaration that the first node of a lineage is reported as: what it declares, under the kind that its owner
makes it, with what those around it say of it. -/
def declarationIn (g : Grammar) (source : Source) : List SyntaxTree → Option Declaration
  | [] => none
  | t :: around =>
    (g.declared? source t around.head?).bind fun d =>
      (kindUnder (g.ownerIn source around) d.kind).map fun kind => {
        kind
        name := d.name
        depth := around.countP (·.isOneOf g.scopes)
        start := source.offsetOfByte d.span.startByte
        stop := source.offsetOfByte d.span.stopByte
        startLine := source.lineOfByte d.span.startByte
        endLine := source.lineOfByte d.span.stopByte
        parent := g.parentIn source around
        parentKind := g.parentKindIn source around }

/-! ## What is handed down -/

/-- What a node inherits, told from the nodes around it. -/
def inheritedIn (g : Grammar) (source : Source) (around : List SyntaxTree) : Inherited where
  depth := around.countP (·.isOneOf g.scopes)
  parent := g.parentIn source around
  parentKind := g.parentKindIn source around
  owner := g.ownerIn source around

theorem reportedKind_eq_kindUnder (owner : Option String) (kind : String) :
    reportedKind owner kind = kindUnder owner kind := by
  rcases owner with _ | o
  · simp [reportedKind, kindUnder]
  · have hfunction : isClassLike "function" = false := by decide
    have hmethod : isClassLike "method" = false := by decide
    unfold reportedKind kindUnder
    by_cases hclass : isClassLike o = true
    · by_cases hkind : kind = "function"
      · simp [hclass, hkind]
      · by_cases hvariable : kind = "variable" <;> simp [hclass, hkind, hvariable]
    · simp [hclass]

theorem ownerIn_cons (g : Grammar) (source : Source) (t : SyntaxTree) (around : List SyntaxTree) :
    g.ownerIn source (t :: around)
      = if t.isOneOf g.namedScopes then some ((g.kindIn source (t :: around)).getD "class")
        else (g.kindIn source (t :: around)).or (g.ownerIn source around) := rfl

/-- The name that is handed down is the first one of the node that is not empty. -/
theorem firstName_eq_titleIn (g : Grammar) (source : Source) (t : SyntaxTree) (around : List SyntaxTree)
    (otherwise : Option String) :
    firstName [((g.declared? source t around.head?).map (·.name)).getD "", t.scopeName source] otherwise
      = if g.titleIn source (t :: around) ≠ "" then some (g.titleIn source (t :: around)) else otherwise := by
  rcases hdeclared : g.declared? source t around.head? with _ | d
  · have htitle : g.titleIn source (t :: around) = t.scopeName source := by simp [titleIn, hdeclared]
    rw [htitle]
    by_cases hscope : t.scopeName source = "" <;> simp [firstName, hscope]
  · have htitle : g.titleIn source (t :: around) = d.name := by simp [titleIn, hdeclared]
    have hname : d.name ≠ "" := (declared?_cases hdeclared).2.1
    rw [htitle]
    simp [firstName, hname]

/-- What is said of a node is what the walk reports of it. -/
theorem reported_eq_declarationIn (g : Grammar) (source : Source) (t : SyntaxTree) (around : List SyntaxTree) :
    g.reported source ⟨t, around.head?, g.inheritedIn source around⟩ = g.declarationIn source (t :: around) := by
  simp only [reported, visit, declarationIn]
  rcases g.declared? source t around.head? with _ | d
  · rfl
  · simp only [inheritedIn, reportedKind_eq_kindUnder, Option.bind_some]
    rcases kindUnder (g.ownerIn source around) d.kind with _ | kind <;> rfl

/-- What the walk hands down to the children of a node is what is said of the lineage that ends in the node. -/
theorem below_eq_inheritedIn (g : Grammar) (source : Source) (t : SyntaxTree) (around : List SyntaxTree) :
    g.below source ⟨t, around.head?, g.inheritedIn source around⟩ = g.inheritedIn source (t :: around) := by
  have hkind : ((g.declared? source t around.head?).bind fun d => reportedKind (g.ownerIn source around) d.kind)
      = g.kindIn source (t :: around) := by
    simp only [reportedKind_eq_kindUnder, kindIn]
  have hdepth : (if t.isOneOf g.scopes then around.countP (·.isOneOf g.scopes) + 1
      else around.countP (·.isOneOf g.scopes)) = (t :: around).countP (·.isOneOf g.scopes) := by
    rw [List.countP_cons]
    split <;> rfl
  simp only [below, visit, bequeath, inheritedIn, hkind, hdepth, ownerIn_cons, parentIn, parentKindIn,
    firstName_eq_titleIn]
  by_cases hscope : t.isOneOf g.namedScopes = true <;> simp [hscope]

/-- Inside of nodes that say what it inherits, a tree has the declarations that are said of its places. -/
theorem declarationsOf_eq_filterMap (g : Grammar) (source : Source) (around : List SyntaxTree) (t : SyntaxTree) :
    g.declarationsOf source ⟨t, around.head?, g.inheritedIn source around⟩
      = t.places.filterMap fun p => (t.lineage? around p).bind (g.declarationIn source) := by
  -- Recursion on the tree: what a child inherits is what the nodes around it say.
  have hchildren : ∀ c ∈ t.children, g.declarationsOf source ⟨c, some t, g.inheritedIn source (t :: around)⟩
      = c.places.filterMap fun p => (c.lineage? (t :: around) p).bind (g.declarationIn source) :=
    fun c hc => declarationsOf_eq_filterMap g source (t :: around) c
  rw [declarationsOf_eq, filterMap_places, reported_eq_declarationIn, below_eq_inheritedIn, inside,
    List.flatMap_map]
  exact congrArg _ (List.flatMap_congr hchildren)
termination_by t.size
decreasing_by
  have hsize := size_le_sizeOfAll hc
  rw [size_eq t]
  omega

/-- The declarations of a tree are those that are said of the lineages of its nodes, in order. -/
theorem declarations_eq_filterMap_lineages (g : Grammar) (source : Source) (root : SyntaxTree) :
    g.declarations source root = (root.lineages []).filterMap (g.declarationIn source) := by
  rw [declarations, walk_eq_flatMap, List.flatMap_singleton, lineages, List.filterMap_filterMap]
  exact declarationsOf_eq_filterMap g source [] root

/-- What is extracted from a text that is parsed are the declarations of its tree. -/
theorem exists_extract {parse : Parser} {text : List Char} {p : Parse} (hparse : parse g text = .ok p)
    (language : String) :
    ∃ found, (g.extractor parse).extract text language = .ok found ∧
      found.declarations = (p.root.lineages []).filterMap (g.declarationIn (.ofText text)) := by
  rw [← declarations_eq_filterMap_lineages]
  exact ⟨_, Attempt.bind_eq_ok.mpr ⟨p, hparse, rfl⟩, rfl⟩

/-- The declarations of a tree are those that are said of its places, each place asked once and all of them in order:
a node before those inside it, and those inside a child before those inside the next. -/
theorem declarations_eq_filterMap (g : Grammar) (source : Source) (root : SyntaxTree) :
    ∃ places : List (List Nat), places.Pairwise (· < ·) ∧
      (∀ p, p ∈ places ↔ (root.lineage? [] p).isSome) ∧
      g.declarations source root
        = places.filterMap fun p => (root.lineage? [] p).bind (g.declarationIn source) := by
  refine ⟨root.places, pairwise_places root, mem_places_iff [] root, ?_⟩
  rw [declarations, walk_eq_flatMap, List.flatMap_singleton]
  exact declarationsOf_eq_filterMap g source [] root

end Grammar

end Emend
