import Emend.Proofs.Outline.Preorder

/-!
# The forest that declarations are nested to

Nesting adds each declaration behind those that were there before (`outlined_add`). So the listing of the nested
forest has the declarations in the order of nesting, each inside those before it that are open still where it starts
(`standsAs_nest`), and the walk meets each inside the innermost of them (`metAs_visits_nest`).

Main statements:

* `stack_closeUpTo`, `closeAll_closeUpTo`: closing what ends before a place.
* `outlined_add`: one more declaration.
* `standsAs_nest`, `metAs_visits_nest`, `exists_nest`: the forest of all of them.
-/

namespace Emend

theorem forall₂_dropWhile {α β : Type} {R : α → β → Prop} {p : α → Bool} {q : β → Bool} {as : List α}
    {bs : List β} (hpq : ∀ a b, R a b → p a = q b) (h : List.Forall₂ R as bs) :
    List.Forall₂ R (as.dropWhile p) (bs.dropWhile q) := by
  induction h with
  | nil => exact .nil
  | @cons a b as bs hab hrest ih =>
    rw [List.dropWhile_cons, List.dropWhile_cons, hpq a b hab]
    split
    · exact ih
    · exact .cons hab hrest

theorem rel_head? {α β : Type} {R : α → β → Prop} {as : List α} {bs : List β} (h : List.Forall₂ R as bs) :
    Option.Rel R as.head? bs.head? := by
  cases h with
  | nil => exact .none
  | cons hab _ => exact .some hab

theorem rel_map_right {α β γ : Type} {R : α → β → Prop} {S : α → γ → Prop} {f : β → γ} {x : Option α}
    {y : Option β} (hRS : ∀ a b, R a b → S a (f b)) (h : Option.Rel R x y) : Option.Rel S x (y.map f) := by
  cases h with
  | none => exact .none
  | some hab => exact .some (hRS _ _ hab)

theorem rel_none_left_iff {α β : Type} {R : α → β → Prop} {y : Option β} : Option.Rel R none y ↔ y = none := by
  cases y <;> simp

theorem rel_some_left_iff {α β : Type} {R : α → β → Prop} {a : α} {y : Option β} :
    Option.Rel R (some a) y ↔ ∃ b, y = some b ∧ R a b := by
  cases y <;> simp

/-! ## Nesting -/

namespace Declaration

namespace Nest

open Emend.Symbol (Placed preorderAll outline)

/-- The forest that a nest closes to, listed with each symbol by itself. -/
def outlined (stack : List Open) (roots : List Symbol) : List Placed :=
  (preorderAll [] (closeAll stack roots)).map Placed.bare

theorem outlined_nil (roots : List Symbol) : outlined [] roots = roots.reverse.flatMap (outline []) := by
  rw [outlined, closeAll, Symbol.map_bare_preorderAll]

/-- The innermost open symbol and those that it took in are listed last. -/
theorem outlined_cons (o : Open) (stack : List Open) (roots : List Symbol) :
    outlined (o :: stack) roots = outlined stack roots ++ outline (stack.map (·.symbol)) o.close := by
  induction stack generalizing o with
  | nil =>
    have hroots : outlined [o] roots = outlined [] (o.close :: roots) := by
      rw [outlined, outlined, closeAll, closeAll]
    rw [hroots, outlined_nil, outlined_nil, List.reverse_cons, List.flatMap_append, List.flatMap_singleton,
      List.map_nil]
  | cons p rest ih =>
    -- the symbol goes to the end of the one around it, which is listed last in turn
    have htake : outlined (o :: p :: rest) roots
        = outlined ({ p with children := o.close :: p.children } :: rest) roots := by
      rw [outlined, closeAll]
      rfl
    have hclose : ({ p with children := o.close :: p.children } : Open).close
        = { p.close with children := p.close.children ++ [o.close] } := by
      simp [Open.close]
    have haround : (p.close :: rest.map (·.symbol)).map Symbol.bare
        = ((p :: rest).map (·.symbol)).map Symbol.bare := rfl
    rw [htake, ih, hclose, Symbol.outline_snoc, ih p, List.append_assoc, Symbol.outline_congr haround]

/-- What is closed early is closed to the same forest. -/
theorem closeAll_closeUpTo (place : Int) (stack : List Open) (roots : List Symbol) :
    closeAll (closeUpTo place stack roots).stack (closeUpTo place stack roots).roots
      = closeAll stack roots := by
  induction stack, roots using closeUpTo.induct place with
  | case1 roots => rw [closeUpTo]
  | case2 o roots hstop => rw [closeUpTo, if_pos hstop, closeAll, closeAll]
  | case3 o roots hstop p rest ih => rw [closeUpTo, if_pos hstop, ih, closeAll]
  | case4 o rest roots hstop =>
    unfold closeUpTo
    rw [if_neg hstop]

/-- The symbols that stay open are those behind the last one that is closed. What they took in apart, they are as
they were. -/
theorem stack_closeUpTo (place : Int) (stack : List Open) (roots : List Symbol) :
    (closeUpTo place stack roots).stack.map (fun o => (o.symbol, o.stop))
      = (stack.map fun o => (o.symbol, o.stop)).dropWhile fun o => o.2 ≤ place := by
  -- The cases of closing: nothing open, the last one open, one with another around it, and one that stays.
  induction stack, roots using closeUpTo.induct place with
  | case1 roots => rw [closeUpTo]; rfl
  | case2 o roots hstop =>
    rw [closeUpTo, if_pos hstop]
    simp [hstop]
  | case3 o roots hstop p rest ih =>
    rw [closeUpTo, if_pos hstop, ih]
    simp [hstop]
  | case4 o rest roots hstop =>
    unfold closeUpTo
    rw [if_neg hstop]
    simp [hstop]

/-- What is taken in goes to the end of the listing, inside the symbols that are open still where it starts. -/
theorem outlined_add (n : Nest) (s : Symbol) (start stop : Int) :
    outlined (n.add s start stop).stack (n.add s start stop).roots
      = outlined n.stack n.roots ++
        [⟨s.bare, (closeUpTo start n.stack n.roots).stack.map (·.symbol.bare)⟩] := by
  have hclose : ({ symbol := s, stop } : Open).close = s.bare := rfl
  have hforest : outlined (closeUpTo start n.stack n.roots).stack (closeUpTo start n.stack n.roots).roots
      = outlined n.stack n.roots := by
    rw [outlined, outlined, closeAll_closeUpTo]
  have hinside : s.bare.children = [] := rfl
  rw [add, outlined_cons, hforest, hclose, Symbol.outline_eq, hinside, List.flatMap_nil, List.map_map]
  rfl

end Nest

/-- A declaration where it is nested. -/
structure Nested where
  node : Declaration
  /-- The declaration right around it. -/
  around : Option Declaration
  /-- How many declarations there are around it. -/
  depth : Nat
  deriving DecidableEq

/-- The declarations that are open still at a place, innermost first. -/
def openAt (place : Int) (stack : List Declaration) : List Declaration :=
  stack.dropWhile fun o => o.nestingStop ≤ place

/-- Declarations in the order of nesting, behind those that are open. Each stands right inside the innermost one
that is open still where it starts. -/
def nestedFrom (stack : List Declaration) : List Declaration → List Nested
  | [] => []
  | node :: rest =>
    let around := openAt node.start stack
    ⟨node, around.head?, around.length⟩ :: nestedFrom (node :: around) rest

/-- The declarations in the order of nesting, each where it is nested. -/
def nested (nodes : List Declaration) : List Nested := nestedFrom [] (nodes.mergeSort nestingLe)

/-- A declaration with those that it is nested in, innermost first. -/
structure Placed where
  node : Declaration
  around : List Declaration
  deriving DecidableEq

/-- What nesting says of a placed declaration: the one right around it, and how many there are. -/
def Placed.nested (p : Placed) : Nested := ⟨p.node, p.around.head?, p.around.length⟩

/-- Declarations in the order of nesting, behind those that are open, each inside those that are open still where it
starts. -/
def placedFrom (stack : List Declaration) : List Declaration → List Placed
  | [] => []
  | node :: rest =>
    let around := openAt node.start stack
    ⟨node, around⟩ :: placedFrom (node :: around) rest

theorem nestedFrom_eq_map_placedFrom (stack nodes : List Declaration) :
    nestedFrom stack nodes = (placedFrom stack nodes).map Placed.nested := by
  induction nodes generalizing stack with
  | nil => rfl
  | cons node rest ih => rw [nestedFrom, placedFrom, List.map_cons, ih, Placed.nested]

theorem map_node_nestedFrom (stack nodes : List Declaration) :
    (nestedFrom stack nodes).map (·.node) = nodes := by
  induction nodes generalizing stack with
  | nil => rfl
  | cons node rest ih => rw [nestedFrom, List.map_cons, ih]

theorem node_mem_of_mem_nested {nodes : List Declaration} {n : Nested} (hn : n ∈ nested nodes) :
    n.node ∈ nodes := by
  have hmem : n.node ∈ nodes.mergeSort nestingLe := by
    rw [← map_node_nestedFrom [] (nodes.mergeSort nestingLe)]
    exact List.mem_map_of_mem hn
  exact List.mem_mergeSort.mp hmem

variable {d : Document}

/-- A declaration is shown as a symbol, whatever is inside of it. -/
def ShownAs (d : Document) (node : Declaration) (s : Symbol) : Prop := node.toSymbol d = .ok s.bare

/-- A nested declaration is met on a walk, inside the declaration around it. -/
structure Nested.MetAs (d : Document) (n : Nested) (v : Symbol.Visit) : Prop where
  symbol : n.node.ShownAs d v.symbol
  parent : Option.Rel (ShownAs d) n.around v.parent
  depth : v.depth = n.depth

/-- A placed declaration is shown as a placed symbol, inside the symbols of those around it. -/
structure Placed.StandsAs (d : Document) (p : Placed) (q : Symbol.Placed) : Prop where
  symbol : p.node.ShownAs d q.symbol
  around : List.Forall₂ (ShownAs d) p.around q.around

theorem Placed.standsAs_bare_iff {p : Placed} {q : Symbol.Placed} : p.StandsAs d q.bare ↔ p.StandsAs d q := by
  have haround : List.Forall₂ (ShownAs d) p.around q.bare.around ↔ List.Forall₂ (ShownAs d) p.around q.around :=
    List.forall₂_map_right_iff
  constructor
  · intro h
    exact ⟨h.symbol, haround.mp h.around⟩
  · intro h
    exact ⟨h.symbol, haround.mpr h.around⟩

theorem Placed.StandsAs.metAs {p : Placed} {q : Symbol.Placed} (h : p.StandsAs d q) : p.nested.MetAs d q.visit :=
  ⟨h.symbol, rel_head? h.around, h.around.length_eq.symm⟩

theorem bare_of_toSymbol {node : Declaration} {s : Symbol} (h : node.toSymbol d = .ok s) : s.bare = s := by
  obtain ⟨p, -, h⟩ := Attempt.bind_eq_ok.mp h
  obtain ⟨q, -, h⟩ := Attempt.bind_eq_ok.mp h
  obtain ⟨r, -, h⟩ := Attempt.bind_eq_ok.mp h
  obtain rfl := Attempt.pure_eq_ok.mp h
  rfl

/-- A declaration is shown as an open symbol, up to where it ends for nesting. -/
def OpenedAs (d : Document) (node : Declaration) (o : Open) : Prop :=
  node.toSymbol d = .ok o.symbol ∧ node.nestingStop = o.stop

/-- The declarations that stay open are those whose symbols do. -/
theorem forall₂_openAt {stack : List Declaration} {opened : List Open}
    (h : List.Forall₂ (OpenedAs d) stack opened) (place : Int) (roots : List Symbol) :
    List.Forall₂ (OpenedAs d) (openAt place stack) (Nest.closeUpTo place opened roots).stack := by
  have hlabels : List.Forall₂ (fun node o => node.toSymbol d = .ok o.1 ∧ node.nestingStop = o.2) stack
      (opened.map fun o => (o.symbol, o.stop)) := List.forall₂_map_right_iff.mpr h
  have hopen : List.Forall₂ (fun node o => node.toSymbol d = .ok o.1 ∧ node.nestingStop = o.2)
      (openAt place stack) ((Nest.closeUpTo place opened roots).stack.map fun o => (o.symbol, o.stop)) := by
    rw [Nest.stack_closeUpTo]
    refine forall₂_dropWhile ?_ hlabels
    intro node o hnode
    rw [hnode.2]
  exact (List.forall₂_map_right_iff (f := fun o : Open => (o.symbol, o.stop))).mp hopen

/-- The listing of the forest has the declarations that are left behind those that the nest has already, each inside
the declarations that it is nested in. -/
theorem standsAs_outlined_nestFrom {n : Nest} {stack nodes : List Declaration} {forest : List Symbol}
    (hstack : List.Forall₂ (OpenedAs d) stack n.stack) (h : nestFrom d n nodes = .ok forest) :
    ∃ added, (Symbol.preorderAll [] forest).map Symbol.Placed.bare = Nest.outlined n.stack n.roots ++ added ∧
      List.Forall₂ (Placed.StandsAs d) (placedFrom stack nodes) added := by
  induction nodes generalizing n stack with
  | nil =>
    obtain rfl := Except.ok.inj h
    exact ⟨[], (List.append_nil _).symm, .nil⟩
  | cons node rest ih =>
    obtain ⟨s, hs, h⟩ := Attempt.bind_eq_ok.mp h
    have hopen := forall₂_openAt hstack node.start n.roots
    have hopened : OpenedAs d node { symbol := s, stop := node.nestingStop } := ⟨hs, rfl⟩
    have hstack' : List.Forall₂ (OpenedAs d) (node :: openAt node.start stack)
        (n.add s node.start node.nestingStop).stack := .cons hopened hopen
    obtain ⟨added, hadded, hstands⟩ := ih hstack' h
    rw [Nest.outlined_add, List.append_assoc, List.singleton_append] at hadded
    refine ⟨_, hadded, .cons ?_ hstands⟩
    -- the open declarations are shown as the open symbols
    constructor
    · rw [ShownAs, Symbol.bare_bare, bare_of_toSymbol hs]
      exact hs
    · refine List.forall₂_map_right_iff.mpr (hopen.imp ?_)
      intro around o haround
      rw [ShownAs, Symbol.bare_bare, bare_of_toSymbol haround.1]
      exact haround.1

/-- The listing of the forest of some declarations has them in the order of nesting, each inside the declarations
that it is nested in. -/
theorem standsAs_nest {nodes : List Declaration} {forest : List Symbol} (h : nest d nodes = .ok forest) :
    List.Forall₂ (Placed.StandsAs d) (placedFrom [] (nodes.mergeSort nestingLe)) (Symbol.preorderAll [] forest) := by
  have hempty : List.Forall₂ (OpenedAs d) [] ({} : Nest).stack := .nil
  obtain ⟨added, hadded, hstands⟩ := standsAs_outlined_nestFrom hempty h
  have hnone : Nest.outlined [] [] = [] := by
    rw [Nest.outlined_nil]
    rfl
  rw [hnone, List.nil_append] at hadded
  rw [← hadded, List.forall₂_map_right_iff] at hstands
  exact hstands.imp fun _ _ => Placed.standsAs_bare_iff.mp

/-- The walk over the forest of some declarations meets them in the order of nesting, each inside the declaration
that it is nested in. -/
theorem metAs_visits_nest {nodes : List Declaration} {forest : List Symbol} (h : nest d nodes = .ok forest) :
    List.Forall₂ (Nested.MetAs d) (nested nodes) (Symbol.visits forest) := by
  rw [nested, nestedFrom_eq_map_placedFrom, Symbol.visits_eq_map_preorderAll, List.forall₂_map_left_iff,
    List.forall₂_map_right_iff]
  exact (standsAs_nest h).imp fun _ _ => Placed.StandsAs.metAs

/-- Declarations that are all shown are nested to a forest. -/
theorem exists_nest {nodes : List Declaration} (h : ∀ node ∈ nodes, ∃ s, node.toSymbol d = .ok s) :
    ∃ forest, nest d nodes = .ok forest := by
  -- Nesting fails only where a declaration has no symbol, whatever is open at that time.
  have hfrom : ∀ (nodes : List Declaration) (n : Nest),
      (∀ node ∈ nodes, ∃ s, node.toSymbol d = .ok s) → ∃ forest, nestFrom d n nodes = .ok forest := by
    intro nodes
    induction nodes with
    | nil => exact fun n _ => ⟨_, rfl⟩
    | cons node rest ih =>
      intro n hall
      rw [List.forall_mem_cons] at hall
      obtain ⟨s, hs⟩ := hall.1
      obtain ⟨forest, hforest⟩ := ih (n.add s node.start node.nestingStop) hall.2
      exact ⟨forest, Attempt.bind_eq_ok.mpr ⟨s, hs, hforest⟩⟩
  refine hfrom _ _ ?_
  intro node hnode
  exact h node (List.mem_mergeSort.mp hnode)

end Declaration

end Emend
