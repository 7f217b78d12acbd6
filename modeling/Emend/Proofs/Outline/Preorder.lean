import Emend.Proofs.Outline.Symbol

/-!
# The listing of a forest

The symbols of a forest are listed by recursion, each before those inside it, and with all of those around it. A walk
goes over the listing (`visits_eq_map_preorderAll`). What is shown of a symbol by itself, without those inside it,
depends on those around it only by what they are by themselves (`outline_congr`).
-/

namespace Emend.Symbol

/-- A symbol of a forest with those around it, innermost first. -/
structure Placed where
  symbol : Symbol
  around : List Symbol

mutual

/-- A symbol and those inside it, in the order of the text. -/
def preorder (around : List Symbol) : Symbol → List Placed
  | ⟨name, kind, range, detail, children⟩ =>
    let s : Symbol := ⟨name, kind, range, detail, children⟩
    ⟨s, around⟩ :: preorderAll (s :: around) children

/-- Symbols side by side and those inside them. -/
def preorderAll (around : List Symbol) : List Symbol → List Placed
  | [] => []
  | s :: rest => preorder around s ++ preorderAll around rest

end

theorem preorder_eq (around : List Symbol) (s : Symbol) :
    preorder around s = ⟨s, around⟩ :: preorderAll (s :: around) s.children := by
  cases s
  rfl

theorem preorderAll_eq_flatMap (around forest : List Symbol) :
    preorderAll around forest = forest.flatMap (preorder around) := by
  induction forest with
  | nil => rfl
  | cons s rest ih => rw [preorderAll, ih, List.flatMap_cons]

/-! ## The walk -/

/-- What a walk knows of a symbol: the one right around it, and how many there are. -/
def Placed.visit (p : Placed) : Visit := ⟨p.symbol, p.around.head?, p.around.length⟩

/-- The symbols right inside another one. -/
def Placed.inside (p : Placed) : List Placed := p.symbol.children.map fun s => ⟨s, p.symbol :: p.around⟩

/-- A placed symbol and those inside it. -/
def Placed.listing (p : Placed) : List Placed := preorder p.around p.symbol

theorem Placed.inside_visit (p : Placed) : p.visit.inside = p.inside.map visit := by
  rw [Visit.inside, inside, List.map_map]
  rfl

theorem Placed.listing_eq (p : Placed) : p.listing = p :: p.inside.flatMap listing := by
  rw [listing, preorder_eq, preorderAll_eq_flatMap, inside, List.flatMap_map]
  rfl

/-- A walk goes over the listing of what it starts from. -/
theorem walk_map_visit (pending : List Placed) :
    walk (pending.map Placed.visit) = (pending.flatMap Placed.listing).map Placed.visit := by
  generalize hvisits : pending.map Placed.visit = visits
  -- induction on the walk: what is still to be visited are visits of placed symbols all the way
  induction visits using walk.induct generalizing pending with
  | case1 =>
    obtain rfl := List.map_eq_nil_iff.mp hvisits
    rw [walk]
    rfl
  | case2 v rest ih =>
    obtain ⟨p, more, rfl, rfl, rfl⟩ := List.map_eq_cons_iff.mp hvisits
    have hnext : (p.inside ++ more).map Placed.visit = p.visit.inside ++ more.map Placed.visit := by
      rw [List.map_append, Placed.inside_visit]
    rw [walk, ih (p.inside ++ more) hnext, List.flatMap_cons, List.flatMap_append, Placed.listing_eq,
      List.cons_append, List.map_cons]

theorem visits_eq_map_preorderAll (forest : List Symbol) :
    visits forest = (preorderAll [] forest).map Placed.visit := by
  have hroots : forest.map (fun s => (⟨s, none, 0⟩ : Visit))
      = (forest.map fun s => (⟨s, []⟩ : Placed)).map Placed.visit := by
    rw [List.map_map]
    rfl
  rw [visits, hroots, walk_map_visit, List.flatMap_map, preorderAll_eq_flatMap]
  rfl

/-! ## Symbols by themselves -/

/-- A symbol is larger than each of those right inside it. -/
theorem size_lt_of_mem_children {s c : Symbol} (hc : c ∈ s.children) : c.size < s.size := by
  -- A forest is at least as large as each of its trees.
  have hle : ∀ forest : List Symbol, c ∈ forest → c.size ≤ sizeOfAll forest := by
    intro forest hmem
    induction forest with
    | nil => simp at hmem
    | cons first rest ih =>
      rw [sizeOfAll]
      rcases List.mem_cons.mp hmem with rfl | hrest
      · exact Nat.le_add_right _ _
      · exact Nat.le_trans (ih hrest) (Nat.le_add_left _ _)
  rw [size_eq s]
  exact Nat.lt_succ_of_le (hle s.children hc)

/-- The symbol by itself. -/
def bare (s : Symbol) : Symbol := { s with children := [] }

@[simp] theorem bare_bare (s : Symbol) : s.bare.bare = s.bare := rfl

/-- A placed symbol by itself, and those around it by themselves. -/
def Placed.bare (p : Placed) : Placed := ⟨p.symbol.bare, p.around.map Symbol.bare⟩

/-- A symbol and those inside it, each by itself. -/
def outline (around : List Symbol) (s : Symbol) : List Placed := (preorder around s).map Placed.bare

theorem outline_eq (around : List Symbol) (s : Symbol) :
    outline around s = ⟨s.bare, around.map bare⟩ :: s.children.flatMap (outline (s :: around)) := by
  rw [outline, preorder_eq, List.map_cons, preorderAll_eq_flatMap, List.map_flatMap]
  rfl

theorem map_bare_preorderAll (around forest : List Symbol) :
    (preorderAll around forest).map Placed.bare = forest.flatMap (outline around) := by
  rw [preorderAll_eq_flatMap, List.map_flatMap]
  rfl

/-- Of those around it an outline shows no more than what they are by themselves. -/
theorem outline_congr {around other : List Symbol} (h : around.map bare = other.map bare) (s : Symbol) :
    outline around s = outline other s := by
  -- Recursion on the symbol: what is around its children is alike too.
  have hchildren : ∀ c ∈ s.children, outline (s :: around) c = outline (s :: other) c := by
    intro c hc
    have hcons : (s :: around).map bare = (s :: other).map bare := by rw [List.map_cons, List.map_cons, h]
    exact outline_congr hcons c
  rw [outline_eq, outline_eq other, h, List.flatMap_congr hchildren]
termination_by s.size
decreasing_by exact size_lt_of_mem_children hc

/-- A symbol that takes in another one at its end is listed with that one behind all that it had. -/
theorem outline_snoc (around : List Symbol) (s c : Symbol) :
    outline around { s with children := s.children ++ [c] } = outline around s ++ outline (s :: around) c := by
  have hsame : ({ s with children := s.children ++ [c] } : Symbol).bare = s.bare := rfl
  have haround : outline ({ s with children := s.children ++ [c] } :: around) = outline (s :: around) := by
    funext inner
    refine outline_congr ?_ inner
    rw [List.map_cons, List.map_cons, hsame]
  rw [outline_eq, outline_eq around s, List.flatMap_append, List.flatMap_singleton, haround, hsame,
    List.cons_append]

end Emend.Symbol
