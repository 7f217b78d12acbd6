import Emend.Proofs.Outline.Regions
import Emend.Proofs.Outline.Walk

/-!
# Declarations of a parsed text are laid out in it

In the tree of a parsed text the declarations are laid out in the text, each inside of those that it lies in in the
tree (`laid_enclosed`). A declaration may span the node around its own; then it has to be the only one there
(`WrapsAlone`, which can be decided).

Main statements:

* `span_of_reported`: what a reported declaration spans.
* `enclosed_eq_nil`: a tree in which nothing is reported.
* `laid_children`: one child after the other, each in its own region.
* `laid_enclosed`: the whole tree.
-/

namespace Emend.Grammar

open SyntaxTree
open Source (place)
open Declaration (Nested Laid)

variable {g : Grammar} {text : List Char} {source : Source} {t : SyntaxTree} {around : Option SyntaxTree}

/-! ## Declarations that span the node around -/

/-- The declaration of a node spans more than the node. -/
def widens (g : Grammar) (source : Source) (t : SyntaxTree) (around : Option SyntaxTree) : Bool :=
  (g.declared? source t around).any fun d =>
    d.span.startByte != t.startByte || d.span.stopByte != t.stopByte

/-- A declaration that spans the node around its own is the only one there: no other child of that node holds any. -/
inductive WrapsAlone (g : Grammar) (source : Source) : Option SyntaxTree → Inherited → SyntaxTree → Prop
  | intro {around : Option SyntaxTree} {i : Inherited} {t : SyntaxTree}
    (alone : ∀ c ∈ t.children, g.widens source c (some t) = true → ∀ other ∈ t.children,
      (other.startByte = c.startByte ∧ other.stopByte = c.stopByte) ∨
        g.walk source [⟨other, some t, g.below source ⟨t, around, i⟩⟩] = [])
    (children : ∀ c ∈ t.children, WrapsAlone g source (some t) (g.below source ⟨t, around, i⟩) c) :
    WrapsAlone g source around i t

theorem wrapsAlone_iff {around : Option SyntaxTree} {i : Inherited} {t : SyntaxTree} :
    g.WrapsAlone source around i t ↔
      (∀ c ∈ t.children, g.widens source c (some t) = true → ∀ other ∈ t.children,
        (other.startByte = c.startByte ∧ other.stopByte = c.stopByte) ∨
          g.walk source [⟨other, some t, g.below source ⟨t, around, i⟩⟩] = []) ∧
      ∀ c ∈ t.children, g.WrapsAlone source (some t) (g.below source ⟨t, around, i⟩) c := by
  constructor
  · intro h
    cases h with
    | intro alone children => exact ⟨alone, children⟩
  · rintro ⟨alone, children⟩
    exact .intro alone children

mutual

/-- Whether declarations that span the node around their own are the only ones there. -/
def isWrappedAlone (g : Grammar) (source : Source) (around : Option SyntaxTree) (i : Inherited) : SyntaxTree → Bool
  | ⟨kind, named, role, start, stop, children⟩ =>
    let t : SyntaxTree := ⟨kind, named, role, start, stop, children⟩
    let inherited := g.below source ⟨t, around, i⟩
    decide (∀ c ∈ children, g.widens source c (some t) = true → ∀ other ∈ children,
      (other.startByte = c.startByte ∧ other.stopByte = c.stopByte) ∨
        g.walk source [⟨other, some t, inherited⟩] = []) && areWrappedAlone g source (some t) inherited children

/-- Whether they are in several trees. -/
def areWrappedAlone (g : Grammar) (source : Source) (around : Option SyntaxTree) (i : Inherited) :
    List SyntaxTree → Bool
  | [] => true
  | t :: rest => isWrappedAlone g source around i t && areWrappedAlone g source around i rest

end

mutual

theorem isWrappedAlone_iff (around : Option SyntaxTree) (i : Inherited) :
    ∀ t, g.isWrappedAlone source around i t = true ↔ g.WrapsAlone source around i t
  | ⟨kind, named, role, start, stop, children⟩ => by
    rw [isWrappedAlone, wrapsAlone_iff, Bool.and_eq_true, decide_eq_true_iff, areWrappedAlone_iff _ _ children]

theorem areWrappedAlone_iff (around : Option SyntaxTree) (i : Inherited) :
    ∀ trees, g.areWrappedAlone source around i trees = true ↔ ∀ t ∈ trees, g.WrapsAlone source around i t
  | [] => by simp [areWrappedAlone]
  | t :: rest => by
    rw [areWrappedAlone, Bool.and_eq_true, isWrappedAlone_iff _ _ t, areWrappedAlone_iff _ _ rest,
      List.forall_mem_cons]

end

instance (g : Grammar) (source : Source) (around : Option SyntaxTree) (i : Inherited) :
    DecidablePred (g.WrapsAlone source around i) := fun t => decidable_of_iff _ (isWrappedAlone_iff around i t)

/-! ## The layout -/

/-- What is reported of a node spans the node or the one around it, and takes room there. -/
theorem span_of_reported {v : Visit} {x : Declaration} (hparsed : v.node.Parsed text)
    (h : g.reported (.ofText text) v = some x) :
    ∃ span, (span = v.node ∨ v.around = some span) ∧
      (g.widens (.ofText text) v.node v.around = false →
        span.startByte = v.node.startByte ∧ span.stopByte = v.node.stopByte) ∧
      v.node.startByte < v.node.stopByte ∧
      x.start = place text span.startByte ∧ x.stop = place text span.stopByte := by
  obtain ⟨d, kind, hdeclared, -, rfl⟩ := reported_cases h
  obtain ⟨-, hspan⟩ := shape?_cases (declared?_cases hdeclared).1
  -- the span is that of the node or of the node around it, which is when the node is widened
  refine ⟨d.span, hspan, ?_, lt_of_declared? hparsed hdeclared, rfl, rfl⟩
  intro hwidens
  simpa [widens, hdeclared] using hwidens

/-- A node that the walk reports nothing of, and nothing inside it, adds nothing. -/
theorem enclosed_eq_nil {around : Option SyntaxTree} {i : Inherited} (outer : List Declaration) {t : SyntaxTree}
    (h : g.walk source [⟨t, around, i⟩] = []) : g.enclosed source around i outer t = [] := by
  rw [walk_eq_flatMap, List.flatMap_singleton, declarationsOf, map_node_enclosed _ _ _ outer] at h
  exact List.map_eq_nil_iff.mp h

/-- What is laid out in the spans of siblings is laid out together. -/
theorem laid_flatMap (text : List Char) {outer : List Declaration} {block : SyntaxTree → List Nested}
    {trees : List SyntaxTree} {lo hi : Int} (hle : lo ≤ hi)
    (hinside : ∀ c ∈ trees, lo ≤ place text c.startByte ∧ place text c.startByte ≤ place text c.stopByte ∧
      place text c.stopByte ≤ hi)
    (hapart : trees.Pairwise fun a b => place text a.stopByte ≤ place text b.startByte)
    (hlaid : ∀ c ∈ trees, Laid outer (place text c.startByte) (place text c.stopByte) (block c)) :
    Laid outer lo hi (trees.flatMap block) := by
  induction trees generalizing lo with
  | nil => exact .nil outer hle
  | cons c rest ih =>
    rw [List.forall_mem_cons] at hinside hlaid
    rw [List.pairwise_cons] at hapart
    obtain ⟨⟨hlo, hspan, hhi⟩, hrest⟩ := hinside
    -- the others are laid out behind the first one
    have hbehind : ∀ b ∈ rest, place text c.stopByte ≤ place text b.startByte ∧
        place text b.startByte ≤ place text b.stopByte ∧ place text b.stopByte ≤ hi :=
      fun b hb => ⟨hapart.1 b hb, (hrest b hb).2⟩
    rw [List.flatMap_cons]
    exact (hlaid.1.mono hlo (Int.le_refl _)).append (ih hhi hbehind hapart.2 hlaid.2)
      (Int.le_trans hlo hspan) hhi

section Laid

variable {around : Option SyntaxTree} {i : Inherited} {outer : List Declaration} {lo hi : Int}

/-- What is inside of a node is laid out in its span, if each child is laid out where its declarations are. -/
theorem laid_children (hparsed : t.Parsed text)
    (halone : ∀ c ∈ t.children, g.widens (.ofText text) c (some t) = true → ∀ other ∈ t.children,
      (other.startByte = c.startByte ∧ other.stopByte = c.stopByte) ∨
        g.walk (.ofText text) [⟨other, some t, i⟩] = [])
    (hlaid : ∀ c ∈ t.children, ∀ lo hi, 0 ≤ lo → lo ≤ place text c.startByte → place text c.stopByte ≤ hi →
      hi ≤ place text t.stopByte →
      (∀ x, g.reported (.ofText text) ⟨c, some t, i⟩ = some x → lo ≤ x.start ∧ x.stop ≤ hi) →
      Laid outer lo hi (g.enclosed (.ofText text) (some t) i outer c)) :
    Laid outer (place text t.startByte) (place text t.stopByte)
      (t.children.flatMap (g.enclosed (.ofText text) (some t) i outer)) := by
  by_cases hwide : ∃ c ∈ t.children, g.widens (.ofText text) c (some t) = true
  · -- one child takes the span of the node: the others hold no declarations
    obtain ⟨c, hc, hwidens⟩ := hwide
    obtain ⟨before, after, hchildren⟩ := List.append_of_mem hc
    have hnonempty : c.startByte < c.stopByte := by
      obtain ⟨d, hd, -⟩ := Option.any_eq_true _ _ |>.mp hwidens
      exact lt_of_declared? (hparsed.child hc) hd
    have hsilent : ∀ other ∈ before ++ after, g.enclosed (.ofText text) (some t) i outer other = [] := by
      intro other hother
      have hapart := hparsed.apart
      rw [hchildren, List.pairwise_append, List.pairwise_cons] at hapart
      have hmem : other ∈ t.children := by
        rw [hchildren]
        rcases List.mem_append.mp hother with h | h
        · exact List.mem_append_left _ h
        · exact List.mem_append_right _ (List.mem_cons_of_mem c h)
      rcases halone c hc hwidens other hmem with ⟨hstart, hstop⟩ | hwalk
      · -- a sibling with the same span would overlap with it
        rcases List.mem_append.mp hother with h | h
        · have hbefore := hapart.2.2 other h c List.mem_cons_self
          omega
        · have hafter := hapart.2.1.1 other h
          omega
      · exact enclosed_eq_nil outer hwalk
    have hblock : t.children.flatMap (g.enclosed (.ofText text) (some t) i outer)
        = g.enclosed (.ofText text) (some t) i outer c := by
      rw [List.forall_mem_append] at hsilent
      rw [hchildren, List.flatMap_append, List.flatMap_cons, List.flatMap_eq_nil_iff.mpr hsilent.1,
        List.flatMap_eq_nil_iff.mpr hsilent.2, List.nil_append, List.append_nil]
    rw [hblock]
    have hinside := hparsed.place_inside hc
    refine hlaid c hc _ _ (Int.natCast_nonneg _) hinside.1 hinside.2 (Int.le_refl _) ?_
    intro x hx
    obtain ⟨span, hspan, -, -, hstart, hstop⟩ := span_of_reported (hparsed.child hc) hx
    rw [hstart, hstop]
    rcases hspan with rfl | hspan
    · exact hinside
    · obtain rfl := Option.some.inj hspan
      exact ⟨Int.le_refl _, Int.le_refl _⟩
  · -- every child is laid out in its own span
    refine laid_flatMap text hparsed.place_le ?_ ?_ ?_
    · intro c hc
      have hinside := hparsed.place_inside hc
      exact ⟨hinside.1, (hparsed.child hc).place_le, hinside.2⟩
    · refine hparsed.apart.imp_of_mem ?_
      intro a b ha hb hab
      exact SyntaxTree.place_le (hparsed.child ha).stops (hparsed.child hb).starts hab
    · intro c hc
      have hinside := hparsed.place_inside hc
      refine hlaid c hc _ _ (Int.natCast_nonneg _) (Int.le_refl _) (Int.le_refl _) hinside.2 ?_
      intro x hx
      obtain ⟨span, -, hown, -, hstart, hstop⟩ := span_of_reported (hparsed.child hc) hx
      have hnarrow : g.widens (.ofText text) c (some t) = false := by
        by_contra hnot
        exact hwide ⟨c, hc, by simpa using hnot⟩
      rw [hstart, hstop, (hown hnarrow).1, (hown hnarrow).2]
      exact ⟨Int.le_refl _, Int.le_refl _⟩

/-- The declarations of a node of a parsed text are laid out in any region that holds the node and its
declaration. -/
theorem laid_enclosed (hparsed : t.Parsed text) (haround : ∀ p, around = some p → p.Parsed text ∧ t ∈ p.children)
    (halone : g.WrapsAlone (.ofText text) around i t) (hnonneg : 0 ≤ lo) (hlo : lo ≤ place text t.startByte)
    (hhi : place text t.stopByte ≤ hi) (houter : ∀ o ∈ outer.head?, hi ≤ o.nestingStop)
    (hreported : ∀ x, g.reported (.ofText text) ⟨t, around, i⟩ = some x → lo ≤ x.start ∧ x.stop ≤ hi) :
    Laid outer lo hi (g.enclosed (.ofText text) around i outer t) := by
  induction hparsed using SyntaxTree.Parsed.induction generalizing around i outer lo hi with
  | node t hparsed ih =>
    cases halone with
    | intro alone below =>
      -- what is inside of the node, whatever is open around it up to its end
      have hbelow : ∀ outer' : List Declaration, (∀ o ∈ outer'.head?, place text t.stopByte ≤ o.nestingStop) →
          Laid outer' (place text t.startByte) (place text t.stopByte)
            (t.children.flatMap (g.enclosed (.ofText text) (some t)
              (g.below (.ofText text) ⟨t, around, i⟩) outer')) := by
        intro outer' houter'
        refine laid_children hparsed alone ?_
        intro c hc lo' hi' hnonneg' hlo' hhi' hend hreported'
        refine ih c hc ?_ (below c hc) hnonneg' hlo' hhi' ?_ hreported'
        · rintro p hp
          obtain rfl := Option.some.inj hp
          exact ⟨hparsed, hc⟩
        · intro o ho
          exact Int.le_trans hend (houter' o ho)
      rw [enclosed_eq]
      cases hx : g.reported (.ofText text) ⟨t, around, i⟩ with
      | none =>
        refine (hbelow outer ?_).mono hlo hhi
        intro o ho
        exact Int.le_trans hhi (houter o ho)
      | some x =>
        obtain ⟨span', hspan, -, hroom, hstart, hstop⟩ := span_of_reported hparsed hx
        -- the declaration covers its node
        have hcovers : x.start ≤ place text t.startByte ∧ place text t.stopByte ≤ x.stop := by
          rw [hstart, hstop]
          rcases hspan with rfl | hspan
          · exact ⟨Int.le_refl _, Int.le_refl _⟩
          · obtain ⟨hp, hmem⟩ := haround span' hspan
            exact hp.place_inside hmem
        have hlt : place text t.startByte < place text t.stopByte := SyntaxTree.place_lt hparsed.starts hparsed.stops hroom
        obtain ⟨hxlo, hxhi⟩ := hreported x hx
        have hcomplete : x.isComplete = true := decide_eq_true (by omega)
        have hnesting : x.nestingStop = x.stop := if_pos hcomplete
        have hinner : ∀ o ∈ (x :: outer).head?, place text t.stopByte ≤ o.nestingStop := by
          intro o ho
          obtain rfl := Option.some.inj ho
          rw [hnesting]
          exact hcovers.2
        exact (hbelow (x :: outer) hinner).cons houter hxlo hcovers.1 (by omega) hcovers.2 hxhi hnonneg

end Laid

end Emend.Grammar
