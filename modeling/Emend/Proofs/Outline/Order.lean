import Emend.Proofs.Outline.Layout
import Emend.Proofs.Outline.Lineage
import Emend.Proofs.Outline.Nesting

/-!
# The order of declarations

A declaration that spans the node around its own starts before the place that the walk has come to. If it is the first
one there (`WrapsFirst`, which can be decided), the declarations of a parsed text still come in the order of their
spans, each behind those before it or inside of them (`extract_in_order`).

Main statements:

* `span_of_declarationIn`, `liesIn_or_widened`: what a declaration spans: its node, or the one around.
* `pairwise_follows`: two places of the tree, in order.
* `extract_in_order`: the declarations of a text.
-/

namespace Emend

/-- A declaration starts behind another one, or lies inside of it. -/
def Declaration.Follows (x y : Declaration) : Prop := x.stop ≤ y.start ∨ (x.start ≤ y.start ∧ y.stop ≤ x.stop)

namespace Grammar

open SyntaxTree (Parsed)
open Source (place)

variable {g : Grammar} {text : List Char} {source : Source} {t : SyntaxTree} {around : List SyntaxTree}

/-- Where a declaration has the span of the node around its own, nothing is reported of the children of that node
before its own, nor of what is inside them. -/
def WrapsFirst (g : Grammar) (source : Source) (around : List SyntaxTree) (t : SyntaxTree) : Prop :=
  ∀ outer ∈ t.lineages around, ∀ wrapper ∈ outer.head?, wrapper.children.Pairwise fun before c =>
    ∀ x ∈ g.declarationIn source (c :: outer), x.start = source.offsetOfByte wrapper.startByte →
      x.stop = source.offsetOfByte wrapper.stopByte →
        ∀ inner ∈ before.lineages outer, g.declarationIn source inner = none

instance (g : Grammar) (source : Source) (around : List SyntaxTree) (t : SyntaxTree) :
    Decidable (g.WrapsFirst source around t) :=
  inferInstanceAs (Decidable (∀ outer ∈ t.lineages around, ∀ wrapper ∈ outer.head?, _))

theorem WrapsFirst.child (h : g.WrapsFirst source around t) {c : SyntaxTree} (hc : c ∈ t.children) :
    g.WrapsFirst source (t :: around) c := by
  intro outer houter
  refine h outer ?_
  rw [SyntaxTree.lineages_eq]
  exact List.mem_cons_of_mem _ (List.mem_flatMap.mpr ⟨c, hc, houter⟩)

theorem WrapsFirst.children (h : g.WrapsFirst source around t) :
    t.children.Pairwise fun before c => ∀ x ∈ g.declarationIn source (c :: t :: around),
      x.start = source.offsetOfByte t.startByte → x.stop = source.offsetOfByte t.stopByte →
        ∀ inner ∈ before.lineages (t :: around), g.declarationIn source inner = none := by
  refine h (t :: around) ?_ t rfl
  rw [SyntaxTree.lineages_eq]
  exact List.mem_cons_self

/-! ## Where declarations lie -/

/-- The node right around a node of a parsed text is one of the text and has it for a child. -/
def StandsUnder (text : List Char) (t : SyntaxTree) (around : List SyntaxTree) : Prop :=
  ∀ wrapper, around.head? = some wrapper → wrapper.Parsed text ∧ t ∈ wrapper.children

theorem standsUnder_nil (text : List Char) (t : SyntaxTree) : StandsUnder text t [] := by
  intro wrapper hwrapper
  simp at hwrapper

theorem standsUnder_cons (hparsed : t.Parsed text) {c : SyntaxTree} (hc : c ∈ t.children) :
    StandsUnder text c (t :: around) := by
  intro wrapper hwrapper
  obtain rfl := Option.some.inj hwrapper
  exact ⟨hparsed, hc⟩

variable {lineage : List SyntaxTree} {x : Declaration}

/-- What is reported of a node spans the node or the one around it, and takes room there. -/
theorem span_of_declarationIn (hparsed : t.Parsed text)
    (h : g.declarationIn (.ofText text) (t :: around) = some x) :
    ∃ span, (span = t ∨ around.head? = some span) ∧ t.startByte < t.stopByte ∧
      x.start = place text span.startByte ∧ x.stop = place text span.stopByte := by
  rw [← reported_eq_declarationIn] at h
  obtain ⟨span, hspan, -, hroom, hstart, hstop⟩ := span_of_reported hparsed h
  exact ⟨span, hspan, hroom, hstart, hstop⟩

/-- What is reported of a node covers the node. -/
theorem covers_of_declarationIn (hparsed : t.Parsed text) (hunder : StandsUnder text t around)
    (h : g.declarationIn (.ofText text) (t :: around) = some x) :
    x.start ≤ place text t.startByte ∧ place text t.startByte < place text t.stopByte ∧
      place text t.stopByte ≤ x.stop := by
  obtain ⟨span, hspan, hroom, hstart, hstop⟩ := span_of_declarationIn hparsed h
  have hlt := SyntaxTree.place_lt hparsed.starts hparsed.stops hroom
  rw [hstart, hstop]
  rcases hspan with rfl | hspan
  · exact ⟨Int.le_refl _, hlt, Int.le_refl _⟩
  · obtain ⟨hwrapper, hmem⟩ := hunder span hspan
    have hinside := hwrapper.place_inside hmem
    exact ⟨hinside.1, hlt, hinside.2⟩

/-- A declaration lies in a node of a parsed text. -/
def LiesIn (text : List Char) (x : Declaration) (t : SyntaxTree) : Prop :=
  place text t.startByte ≤ x.start ∧ x.stop ≤ place text t.stopByte

/-- The declaration of the first node of a lineage has the span of the node around. -/
def Widened (text : List Char) (x : Declaration) (lineage around : List SyntaxTree) (t : SyntaxTree) : Prop :=
  lineage = t :: around ∧ ∃ wrapper, around.head? = some wrapper ∧
    x.start = place text wrapper.startByte ∧ x.stop = place text wrapper.stopByte

/-- What lies in a child, or is widened there, lies in the node. -/
theorem liesIn_of_child {c : SyntaxTree} (hparsed : t.Parsed text) (hc : c ∈ t.children)
    (h : LiesIn text x c ∨ Widened text x lineage (t :: around) c) : LiesIn text x t := by
  rcases h with ⟨hstart, hstop⟩ | ⟨-, wrapper, hwrapper, hstart, hstop⟩
  · have hinside := hparsed.place_inside hc
    exact ⟨Int.le_trans hinside.1 hstart, Int.le_trans hstop hinside.2⟩
  · obtain rfl := Option.some.inj hwrapper
    exact ⟨Int.le_of_eq hstart.symm, Int.le_of_eq hstop⟩

/-- What is reported of a node and of all inside it lies in the node, except that the declaration of the node itself
may be widened. -/
theorem liesIn_or_widened (hparsed : t.Parsed text) (hlineage : lineage ∈ t.lineages around)
    (hx : g.declarationIn (.ofText text) lineage = some x) :
    LiesIn text x t ∨ Widened text x lineage around t := by
  -- Induction on the tree. Only the node right inside the one around it can reach beyond itself.
  induction hparsed using SyntaxTree.Parsed.induction generalizing around with
  | node t hparsed ih =>
    rw [SyntaxTree.lineages_eq] at hlineage
    rcases List.mem_cons.mp hlineage with rfl | hlineage
    · -- the node itself: its declaration spans it, or the node around it
      obtain ⟨span', hspan, -, hstart, hstop⟩ := span_of_declarationIn hparsed hx
      rcases hspan with rfl | hspan
      · exact .inl ⟨Int.le_of_eq hstart.symm, Int.le_of_eq hstop⟩
      · exact .inr ⟨rfl, span', hspan, hstart, hstop⟩
    · -- below a child, what is widened spans no more than the node
      obtain ⟨c, hc, hlineage⟩ := List.mem_flatMap.mp hlineage
      exact .inl (liesIn_of_child hparsed hc (ih c hc hlineage))

/-- What is reported takes room. -/
theorem start_lt_stop_of_mem_lineages (hparsed : t.Parsed text) (hunder : StandsUnder text t around)
    (hlineage : lineage ∈ t.lineages around) (hx : g.declarationIn (.ofText text) lineage = some x) :
    x.start < x.stop := by
  induction hparsed using SyntaxTree.Parsed.induction generalizing around with
  | node t hparsed ih =>
    rw [SyntaxTree.lineages_eq] at hlineage
    rcases List.mem_cons.mp hlineage with rfl | hlineage
    · have hcovers := covers_of_declarationIn hparsed hunder hx
      omega
    · obtain ⟨c, hc, hlineage⟩ := List.mem_flatMap.mp hlineage
      exact ih c hc (standsUnder_cons hparsed hc) hlineage

/-! ## The order -/

/-- What is reported later follows what was reported before. -/
theorem pairwise_follows (hparsed : t.Parsed text) (hwraps : g.WrapsFirst (.ofText text) around t)
    (hunder : StandsUnder text t around) :
    (t.lineages around).Pairwise fun first second =>
      ∀ x, g.declarationIn (.ofText text) first = some x →
        ∀ y, g.declarationIn (.ofText text) second = some y → x.Follows y := by
  -- induction on the tree: the declaration of a node comes before those of its children, child by child
  induction hparsed using SyntaxTree.Parsed.induction generalizing around with
  | node t hparsed ih =>
    rw [SyntaxTree.lineages_eq, List.pairwise_cons, List.pairwise_flatMap]
    refine ⟨?_, ?_, ?_⟩
    · -- the declaration of the node covers the node, and so what is inside
      intro lineage hlineage x hx y hy
      obtain ⟨c, hc, hlineage⟩ := List.mem_flatMap.mp hlineage
      have hlies := liesIn_of_child hparsed hc (liesIn_or_widened (hparsed.child hc) hlineage hy)
      have hcovers := covers_of_declarationIn hparsed hunder hx
      exact .inr ⟨Int.le_trans hcovers.1 hlies.1, Int.le_trans hlies.2 hcovers.2.2⟩
    · intro c hc
      exact ih c hc (hwraps.child hc) (standsUnder_cons hparsed hc)
    · -- two children: what the later one declares comes behind, unless it spans the whole node
      refine (hparsed.apart.and hwraps.children).imp_of_mem ?_
      rintro a b ha hb ⟨hapart, hfirst⟩ lineage hlineage lineage' hlineage' x hx y hy
      have hgap := SyntaxTree.place_le (hparsed.child ha).stops (hparsed.child hb).starts hapart
      have hlater := liesIn_or_widened (hparsed.child hb) hlineage' hy
      rcases hlater with ⟨hystart, -⟩ | ⟨rfl, wrapper, hwrapper, hystart, hystop⟩
      · rcases liesIn_or_widened (hparsed.child ha) hlineage hx with
          ⟨-, hxstop⟩ | ⟨-, wrapper, hwrapper, hxstart, hxstop⟩
        · -- both lie in their own child
          exact .inl (by omega)
        · -- the earlier one spans the whole node
          obtain rfl := Option.some.inj hwrapper
          have hlies := liesIn_of_child hparsed hb (liesIn_or_widened (hparsed.child hb) hlineage' hy)
          exact .inr ⟨hxstart ▸ hlies.1, hxstop ▸ hlies.2⟩
      · -- the later one spans the whole node, so there is no earlier one
        obtain rfl := Option.some.inj hwrapper
        have hnone := hfirst y hy hystart hystop lineage hlineage
        rw [hnone] at hx
        simp at hx

/-- The declarations that are extracted from a parsed text come by ascending start, the longer of two that start
together first, and the spans of any two of them are apart or nested. -/
theorem extract_in_order {parse : Parser} {p : Parse} (hparse : parse g text = .ok p)
    (hparsed : p.root.Parsed text) (hwraps : g.WrapsFirst (.ofText text) [] p.root) (language : String) :
    ∃ found, (g.extractor parse).extract text language = .ok found ∧
      found.declarations.Pairwise fun x y =>
        (x.start < y.start ∨ (x.start = y.start ∧ y.stop ≤ x.stop)) ∧ x.ApartOrNested y := by
  obtain ⟨found, hfound, hdeclarations⟩ := exists_extract hparse language
  refine ⟨found, hfound, ?_⟩
  -- The declarations are those of the places in their order, so it is enough to compare two places.
  rw [hdeclarations, List.pairwise_filterMap]
  have hunder := standsUnder_nil text p.root
  refine (pairwise_follows hparsed hwraps hunder).imp_of_mem ?_
  intro first second hfirst hsecond hfollows x hx y hy
  have hlt := start_lt_stop_of_mem_lineages hparsed hunder hfirst hx
  rcases hfollows x hx y hy with hbehind | ⟨hstart, hstop⟩
  · exact ⟨.inl (by omega), .inl hbehind⟩
  · exact ⟨by omega, .inr (.inr (.inl ⟨hstart, hstop⟩))⟩

/-- A decorated function spans its decoration, and with it a variable that stands behind the function in there. -/
theorem extract_in_order_decorated :
    let text := "# \u00e9\n@p\ndef f(): 0\nx = 1\n".toList
    let name (role : String) (start : Nat) : SyntaxTree := ⟨"identifier", true, some role, start, start + 1, []⟩
    let statement : SyntaxTree :=
      ⟨"expression_statement", true, none, 19, 24, [⟨"assignment", true, none, 19, 24, [name "left" 19]⟩]⟩
    let decorated : SyntaxTree :=
      ⟨"decorated_definition", true, none, 5, 24, [⟨"decorator", true, none, 5, 7, []⟩,
        ⟨"function_definition", true, none, 8, 18, [name "name" 12]⟩, statement]⟩
    let p : Parse := ⟨⟨"module", true, none, 0, 25, [⟨"comment", true, none, 0, 4, []⟩, decorated]⟩, false⟩
    let parse : Parser := fun _ _ => .ok p
    parse python text = .ok p ∧ p.root.Parsed text ∧ python.WrapsFirst (.ofText text) [] p.root ∧
      ∃ found, (python.extractor parse).extract text "python" = .ok found ∧
        found.declarations.Pairwise fun x y =>
          (x.start < y.start ∨ (x.start = y.start ∧ y.stop ≤ x.stop)) ∧ x.ApartOrNested y := by
  intro text name statement decorated p parse
  have hparsed : p.root.Parsed text := by decide +kernel
  have hwraps : python.WrapsFirst (.ofText text) [] p.root := by decide +kernel
  exact ⟨rfl, hparsed, hwraps, extract_in_order rfl hparsed hwraps "python"⟩

end Grammar

end Emend
