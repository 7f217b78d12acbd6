import Emend.Outline.Symbol
import Emend.Proofs.Attempt
import Emend.Proofs.Document.Inside

/-!
# The ranges of symbols

The symbols that declarations are nested to lie in the document with all those inside of them
(`within_nest`), and so does any symbol that is chosen from them (`covers_find`).
-/

namespace Emend

variable {d : Document}

/-- A symbol lies in a document, and those inside of it do. -/
inductive Symbol.Within (d : Document) : Symbol → Prop
  | intro {s : Symbol} (range : d.Covers s.range) (children : ∀ c ∈ s.children, Within d c) :
    Within d s

namespace Symbol

theorem Within.range {s : Symbol} (h : s.Within d) : d.Covers s.range := by
  cases h with
  | intro range children => exact range

theorem Within.children {s : Symbol} (h : s.Within d) : ∀ c ∈ s.children, c.Within d := by
  cases h with
  | intro range children => exact children

/-! ## Choosing -/

/-- A walk meets symbols that lie in the document if it starts from such symbols. -/
theorem within_walk {pending : List Visit} (h : ∀ v ∈ pending, v.symbol.Within d) :
    ∀ v ∈ walk pending, v.symbol.Within d := by
  -- Induction on the walk: it takes the first that is pending and puts its children in its place.
  induction pending using walk.induct with
  | case1 => simp [walk]
  | case2 v rest ih =>
    rw [List.forall_mem_cons] at h
    have hinside : ∀ u ∈ v.inside ++ rest, u.symbol.Within d := by
      intro u hu
      rcases List.mem_append.mp hu with hu | hu
      · obtain ⟨s, hs, rfl⟩ := List.mem_map.mp hu
        exact h.1.children s hs
      · exact h.2 u hu
    rw [walk, List.forall_mem_cons]
    exact ⟨h.1, ih hinside⟩

theorem mem_of_nthWhere {α : Type} {p : α → Bool} {skip : Nat} {items : List α} {a : α}
    (h : nthWhere p skip items = some a) : a ∈ items := by
  induction items generalizing skip with
  | nil => simp [nthWhere] at h
  | cons b rest ih =>
    unfold nthWhere at h
    split at h
    · rcases skip with _ | skip
      · obtain rfl := Option.some.inj h
        exact List.mem_cons_self
      · exact List.mem_cons_of_mem b (ih h)
    · exact List.mem_cons_of_mem b (ih h)

theorem mem_of_choose {α : Type} {facts : α → Facts} {c : Criteria} {items : List α} {a : α}
    (h : choose facts c items = some a) : a ∈ items := by
  unfold choose at h
  split at h
  · simp at h
  · exact mem_of_nthWhere h

/-- A symbol that is chosen from a forest in a document lies in the document. -/
theorem covers_find {forest : List Symbol} {c : Criteria} {s : Symbol}
    (hforest : ∀ s ∈ forest, s.Within d) (h : find forest c = some s) : d.Covers s.range := by
  unfold find at h
  obtain ⟨v, hv, rfl⟩ := Option.map_eq_some_iff.mp h
  have hvisits : ∀ u ∈ visits forest, u.symbol.Within d := by
    refine within_walk ?_
    intro u hu
    obtain ⟨s, hs, rfl⟩ := List.mem_map.mp hu
    exact hforest s hs
  exact (hvisits v (mem_of_choose hv)).range

end Symbol

namespace Declaration

/-! ## Nesting -/

/-- An open symbol lies in a document, and those that it took in do. -/
structure Open.Within (d : Document) (o : Open) : Prop where
  range : d.Covers o.symbol.range
  children : ∀ c ∈ o.children, c.Within d

theorem Open.Within.close {o : Open} (h : o.Within d) : o.close.Within d := by
  refine .intro h.range ?_
  intro c hc
  exact h.children c (List.mem_reverse.mp hc)

/-- A symbol that is closed is taken in by the one around it. -/
theorem Open.Within.take {o p : Open} (ho : o.Within d) (hp : p.Within d) :
    ({ p with children := o.close :: p.children } : Open).Within d := by
  refine ⟨hp.range, ?_⟩
  rw [List.forall_mem_cons]
  exact ⟨ho.close, hp.children⟩

/-- All symbols of a nest lie in a document. -/
structure Nest.Within (d : Document) (n : Nest) : Prop where
  stack : ∀ o ∈ n.stack, o.Within d
  roots : ∀ s ∈ n.roots, s.Within d

theorem Nest.within_closeUpTo {place : Int} {stack : List Open} {roots : List Symbol}
    (hstack : ∀ o ∈ stack, o.Within d) (hroots : ∀ s ∈ roots, s.Within d) :
    (Nest.closeUpTo place stack roots).Within d := by
  -- What is closed becomes a child or a root, which keeps it in the document.
  induction stack, roots using Nest.closeUpTo.induct place with
  | case1 roots =>
    rw [Nest.closeUpTo]
    exact ⟨hstack, hroots⟩
  | case2 o roots hstop =>
    rw [Nest.closeUpTo, if_pos hstop]
    rw [List.forall_mem_cons] at hstack
    exact ⟨hstack.2, List.forall_mem_cons.mpr ⟨hstack.1.close, hroots⟩⟩
  | case3 o roots hstop p rest ih =>
    rw [Nest.closeUpTo, if_pos hstop]
    rw [List.forall_mem_cons, List.forall_mem_cons] at hstack
    exact ih (List.forall_mem_cons.mpr ⟨hstack.1.take hstack.2.1, hstack.2.2⟩) hroots
  | case4 o rest roots hstop =>
    unfold Nest.closeUpTo
    rw [if_neg hstop]
    exact ⟨hstack, hroots⟩

theorem Nest.within_closeAll {stack : List Open} {roots : List Symbol}
    (hstack : ∀ o ∈ stack, o.Within d) (hroots : ∀ s ∈ roots, s.Within d) :
    ∀ s ∈ Nest.closeAll stack roots, s.Within d := by
  -- The same for closing everything that is open in the end.
  induction stack, roots using Nest.closeAll.induct with
  | case1 roots =>
    intro s hs
    rw [Nest.closeAll, List.mem_reverse] at hs
    exact hroots s hs
  | case2 o roots =>
    intro s hs
    rw [Nest.closeAll, List.mem_reverse] at hs
    rcases List.mem_cons.mp hs with rfl | hs
    · exact (hstack o List.mem_cons_self).close
    · exact hroots s hs
  | case3 o p rest roots ih =>
    rw [Nest.closeAll]
    rw [List.forall_mem_cons, List.forall_mem_cons] at hstack
    exact ih (List.forall_mem_cons.mpr ⟨hstack.1.take hstack.2.1, hstack.2.2⟩) hroots

theorem covers_toSymbol {node : Declaration} {s : Symbol} (h : node.toSymbol d = .ok s) :
    d.Covers s.range := by
  obtain ⟨p, hp, h⟩ := Attempt.bind_eq_ok.mp h
  obtain ⟨q, hq, h⟩ := Attempt.bind_eq_ok.mp h
  obtain ⟨r, hr, h⟩ := Attempt.bind_eq_ok.mp h
  obtain rfl := Attempt.pure_eq_ok.mp h
  have hstart := Document.has_of_positionAt (Attempt.ofRange_eq_ok.mp hp)
  have hstop := Document.has_of_positionAt (Attempt.ofRange_eq_ok.mp hq)
  exact Document.covers_of_between hstart hstop (Attempt.ofOrder_eq_ok.mp hr)

theorem within_nestFrom {n : Nest} {nodes : List Declaration} {forest : List Symbol}
    (hn : n.Within d) (h : nestFrom d n nodes = .ok forest) : ∀ s ∈ forest, s.Within d := by
  induction nodes generalizing n with
  | nil =>
    obtain rfl := Except.ok.inj h
    exact Nest.within_closeAll hn.stack hn.roots
  | cons node rest ih =>
    obtain ⟨s, hs, h⟩ := Attempt.bind_eq_ok.mp h
    -- what ends before the declaration is closed first; then the declaration is opened
    have hclosed : (Nest.closeUpTo node.start n.stack n.roots).Within d :=
      Nest.within_closeUpTo hn.stack hn.roots
    have hopen : Open.Within d { symbol := s, stop := node.nestingStop } :=
      ⟨covers_toSymbol hs, by simp⟩
    have hadd : (n.add s node.start node.nestingStop).Within d :=
      ⟨List.forall_mem_cons.mpr ⟨hopen, hclosed.stack⟩, hclosed.roots⟩
    exact ih hadd h

/-- Declarations of a document are nested to symbols in the document. -/
theorem within_nest {nodes : List Declaration} {forest : List Symbol}
    (h : nest d nodes = .ok forest) : ∀ s ∈ forest, s.Within d :=
  within_nestFrom ⟨by simp, by simp⟩ h

end Declaration

end Emend
