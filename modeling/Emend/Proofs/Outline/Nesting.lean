import Emend.Proofs.Outline.Selection
import Emend.Proofs.Sort

/-!
# Nesting by containment

The forest of some declarations lists each of them once, sorted by start, the longer of two that start together first,
and a declaration of unknown end is a leaf (`nest_lists_all`). Where the known spans are apart or nested, what is still
open at a place is what holds the place (`OpenStack`), and so each symbol stands inside the symbols of all declarations
before it that hold its start.

Main statements:

* `holds_of_mem_placedFrom`: what is still open holds the place.
* `OpenStack.step`, `around_of_placedFrom`: one more declaration, and what is around it.
* `range_inside`, `children_eq_nil_of_empty`: the ranges of symbols inside of others, and leaves.
* `nest_lists_all`: the forest as a whole.
-/

namespace Emend

namespace Symbol

/-- What is right inside of a listed symbol is listed inside of it. -/
theorem mem_preorder_of_mem_children {around : List Symbol} {s c : Symbol} {p : Placed}
    (hp : p ∈ preorder around s) (hc : c ∈ p.symbol.children) : ⟨c, p.symbol :: p.around⟩ ∈ preorder around s := by
  -- A symbol is listed right in front of what is inside it, at whatever depth it stands.
  rw [preorder_eq] at hp ⊢
  refine List.mem_cons_of_mem _ ?_
  rw [preorderAll_eq_flatMap] at hp ⊢
  rcases List.mem_cons.mp hp with rfl | hp
  · refine List.mem_flatMap.mpr ⟨c, hc, ?_⟩
    rw [preorder_eq]
    exact List.mem_cons_self
  · obtain ⟨next, hnext, hp⟩ := List.mem_flatMap.mp hp
    exact List.mem_flatMap.mpr ⟨next, hnext, mem_preorder_of_mem_children hp hc⟩
termination_by s.size
decreasing_by exact size_lt_of_mem_children hnext

theorem mem_preorderAll_of_mem_children {around forest : List Symbol} {c : Symbol} {p : Placed}
    (hp : p ∈ preorderAll around forest) (hc : c ∈ p.symbol.children) :
    ⟨c, p.symbol :: p.around⟩ ∈ preorderAll around forest := by
  rw [preorderAll_eq_flatMap] at hp ⊢
  obtain ⟨s, hs, hp⟩ := List.mem_flatMap.mp hp
  exact List.mem_flatMap.mpr ⟨s, hs, mem_preorder_of_mem_children hp hc⟩

end Symbol

namespace Declaration

variable {d : Document} {nodes earlier stack : List Declaration} {a b node : Declaration} {place lo : Int}

/-! ## Spans -/

/-- A declaration starts in the document, and ends behind its start in the document, if its end is known. -/
def Fits (d : Document) (node : Declaration) : Prop :=
  0 ≤ node.start ∧ node.start ≤ d.length ∧ (node.stop < 0 ∨ (node.start ≤ node.stop ∧ node.stop ≤ d.length))

/-- A place lies in the span of a declaration of known end; the end itself does not. -/
def Holds (node : Declaration) (place : Int) : Prop := 0 ≤ node.stop ∧ node.start ≤ place ∧ place < node.stop

/-- Of two spans one ends before the other starts, or lies inside of it. -/
def ApartOrNested (a b : Declaration) : Prop :=
  a.stop ≤ b.start ∨ b.stop ≤ a.start ∨ (a.start ≤ b.start ∧ b.stop ≤ a.stop) ∨
    (b.start ≤ a.start ∧ a.stop ≤ b.stop)

instance (d : Document) (node : Declaration) : Decidable (node.Fits d) :=
  inferInstanceAs (Decidable (_ ∧ _ ∧ _))

instance (node : Declaration) (place : Int) : Decidable (node.Holds place) :=
  inferInstanceAs (Decidable (_ ∧ _ ∧ _))

instance (a b : Declaration) : Decidable (a.ApartOrNested b) := inferInstanceAs (Decidable (_ ∨ _ ∨ _ ∨ _))

theorem nestingStop_of_known (h : 0 ≤ node.stop) : node.nestingStop = node.stop :=
  if_pos (decide_eq_true h : node.isComplete = true)

theorem nestingStop_of_unknown (h : node.stop < 0) : node.nestingStop = node.start :=
  if_neg (by simpa [isComplete] using h)

/-- A place is held from the start on, up to where the declaration ends for nesting. -/
theorem holds_iff : node.Holds place ↔ node.start ≤ place ∧ place < node.nestingStop := by
  rcases Int.lt_or_le node.stop 0 with hunknown | hknown
  · rw [Holds, nestingStop_of_unknown hunknown]
    omega
  · rw [Holds, nestingStop_of_known hknown]
    omega

/-- A declaration that holds the start of a later one holds all of it. -/
theorem stop_le_of_holds (hle : nestingLe a b = true) (hapart : a.ApartOrNested b) (hholds : a.Holds b.start) :
    b.stop ≤ a.stop := by
  obtain ⟨-, hstart, hstop⟩ := hholds
  rw [nestingLe_iff] at hle
  rcases hapart with hbefore | hafter | ⟨-, hnested⟩ | ⟨hstarts, -⟩
  · omega
  · omega
  · exact hnested
  · -- both start together, and the longer one comes first
    omega

/-- So it holds all of it also where its end is unknown. -/
theorem nestingStop_le_of_holds (hle : nestingLe a b = true) (hapart : 0 ≤ b.stop → a.ApartOrNested b)
    (hholds : a.Holds b.start) : b.nestingStop ≤ a.nestingStop := by
  rcases Int.lt_or_le b.stop 0 with hunknown | hknown
  · have hopen := (holds_iff.mp hholds).2
    rw [nestingStop_of_unknown hunknown]
    omega
  · rw [nestingStop_of_known hknown, nestingStop_of_known hholds.1]
    exact stop_le_of_holds hle (hapart hknown) hholds

/-! ## The order of nesting -/

theorem nestingLe_trans (a b c : Declaration) (hab : nestingLe a b = true) (hbc : nestingLe b c = true) :
    nestingLe a c = true := by
  rw [nestingLe_iff] at *
  omega

theorem nestingLe_total (a b : Declaration) : (nestingLe a b || nestingLe b a) = true := by
  rw [Bool.or_eq_true, nestingLe_iff, nestingLe_iff]
  omega

/-- Declarations sorted by start, the longer of two that start together first, and those of one span in the order that
they had. -/
structure StablySorted (nodes sorted : List Declaration) : Prop where
  perm : sorted.Perm nodes
  ordered : sorted.Pairwise fun a b => a.start < b.start ∨ (a.start = b.start ∧ b.stop ≤ a.stop)
  stable : ∀ start stop, sorted.filter (fun n => n.start = start ∧ n.stop = stop)
    = nodes.filter fun n => n.start = start ∧ n.stop = stop

theorem stablySorted_mergeSort (nodes : List Declaration) : StablySorted nodes (nodes.mergeSort nestingLe) := by
  refine ⟨List.mergeSort_perm _ _, ?_, ?_⟩
  · exact (List.pairwise_mergeSort nestingLe_trans nestingLe_total nodes).imp nestingLe_iff.mp
  · intro start stop
    rw [Sort.filter_mergeSort nestingLe_trans nestingLe_total]
    -- those of one span all compare as equal
    refine List.mergeSort_of_pairwise (List.pairwise_of_forall_mem_list ?_)
    intro m hm n hn
    have hfirst := (List.mem_filter.mp hm).2
    have hsecond := (List.mem_filter.mp hn).2
    rw [decide_eq_true_eq] at hfirst hsecond
    rw [nestingLe_iff]
    omega

/-! ## What is open -/

/-- The innermost declaration that a declaration is placed in holds its start. -/
theorem holds_of_mem_placedFrom (hordered : nodes.Pairwise fun a b => nestingLe a b = true)
    (hstack : ∀ o ∈ stack, ∀ node ∈ nodes, o.start ≤ node.start) :
    ∀ p ∈ placedFrom stack nodes, ∀ o ∈ p.around.head?, o.Holds p.node.start := by
  -- Induction on the declarations left. Everything on the stack starts no later than any of them.
  induction nodes generalizing stack with
  | nil =>
    intro p hp
    simp [placedFrom] at hp
  | cons node rest ih =>
    obtain ⟨hfirst, hrest⟩ := List.pairwise_cons.mp hordered
    have hopen : ∀ o ∈ openAt node.start stack, o ∈ stack := fun o ho =>
      (List.dropWhile_sublist _).subset ho
    intro p hp o ho
    rcases List.mem_cons.mp hp with rfl | hp
    · -- the top of what is left of the stack is not closed yet
      have hmem : o ∈ openAt node.start stack := List.mem_of_head? ho
      have hlater := List.head?_dropWhile_not (fun o : Declaration => decide (o.nestingStop ≤ node.start)) stack
      rw [show (stack.dropWhile fun o => decide (o.nestingStop ≤ node.start)).head? = some o from ho] at hlater
      rw [holds_iff]
      refine ⟨hstack o (hopen o hmem) node List.mem_cons_self, ?_⟩
      simpa using hlater
    · -- what is opened here starts before all that comes later
      refine ih hrest ?_ p hp o ho
      intro outer houter later hlater
      rcases List.mem_cons.mp houter with rfl | houter
      · have hle := nestingLe_iff.mp (hfirst later hlater)
        omega
      · exact hstack outer (hopen outer houter) later (List.mem_cons_of_mem _ hlater)

/-- A stack of open declarations has, at each place from some place on, those of the earlier ones that end behind it,
the last one first. -/
structure OpenStack (earlier stack : List Declaration) (lo : Int) : Prop where
  starts : ∀ o ∈ earlier, o.start ≤ lo
  opens : ∀ place, lo ≤ place →
    openAt place stack = (earlier.filter fun o => decide (place < o.nestingStop)).reverse

theorem openAt_openAt (hle : lo ≤ place) (stack : List Declaration) :
    openAt place (openAt lo stack) = openAt place stack := by
  induction stack with
  | nil => rfl
  | cons o rest ih =>
    by_cases hlo : o.nestingStop ≤ lo
    · have hplace : o.nestingStop ≤ place := by omega
      have hskip : openAt lo (o :: rest) = openAt lo rest := by simp [openAt, hlo]
      have hskip' : openAt place (o :: rest) = openAt place rest := by simp [openAt, hplace]
      rw [hskip, hskip', ih]
    · have hkeep : openAt lo (o :: rest) = o :: rest := by simp [openAt, hlo]
      rw [hkeep]

/-- The next declaration is opened on top of what is open where it starts. -/
theorem OpenStack.step (h : OpenStack earlier stack lo) (hlo : lo ≤ node.start)
    (hordered : ∀ o ∈ earlier, nestingLe o node = true)
    (hapart : ∀ o ∈ earlier, 0 ≤ o.stop → 0 ≤ node.stop → o.ApartOrNested node) :
    OpenStack (earlier ++ [node]) (node :: openAt node.start stack) node.start := by
  -- The new declaration starts last; what is open behind it is itself, as long as it lasts, and what was open where
  -- it starts.
  constructor
  · intro o ho
    rcases List.mem_append.mp ho with ho | ho
    · exact Int.le_trans (h.starts o ho) hlo
    · obtain rfl := List.mem_singleton.mp ho
      exact Int.le_refl _
  · intro place hplace
    rw [List.filter_append, List.reverse_append]
    by_cases hstop : node.nestingStop ≤ place
    · -- the declaration is closed already
      have hskip : openAt place (node :: openAt node.start stack) = openAt place (openAt node.start stack) := by
        simp [openAt, hstop]
      have hnot : ¬ place < node.nestingStop := by omega
      rw [hskip, openAt_openAt hplace, h.opens place (Int.le_trans hlo hplace)]
      simp [hnot]
    · -- what is open where it starts stays open inside of it
      have hlt : place < node.nestingStop := by omega
      have hkeep : openAt place (node :: openAt node.start stack) = node :: openAt node.start stack := by
        simp [openAt, hstop]
      have hsame : earlier.filter (fun o => decide (node.start < o.nestingStop))
          = earlier.filter fun o => decide (place < o.nestingStop) := by
        refine List.filter_congr ?_
        intro o ho
        rw [decide_eq_decide]
        constructor
        · intro hopen
          have hholds : o.Holds node.start := holds_iff.mpr ⟨Int.le_trans (h.starts o ho) hlo, hopen⟩
          have hinside := nestingStop_le_of_holds (hordered o ho) (hapart o ho hholds.1) hholds
          omega
        · intro hopen
          omega
      rw [hkeep, h.opens node.start hlo, hsame]
      simp [hlt]

/-- Where known spans are apart or nested, each declaration is placed in all those before it that hold its start, the
last one innermost. -/
theorem around_of_placedFrom (hstack : OpenStack earlier stack lo)
    (hlo : ∀ node ∈ nodes, lo ≤ node.start)
    (hordered : (earlier ++ nodes).Pairwise fun a b => nestingLe a b = true)
    (hapart : ∀ a ∈ earlier ++ nodes, ∀ b ∈ nodes, 0 ≤ a.stop → 0 ≤ b.stop → a.ApartOrNested b)
    {before after : List Declaration} (hnodes : nodes = before ++ node :: after) :
    (placedFrom stack nodes)[before.length]?
      = some ⟨node, ((earlier ++ before).filter fun o => decide (o.Holds node.start)).reverse⟩ := by
  -- induction on what comes before: each of it is opened, and is then one of the earlier ones
  induction before generalizing nodes earlier stack lo with
  | nil =>
    rw [List.nil_append] at hnodes
    subst hnodes
    have hstart := hlo node List.mem_cons_self
    have hholds : earlier.filter (fun o => decide (o.Holds node.start))
        = earlier.filter fun o => decide (node.start < o.nestingStop) := by
      refine List.filter_congr ?_
      intro o ho
      have hbefore := hstack.starts o ho
      rw [decide_eq_decide, holds_iff]
      omega
    rw [List.append_nil, hholds, ← hstack.opens node.start hstart]
    rfl
  | cons first before ih =>
    rw [List.cons_append] at hnodes
    subst hnodes
    have hsplit : earlier ++ first :: (before ++ node :: after) = (earlier ++ [first]) ++ (before ++ node :: after) := by
      simp
    rw [hsplit] at hordered hapart
    have hearlier := List.pairwise_append.mp (List.pairwise_append.mp hordered).1
    have hstack' : OpenStack (earlier ++ [first]) (first :: openAt first.start stack) first.start := by
      refine hstack.step (hlo first List.mem_cons_self) ?_ ?_
      · intro o ho
        exact hearlier.2.2 o ho first List.mem_cons_self
      · intro o ho
        exact hapart o (by simp [ho]) first List.mem_cons_self
    have hnext := ih hstack' ?_ hordered ?_ rfl
    · rw [List.append_assoc, List.singleton_append] at hnext
      exact hnext
    · intro later hlater
      have hle := (List.pairwise_append.mp hordered).2.2 first (by simp) later hlater
      rw [nestingLe_iff] at hle
      omega
    · intro o ho later hlater
      exact hapart o ho later (List.mem_cons_of_mem _ hlater)

/-! ## Symbols of declarations -/

variable {s s' : Symbol} {forest : List Symbol}

/-- A symbol tells of a declaration its name, its kind with a capital, its scope, and its range, which is empty if the
end is unknown. -/
structure IsSymbolOf (d : Document) (node : Declaration) (s : Symbol) : Prop where
  name : s.name = node.name
  kind : s.kind = Text.capitalize node.kind
  detail : s.detail = node.parent.getD ""
  start : d.positionAt node.start = .ok s.range.start
  known : 0 ≤ node.stop → d.positionAt node.stop = .ok s.range.stop
  unknown : node.stop < 0 → s.range.stop = s.range.start

theorem positionAt_of_shownAs (h : node.ShownAs d s) :
    d.positionAt node.start = .ok s.range.start ∧ d.positionAt node.nestingStop = .ok s.range.stop :=
  Context.positionAt_of_offsetRange h.range

theorem isSymbolOf_of_shownAs (h : node.ShownAs d s) : node.IsSymbolOf d s := by
  -- A span of unknown end is shown as the empty one at its start.
  obtain ⟨r, -, hs⟩ := toSymbol_eq_ok_iff.mp h
  obtain ⟨hstart, hstop⟩ := positionAt_of_shownAs h
  constructor
  · exact h.name
  · exact h.kind
  · exact congrArg Symbol.detail hs
  · exact hstart
  · intro hknown
    rw [nestingStop_of_known hknown] at hstop
    exact hstop
  · intro hunknown
    rw [nestingStop_of_unknown hunknown, hstart] at hstop
    exact (Except.ok.inj hstop).symm

/-- A declaration that holds a place has a range that is not empty. -/
theorem start_ne_stop_of_holds (h : node.ShownAs d s) (hholds : node.Holds place) : s.range.start ≠ s.range.stop := by
  intro heq
  obtain ⟨hstart, hstop⟩ := positionAt_of_shownAs h
  rw [heq] at hstart
  have hle := holds_iff.mp hholds
  -- a position has one offset, and the declaration ends behind its start
  obtain ⟨m, hm, hfirst⟩ := Document.positionAt_eq_ok.mp hstart
  obtain ⟨n, hn, hsecond⟩ := Document.positionAt_eq_ok.mp hstop
  rw [hfirst] at hsecond
  obtain rfl := Except.ok.inj hsecond
  omega

/-- The range of a declaration lies inside of that of another one if its span does. -/
theorem range_inside (ha : a.ShownAs d s) (hb : b.ShownAs d s') (hstart : a.start ≤ b.start)
    (hstop : b.nestingStop ≤ a.nestingStop) : s.range.start ≤ s'.range.start ∧ s'.range.stop ≤ s.range.stop := by
  obtain ⟨hastart, hastop⟩ := positionAt_of_shownAs ha
  obtain ⟨hbstart, hbstop⟩ := positionAt_of_shownAs hb
  exact ⟨Document.positionAt_le hstart hastart hbstart, Document.positionAt_le hstop hbstop hastop⟩

theorem exists_toSymbol (h : node.Fits d) : ∃ s, node.toSymbol d = .ok s := by
  obtain ⟨hnonneg, hstart, hstop⟩ := h
  have hbounds : node.start ≤ node.nestingStop ∧ node.nestingStop ≤ d.length := by
    rcases Int.lt_or_le node.stop 0 with hunknown | hknown
    · rw [nestingStop_of_unknown hunknown]
      exact ⟨Int.le_refl _, hstart⟩
    · rw [nestingStop_of_known hknown]
      omega
  obtain ⟨r, hr⟩ := Context.exists_offsetRange hnonneg hbounds.1 hbounds.2
  exact ⟨_, toSymbol_eq_ok_iff.mpr ⟨r, hr, rfl⟩⟩

theorem map_node_placedFrom (stack nodes : List Declaration) : (placedFrom stack nodes).map (·.node) = nodes := by
  induction nodes generalizing stack with
  | nil => rfl
  | cons node rest ih => rw [placedFrom, List.map_cons, ih]

/-- In the forest of some declarations, the range of a symbol that has others inside it is not empty. -/
theorem children_eq_nil_of_empty (h : nest d nodes = .ok forest) :
    ∀ p ∈ Symbol.preorderAll [] forest, p.symbol.range.start = p.symbol.range.stop → p.symbol.children = [] := by
  intro p hp hempty
  by_contra hchildren
  obtain ⟨c, hc⟩ := List.exists_mem_of_ne_nil _ hchildren
  have hordered := List.pairwise_mergeSort nestingLe_trans nestingLe_total nodes
  have hholds : ∀ q ∈ placedFrom [] (nodes.mergeSort nestingLe), ∀ o ∈ q.around.head?, o.Holds q.node.start :=
    holds_of_mem_placedFrom hordered (by simp)
  -- the symbol inside is that of a declaration, and the declaration around it holds its start
  have hstands := ((List.forall₂_and_left _ _).mpr ⟨hholds, standsAs_nest h⟩).flip
  have hinside := Symbol.mem_preorderAll_of_mem_children hp hc
  obtain ⟨q, hq, hplaced⟩ := exists_forall₂_iff.mp ⟨_, hstands⟩ _ hinside
  obtain ⟨o, rest, ho, -, haround⟩ := List.forall₂_cons_right_iff.mp hplaced.around
  refine start_ne_stop_of_holds ho (hq o ?_) hempty
  rw [haround]
  rfl

/-! ## The forest as a whole -/

/-- A declaration stands in the forest inside of those before it that hold its start. -/
structure NestedIn (d : Document) (before : List Declaration) (node : Declaration) (p : Symbol.Placed) : Prop where
  /-- The symbols around it are those of these declarations, that of the last one innermost. -/
  around : List.Forall₂ (IsSymbolOf d) (before.filter fun o => o.Holds node.start).reverse p.around
  /-- Of these declarations a later one lies inside of an earlier one. -/
  inward : (before.filter fun o => o.Holds node.start).Pairwise fun outer inner =>
    outer.start ≤ inner.start ∧ inner.stop ≤ outer.stop
  /-- The range lies inside of that of the symbol right around it. -/
  inside : ∀ parent ∈ p.around.head?,
    parent.range.start ≤ p.symbol.range.start ∧ p.symbol.range.stop ≤ parent.range.stop

theorem nestedIn_of_standsAs {before : List Declaration} {p : Symbol.Placed}
    (hordered : (before ++ [node]).Pairwise fun a b => nestingLe a b = true)
    (hapart : ∀ a ∈ before ++ [node], ∀ b ∈ before ++ [node], 0 ≤ a.stop → 0 ≤ b.stop → a.ApartOrNested b)
    (h : (⟨node, (before.filter fun o => o.Holds node.start).reverse⟩ : Placed).StandsAs d p) :
    NestedIn d before node p := by
  have hbefore := List.pairwise_append.mp hordered
  constructor
  · exact h.around.imp fun _ _ => isSymbolOf_of_shownAs
  · -- two that hold the start meet there, so they are nested
    refine (List.Pairwise.filter _ hbefore.1).imp_of_mem ?_
    intro outer inner houter hinner hle
    obtain ⟨houter, hfirst⟩ := List.mem_filter.mp houter
    obtain ⟨hinner, hsecond⟩ := List.mem_filter.mp hinner
    rw [decide_eq_true_eq] at hfirst hsecond
    have hstart := nestingLe_iff.mp hle
    obtain ⟨hknown, hlo, hhi⟩ := hfirst
    obtain ⟨hknown', hlo', hhi'⟩ := hsecond
    have hlies := hapart outer (by simp [houter]) inner (by simp [hinner]) hknown hknown'
    refine ⟨by omega, stop_le_of_holds hle hlies ⟨hknown, by omega, by omega⟩⟩
  · intro parent hparent
    -- the symbol right around is that of the last declaration that holds the start
    have hhead := rel_head? h.around
    rw [Option.mem_def.mp hparent] at hhead
    obtain ⟨o, ho, hshown⟩ : ∃ o, (before.filter fun o => decide (o.Holds node.start)).reverse.head? = some o ∧
        o.ShownAs d parent := by
      cases hlast : (before.filter fun o => decide (o.Holds node.start)).reverse.head? with
      | none => simp [hlast] at hhead
      | some o => exact ⟨o, rfl, by simpa [hlast] using hhead⟩
    obtain ⟨hmem, hholds⟩ := List.mem_filter.mp (List.mem_reverse.mp (List.mem_of_head? ho))
    rw [decide_eq_true_eq] at hholds
    have hle := hbefore.2.2 o hmem node (by simp)
    have hlies := hapart o (by simp [hmem]) node (by simp) hholds.1
    exact range_inside hshown h.symbol hholds.2.1 (nestingStop_le_of_holds hle hlies hholds)

/-- Declarations in a document are nested to a forest that lists them all: each once, sorted by start, the longer of
two that start together first, and those of one span in their order. A declaration of unknown end is a leaf with an
empty range. If known spans are apart or nested, each symbol stands inside of the symbols of those declarations before
it that hold its start, and its range inside of theirs. -/
theorem nest_lists_all (hfits : ∀ node ∈ nodes, node.Fits d) :
    ∃ forest sorted, nest d nodes = .ok forest ∧ StablySorted nodes sorted ∧
      List.Forall₂ (fun node p => node.IsSymbolOf d p.symbol ∧ (node.stop < 0 → p.symbol.children = [])) sorted
        (Symbol.preorderAll [] forest) ∧
      ((∀ a ∈ nodes, ∀ b ∈ nodes, 0 ≤ a.stop → 0 ≤ b.stop → a.ApartOrNested b) →
        ∀ before node after, sorted = before ++ node :: after →
          ∃ p, (Symbol.preorderAll [] forest)[before.length]? = some p ∧ NestedIn d before node p) := by
  obtain ⟨forest, hforest⟩ := exists_nest fun node hnode => exists_toSymbol (hfits node hnode)
  have hstands := standsAs_nest hforest
  have hsorted := stablySorted_mergeSort nodes
  refine ⟨forest, nodes.mergeSort nestingLe, hforest, hsorted, ?_, ?_⟩
  · -- what has an empty range is a leaf, and a declaration of unknown end has one
    have hleaves := ((List.forall₂_and_left _ _).mpr ⟨children_eq_nil_of_empty hforest, hstands.flip⟩).flip
    rw [← map_node_placedFrom [] (nodes.mergeSort nestingLe), List.forall₂_map_left_iff]
    refine hleaves.imp ?_
    rintro q p ⟨hleaf, hq⟩
    have hsymbol := isSymbolOf_of_shownAs hq.symbol
    exact ⟨hsymbol, fun hunknown => hleaf (hsymbol.unknown hunknown).symm⟩
  · intro hapart before node after hsplit
    have hordered := List.pairwise_mergeSort nestingLe_trans nestingLe_total nodes
    have hmem : ∀ a ∈ nodes.mergeSort nestingLe, a ∈ nodes := fun a ha => List.mem_mergeSort.mp ha
    have hempty : OpenStack [] [] 0 := ⟨by simp, fun place _ => rfl⟩
    -- nothing is open at first
    have hplaced := around_of_placedFrom hempty (fun a ha => (hfits a (hmem a ha)).1) hordered
      (fun a ha b hb => hapart a (hmem a ha) b (hmem b hb)) hsplit
    -- the symbol at the same place of the listing
    obtain ⟨hlt, hplaced⟩ := List.getElem?_eq_some_iff.mp hplaced
    have hlt' : before.length < (Symbol.preorderAll [] forest).length := by
      rw [← hstands.length_eq]
      exact hlt
    have hshown := hstands.get hlt hlt'
    rw [List.get_eq_getElem, List.get_eq_getElem, hplaced] at hshown
    refine ⟨_, List.getElem?_eq_getElem hlt', nestedIn_of_standsAs ?_ ?_ hshown⟩
    · rw [hsplit, List.append_cons] at hordered
      exact (List.pairwise_append.mp hordered).1
    · intro a ha b hb
      rw [hsplit, List.append_cons] at hmem
      exact hapart a (hmem a (List.mem_append_left _ ha)) b (hmem b (List.mem_append_left _ hb))

/-- Two methods of one span, of which the later one holds a declaration of unknown end, and behind them, in the same
class, an empty declaration and one that starts where it stands and touches the end of the class. -/
theorem nest_lists_all_touching :
    let nodes : List Declaration :=
      [⟨"function", "u", 0, 2, -1, 0, 0, none, none⟩, ⟨"method", "g", 1, 5, 8, 0, 0, some "A", some "class"⟩,
        ⟨"method", "f", 1, 1, 5, 0, 0, some "A", some "class"⟩, ⟨"class", "A", 0, 0, 8, 0, 0, none, none⟩,
        ⟨"method", "f", 1, 1, 5, 0, 0, some "A", some "class"⟩, ⟨"type", "e", 0, 5, 5, 0, 0, none, none⟩,
        ⟨"function", "h", 0, 8, 10, 1, 1, none, none⟩, ⟨"function", "v", 0, 8, -2, 1, 1, none, none⟩]
    let d : Document := ⟨"abcdefg\nij".toList, "a.txt"⟩
    (∀ node ∈ nodes, node.Fits d) ∧
      (∀ a ∈ nodes, ∀ b ∈ nodes, 0 ≤ a.stop → 0 ≤ b.stop → a.ApartOrNested b) ∧
      ∃ forest sorted, nest d nodes = .ok forest ∧ StablySorted nodes sorted ∧
        List.Forall₂ (fun node p => node.IsSymbolOf d p.symbol ∧ (node.stop < 0 → p.symbol.children = [])) sorted
          (Symbol.preorderAll [] forest) ∧
        ∀ before node after, sorted = before ++ node :: after →
          ∃ p, (Symbol.preorderAll [] forest)[before.length]? = some p ∧ NestedIn d before node p := by
  intro nodes d
  have hfits : ∀ node ∈ nodes, node.Fits d := by decide
  have hapart : ∀ a ∈ nodes, ∀ b ∈ nodes, 0 ≤ a.stop → 0 ≤ b.stop → a.ApartOrNested b := by decide
  obtain ⟨forest, sorted, hforest, hsorted, hlisted, hnested⟩ := nest_lists_all hfits
  exact ⟨hfits, hapart, forest, sorted, hforest, hsorted, hlisted, hnested hapart⟩

end Declaration

end Emend
