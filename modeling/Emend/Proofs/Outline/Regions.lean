import Emend.Proofs.Outline.Forest

/-!
# Declarations laid out in a text

A block of declarations, each told with the declarations around it, is laid out in a region of the text if nesting
finds the same declarations around them, whatever was closed before the region. Blocks side by side are laid out
together (`Laid.append`), and so is a declaration with the block inside it (`Laid.cons`). A block that is laid out in
a whole text is what nesting makes of its declarations (`Laid.nested_eq`).
-/

namespace Emend.Declaration

/-- A block of declarations is laid out between two places of the text, inside of declarations that are open all the
way. -/
structure Laid (outer : List Declaration) (lo hi : Int) (block : List Nested) : Prop where
  within : ∀ n ∈ block, lo ≤ n.node.start ∧ n.node.start < n.node.stop ∧ n.node.stop ≤ hi
  ordered : (block.map (·.node)).Pairwise fun a b => nestingLe a b = true
  /-- What is closed before the block does not show in it, and what it leaves behind is closed after it. -/
  runs : ∀ closed : List Declaration, (∀ o ∈ closed, o.nestingStop ≤ lo) →
    ∃ closed' : List Declaration, (∀ o ∈ closed', o.nestingStop ≤ hi) ∧
      ∀ rest, nestedFrom (closed ++ outer) (block.map (·.node) ++ rest)
        = block ++ nestedFrom (closed' ++ outer) rest

variable {outer : List Declaration} {lo mid hi lo' hi' : Int} {block block' : List Nested} {node : Declaration}

namespace Laid

theorem nil (outer : List Declaration) (h : lo ≤ hi) : Laid outer lo hi [] where
  within := by simp
  ordered := .nil
  runs := by
    intro closed hclosed
    refine ⟨closed, ?_, fun rest => rfl⟩
    intro o ho
    have hstop := hclosed o ho
    omega

/-- A block that is laid out in a region is laid out in a larger one. -/
theorem mono (h : Laid outer lo hi block) (hlo : lo' ≤ lo) (hhi : hi ≤ hi') : Laid outer lo' hi' block where
  within := by
    intro n hn
    have hwithin := h.within n hn
    omega
  ordered := h.ordered
  runs := by
    intro closed hclosed
    obtain ⟨closed', hclosed', hruns⟩ := h.runs closed fun o ho => Int.le_trans (hclosed o ho) hlo
    exact ⟨closed', fun o ho => Int.le_trans (hclosed' o ho) hhi, hruns⟩

theorem append (h : Laid outer lo mid block) (h' : Laid outer mid hi block') (hlo : lo ≤ mid) (hhi : mid ≤ hi) :
    Laid outer lo hi (block ++ block') where
  within := by
    intro n hn
    rcases List.mem_append.mp hn with hn | hn
    · have hwithin := h.within n hn
      omega
    · have hwithin := h'.within n hn
      omega
  ordered := by
    rw [List.map_append, List.pairwise_append]
    refine ⟨h.ordered, h'.ordered, ?_⟩
    intro a ha b hb
    obtain ⟨m, hm, rfl⟩ := List.mem_map.mp ha
    obtain ⟨n, hn, rfl⟩ := List.mem_map.mp hb
    have hfirst := h.within m hm
    have hsecond := h'.within n hn
    have hlt : m.node.start < n.node.start := by omega
    simp [nestingLe, hlt]
  runs := by
    intro closed hclosed
    -- What the first block leaves closed is closed for the second one too, since it starts further on.
    obtain ⟨closed', hclosed', hruns⟩ := h.runs closed hclosed
    obtain ⟨closed'', hclosed'', hruns'⟩ := h'.runs closed' hclosed'
    refine ⟨closed'', hclosed'', ?_⟩
    intro rest
    rw [List.map_append, List.append_assoc, hruns, hruns', List.append_assoc]

/-- The declarations that are open where a declaration starts are those around its region. -/
theorem openAt_eq {closed : List Declaration} (hclosed : ∀ o ∈ closed, o.nestingStop ≤ lo)
    (houter : ∀ o ∈ outer.head?, hi ≤ o.nestingStop) (hstart : lo ≤ node.start) (hstop : node.start < hi) :
    openAt node.start (closed ++ outer) = outer := by
  -- Whatever was closed before the region stays closed, and what is around it is still open.
  rw [openAt, List.dropWhile_append_of_pos]
  · cases outer with
    | nil => rfl
    | cons o rest =>
      have hopen : hi ≤ o.nestingStop := houter o rfl
      exact List.dropWhile_cons_of_neg (by simp only [decide_eq_true_eq]; omega)
  · intro o ho
    have hbefore := hclosed o ho
    simp only [decide_eq_true_eq]
    omega

/-- A declaration is laid out with what is inside of it. -/
theorem cons (h : Laid (node :: outer) lo' hi' block) (houter : ∀ o ∈ outer.head?, hi ≤ o.nestingStop)
    (hlo : lo ≤ node.start) (hstart : node.start ≤ lo') (hlt : node.start < node.stop) (hstop : hi' ≤ node.stop)
    (hhi : node.stop ≤ hi) (hnonneg : 0 ≤ lo) :
    Laid outer lo hi (⟨node, outer.head?, outer.length⟩ :: block) where
  within := by
    rw [List.forall_mem_cons]
    refine ⟨⟨hlo, hlt, hhi⟩, ?_⟩
    intro n hn
    have hwithin := h.within n hn
    omega
  ordered := by
    rw [List.map_cons, List.pairwise_cons]
    refine ⟨?_, h.ordered⟩
    intro b hb
    obtain ⟨n, hn, rfl⟩ := List.mem_map.mp hb
    have hwithin := h.within n hn
    simp only [nestingLe, Bool.or_eq_true, Bool.and_eq_true, decide_eq_true_eq, beq_iff_eq]
    omega
  runs := by
    intro closed hclosed
    have hcomplete : node.isComplete = true := decide_eq_true (by omega)
    have hnode : node.nestingStop = node.stop := if_pos hcomplete
    -- the declaration closes all that was left, and what is inside of it closes before it does
    have hopen := openAt_eq hclosed houter hlo (Int.lt_of_lt_of_le hlt hhi)
    obtain ⟨closed', hclosed', hruns⟩ := h.runs [] (by simp)
    refine ⟨closed' ++ [node], ?_, ?_⟩
    · rw [List.forall_mem_append, List.forall_mem_singleton, hnode]
      refine ⟨?_, hhi⟩
      intro o ho
      have hinside := hclosed' o ho
      omega
    · intro rest
      rw [List.map_cons, List.cons_append, nestedFrom, hopen, List.append_assoc]
      exact congrArg _ (hruns rest)

/-- A block that is laid out in a whole text is what nesting makes of its declarations. -/
theorem nested_eq (h : Laid [] lo hi block) : nested (block.map (·.node)) = block := by
  obtain ⟨closed, -, hruns⟩ := h.runs [] (by simp)
  have hall := hruns []
  rw [List.append_nil] at hall
  rw [nested, List.mergeSort_of_pairwise h.ordered]
  simpa [nestedFrom] using hall

end Laid

end Emend.Declaration
