import Emend.Proofs.Edit.Overlap

/-!
# A text woven from gaps and new texts

Splices are made from the last to the first, each on the text that the later ones left. If they come one
after the other, the result is the same as going through the text once: the gap up to a splice, its new
text, and so on (`foldr_apply_eq_weave`).

Main statements:

* `weave_from`, `weave_append`: a weaving from further on, and in two parts.
* `foldr_apply_eq_weave`, `applyAll_eq_weave`: splicing from the last to the first is weaving.
-/

namespace Emend.Splice

/-- The splices come one after the other, from the offset `o` on and up to `bound`. -/
def InOrder (bound : Nat) : Nat → List Splice → Prop
  | o, [] => o ≤ bound
  | o, s :: rest => o ≤ s.start ∧ s.start ≤ s.stop ∧ InOrder bound s.stop rest

/-- The text from the offset `o` on, each splice's span given up for its new text. -/
def weave (text : List Char) : Nat → List Splice → List Char
  | o, [] => text.drop o
  | o, s :: rest => (text.drop o).take (s.start - o) ++ s.newText ++ weave text s.stop rest

/-! ## Order -/

theorem InOrder.le_bound {bound o : Nat} {splices : List Splice} (h : InOrder bound o splices) :
    o ≤ bound := by
  induction splices generalizing o with
  | nil => exact h
  | cons s rest ih =>
    obtain ⟨hstart, hforward, hrest⟩ := h
    have := ih hrest
    omega

/-- All splices in order start from the first offset on. -/
theorem InOrder.le_start {bound o : Nat} {splices : List Splice} (h : InOrder bound o splices) :
    ∀ s ∈ splices, o ≤ s.start := by
  induction splices generalizing o with
  | nil => simp
  | cons s rest ih =>
    obtain ⟨hstart, hforward, hrest⟩ := h
    rw [List.forall_mem_cons]
    refine ⟨hstart, ?_⟩
    intro t ht
    have := ih hrest t ht
    omega

/-- An order may start earlier. -/
theorem InOrder.start_earlier {bound o m : Nat} {splices : List Splice} (hom : o ≤ m)
    (h : InOrder bound m splices) : InOrder bound o splices := by
  rcases splices with _ | ⟨s, rest⟩
  · have hm : m ≤ bound := h
    exact hom.trans hm
  · obtain ⟨hstart, hforward, hrest⟩ := h
    exact ⟨hom.trans hstart, hforward, hrest⟩

/-- Splices that do not reach into each other, pair by pair, are in order. -/
theorem inOrder_of_pairwise {bound o : Nat} {splices : List Splice} (ho : o ≤ bound)
    (hfrom : ∀ s ∈ splices, o ≤ s.start) (hforward : ∀ s ∈ splices, Forward s)
    (hbound : ∀ s ∈ splices, s.stop ≤ bound)
    (hpair : splices.Pairwise fun a b => a.stop ≤ b.start) : InOrder bound o splices := by
  -- Induction on the splices, where the next may start being free: it is the end of the one before.
  induction splices generalizing o with
  | nil => exact ho
  | cons s rest ih =>
    rw [List.pairwise_cons] at hpair
    refine ⟨hfrom s List.mem_cons_self, hforward s List.mem_cons_self, ?_⟩
    apply ih (hbound s List.mem_cons_self) hpair.1
    · exact fun t ht => hforward t (List.mem_cons_of_mem s ht)
    · exact fun t ht => hbound t (List.mem_cons_of_mem s ht)
    · exact hpair.2

/-- Around one of the splices in order, those before it end by its start, and those after it start from
its end on. -/
theorem InOrder.split {bound o : Nat} {before after : List Splice} {s : Splice}
    (h : InOrder bound o (before ++ s :: after)) :
    InOrder s.start o before ∧ s.start ≤ s.stop ∧ InOrder bound s.stop after := by
  induction before generalizing o with
  | nil => exact h
  | cons t before ih =>
    obtain ⟨hstart, hforward, hrest⟩ := h
    obtain ⟨hbefore, hs, hafter⟩ := ih hrest
    exact ⟨⟨hstart, hforward, hbefore⟩, hs, hafter⟩

/-! ## Weaving -/

/-- Weaving may start later, once the gap is copied. -/
theorem weave_from {text : List Char} {bound o m : Nat} {splices : List Splice} (hom : o ≤ m)
    (h : InOrder bound m splices) :
    weave text o splices = (text.drop o).take (m - o) ++ weave text m splices := by
  -- Only the first gap gets longer, whether a splice or the end of the text ends it.
  rcases splices with _ | ⟨s, rest⟩
  · have hdrop : text.drop m = (text.drop o).drop (m - o) := by
      rw [List.drop_drop, Nat.add_sub_cancel' hom]
    rw [weave, weave, hdrop, List.take_append_drop]
  · have hms : m ≤ s.start := h.1
    have hdrop : text.drop m = (text.drop o).drop (m - o) := by
      rw [List.drop_drop, Nat.add_sub_cancel' hom]
    have hlen : s.start - o = (m - o) + (s.start - m) := by omega
    rw [weave, weave, hdrop, hlen, List.take_add]
    simp only [List.append_assoc]

/-- The splices that end by an offset only see the text up to it. -/
theorem weave_append {text : List Char} {bound o a : Nat} {before after : List Splice}
    (hbefore : InOrder a o before) (hafter : InOrder bound a after) :
    weave text o (before ++ after) = weave (text.take a) o before ++ weave text a after := by
  -- Induction on the splices before the cut. None of them reaches over it, so the gaps are the same in the cut text.
  induction before generalizing o with
  | nil =>
    have hgap : (text.drop o).take (a - o) = (text.take a).drop o := by rw [List.drop_take]
    rw [List.nil_append, weave_from hbefore hafter, hgap, weave]
  | cons s before ih =>
    obtain ⟨hstart, hforward, hrest⟩ := hbefore
    have hsa : s.start - o ≤ a - o := by
      have := hrest.le_bound
      omega
    have hgap : ((text.take a).drop o).take (s.start - o) = (text.drop o).take (s.start - o) := by
      rw [List.drop_take, List.take_take, Nat.min_eq_left hsa]
    rw [List.cons_append, weave, weave, ih hrest, hgap]
    simp only [List.append_assoc]

/-- Making splices in order from the last to the first is weaving. Each splice finds the text up to the
next one as it was. -/
theorem foldr_apply_eq_weave {text : List Char} {o : Nat} {splices : List Splice}
    (h : InOrder text.length o splices) :
    splices.foldr apply text = text.take o ++ weave text o splices := by
  induction splices generalizing o with
  | nil => rw [List.foldr_nil, weave, List.take_append_drop]
  | cons s rest ih =>
    obtain ⟨hstart, hforward, hrest⟩ := h
    -- the later splices leave the text up to `s.stop` as it is, and this one takes its end
    have hstop : s.stop ≤ text.length := hrest.le_bound
    have hlen : (text.take s.stop).length = s.stop := List.length_take_of_le hstop
    have htake : (text.take s.stop ++ weave text s.stop rest).take s.start = text.take s.start := by
      rw [List.take_append_of_le_length (by omega), List.take_take, Nat.min_eq_left hforward]
    have hdrop : (text.take s.stop ++ weave text s.stop rest).drop s.stop
        = weave text s.stop rest := by
      rw [List.drop_append_of_le_length (by omega), List.drop_eq_nil_of_le (by omega),
        List.nil_append]
    have hgap : text.take s.start = text.take o ++ (text.drop o).take (s.start - o) := by
      rw [← List.take_add, Nat.add_sub_cancel' hstart]
    rw [List.foldr_cons, ih hrest, apply, htake, hdrop, hgap, weave]
    simp only [List.append_assoc]

/-- All splices of a batch without a clash, made at once. -/
theorem applyAll_eq_weave {text : List Char} {splices : List Splice}
    (hf : ∀ s ∈ splices, Forward s) (hbound : ∀ s ∈ splices, s.stop ≤ text.length)
    (hc : splices.Pairwise fun a b => ¬ Clash a b) :
    InOrder text.length 0 (splices.mergeSort le) ∧
      applyAll splices text = weave text 0 (splices.mergeSort le) := by
  have hmem : ∀ {s}, s ∈ splices.mergeSort le → s ∈ splices := List.mem_mergeSort.mp
  -- In their order, splices that do not clash come one behind the other, and then the weaving is the folding.
  have horder : InOrder text.length 0 (splices.mergeSort le) := by
    apply inOrder_of_pairwise (Nat.zero_le _)
    · exact fun s _ => Nat.zero_le s.start
    · exact fun s hs => hf s (hmem hs)
    · exact fun s hs => hbound s (hmem hs)
    · exact stop_le_start_of_sorted hf hc
  refine ⟨horder, ?_⟩
  rw [applyAll, foldr_apply_eq_weave horder, List.take_zero, List.nil_append]

end Emend.Splice
