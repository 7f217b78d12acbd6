import Emend.Failure
import Emend.Proofs.Edit.Batch
import Emend.Proofs.Sort

/-!
# Batches in another order

The order in which the edits of a batch are submitted matters only among edits that have one range: these
put their texts in the order in which they come. Whatever else is rearranged, the outcome is the same text,
or a refusal of the same kind (`applyEdits_rearranged`), whether overlaps are refused or let through.
-/

namespace Emend

namespace Edit

/-- The same edits in another order, in which those with one range stand as they did. -/
structure Rearranged (edits edits' : List Edit) : Prop where
  perm : edits.Perm edits'
  ties : ∀ r : Range, edits.filter (·.range = r) = edits'.filter (·.range = r)

/-- Edits that the order of ranges does not tell apart have one range. -/
theorem rangeLe_antisymm_iff (a b : Edit) :
    (rangeLe a b && rangeLe b a) = true ↔ b.range = a.range := by
  obtain ⟨⟨p, q, _⟩, _⟩ := a
  obtain ⟨⟨p', q', _⟩, _⟩ := b
  rw [Bool.and_eq_true, rangeLe_iff, rangeLe_iff, Range.mk.injEq]
  simp only [Position.lt_def, Position.le_def, Position.eq_iff]
  omega

/-- Rearranged edits are sorted to one list. -/
theorem Rearranged.mergeSort_eq {edits edits' : List Edit} (h : Rearranged edits edits') :
    edits.mergeSort rangeLe = edits'.mergeSort rangeLe := by
  refine Sort.mergeSort_eq_of_filter_eq rangeLe_trans rangeLe_total ?_
  intro a
  have hties : (fun b => rangeLe a b && rangeLe b a) = fun b => decide (b.range = a.range) := by
    funext b
    rw [Bool.eq_iff_iff, rangeLe_antisymm_iff, decide_eq_true_iff]
  rw [hties]
  exact h.ties a.range

end Edit

namespace Document

variable {d : Document} {edits edits' : List Edit}

theorem ordered_rearranged (d : Document) (h : Edit.Rearranged edits edits') :
    d.ordered edits = d.ordered edits' := by
  rw [ordered, ordered, h.mergeSort_eq]

end Document

/-- Both outcomes are the same text, or both are refusals of one kind. -/
def SameOutcome (x y : Except BatchError (List Char)) : Prop :=
  (∃ after, x = .ok after ∧ y = .ok after) ∨
    ∃ cause cause', x = .error cause ∧ y = .error cause' ∧
      (EditError.ofBatch cause).kindName = (EditError.ofBatch cause').kindName

/-- A batch has the same outcome in every order of its edits that keeps the order of those with one
range. -/
theorem applyEdits_rearranged {text : List Char} {edits edits' : List Edit}
    (h : Edit.Rearranged edits edits') (strict : Bool) :
    SameOutcome (applyEdits text edits strict) (applyEdits text edits' strict) := by
  have hcov_iff : (∀ e ∈ edits, (Document.mk text "").Covers e.range) ↔
      ∀ e ∈ edits', (Document.mk text "").Covers e.range :=
    forall_congr' fun e => by rw [h.perm.mem_iff]
  have hclear_iff := Document.clear_perm (d := Document.mk text "") h.perm
  by_cases hcov : ∀ e ∈ edits, (Document.mk text "").Covers e.range
  · by_cases hclear : strict = true → (Document.mk text "").Clear edits
    · -- both orders are sorted to one list of splices, the texts of which are put in from the last on
      refine Or.inl ⟨_, applyEdits_eq_foldr hcov hclear, ?_⟩
      rw [applyEdits_eq_foldr (hcov_iff.mp hcov) fun hs => hclear_iff.mp (hclear hs),
        Document.ordered_rearranged _ h]
    · obtain ⟨rfl, hclash⟩ := Classical.not_imp.mp hclear
      obtain ⟨o, ho⟩ := applyEdits_of_not_clear hcov hclash
      obtain ⟨o', ho'⟩ := applyEdits_of_not_clear (hcov_iff.mp hcov) (mt hclear_iff.mpr hclash)
      exact Or.inr ⟨_, _, ho, ho', rfl⟩
  · obtain ⟨cause, hcause⟩ := applyEdits_of_not_covers strict hcov
    obtain ⟨cause', hcause'⟩ := applyEdits_of_not_covers strict (mt hcov_iff.mpr hcov)
    exact Or.inr ⟨_, _, hcause, hcause', rfl⟩

/-- Two insertions at one place keep their order while a span that reaches over both goes to the front. With
overlaps let through the text is the same, and otherwise both orders are refused. -/
theorem applyEdits_rearranged_overlapping :
    let p : Edit := ⟨.emptyAt ⟨0, 2⟩, ['p']⟩
    let q : Edit := ⟨.emptyAt ⟨0, 2⟩, ['q']⟩
    let span : Edit := ⟨⟨⟨0, 1⟩, ⟨0, 3⟩, by decide⟩, ['X']⟩
    Edit.Rearranged [p, q, span] [span, p, q] ∧
      SameOutcome (applyEdits "abcd".toList [p, q, span] false)
        (applyEdits "abcd".toList [span, p, q] false) ∧
      applyEdits "abcd".toList [p, q, span] false = .ok "aXqcd".toList ∧
      SameOutcome (applyEdits "abcd".toList [p, q, span] true)
        (applyEdits "abcd".toList [span, p, q] true) := by
  intro p q span
  have h : Edit.Rearranged [p, q, span] [span, p, q] := by
    refine ⟨by decide, ?_⟩
    intro r
    by_cases hp : p.range = r
    · subst hp
      rfl
    · by_cases hspan : span.range = r
      · subst hspan
        rfl
      · have hq : ¬ q.range = r := hp
        simp [hp, hq, hspan]
  exact ⟨h, applyEdits_rearranged h false, by cbv, applyEdits_rearranged h true⟩

end Emend
