import Emend.Proofs.Edit.Batch
import Emend.Proofs.Ledger.Baseline

/-!
# Taking edits back

An edit is taken back by an edit of its own, which speaks of the place that the edit has in the original
text. It does what it should as long as the new text starts in that place (`applyEdits_undo`). From the
first edit on this is always so (`undoEach_take`); in any other order it takes edits that do not move
what comes after them (`undoEach_of_keepsPlace`).

Main statements:

* `applyEdits_undo`, `applyEdits_remake`: one edit taken back, and made again.
* `undoEach_take`: edits taken back from the first one on.
* `extent_weave`, `undoEach_of_keepsPlace`: edits that do not move what comes after them.
-/

namespace Emend

open Splice

namespace Edit

/-- The edit that takes an edit of a text back. -/
def undo (original : List Char) (e : Edit) : Edit :=
  ⟨.covering e.range.start e.newText, baselineText original e.range⟩

/-- Take edits of a text back one after the other. -/
def undoEach (original text : List Char) (edits : List Edit) : Except BatchError (List Char) :=
  edits.foldlM (fun live e => applyEdits live [e.undo original]) text

theorem undoEach_cons (original text : List Char) (e : Edit) (rest : List Edit) :
    undoEach original text (e :: rest)
      = (applyEdits text [e.undo original]).bind fun after => undoEach original after rest := rfl

/-- The new text ends where the range ended, so that nothing behind the edit moves to another line or
column. -/
def KeepsPlace (e : Edit) : Prop := e.range.start.extent e.newText = e.range.stop

instance (e : Edit) : Decidable e.KeepsPlace := by
  unfold KeepsPlace
  infer_instance

end Edit

/-! ## One edit -/

namespace Splice

/-- Splices stay in order where one of them is left out. -/
theorem InOrder.without {bound o : Nat} {before after : List Splice} {s : Splice}
    (h : InOrder bound o (before ++ s :: after)) : InOrder bound o (before ++ after) := by
  induction before generalizing o with
  | nil =>
    obtain ⟨hstart, hforward, hrest⟩ := h
    exact hrest.start_earlier (hstart.trans hforward)
  | cons t before ih =>
    obtain ⟨hstart, hforward, hrest⟩ := h
    exact ⟨hstart, hforward, ih hrest⟩

end Splice

/-- An edit of what was written between two parts of a text, its place given by where the writing
started. -/
theorem applyEdits_covering (s new t old : List Char) {p : Position} (strict : Bool)
    (hplace : Position.zero.extent s = p) :
    applyEdits (s ++ new ++ t) [⟨.covering p new, old⟩] strict = .ok (s ++ old ++ t) := by
  have hle : Position.zero.extent s ≤ Position.zero.extent (s ++ new) := by
    rw [Position.extent_append]
    exact Position.le_extent _ _
  have hrange : Range.covering p new
      = ⟨Position.zero.extent s, Position.zero.extent (s ++ new), hle⟩ := by
    simp only [Range.covering, Position.extent_append, hplace]
  rw [hrange]
  exact applyEdits_middle s new t old strict hle

/-- Where the new text of an edit starts in the place that the edit has in the original text, taking the
edit back leaves the other edits made. -/
theorem applyEdits_undo {text : List Char} {before after : List Splice} {e : Edit} (strict : Bool)
    (hcov : (Document.mk text "").Covers e.range)
    (horder : InOrder text.length 0 (before ++ (Document.mk text "").spliceOf e :: after))
    (hplace : Position.zero.extent
      (weave (text.take ((Document.mk text "").offsetOf e.range.start)) 0 before) = e.range.start) :
    applyEdits (weave text 0 (before ++ (Document.mk text "").spliceOf e :: after))
      [e.undo text] strict = .ok (weave text 0 (before ++ after)) := by
  have hold : baselineText text e.range
      = (text.drop ((Document.mk text "").spliceOf e).start).take
          (((Document.mk text "").spliceOf e).stop - ((Document.mk text "").spliceOf e).start) :=
    baselineText_eq hcov.1 hcov.2
  obtain ⟨hbefore, hforward, hafter⟩ := horder.split
  -- Both texts are cut at the start of the edit: in front of it they are the same, and behind it they differ by its
  -- new text against the old one (`hold`).
  have hmade : weave text 0 (before ++ (Document.mk text "").spliceOf e :: after)
      = weave (text.take ((Document.mk text "").spliceOf e).start) 0 before
        ++ weave text ((Document.mk text "").spliceOf e).start
          ((Document.mk text "").spliceOf e :: after) :=
    weave_append hbefore ⟨Nat.le_refl _, hforward, hafter⟩
  have hleft : weave text 0 (before ++ after)
      = weave (text.take ((Document.mk text "").spliceOf e).start) 0 before
        ++ weave text ((Document.mk text "").spliceOf e).start after :=
    weave_append hbefore (hafter.start_earlier hforward)
  rw [weave, Nat.sub_self, List.take_zero, List.nil_append, ← List.append_assoc] at hmade
  rw [weave_from hforward hafter, ← hold, ← List.append_assoc] at hleft
  rw [hmade, hleft]
  exact applyEdits_covering _ _ _ _ strict hplace

/-- After an edit was made, putting another text in the place of the new one is the same as making the edit
with that text. -/
theorem applyEdits_remake {text made : List Char} {e : Edit} {strict : Bool} (old : List Char)
    (hmade : applyEdits text [e] strict = .ok made) :
    applyEdits made [⟨.covering e.range.start e.newText, old⟩]
      = applyEdits text [⟨e.range, old⟩] := by
  have hcov := covers_of_applyEdits hmade e List.mem_cons_self
  rw [applyEdits_singleton strict hcov] at hmade
  rw [← Except.ok.inj hmade, applyEdits_covering _ _ _ _ true hcov.start_eq.symm]
  exact (applyEdits_singleton (e := ⟨e.range, old⟩) true hcov).symm

/-- An edit leaves the text as it is exactly if its range has the new text already. -/
theorem applyEdits_eq_self_iff {text new : List Char} {r : Range}
    (hcov : (Document.mk text "").Covers r) :
    applyEdits text [⟨r, new⟩] = .ok text ↔ new = baselineText text r := by
  have hsplit : text = text.take ((Document.mk text "").offsetOf r.start) ++ baselineText text r
      ++ text.drop ((Document.mk text "").offsetOf r.stop) := by
    have hmid : text.drop ((Document.mk text "").offsetOf r.stop)
        = (text.drop ((Document.mk text "").offsetOf r.start)).drop
            ((Document.mk text "").offsetOf r.stop - (Document.mk text "").offsetOf r.start) := by
      rw [List.drop_drop, Nat.add_sub_cancel' hcov.start_le_stop]
    rw [baselineText_eq hcov.1 hcov.2, hmid, List.append_assoc, List.take_append_drop,
      List.take_append_drop]
  rw [applyEdits_singleton (e := ⟨r, new⟩) true hcov, Except.ok.injEq]
  -- The text is its three parts around the range; cancelling the outer two leaves the middle.
  constructor
  · intro h
    have h' := h.trans hsplit
    rw [List.append_assoc, List.append_assoc] at h'
    exact List.append_cancel_right (List.append_cancel_left h')
  · rintro rfl
    exact hsplit.symm

/-! ## From the first edit on -/

/-- The first of the edits starts where it starts in the original text. Taking edits back from the first
on leaves the remaining ones made. -/
theorem undoEach_take {text : List Char} {edits : List Edit} (k : Nat)
    (hcov : ∀ e ∈ edits, (Document.mk text "").Covers e.range)
    (horder : InOrder text.length 0 (edits.map (Document.mk text "").spliceOf)) :
    Edit.undoEach text (weave text 0 (edits.map (Document.mk text "").spliceOf)) (edits.take k)
      = .ok (weave text 0 ((edits.drop k).map (Document.mk text "").spliceOf)) := by
  -- Induction on how many are taken back. The first edit has nothing made in front of it, so its new text starts
  -- where its range does.
  induction k generalizing edits with
  | zero => rfl
  | succ k ih =>
    rcases edits with _ | ⟨e, rest⟩
    · rfl
    · rw [List.forall_mem_cons] at hcov
      rw [List.map_cons] at horder
      have hplace : Position.zero.extent
          (weave (text.take ((Document.mk text "").offsetOf e.range.start)) 0 [])
            = e.range.start := by
        rw [weave, List.drop_zero]
        exact hcov.1.start_eq.symm
      have hundo : applyEdits (weave text 0 ([] ++ (Document.mk text "").spliceOf e ::
            rest.map (Document.mk text "").spliceOf)) [e.undo text] true
          = .ok (weave text 0 ([] ++ rest.map (Document.mk text "").spliceOf)) :=
        applyEdits_undo true hcov.1 horder hplace
      -- Without the first edit the others are still in order, now from the start of the text on.
      have hrest := ih hcov.2 (horder.2.2.start_earlier (Nat.zero_le _))
      rw [List.take_succ_cons, List.drop_succ_cons, List.map_cons, Edit.undoEach_cons]
      rw [List.nil_append, List.nil_append] at hundo
      rw [hundo]
      exact hrest

/-! ## Edits that keep places -/

/-- Edits that keep places do not move the end of a text. -/
theorem extent_weave {text : List Char} {a o : Nat} {edits : List Edit}
    (hcov : ∀ e ∈ edits, (Document.mk text "").Covers e.range)
    (hkeep : ∀ e ∈ edits, e.KeepsPlace)
    (horder : InOrder a o (edits.map (Document.mk text "").spliceOf)) :
    (Position.zero.extent (text.take o)).extent
        (weave (text.take a) o (edits.map (Document.mk text "").spliceOf))
      = Position.zero.extent (text.take a) := by
  -- Induction on the edits, the offset free: an edit that keeps its place ends where its range ended, so what follows
  -- it does not move.
  induction edits generalizing o with
  | nil =>
    have hoa : o ≤ a := horder
    have htake : (text.take a).take o = text.take o := by rw [List.take_take, Nat.min_eq_left hoa]
    rw [List.map_nil, weave, ← htake, ← Position.extent_append, List.take_append_drop]
  | cons e rest ih =>
    rw [List.forall_mem_cons] at hcov hkeep
    obtain ⟨hstart, hforward, hrest⟩ := horder
    have hnext := ih hcov.2 hkeep.2 hrest
    have hstop := hrest.le_bound
    have hcut : (text.take o ++ ((text.take a).drop o).take
        (((Document.mk text "").spliceOf e).start - o))
          = text.take ((Document.mk text "").spliceOf e).start := by
      rw [List.drop_take, List.take_take, Nat.min_eq_left (by omega), ← List.take_add,
        Nat.add_sub_cancel' hstart]
    calc (Position.zero.extent (text.take o)).extent
          (weave (text.take a) o ((e :: rest).map (Document.mk text "").spliceOf))
        = ((Position.zero.extent (text.take ((Document.mk text "").spliceOf e).start)).extent
            e.newText).extent (weave (text.take a) ((Document.mk text "").spliceOf e).stop
              (rest.map (Document.mk text "").spliceOf)) := by
          rw [List.map_cons, weave, Position.extent_append, Position.extent_append,
            ← Position.extent_append _ (text.take o), hcut]
          rfl
      _ = (Position.zero.extent (text.take ((Document.mk text "").spliceOf e).stop)).extent
            (weave (text.take a) ((Document.mk text "").spliceOf e).stop
              (rest.map (Document.mk text "").spliceOf)) := by
          have hfrom := hcov.1.start_eq
          have hto := hcov.1.stop_eq
          have hkept : e.range.start.extent e.newText = e.range.stop := hkeep.1
          rw [hfrom, hto] at hkept
          exact congrArg (fun p => Position.extent p _) hkept
      _ = Position.zero.extent (text.take a) := hnext

/-- Edits can be taken back in any order, and those that are left stay made, if each edit keeps places that
is followed by one that is taken back. Edits with equal values are told apart by what they are the edits
of. -/
theorem undoEach_of_keepsPlace {α : Type} (edit : α → Edit) {text : List Char}
    {all order left : List α} (hperm : all.Perm (order ++ left)) (hleft : left.Sublist all)
    (happart : ∀ x ∈ order, x ∉ left)
    (hcov : ∀ x ∈ all, (Document.mk text "").Covers (edit x).range)
    (hkeep : all.Pairwise fun x y => y ∈ order → (edit x).KeepsPlace)
    (horder : InOrder text.length 0 (all.map fun x => (Document.mk text "").spliceOf (edit x))) :
    Edit.undoEach text
        (weave text 0 (all.map fun x => (Document.mk text "").spliceOf (edit x))) (order.map edit)
      = .ok (weave text 0 (left.map fun x => (Document.mk text "").spliceOf (edit x))) := by
  -- whatever comes first in the order, the edits in front of it keep places, so it is in its own
  induction order generalizing all with
  | nil =>
    rw [hleft.eq_of_length hperm.length_eq.symm]
    rfl
  | cons x order ih =>
    obtain ⟨before, after, rfl⟩ := List.append_of_mem (hperm.mem_iff.mpr List.mem_cons_self)
    have hperm' : (before ++ after).Perm (order ++ left) :=
      (List.perm_middle.symm.trans hperm).cons_inv
    have hsub : (before ++ after).Sublist (before ++ x :: after) :=
      List.Sublist.append_left (List.sublist_cons_self x after) before
    have hleft' : left.Sublist (before ++ after) := by
      obtain ⟨first, second, rfl, hfirst, hsecond⟩ := List.sublist_append_iff.mp hleft
      refine hfirst.append ?_
      rcases List.sublist_cons_iff.mp hsecond with hin | ⟨rest, rfl, -⟩
      · exact hin
      · exact absurd (List.mem_append_right first List.mem_cons_self)
          (happart x List.mem_cons_self)
    rw [List.forall_mem_cons] at happart
    have hkeep' : (before ++ after).Pairwise fun y z => z ∈ order → (edit y).KeepsPlace :=
      (hkeep.sublist hsub).imp fun h hz => h (List.mem_cons_of_mem x hz)
    have hcovx := hcov x (by simp)
    have hbefore : ∀ e ∈ before.map edit, e.KeepsPlace := by
      intro e he
      obtain ⟨y, hy, rfl⟩ := List.mem_map.mp he
      exact (List.pairwise_append.mp hkeep).2.2 y hy x List.mem_cons_self List.mem_cons_self
    have hcovBefore : ∀ e ∈ before.map edit, (Document.mk text "").Covers e.range := by
      intro e he
      obtain ⟨y, hy, rfl⟩ := List.mem_map.mp he
      exact hcov y (List.mem_append_left _ hy)
    rw [List.map_append, List.map_cons] at horder
    have hplace : Position.zero.extent
        (weave (text.take ((Document.mk text "").offsetOf (edit x).range.start)) 0
          (before.map fun y => (Document.mk text "").spliceOf (edit y)))
            = (edit x).range.start := by
      have hextent := extent_weave hcovBefore hbefore (by
        rw [List.map_map]
        exact horder.split.1)
      rw [List.map_map] at hextent
      exact hextent.trans hcovx.start_eq.symm
    have hundo := applyEdits_undo true hcovx horder hplace
    have hrest := ih hperm' hleft' happart.2 (fun y hy => hcov y (hsub.subset hy)) hkeep'
      (by rw [List.map_append]; exact horder.without)
    rw [List.map_append, List.map_cons, List.map_cons, Edit.undoEach_cons, hundo,
      ← List.map_append]
    exact hrest

end Emend
