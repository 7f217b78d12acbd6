import Emend.Proofs.Edit.Batch

/-!
# Edits over each other

Where overlaps are let through, a splice can land on what other splices have left. The text up to a place stays as it
was as long as every splice starts there or behind it, whatever the splices take away (`prefix_foldr_apply`). So the
splice that comes first in order, which is made last, finds the original text up to its start, and its new text is
what stands behind it (`applyEdits_front`).

Main statements:

* `prefix_foldr_apply`, `prefix_applyAll`: what later splices leave alone.
* `applyEdits_front`: what the first splice in order leaves in the text.
-/

namespace Emend

namespace Splice

variable {text : List Char} {splices : List Splice} {s t : Splice}

/-- No splice of the batch comes before this one: by start, by end, then as submitted. -/
def IsFirst (splices : List Splice) (s : Splice) : Prop := s ∈ splices ∧ ∀ t ∈ splices, s.le t

/-- Splices that start at a place or behind it leave the text up to the place as it was. -/
theorem prefix_foldr_apply {n : Nat} (hn : n ≤ text.length) (hbehind : ∀ s ∈ splices, n ≤ s.start) :
    text.take n <+: splices.foldr apply text := by
  induction splices with
  | nil => exact List.take_prefix n text
  | cons s rest ih =>
    rw [List.forall_mem_cons] at hbehind
    -- what the later splices left still has the front, so a cut at `s.start` keeps all of it
    have hfront : text.take n <+: rest.foldr apply text := ih hbehind.2
    have hlength : (text.take n).length = n := List.length_take_of_le hn
    have hkept : text.take n <+: (rest.foldr apply text).take s.start :=
      List.prefix_take_iff.mpr ⟨hfront, by omega⟩
    rw [List.foldr_cons, apply, List.append_assoc]
    exact hkept.trans (List.prefix_append _ _)

/-- A splice that is made on a text with the original front puts its new text right behind the front. -/
theorem prefix_apply {after : List Char} (hs : s.start ≤ text.length)
    (hfront : text.take s.start <+: after) : text.take s.start ++ s.newText <+: s.apply after := by
  have hcut : after.take s.start = text.take s.start := by
    rw [List.prefix_iff_eq_take, List.length_take_of_le hs] at hfront
    exact hfront.symm
  rw [apply, hcut]
  exact List.prefix_append _ _

/-- The splice at the head of the sorted batch is the first one. -/
theorem isFirst_of_mergeSort {rest : List Splice} (h : splices.mergeSort le = s :: rest) :
    IsFirst splices s := by
  have hsorted := List.pairwise_mergeSort le_trans le_total splices
  rw [h, List.pairwise_cons] at hsorted
  have hmem : ∀ {t}, t ∈ splices ↔ t = s ∨ t ∈ rest := by
    intro t
    rw [← List.mem_cons, ← h, List.mem_mergeSort]
  refine ⟨hmem.mpr (.inl rfl), ?_⟩
  intro t ht
  rcases hmem.mp ht with rfl | ht
  · simpa using le_total t t
  · exact hsorted.1 t ht

/-- All splices made: the original text up to the start of the head of the sorted batch, then its new text. -/
theorem prefix_applyAll {rest : List Splice} (h : splices.mergeSort le = s :: rest)
    (hs : s.start ≤ text.length) : text.take s.start ++ s.newText <+: applyAll splices text := by
  have hsorted := List.pairwise_mergeSort le_trans le_total splices
  rw [h, List.pairwise_cons] at hsorted
  have hbehind : ∀ t ∈ rest, s.start ≤ t.start := by
    intro t ht
    have hle := hsorted.1 t ht
    rw [le_iff] at hle
    omega
  rw [applyAll, h, List.foldr_cons]
  exact prefix_apply hs (prefix_foldr_apply hs hbehind)

end Splice

namespace Document

/-- Splices of one place in the batch are one splice. -/
theorem eq_of_index_eq {d : Document} {edits : List Edit} {s t : Splice}
    (hs : s ∈ edits.zipIdx.map d.numberedSplice) (ht : t ∈ edits.zipIdx.map d.numberedSplice)
    (h : s.index = t.index) : s = t := by
  obtain ⟨⟨e, i⟩, he, rfl⟩ := List.mem_map.mp hs
  obtain ⟨⟨f, j⟩, hf, rfl⟩ := List.mem_map.mp ht
  obtain rfl : i = j := h
  rw [List.mk_mem_zipIdx_iff_getElem?] at he hf
  obtain rfl : e = f := Option.some.inj (he.symm.trans hf)
  rfl

/-- Only one splice of a batch comes first. -/
theorem eq_of_isFirst {d : Document} {edits : List Edit} {s t : Splice}
    (hs : Splice.IsFirst (edits.zipIdx.map d.numberedSplice) s)
    (ht : Splice.IsFirst (edits.zipIdx.map d.numberedSplice) t) : s = t := by
  have hst := hs.2 t ht.1
  have hts := ht.2 s hs.1
  rw [Splice.le_iff] at hst hts
  exact eq_of_index_eq hs.1 ht.1 (by omega)

end Document

/-- Where overlaps are let through, a batch of edits inside of the text is made, whatever the edits share. One of its
splices comes first, and the new text begins with the original text up to the start of that splice and the whole of
what it puts in. -/
theorem applyEdits_front {text : List Char} {edits : List Edit} (hne : edits ≠ [])
    (hcov : ∀ e ∈ edits, (Document.mk text "").Covers e.range) :
    ∃ after splices, applyEdits text edits false = .ok after ∧
      (Document.mk text "").splices edits = .ok splices ∧
      (∃ first, Splice.IsFirst splices first) ∧
      ∀ first, Splice.IsFirst splices first → text.take first.start ++ first.newText <+: after := by
  have hsplices := Document.splices_eq_ok_iff.mpr ⟨hcov, rfl⟩
  have hafter : applyEdits text edits false
      = .ok (Splice.applyAll (edits.zipIdx.map (Document.mk text "").numberedSplice) text) := by
    have hsome : edits.isEmpty = false := by simpa using hne
    rw [applyEdits, hsome, hsplices]
    rfl
  -- The first in order is made last, so what it writes is not touched again.
  obtain ⟨head, rest, hsort⟩ : ∃ head rest,
      (edits.zipIdx.map (Document.mk text "").numberedSplice).mergeSort Splice.le = head :: rest := by
    refine List.exists_cons_of_length_pos ?_
    rw [List.length_mergeSort, List.length_map, List.length_zipIdx]
    exact List.length_pos_iff.mpr hne
  have hhead := Splice.isFirst_of_mergeSort hsort
  refine ⟨_, _, hafter, hsplices, ⟨head, hhead⟩, ?_⟩
  intro first hfirst
  obtain rfl : first = head := Document.eq_of_isFirst hfirst hhead
  obtain ⟨hforward, hstop⟩ := Document.forward_numberedSplice hcov first hfirst.1
  exact Splice.prefix_applyAll hsort (hforward.trans hstop)

/-- An edit and two of one narrower range inside of it, all with one start. The narrower range comes first, and of its
two edits the one that was submitted first: its text stands whole behind the `a`, though it is made on what the others
left. -/
theorem applyEdits_front_nested :
    let text := "abcd".toList
    let narrow : Range := ⟨⟨0, 1⟩, ⟨0, 2⟩, by decide⟩
    let edits : List Edit :=
      [⟨⟨⟨0, 1⟩, ⟨0, 4⟩, by decide⟩, ['W']⟩, ⟨narrow, ['N', 'M']⟩, ⟨narrow, ['P']⟩]
    let first : Splice := ⟨1, 2, ['N', 'M'], 1⟩
    edits ≠ [] ∧ (∀ e ∈ edits, (Document.mk text "").Covers e.range) ∧
      applyEdits text edits false = .ok "aNM".toList ∧
        text.take first.start ++ first.newText <+: "aNM".toList := by
  intro text narrow edits first
  have hne : edits ≠ [] := List.cons_ne_nil _ _
  have hcov : ∀ e ∈ edits, (Document.mk text "").Covers e.range := by
    simp only [edits, List.forall_mem_cons]
    exact ⟨⟨rfl, rfl⟩, ⟨rfl, rfl⟩, ⟨rfl, rfl⟩, by simp⟩
  have hmade : applyEdits text edits false = .ok "aNM".toList := by cbv
  obtain ⟨after, splices, hafter, hsplices, -, hfront⟩ := applyEdits_front hne hcov
  obtain rfl : "aNM".toList = after := Except.ok.inj (hmade.symm.trans hafter)
  obtain rfl : [⟨1, 4, ['W'], 0⟩, first, ⟨1, 2, ['P'], 2⟩] = splices := Except.ok.inj hsplices
  exact ⟨hne, hcov, hmade, hfront first ⟨by simp, by decide⟩⟩

end Emend
