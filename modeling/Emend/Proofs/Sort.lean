import Mathlib

/-!
# Stable sorting

What is left out of a list can be left out before or after sorting (`filter_mergeSort`): a stable sort keeps
what it compares as equal in the order of the list. So lists in which elements that compare as equal stand in
the same order are sorted to the same list (`mergeSort_eq_of_filter_eq`).

Main statements:

* `mergeSort_cons_spec`: where a new first element goes.
* `filter_mergeSort`, `mergeSort_eq_of_filter_eq`: the order of what compares as equal.
-/

namespace Emend.Sort

variable {α : Type} {le : α → α → Bool}

/-- A list in two parts, the first of which is what fails a test: the parts are known from the list. -/
theorem append_inj_of_split {p : α → Bool} {xs ys us vs : List α} (h : xs ++ ys = us ++ vs)
    (hxs : ∀ a ∈ xs, p a = false) (hys : ∀ a ∈ ys, p a = true) (hus : ∀ a ∈ us, p a = false)
    (hvs : ∀ a ∈ vs, p a = true) : xs = us ∧ ys = vs := by
  -- The two parts of such a list are found by filtering it.
  have hfirst : ∀ {as bs : List α}, (∀ a ∈ as, p a = false) → (∀ a ∈ bs, p a = true) →
      (as ++ bs).filter (fun a => !p a) = as ∧ (as ++ bs).filter p = bs := by
    intro as bs has hbs
    rw [List.filter_append, List.filter_append]
    constructor
    · rw [List.filter_eq_self.mpr (by simpa using has),
        List.filter_eq_nil_iff.mpr (by simpa using hbs), List.append_nil]
    · rw [List.filter_eq_nil_iff.mpr (by simpa using has), List.filter_eq_self.mpr hbs,
        List.nil_append]
  have hx := hfirst hxs hys
  have hu := hfirst hus hvs
  rw [h] at hx
  exact ⟨hx.1.symm.trans hu.1, hx.2.symm.trans hu.2⟩

/-- The head of a list is put behind everything that has to come before it, and before the rest. -/
theorem mergeSort_cons_spec (trans : ∀ a b c, le a b → le b c → le a c)
    (total : ∀ a b, (le a b || le b a) = true) (a : α) (l : List α) :
    ∃ before after, (a :: l).mergeSort le = before ++ a :: after ∧
      l.mergeSort le = before ++ after ∧ (∀ b ∈ before, le a b = false) ∧
        ∀ b ∈ after, le a b = true := by
  obtain ⟨before, after, hcons, htail, hbefore⟩ := List.mergeSort_cons trans total a l
  have hsorted := List.pairwise_mergeSort trans total (a :: l)
  rw [hcons] at hsorted
  have hafter := (List.pairwise_cons.mp (List.pairwise_append.mp hsorted).2.1).1
  refine ⟨before, after, hcons, htail, ?_, hafter⟩
  intro b hb
  simpa using hbefore b hb

/-- Leaving out commutes with sorting. -/
theorem filter_mergeSort (trans : ∀ a b c, le a b → le b c → le a c)
    (total : ∀ a b, (le a b || le b a) = true) (p : α → Bool) (l : List α) :
    (l.mergeSort le).filter p = (l.filter p).mergeSort le := by
  -- Induction on the list. The first element is put in front of those that it is not greater than, which filtering
  -- does not move.
  induction l with
  | nil => simp
  | cons a l ih =>
    obtain ⟨before, after, hcons, htail, hbefore, hafter⟩ := mergeSort_cons_spec trans total a l
    rw [htail, List.filter_append] at ih
    rw [hcons, List.filter_append]
    by_cases hp : p a
    · rw [List.filter_cons_of_pos hp, List.filter_cons_of_pos hp]
      obtain ⟨before', after', hcons', htail', hbefore', hafter'⟩ :=
        mergeSort_cons_spec trans total a (l.filter p)
      rw [htail'] at ih
      obtain ⟨hb, ha⟩ := append_inj_of_split ih
        (fun b hb => hbefore b (List.mem_filter.mp hb).1)
        (fun b hb => hafter b (List.mem_filter.mp hb).1) hbefore' hafter'
      rw [hcons', hb, ha]
    · rw [List.filter_cons_of_neg hp, List.filter_cons_of_neg hp, ih]

/-- Sorted lists are one list if they have the same of each class of elements that compare as equal. -/
theorem eq_of_sorted_of_filter_eq (total : ∀ a b, (le a b || le b a) = true) {l l' : List α}
    (hl : l.Pairwise fun a b => le a b = true) (hl' : l'.Pairwise fun a b => le a b = true)
    (h : ∀ a, l.filter (fun b => le a b && le b a) = l'.filter fun b => le a b && le b a) :
    l = l' := by
  have hrefl : ∀ a, le a a = true := fun a => by simpa using total a a
  induction l generalizing l' with
  | nil =>
    rcases l' with _ | ⟨b, l'⟩
    · rfl
    · have hb := h b
      simp [hrefl b] at hb
  | cons a l ih =>
    rcases l' with _ | ⟨b, l'⟩
    · have ha := h a
      simp [hrefl a] at ha
    · rw [List.pairwise_cons] at hl hl'
      -- each head is in the other list, so the two compare as equal and head one class
      have hab : le a b = true := by
        have hmem : b ∈ (a :: l).filter fun c => le b c && le c b := by
          rw [h b]
          simp [hrefl b]
        rcases List.mem_cons.mp (List.mem_filter.mp hmem).1 with rfl | hin
        · exact hrefl b
        · exact hl.1 b hin
      have hba : le b a = true := by
        have hmem : a ∈ (b :: l').filter fun c => le a c && le c a := by
          rw [← h a]
          simp [hrefl a]
        rcases List.mem_cons.mp (List.mem_filter.mp hmem).1 with rfl | hin
        · exact hrefl a
        · exact hl'.1 a hin
      have hheads := h a
      rw [List.filter_cons_of_pos (by simp [hrefl a]),
        List.filter_cons_of_pos (by simp [hab, hba])] at hheads
      obtain ⟨rfl, -⟩ := List.cons.inj hheads
      have htails : l = l' := by
        refine ih hl.2 hl'.2 ?_
        intro c
        have hc := h c
        rw [List.filter_cons, List.filter_cons] at hc
        split at hc
        · exact (List.cons.inj hc).2
        · exact hc
      rw [htails]

/-- Lists that have the same of each class of elements that compare as equal are sorted alike. -/
theorem mergeSort_eq_of_filter_eq (trans : ∀ a b c, le a b → le b c → le a c)
    (total : ∀ a b, (le a b || le b a) = true) {l l' : List α}
    (h : ∀ a, l.filter (fun b => le a b && le b a) = l'.filter fun b => le a b && le b a) :
    l.mergeSort le = l'.mergeSort le := by
  refine eq_of_sorted_of_filter_eq total (List.pairwise_mergeSort trans total l)
    (List.pairwise_mergeSort trans total l') ?_
  intro a
  rw [filter_mergeSort trans total, filter_mergeSort trans total, h a]

end Emend.Sort
