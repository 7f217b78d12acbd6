import Emend.Proofs.Edit.Batch
import Emend.Proofs.Pattern.Replace

/-!
# Edits of matches

Spans that come one after the other, none of them twice, never clash, even where they touch or take nothing. So edits
of some of them, submitted in any order, are made as if the text was gone through once, from match to match
(`applyEdits_eq_substituted`).

Main statements:

* `mem_chosen`, `chosen_precedes`, `not_clash_chosen`: the splices of the matches that are replaced.
* `weave_chosen`: weaving them is going from match to match.
* `perm_chosen`, `ordered_eq_chosen`: any order of the numbers gives the same splices.
* `applyEdits_eq_substituted`: what the batch makes of the text.
-/

namespace Emend

open Pattern

namespace Splice

variable {newText : Int → Option (List Char)} {spans : List (Nat × Nat)} {number o bound : Nat} {s : Splice}

/-- The splices of the matches that have a new text, in the order of the matches. -/
def chosen (newText : Int → Option (List Char)) (number : Nat) (spans : List (Nat × Nat)) : List Splice :=
  (spans.zipIdx number).filterMap fun x => (newText x.2).map fun new => ⟨x.1.1, x.1.2, new, 0⟩

theorem chosen_cons (newText : Int → Option (List Char)) (number : Nat) (x : Nat × Nat)
    (rest : List (Nat × Nat)) : chosen newText number (x :: rest)
      = ((newText number).map fun new => (⟨x.1, x.2, new, 0⟩ : Splice)).toList
        ++ chosen newText (number + 1) rest := by
  rw [chosen, List.zipIdx_cons, List.filterMap_cons]
  rcases newText number with _ | new
  · rfl
  · rfl

theorem mem_chosen : s ∈ chosen newText number spans ↔
    ∃ k x new, spans[k]? = some x ∧ newText (number + k : Nat) = some new ∧ s = ⟨x.1, x.2, new, 0⟩ := by
  simp only [chosen, List.mem_filterMap, Option.map_eq_some_iff]
  -- A number of the walk is the number of the first span plus the place of the span in the list.
  constructor
  · rintro ⟨⟨x, i⟩, hmem, new, hnew, rfl⟩
    obtain ⟨hi, hx⟩ := List.mk_mem_zipIdx_iff_le_and_getElem?_sub.mp hmem
    refine ⟨i - number, x, new, hx, ?_, rfl⟩
    rw [Nat.add_sub_cancel' hi]
    exact hnew
  · rintro ⟨k, x, new, hx, hnew, rfl⟩
    refine ⟨(x, number + k), ?_, new, hnew, rfl⟩
    rw [List.mk_mem_zipIdx_iff_le_and_getElem?_sub, Nat.add_sub_cancel_left]
    exact ⟨Nat.le_add_right _ _, hx⟩

/-- What is chosen lies where the matches lie. -/
theorem liesFrom_of_mem_chosen (hlies : ∀ x ∈ spans, LiesFrom bound o x) (hs : s ∈ chosen newText number spans) :
    LiesFrom bound o (s.start, s.stop) := by
  obtain ⟨k, x, new, hx, -, rfl⟩ := mem_chosen.mp hs
  exact hlies x (List.mem_of_getElem? hx)

/-- What is chosen of matches in order is in order. -/
theorem chosen_precedes (hapart : spans.Pairwise Precedes) :
    (chosen newText number spans).Pairwise fun s t => Precedes (s.start, s.stop) (t.start, t.stop) := by
  -- Induction on the spans, their numbers free: what is chosen of the rest stems from the rest, which the first span
  -- precedes.
  induction spans generalizing number with
  | nil => exact List.Pairwise.nil
  | cons x rest ih =>
    rw [List.pairwise_cons] at hapart
    rw [chosen_cons, List.pairwise_append]
    refine ⟨?_, ih hapart.2, ?_⟩
    · rcases newText number with _ | new
      · exact List.Pairwise.nil
      · exact List.pairwise_singleton _ _
    · intro s hs t ht
      obtain ⟨new, -, rfl⟩ := Option.map_eq_some_iff.mp (Option.mem_toList.mp hs)
      obtain ⟨k, y, -, hy, -, rfl⟩ := mem_chosen.mp ht
      exact hapart.1 y (List.mem_of_getElem? hy)

/-! ## One after the other -/

section

variable (hlies : ∀ x ∈ spans, LiesFrom bound o x) (hapart : spans.Pairwise Precedes)
include hlies hapart

theorem inOrder_chosen (ho : o ≤ bound) : InOrder bound o (chosen newText number spans) := by
  refine inOrder_of_pairwise ho ?_ ?_ ?_ ?_
  · exact fun s hs => (liesFrom_of_mem_chosen hlies hs).start_le
  · exact fun s hs => (liesFrom_of_mem_chosen hlies hs).forward
  · exact fun s hs => (liesFrom_of_mem_chosen hlies hs).inside
  · exact (chosen_precedes hapart).imp fun h => h.1

/-- Matches come in the order of their spans. -/
theorem spanLe_chosen : (chosen newText number spans).Pairwise fun s t => spanLe s t := by
  refine (chosen_precedes hapart).imp_of_mem ?_
  intro s t hs ht hprecedes
  have hbefore : s.stop ≤ t.start := hprecedes.1
  have hs' : s.start ≤ s.stop := (liesFrom_of_mem_chosen hlies hs).forward
  have ht' : t.start ≤ t.stop := (liesFrom_of_mem_chosen hlies ht).forward
  rw [spanLe_iff]
  omega

end

/-- No two matches clash. A match of nothing is no overlap where it touches another one. -/
theorem not_clash_chosen (hapart : spans.Pairwise Precedes) :
    (chosen newText number spans).Pairwise fun s t => ¬ Clash s t := by
  refine (chosen_precedes hapart).imp ?_
  intro s t hprecedes hclash
  have hbefore : s.stop ≤ t.start := hprecedes.1
  have hreaches : t.start < s.stop := hclash.2
  omega

/-- No two of the chosen splices have one span. -/
theorem eq_of_mem_chosen (hapart : spans.Pairwise Precedes) {s t : Splice}
    (hs : s ∈ chosen newText number spans) (ht : t ∈ chosen newText number spans)
    (hst : spanLe s t) (hts : spanLe t s) : s = t := by
  -- Two splices that sort equal have the same ends, and no two spans have both.
  by_contra hne
  have hsymm : Std.Symm fun a b : Splice => (a.start, a.stop) ≠ (b.start, b.stop) := ⟨fun _ _ h => h.symm⟩
  have hdistinct : (s.start, s.stop) ≠ (t.start, t.stop) :=
    ((chosen_precedes hapart).imp fun h => h.2).forall hs ht hne
  rw [spanLe_iff] at hst hts
  refine hdistinct (Prod.ext ?_ ?_)
  · show s.start = t.start
    omega
  · show s.stop = t.stop
    omega

theorem nodup_chosen (hapart : spans.Pairwise Precedes) : (chosen newText number spans).Nodup := by
  refine (chosen_precedes hapart).imp ?_
  rintro s t ⟨-, hne⟩ rfl
  exact hne rfl

/-! ## Weaving the matches -/

/-- Weaving the chosen splices is going from match to match. One that is not chosen belongs to the gap in front of
the next one. -/
theorem weave_chosen {text : List Char} (ho : o ≤ text.length) (hlies : ∀ x ∈ spans, LiesFrom text.length o x)
    (hapart : spans.Pairwise Precedes) :
    weave text o (chosen newText number spans) = substituted text newText o number spans := by
  -- Induction on the spans. A span that is not chosen is copied along with the gap in front of it, a chosen one is
  -- replaced.
  induction spans generalizing o number with
  | nil => rfl
  | cons x rest ih =>
    obtain ⟨a, b⟩ := x
    rw [List.forall_mem_cons] at hlies
    rw [List.pairwise_cons] at hapart
    have ha : o ≤ a := hlies.1.start_le
    have hab : a ≤ b := hlies.1.forward
    have hb : b ≤ text.length := hlies.1.inside
    have hrest : ∀ y ∈ rest, LiesFrom text.length b y := by
      intro y hy
      exact ⟨(hapart.1 y hy).1, (hlies.2 y hy).forward, (hlies.2 y hy).inside⟩
    have hnext : weave text b (chosen newText (number + 1) rest) = substituted text newText b (number + 1) rest :=
      ih hb hrest hapart.2
    rw [chosen_cons, substituted]
    rcases newText number with _ | new
    · have hgap : (text.drop o).take (b - o) = (text.drop o).take (a - o) ++ (text.drop a).take (b - a) := by
        have hlength : b - o = (a - o) + (b - a) := by omega
        rw [hlength, List.take_add, List.drop_drop, Nat.add_sub_cancel' ha]
      rw [Option.map_none, Option.toList_none, List.nil_append, Option.getD_none,
        weave_from (ha.trans hab) (inOrder_chosen hrest hapart.2 hb), hgap, hnext]
    · rw [Option.map_some, Option.toList_some, List.singleton_append, Option.getD_some, weave, hnext]

/-! ## Any order -/

/-- The splice of the `n`-th match, counted from one. -/
def ofMatch (newText : Int → List Char) (spans : List (Nat × Nat)) (n : Int) : Splice :=
  ⟨(spans.getD (n - 1).toNat (0, 0)).1, (spans.getD (n - 1).toNat (0, 0)).2, newText n, 0⟩

theorem ofMatch_eq {newText : Int → List Char} {n : Int} {x : Nat × Nat}
    (h : spans[(n - 1).toNat]? = some x) : ofMatch newText spans n = ⟨x.1, x.2, newText n, 0⟩ := by
  rw [ofMatch, List.getD_eq_getElem?_getD, h, Option.getD_some]

/-- Splices of different matches are the chosen ones, in whatever order. -/
theorem perm_chosen (hapart : spans.Pairwise Precedes) {numbers : List Int} (hdistinct : numbers.Nodup)
    (hexist : ∀ n ∈ numbers, 1 ≤ n ∧ ∃ x, spans[(n - 1).toNat]? = some x) (newText : Int → List Char) :
    (numbers.map (ofMatch newText spans)).Perm
      (chosen (fun n => if n ∈ numbers then some (newText n) else none) 1 spans) := by
  have hnodup : spans.Nodup := hapart.imp fun h => h.2
  -- Neither list has anything twice, so it is enough that they have the same members.
  refine (List.perm_ext_iff_of_nodup ?_ (nodup_chosen hapart)).mpr ?_
  · refine hdistinct.map_on ?_
    intro m hm n hn hsame
    obtain ⟨hm', x, hx⟩ := hexist m hm
    obtain ⟨hn', y, hy⟩ := hexist n hn
    rw [ofMatch_eq hx, ofMatch_eq hy, Splice.mk.injEq] at hsame
    obtain rfl : x = y := Prod.ext hsame.1 hsame.2.1
    have hplace := (List.getElem?_eq_some_iff.mp hx).1
    have hindex := (List.getElem?_inj hplace hnodup).mp (hx.trans hy.symm)
    omega
  · intro s
    rw [List.mem_map, mem_chosen]
    constructor
    · rintro ⟨n, hn, rfl⟩
      obtain ⟨hn', x, hx⟩ := hexist n hn
      have hnumber : ((1 + (n - 1).toNat : Nat) : Int) = n := by omega
      refine ⟨_, x, newText n, hx, ?_, ofMatch_eq hx⟩
      rw [hnumber, if_pos hn]
    · rintro ⟨k, x, new, hx, hnew, rfl⟩
      have hplace : (((1 + k : Nat) : Int) - 1).toNat = k := by omega
      by_cases hmem : ((1 + k : Nat) : Int) ∈ numbers
      · rw [if_pos hmem] at hnew
        obtain rfl := Option.some.inj hnew
        exact ⟨_, hmem, ofMatch_eq (by rw [hplace]; exact hx)⟩
      · rw [if_neg hmem] at hnew
        simp at hnew

end Splice

namespace Document

variable {d : Document} {edits : List Edit} {newText : Int → Option (List Char)} {number : Nat}
  {spans : List (Nat × Nat)}

/-- Sorted by their ranges, edits of matches stand as the matches do. -/
theorem ordered_eq_chosen (hcov : ∀ e ∈ edits, d.Covers e.range)
    (hperm : (edits.map d.spliceOf).Perm (Splice.chosen newText number spans))
    (hlies : ∀ x ∈ spans, LiesFrom d.text.length 0 x) (hapart : spans.Pairwise Precedes) :
    d.ordered edits = Splice.chosen newText number spans := by
  have hsorted : (d.ordered edits).Pairwise fun s t => Splice.spanLe s t := by
    rw [ordered, List.pairwise_map]
    refine (List.pairwise_mergeSort Edit.rangeLe_trans Edit.rangeLe_total edits).imp_of_mem ?_
    intro e f he hf hle
    rw [spanLe_spliceOf (hcov e (List.mem_mergeSort.mp he)) (hcov f (List.mem_mergeSort.mp hf))]
    exact hle
  have hall := ((List.mergeSort_perm edits Edit.rangeLe).map d.spliceOf).trans hperm
  -- Two sorted permutations of each other, under an order that is antisymmetric on these spans.
  refine hall.eq_of_pairwise ?_ hsorted (Splice.spanLe_chosen hlies hapart)
  intro s t hs ht hst hts
  exact Splice.eq_of_mem_chosen hapart (hall.mem_iff.mp hs) ht hst hts

theorem clear_of_perm_chosen (hperm : (edits.map d.spliceOf).Perm (Splice.chosen newText number spans))
    (hapart : spans.Pairwise Precedes) : d.Clear edits := by
  have hclear := (hperm.pairwise_iff (R := fun a b => ¬ Splice.Clash a b) fun h hba => h hba.symm).mpr
    (Splice.not_clash_chosen hapart)
  exact List.pairwise_map.mp hclear

end Document

/-- Edits of matches, in any order, give the matches up for their new texts. -/
theorem applyEdits_eq_substituted {text : List Char} {edits : List Edit} {newText : Int → Option (List Char)}
    {spans : List (Nat × Nat)} (hcov : ∀ e ∈ edits, (Document.mk text "").Covers e.range)
    (hperm : (edits.map (Document.mk text "").spliceOf).Perm (Splice.chosen newText 1 spans))
    (hlies : ∀ x ∈ spans, LiesFrom text.length 0 x) (hapart : spans.Pairwise Precedes) :
    applyEdits text edits = .ok (substituted text newText 0 1 spans) := by
  rw [applyEdits_eq_weave true hcov (Document.clear_of_perm_chosen hperm hapart),
    Document.ordered_eq_chosen hcov hperm hlies hapart, Splice.weave_chosen (Nat.zero_le _) hlies hapart]

end Emend
