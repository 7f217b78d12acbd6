import Mathlib
import Emend.Edit.Batch

/-!
# Overlaps

The check of a batch looks at neighbours only, in an order of its own. It accepts exactly the batches in
which no two splices clash (`overlap?_eq_none_iff`), and the splices of such a batch, in the order in
which they are made, come one after the other (`stop_le_start_of_sorted`). What it refuses a batch for is
there (`checkOverlaps_refuses_iff`).

Main statements:

* `firstClash_eq_none_iff`, `firstClash_mergeSort_eq_none_iff`: neighbours are enough.
* `overlap?_eq_none_iff`, `checkOverlaps_eq_ok_iff`: what is accepted.
* `clash_iff`, `not_pairwise_iff`: what it means to clash, for spans and insertions.
* `checkOverlaps_refuses_iff`: what is refused, and for what.
-/

namespace Emend.Splice

/-- A splice does not end before it starts. -/
def Forward (s : Splice) : Prop := s.start ≤ s.stop

/-- Two splices claim the same text: two spans share a character, or one of the two inserts strictly
inside of the other. -/
def Clash (a b : Splice) : Prop := a.start < b.stop ∧ b.start < a.stop

instance (a b : Splice) : Decidable (Clash a b) := by
  unfold Clash
  infer_instance

theorem Clash.symm {a b : Splice} (h : Clash a b) : Clash b a := ⟨h.2, h.1⟩

/-- Insertions never clash with each other. -/
theorem not_clash_of_insertions {a b : Splice} (ha : a.isInsertion) (hb : b.isInsertion) :
    ¬ Clash a b := by
  simp only [isInsertion, beq_iff_eq] at ha hb
  unfold Clash
  omega

/-! ## The order of spans -/

theorem spanLe_iff (a b : Splice) :
    spanLe a b ↔ a.start < b.start ∨ (a.start = b.start ∧ a.stop ≤ b.stop) := by
  simp [spanLe]

theorem spanLe_trans (a b c : Splice) (hab : spanLe a b) (hbc : spanLe b c) : spanLe a c := by
  rw [spanLe_iff] at *
  omega

theorem spanLe_total (a b : Splice) : (spanLe a b || spanLe b a) = true := by
  rw [Bool.or_eq_true, spanLe_iff, spanLe_iff]
  omega

theorem le_iff (a b : Splice) :
    le a b ↔ a.start < b.start ∨ (a.start = b.start ∧
      (a.stop < b.stop ∨ (a.stop = b.stop ∧ a.index ≤ b.index))) := by
  simp [le]

theorem le_trans (a b c : Splice) (hab : le a b) (hbc : le b c) : le a c := by
  rw [le_iff] at *
  omega

theorem le_total (a b : Splice) : (le a b || le b a) = true := by
  rw [Bool.or_eq_true, le_iff, le_iff]
  omega

/-- Splices in order that do not clash: the first is over before the second starts. -/
theorem stop_le_start {a b : Splice} (hb : Forward b) (hab : le a b) (hc : ¬ Clash a b) :
    a.stop ≤ b.start := by
  rw [le_iff] at hab
  unfold Forward at hb
  unfold Clash at hc
  omega

/-- The splices of a batch without a clash, in the order in which their texts appear, come one after the
other. -/
theorem stop_le_start_of_sorted {splices : List Splice} (hf : ∀ s ∈ splices, Forward s)
    (hc : splices.Pairwise fun a b => ¬ Clash a b) :
    (splices.mergeSort le).Pairwise fun a b => a.stop ≤ b.start := by
  have hperm := List.mergeSort_perm splices le
  have hsorted := List.pairwise_mergeSort le_trans le_total splices
  have hclear : (splices.mergeSort le).Pairwise fun a b => ¬ Clash a b :=
    (hperm.symm.pairwise_iff fun h hba => h hba.symm).mp hc
  refine (hsorted.and hclear).imp_of_mem ?_
  intro a b _ hb hab
  exact stop_le_start (hf b (hperm.mem_iff.mp hb)) hab.1 hab.2

/-! ## The check -/

/-- Comparing neighbours is enough: what ends before its neighbour starts ends before all that
follow. -/
theorem firstClash_eq_none_iff {spans : List Splice} (hf : ∀ s ∈ spans, Forward s) :
    firstClash spans = none ↔ spans.Pairwise fun a b => a.stop ≤ b.start := by
  -- The check compares neighbours only. What it shows of the first two holds of the first and any later one, since
  -- each span ends no earlier than it starts.
  induction spans with
  | nil => simp [firstClash]
  | cons a rest ih =>
    have hrest : ∀ s ∈ rest, Forward s := fun s hs => hf s (List.mem_cons_of_mem a hs)
    rcases rest with _ | ⟨b, rest⟩
    · simp [firstClash]
    · have hb : Forward b := hrest b List.mem_cons_self
      unfold Forward at hb
      rw [firstClash, List.pairwise_cons]
      by_cases hab : b.start < a.stop
      · simp only [hab, if_true]
        constructor
        · intro h
          simp at h
        · intro h
          have := h.1 b List.mem_cons_self
          omega
      · simp only [hab, if_false]
        rw [ih hrest]
        constructor
        · intro h
          refine ⟨?_, h⟩
          intro c hc
          rcases List.mem_cons.mp hc with rfl | hc
          · omega
          · have hbc := (List.pairwise_cons.mp h).1 c hc
            omega
        · intro h
          exact h.2

/-- Of spans, the check finds a clash if there is one. -/
theorem firstClash_mergeSort_eq_none_iff {spans : List Splice}
    (hspan : ∀ s ∈ spans, s.start < s.stop) :
    firstClash (spans.mergeSort spanLe) = none ↔ spans.Pairwise fun a b => ¬ Clash a b := by
  have hperm := List.mergeSort_perm spans spanLe
  have hsorted := List.pairwise_mergeSort spanLe_trans spanLe_total spans
  have hspan' : ∀ s ∈ spans.mergeSort spanLe, s.start < s.stop :=
    fun s hs => hspan s (hperm.mem_iff.mp hs)
  rw [firstClash_eq_none_iff fun s hs => Nat.le_of_lt (hspan' s hs),
    ← hperm.pairwise_iff (R := fun a b => ¬ Clash a b) fun h hba => h hba.symm]
  -- In sorted order "does not clash" and "ends before the next starts" are the same for spans that are not empty; the
  -- sorting itself moves only the order of the pairs.
  constructor
  · intro h
    refine h.imp ?_
    intro a b hab hclash
    have := hclash.2
    omega
  · intro h
    refine (hsorted.and h).imp_of_mem ?_
    rintro a b - hb ⟨hab, hclear⟩
    have hb' := hspan' b hb
    rw [spanLe_iff] at hab
    unfold Clash at hclear
    omega

theorem spanAround_eq_none_iff {spans : List Splice} {i : Splice} (hi : i.isInsertion) :
    spanAround spans i = none ↔ ∀ s ∈ spans, ¬ Clash s i := by
  simp only [isInsertion, beq_iff_eq] at hi
  simp only [spanAround, Option.map_eq_none_iff, List.find?_eq_none, Clash, hi,
    Bool.and_eq_true, decide_eq_true_eq]

/-- The splices that do not insert take something away. -/
theorem start_lt_stop_of_mem_filter {splices : List Splice} {s : Splice} (hf : ∀ s ∈ splices, Forward s)
    (hs : s ∈ splices.filter (!·.isInsertion)) : s.start < s.stop := by
  obtain ⟨hmem, hspan⟩ := List.mem_filter.mp hs
  have hne : s.start ≠ s.stop := by simpa [isInsertion] using hspan
  exact Nat.lt_of_le_of_ne (hf s hmem) hne

/-- The check accepts exactly the batches in which no two splices clash. -/
theorem overlap?_eq_none_iff {splices : List Splice} (hf : ∀ s ∈ splices, Forward s) :
    overlap? splices = none ↔ splices.Pairwise fun a b => ¬ Clash a b := by
  have hspan : ∀ s ∈ splices.filter (!·.isInsertion), s.start < s.stop :=
    fun s hs => start_lt_stop_of_mem_filter hf hs
  have hins : (splices.filter (·.isInsertion)).Pairwise fun a b => ¬ Clash a b := by
    refine List.pairwise_of_forall_mem_list ?_
    intro a ha b hb
    exact not_clash_of_insertions (List.mem_filter.mp ha).2 (List.mem_filter.mp hb).2
  -- A batch is its spans and its insertions. The first check is about pairs of spans, the second about a span and an
  -- insertion; two insertions never clash.
  have hsplit : (splices.filter (!·.isInsertion) ++ splices.filter (·.isInsertion)).Perm splices := by
    have h := List.filter_append_perm (fun s : Splice => s.isInsertion) splices
    exact List.perm_append_comm.trans h
  rw [← hsplit.pairwise_iff (R := fun a b => ¬ Clash a b) fun h hba => h hba.symm,
    List.pairwise_append, ← firstClash_mergeSort_eq_none_iff hspan]
  simp only [overlap?, Option.orElse_eq_none, List.findSome?_eq_none_iff]
  constructor
  · rintro ⟨hfirst, haround⟩
    refine ⟨hfirst, hins, ?_⟩
    intro s hs i hi
    have hnone := (spanAround_eq_none_iff (List.mem_filter.mp hi).2).mp (haround i hi)
    exact hnone s (List.mem_mergeSort.mpr hs)
  · rintro ⟨hfirst, -, hcross⟩
    refine ⟨hfirst, ?_⟩
    intro i hi
    rw [spanAround_eq_none_iff (List.mem_filter.mp hi).2]
    intro s hs
    exact hcross s (List.mem_mergeSort.mp hs) i hi

/-! ## What a batch is refused for -/

/-- Some character lies in both spans. -/
def Share (a b : Splice) : Prop := ∃ n, (a.start ≤ n ∧ n < a.stop) ∧ b.start ≤ n ∧ n < b.stop

/-- The first splice takes nothing away, and lies strictly inside of the span of the second. -/
def InsertsInside (a b : Splice) : Prop :=
  a.start = a.stop ∧ b.start < a.start ∧ a.start < b.stop

/-- A clash is one of two things: a character that both take away, or an insertion inside of what the other
takes away. -/
theorem clash_iff {a b : Splice} (ha : Forward a) (hb : Forward b) :
    Clash a b ↔ Share a b ∨ InsertsInside a b ∨ InsertsInside b a := by
  unfold Forward at ha hb
  unfold Clash Share InsertsInside
  constructor
  · rintro ⟨hab, hba⟩
    by_cases hempty : a.start = a.stop ∨ b.start = b.stop
    · exact .inr (by omega)
    · -- of two spans that clash, the later start lies in both
      refine .inl ⟨max a.start b.start, ?_⟩
      omega
  · rintro (⟨n, hna, hnb⟩ | hinside | hinside)
    · omega
    · omega
    · omega

/-- In a batch some two splices clash if two of its places hold splices that do. -/
theorem not_pairwise_iff {splices : List Splice} (hf : ∀ s ∈ splices, Forward s) :
    (¬ splices.Pairwise fun a b => ¬ Clash a b) ↔
      ∃ i j, ∃ (hi : i < splices.length) (hj : j < splices.length), i ≠ j ∧
        (Share splices[i] splices[j] ∨ InsertsInside splices[i] splices[j]) := by
  have hclash : ∀ i j (hi : i < splices.length) (hj : j < splices.length),
      Clash splices[i] splices[j] ↔ Share splices[i] splices[j] ∨
        InsertsInside splices[i] splices[j] ∨ InsertsInside splices[j] splices[i] :=
    fun i j hi hj => clash_iff (hf _ (List.getElem_mem hi)) (hf _ (List.getElem_mem hj))
  rw [List.pairwise_iff_getElem]
  constructor
  · intro h
    push Not at h
    obtain ⟨i, j, hi, hj, hij, hc⟩ := h
    rcases (hclash i j hi hj).mp hc with hshare | hinside | hinside
    · exact ⟨i, j, hi, hj, by omega, .inl hshare⟩
    · exact ⟨i, j, hi, hj, by omega, .inr hinside⟩
    · exact ⟨j, i, hj, hi, by omega, .inr hinside⟩
  · rintro ⟨i, j, hi, hj, hne, h⟩ hall
    have hc : Clash splices[i] splices[j] := (hclash i j hi hj).mpr (h.imp_right .inl)
    -- the earlier of the two places comes first in the list
    rcases Nat.lt_or_gt_of_ne hne with hlt | hlt
    · exact hall i j hi hj hlt hc
    · exact hall j i hj hi hlt hc.symm

/-- The neighbours that the scan stops at. -/
theorem exists_of_firstClash {spans : List Splice} {o : Overlap} (h : firstClash spans = some o) :
    ∃ a b, o = .spans a b ∧ [a, b] <:+: spans ∧ b.start < a.stop := by
  -- Induction on the spans: the two that are found stand next to each other, here or further on.
  induction spans with
  | nil => simp [firstClash] at h
  | cons a rest ih =>
    rcases rest with _ | ⟨b, rest⟩
    · simp [firstClash] at h
    · rw [firstClash] at h
      by_cases hab : b.start < a.stop
      · rw [if_pos hab, Option.some.injEq] at h
        exact ⟨a, b, h.symm, ⟨[], rest, rfl⟩, hab⟩
      · rw [if_neg hab] at h
        obtain ⟨c, d, hspans, hnext, hlt⟩ := ih h
        exact ⟨c, d, hspans, List.infix_cons hnext, hlt⟩

end Emend.Splice

namespace Emend

/-- A batch that the check does not accept is refused for what is found in it. -/
theorem checkOverlaps_cases (splices : List Splice) :
    (checkOverlaps splices = .ok () ∧ Splice.overlap? splices = none) ∨
      ∃ o, checkOverlaps splices = .error (.overlap o) ∧ Splice.overlap? splices = some o := by
  unfold checkOverlaps
  rcases Splice.overlap? splices with _ | o
  · exact .inl ⟨rfl, rfl⟩
  · exact .inr ⟨o, rfl, rfl⟩

/-- A batch passes the check exactly if no two of its splices clash. -/
theorem checkOverlaps_eq_ok_iff {splices : List Splice} (hf : ∀ s ∈ splices, s.Forward) :
    checkOverlaps splices = .ok () ↔ splices.Pairwise fun a b => ¬ Splice.Clash a b := by
  rw [← Splice.overlap?_eq_none_iff hf]
  rcases checkOverlaps_cases splices with ⟨hcheck, hfound⟩ | ⟨o, hcheck, hfound⟩ <;> simp [hcheck, hfound]

/-- What is told of a batch is so: two splices of the batch share a character, or the one inserts inside of the
other. -/
def Overlap.FoundIn (splices : List Splice) : Overlap → Prop
  | .spans a b => a ∈ splices ∧ b ∈ splices ∧ a.Share b
  | .inside i s => i ∈ splices ∧ s ∈ splices ∧ i.InsertsInside s

/-- The scan and the search for insertions only tell what they find. -/
theorem foundIn_of_overlap? {splices : List Splice} {o : Overlap} (hf : ∀ s ∈ splices, s.Forward)
    (h : Splice.overlap? splices = some o) : o.FoundIn splices := by
  have hspan : ∀ s ∈ (splices.filter (!·.isInsertion)).mergeSort Splice.spanLe,
      s ∈ splices ∧ s.start < s.stop := by
    intro s hs
    have hmem := List.mem_mergeSort.mp hs
    exact ⟨List.mem_of_mem_filter hmem, Splice.start_lt_stop_of_mem_filter hf hmem⟩
  -- What is reported is what the check of the spans found, or else the first insertion inside of a span.
  rcases (Option.orElse_eq_some _ _ _).mp h with hfirst | ⟨-, haround⟩
  · obtain ⟨a, b, rfl, hnext, hlt⟩ := Splice.exists_of_firstClash hfirst
    have hsorted := List.pairwise_mergeSort Splice.spanLe_trans Splice.spanLe_total
      (splices.filter (!·.isInsertion))
    have hle : Splice.spanLe a b := by simpa using hsorted.sublist hnext.sublist
    obtain ⟨ha, -⟩ := hspan a (hnext.subset (by simp))
    obtain ⟨hb, hroom⟩ := hspan b (hnext.subset (by simp))
    rw [Splice.spanLe_iff] at hle
    exact ⟨ha, hb, b.start, by omega, by omega⟩
  · obtain ⟨i, hi, hs⟩ := List.exists_of_findSome?_eq_some haround
    obtain ⟨s, hfind, rfl⟩ := Option.map_eq_some_iff.mp hs
    obtain ⟨hi, hempty⟩ := List.mem_filter.mp hi
    have hinside := List.find?_some hfind
    simp only [Bool.and_eq_true, decide_eq_true_eq] at hinside
    exact ⟨hi, (hspan s (List.mem_of_find?_eq_some hfind)).1, by simpa [Splice.isInsertion] using hempty,
      hinside⟩

/-- The check refuses a batch exactly if a character lies in the spans of two of its splices, or one of two
inserts strictly inside of the other; then it tells such a pair. It accepts any other batch. -/
theorem checkOverlaps_refuses_iff {splices : List Splice} (hf : ∀ s ∈ splices, s.start ≤ s.stop) :
    ((∃ o, checkOverlaps splices = .error (.overlap o)) ↔
      ∃ i j, ∃ (hi : i < splices.length) (hj : j < splices.length), i ≠ j ∧
        (splices[i].Share splices[j] ∨ splices[i].InsertsInside splices[j])) ∧
    (∀ cause, checkOverlaps splices = .error cause → ∃ o, cause = .overlap o ∧ o.FoundIn splices) ∧
    ((¬ ∃ i j, ∃ (hi : i < splices.length) (hj : j < splices.length), i ≠ j ∧
        (splices[i].Share splices[j] ∨ splices[i].InsertsInside splices[j])) →
      checkOverlaps splices = .ok ()) := by
  have hpairs := Splice.not_pairwise_iff hf
  have haccepts := checkOverlaps_eq_ok_iff hf
  -- Refused iff some pair meets, every refusal names a pair that does, and a batch without one is accepted.
  refine ⟨?_, ?_, ?_⟩
  · rw [← hpairs, ← haccepts]
    rcases checkOverlaps_cases splices with ⟨hcheck, -⟩ | ⟨o, hcheck, -⟩ <;> simp [hcheck]
  · intro cause hcause
    rcases checkOverlaps_cases splices with ⟨hcheck, -⟩ | ⟨o, hcheck, hfound⟩
    · simp [hcheck] at hcause
    · rw [hcheck] at hcause
      exact ⟨o, (Except.error.inj hcause).symm, foundIn_of_overlap? hf hfound⟩
  · intro hnone
    rw [← hpairs, not_not] at hnone
    exact haccepts.mpr hnone

/-- Spans that touch are in order, and so is an insertion between them; one inside of a span is refused, although
its neighbours in the order of spans are apart. -/
theorem checkOverlaps_refuses_iff_inside :
    let apart : List Splice := [⟨0, 9, [], 0⟩, ⟨9, 9, ['x'], 1⟩, ⟨9, 12, [], 2⟩]
    let inside : Splice := ⟨4, 4, ['y'], 3⟩
    (∀ s ∈ apart, s.start ≤ s.stop) ∧ (∀ s ∈ apart ++ [inside], s.start ≤ s.stop) ∧
      checkOverlaps apart = .ok () ∧
      ∃ o, checkOverlaps (apart ++ [inside]) = .error (.overlap o) := by
  intro apart inside
  have hapart : ∀ s ∈ apart, s.start ≤ s.stop := by decide
  have hall : ∀ s ∈ apart ++ [inside], s.start ≤ s.stop := by decide
  refine ⟨hapart, hall, by cbv, ?_⟩
  refine (checkOverlaps_refuses_iff hall).1.mpr ⟨3, 0, by decide, by decide, by decide, .inr ?_⟩
  exact ⟨rfl, by decide, by decide⟩

end Emend
