import Emend.Proofs.Edit.Batch

/-!
# Substitution in one walk

What a batch means, said without splicing: walk through the original text once, give out the new texts
that belong at each offset, and copy every character that no edit covers. The batch applier, which
splices from the last edit to the first, does the same (`applyEdits_eq_walk`).

Main statements:

* `walk_gap`, `walk_insertion`, `walk_span`: the walk through a gap, past an insertion and past a span.
* `walk_eq_weave`: the walk is the weaving.
* `filter_start_mergeSort`: which splices stand at one offset, in which order.
* `applyEdits_eq_walk`: what a batch makes of the text.
-/

namespace Emend

namespace Splice

/-- A character of the original text lies in the span of a splice. -/
def covered (splices : List Splice) (o : Nat) : Bool :=
  splices.any fun s => s.start ≤ o && o < s.stop

/-- The new texts that belong at an offset of the original text, in the order of the splices. -/
def textsAt (splices : List Splice) (o : Nat) : List Char :=
  (splices.filter (·.start == o)).flatMap (·.newText)

/-- Walk through the text from the offset `o` on. -/
def walk (splices : List Splice) : Nat → List Char → List Char
  | o, [] => textsAt splices o
  | o, c :: rest =>
    textsAt splices o ++ (if covered splices o then [] else [c]) ++ walk splices (o + 1) rest

/-! ## What is given out where -/

theorem covered_cons (s : Splice) (rest : List Splice) (o : Nat) :
    covered (s :: rest) o = ((s.start ≤ o && o < s.stop) || covered rest o) := rfl

theorem textsAt_cons (s : Splice) (rest : List Splice) (o : Nat) :
    textsAt (s :: rest) o = (if s.start = o then s.newText else []) ++ textsAt rest o := by
  by_cases h : s.start = o <;> simp [textsAt, h]

/-- Before the first of the splices there is nothing to give out. -/
theorem textsAt_before {splices : List Splice} {o : Nat} (h : ∀ s ∈ splices, o < s.start) :
    textsAt splices o = [] := by
  have hnone : splices.filter (·.start == o) = [] := by
    rw [List.filter_eq_nil_iff]
    intro s hs
    have := h s hs
    simp
    omega
  simp [textsAt, hnone]

theorem not_covered_before {splices : List Splice} {o : Nat} (h : ∀ s ∈ splices, o < s.start) :
    covered splices o = false := by
  rw [covered, List.any_eq_false]
  intro s hs
  have := h s hs
  simp
  omega

/-! ## The walk along one splice -/

/-- Where nothing is covered and nothing is given out, the walk copies. -/
theorem walk_quiet {splices : List Splice} {o : Nat} {gap : List Char} (rest : List Char)
    (hquiet : ∀ m, o ≤ m → m < o + gap.length → covered splices m = false ∧ textsAt splices m = []) :
    walk splices o (gap ++ rest) = gap ++ walk splices (o + gap.length) rest := by
  -- Induction on the gap, the offset free: each of its characters is copied, and the next one stands one further on.
  induction gap generalizing o with
  | nil => rfl
  | cons c gap ih =>
    rw [List.length_cons] at hquiet ⊢
    obtain ⟨huncovered, hnothing⟩ := hquiet o (Nat.le_refl o) (by omega)
    have hlater : ∀ m, o + 1 ≤ m → m < o + 1 + gap.length → covered splices m = false ∧ textsAt splices m = [] :=
      fun m hm hm' => hquiet m (by omega) (by omega)
    have hnext : o + 1 + gap.length = o + (gap.length + 1) := by omega
    rw [List.cons_append, walk, huncovered, hnothing, ih hlater, hnext]
    rfl

/-- Characters before the first of the splices are copied. -/
theorem walk_gap {splices : List Splice} {o m : Nat} {gap : List Char} (rest : List Char)
    (hm : o + gap.length = m) (h : ∀ s ∈ splices, m ≤ s.start) :
    walk splices o (gap ++ rest) = gap ++ walk splices m rest := by
  subst hm
  refine walk_quiet rest ?_
  intro k _ hk
  have hbefore : ∀ s ∈ splices, k < s.start := fun s hs => Nat.lt_of_lt_of_le hk (h s hs)
  exact ⟨not_covered_before hbefore, textsAt_before hbefore⟩

/-- A splice that lies behind is of no more concern. -/
theorem walk_past {s : Splice} {splices : List Splice} {o : Nat} (rest : List Char)
    (hstart : s.start < o) (hstop : s.stop ≤ o) :
    walk (s :: splices) o rest = walk splices o rest := by
  induction rest generalizing o with
  | nil =>
    have hne : s.start ≠ o := by omega
    simp [walk, textsAt_cons, hne]
  | cons c rest ih =>
    have hne : s.start ≠ o := by omega
    have hout : ¬ o < s.stop := by omega
    rw [walk, walk, textsAt_cons, covered_cons, ih (by omega) (by omega)]
    simp [hne, hout]

/-- Characters inside of a span are left out. -/
theorem walk_span {s : Splice} {splices : List Splice} {o : Nat} {inside : List Char}
    (rest : List Char) (hstart : s.start < o) (hstop : o + inside.length = s.stop)
    (h : ∀ t ∈ splices, s.stop ≤ t.start) :
    walk (s :: splices) o (inside ++ rest) = walk (s :: splices) s.stop rest := by
  -- Induction on what is left of the span; behind its first offset no splice gives out a text, since all the others
  -- start no earlier than it ends.
  induction inside generalizing o with
  | nil =>
    have ho : o = s.stop := by simpa using hstop
    rw [List.nil_append, ho]
  | cons c inside ih =>
    simp only [List.length_cons] at hstop
    have hlater : ∀ t ∈ splices, o < t.start := by
      intro t ht
      have := h t ht
      omega
    have hne : s.start ≠ o := by omega
    have hin : s.start ≤ o ∧ o < s.stop := by omega
    rw [List.cons_append, walk, textsAt_cons, covered_cons, textsAt_before hlater,
      ih (by omega) (by omega)]
    simp [hne, hin]

/-- An insertion gives out its text and takes nothing. -/
theorem walk_insertion {s : Splice} {splices : List Splice} (rest : List Char)
    (hs : s.start = s.stop) :
    walk (s :: splices) s.start rest = s.newText ++ walk splices s.start rest := by
  rcases rest with _ | ⟨c, rest⟩
  · simp [walk, textsAt_cons]
  · have hout : ¬ s.start < s.stop := by omega
    rw [walk, walk, textsAt_cons, covered_cons, walk_past rest (by omega) (by omega)]
    simp [hout]

/-- Splices in order are woven into the text by the walk. -/
theorem walk_eq_weave {text : List Char} {o : Nat} {splices : List Splice}
    (h : InOrder text.length o splices) : walk splices o (text.drop o) = weave text o splices := by
  -- Induction on the splices, the offset free: the step copies the gap in front of the first one (`hgap`) and then
  -- passes it (`hhere`).
  induction splices generalizing o with
  | nil =>
    have hend : walk [] (o + (text.drop o).length) [] = [] := rfl
    have hcopy : walk [] o (text.drop o ++ [])
        = text.drop o ++ walk [] (o + (text.drop o).length) [] := walk_gap [] rfl (by simp)
    rw [hend, List.append_nil] at hcopy
    exact hcopy
  | cons s rest ih =>
    obtain ⟨hstart, hforward, hrest⟩ := h
    have hlength : s.stop ≤ text.length := hrest.le_bound
    have hlater : ∀ t ∈ rest, s.stop ≤ t.start := hrest.le_start
    have hall : ∀ t ∈ s :: rest, s.start ≤ t.start := by
      rw [List.forall_mem_cons]
      exact ⟨Nat.le_refl _, fun t ht => hforward.trans (hlater t ht)⟩
    have hgap : text.drop o = (text.drop o).take (s.start - o) ++ text.drop s.start := by
      have hdrop : text.drop s.start = (text.drop o).drop (s.start - o) := by
        rw [List.drop_drop, Nat.add_sub_cancel' hstart]
      rw [hdrop, List.take_append_drop]
    have hgaplen : o + ((text.drop o).take (s.start - o)).length = s.start := by
      rw [List.length_take_of_le (by rw [List.length_drop]; omega)]
      omega
    have hhere : walk (s :: rest) s.start (text.drop s.start)
        = s.newText ++ weave text s.stop rest := by
      rcases Nat.eq_or_lt_of_le hforward with hinsert | hspan
      · rw [walk_insertion _ hinsert, hinsert, ih hrest]
      · -- a span starts with a character that it covers
        have hcons : text.drop s.start
            = text[s.start] :: ((text.drop (s.start + 1)).take (s.stop - (s.start + 1))
                ++ text.drop s.stop) := by
          have hdrop : text.drop s.stop
              = (text.drop (s.start + 1)).drop (s.stop - (s.start + 1)) := by
            rw [List.drop_drop, Nat.add_sub_cancel' hspan]
          rw [hdrop, List.take_append_drop, List.drop_eq_getElem_cons]
        have hinside : s.start + 1
            + ((text.drop (s.start + 1)).take (s.stop - (s.start + 1))).length = s.stop := by
          rw [List.length_take_of_le (by rw [List.length_drop]; omega)]
          omega
        have hnone : textsAt rest s.start = [] :=
          textsAt_before fun t ht => Nat.lt_of_lt_of_le hspan (hlater t ht)
        rw [hcons, walk, textsAt_cons, covered_cons, hnone,
          walk_span _ (Nat.lt_succ_self _) hinside hlater, walk_past _ hspan (Nat.le_refl _),
          ih hrest]
        simp [hspan]
    calc walk (s :: rest) o (text.drop o)
        = walk (s :: rest) o ((text.drop o).take (s.start - o) ++ text.drop s.start) := by
          rw [← hgap]
      _ = (text.drop o).take (s.start - o) ++ walk (s :: rest) s.start (text.drop s.start) :=
          walk_gap _ hgaplen hall
      _ = weave text o (s :: rest) := by rw [hhere, weave, List.append_assoc]

/-! ## What is given out at one offset -/

/-- The insertions at an offset, as submitted. -/
def insertionsAt (splices : List Splice) (o : Nat) : List Splice :=
  splices.filter fun s => s.isInsertion && s.start == o

/-- The spans that start at an offset, as submitted. -/
def spansAt (splices : List Splice) (o : Nat) : List Splice :=
  splices.filter fun s => !s.isInsertion && s.start == o

theorem mem_insertionsAt {splices : List Splice} {o : Nat} {s : Splice} :
    s ∈ insertionsAt splices o ↔ s ∈ splices ∧ s.start = o ∧ s.stop = o := by
  simp only [insertionsAt, List.mem_filter, isInsertion, Bool.and_eq_true, beq_iff_eq]
  refine and_congr Iff.rfl ?_
  omega

theorem mem_spansAt {splices : List Splice} {o : Nat} {s : Splice} :
    s ∈ spansAt splices o ↔ s ∈ splices ∧ s.start = o ∧ s.stop ≠ o := by
  simp only [spansAt, List.mem_filter, isInsertion, Bool.and_eq_true, beq_iff_eq,
    Bool.not_eq_true', beq_eq_false_iff_ne]
  refine and_congr Iff.rfl ?_
  omega

/-- Places in the batch tell splices apart. -/
theorem eq_of_le_of_le {splices : List Splice}
    (hindex : splices.Pairwise fun a b => a.index < b.index) {a b : Splice} (ha : a ∈ splices)
    (hb : b ∈ splices) (hab : le a b) (hba : le b a) : a = b := by
  by_contra hne
  have hsymm : Std.Symm fun a b : Splice => a.index ≠ b.index := ⟨fun _ _ h => h.symm⟩
  have hdistinct : splices.Pairwise fun a b => a.index ≠ b.index :=
    hindex.imp fun h => Nat.ne_of_lt h
  have := hdistinct.forall ha hb hne
  rw [le_iff] at hab hba
  omega

/-- Insertions as submitted and then the one span that starts with them: the order of the batch. -/
theorem sorted_insertionsAt_spansAt {splices : List Splice} (hf : ∀ s ∈ splices, Forward s)
    (hindex : splices.Pairwise fun a b => a.index < b.index)
    (hc : splices.Pairwise fun a b => ¬ Clash a b) (o : Nat) :
    (insertionsAt splices o ++ spansAt splices o).Pairwise fun a b => le a b := by
  rw [List.pairwise_append]
  -- The insertions are in the order of their indexes, at most one span starts here, and an insertion sorts before a
  -- span.
  refine ⟨?_, ?_, ?_⟩
  · refine (hindex.filter _).imp_of_mem ?_
    intro a b ha hb hab
    have ha' := mem_insertionsAt.mp ha
    have hb' := mem_insertionsAt.mp hb
    rw [le_iff]
    omega
  · -- two spans that start at one offset would clash
    refine (hc.filter _).imp_of_mem ?_
    intro a b ha hb hab
    have ha' := mem_spansAt.mp ha
    have hb' := mem_spansAt.mp hb
    have hforward := hf a ha'.1
    have hforward' := hf b hb'.1
    unfold Forward at hforward hforward'
    unfold Clash at hab
    omega
  · intro a ha b hb
    have ha' := mem_insertionsAt.mp ha
    have hb' := mem_spansAt.mp hb
    have hforward' := hf b hb'.1
    unfold Forward at hforward'
    rw [le_iff]
    omega

/-- What of a sorted batch starts at one offset: the insertions as submitted, then the span. -/
theorem filter_start_mergeSort {splices : List Splice} (hf : ∀ s ∈ splices, Forward s)
    (hindex : splices.Pairwise fun a b => a.index < b.index)
    (hc : splices.Pairwise fun a b => ¬ Clash a b) (o : Nat) :
    (splices.mergeSort le).filter (·.start == o)
      = insertionsAt splices o ++ spansAt splices o := by
  have hsplit : (insertionsAt splices o ++ spansAt splices o).Perm
      (splices.filter (·.start == o)) := by
    have h := List.filter_append_perm (·.isInsertion) (splices.filter (·.start == o))
    rw [List.filter_filter, List.filter_filter] at h
    exact h
  have hperm := ((List.mergeSort_perm splices le).filter (·.start == o)).trans hsplit.symm
  -- Both sides are sorted lists of the same splices; by antisymmetry of the order on distinct indexes they are one
  -- list.
  refine hperm.eq_of_pairwise ?_ ((List.pairwise_mergeSort le_trans le_total splices).filter _)
    (sorted_insertionsAt_spansAt hf hindex hc o)
  intro a b ha hb
  exact eq_of_le_of_le hindex (List.mem_mergeSort.mp (List.mem_filter.mp ha).1)
    (List.mem_filter.mp (hsplit.mem_iff.mp hb)).1

end Splice

/-- The splices of a batch are numbered as submitted. -/
theorem Document.index_lt_of_splices {d : Document} {edits : List Edit} {splices : List Splice}
    (hs : d.splices edits = .ok splices) : splices.Pairwise fun a b => a.index < b.index := by
  obtain ⟨-, rfl⟩ := splices_eq_ok_iff.mp hs
  rw [List.pairwise_map]
  have h := List.pairwise_lt_range' (s := 0) (n := edits.length)
  rw [← List.zipIdx_map_snd 0 edits, List.pairwise_map] at h
  exact h

/-- A batch of edits inside of the text, no two of which clash, is one walk through the text, with the
edits ordered by start, by end and as submitted. So what belongs at one offset are the insertions as
submitted, and then the text of the span that starts there. -/
theorem applyEdits_eq_walk {text : List Char} {edits : List Edit} {splices : List Splice}
    (hs : (Document.mk text "").splices edits = .ok splices)
    (hc : splices.Pairwise fun a b => ¬ Splice.Clash a b) :
    applyEdits text edits = .ok (Splice.walk (splices.mergeSort Splice.le) 0 text) ∧
      ∀ o, Splice.textsAt (splices.mergeSort Splice.le) o
        = (Splice.insertionsAt splices o ++ Splice.spansAt splices o).flatMap (·.newText) := by
  have hindex := Document.index_lt_of_splices hs
  obtain ⟨hcov, rfl⟩ := Document.splices_eq_ok_iff.mp hs
  have hsplices := Document.forward_numberedSplice hcov
  have hforward : ∀ s ∈ edits.zipIdx.map (Document.mk text "").numberedSplice, s.Forward :=
    fun s h => (hsplices s h).1
  -- Nothing clashes, so the splices stand one behind the other in their order, which is what both the weaving and the
  -- walk need.
  have horder := (Splice.applyAll_eq_weave hforward (fun s h => (hsplices s h).2) hc).1
  constructor
  · have hwalk := Splice.walk_eq_weave horder
    rw [List.drop_zero] at hwalk
    rw [hwalk, applyEdits_eq_weave true hcov (Document.clear_iff.mp hc), Document.ordered,
      ← Document.map_fst_mergeSort, ← Splice.weave_spliceOf, Document.mergeSort_numberedSplice hcov]
  · intro o
    rw [Splice.textsAt, Splice.filter_start_mergeSort hforward hindex hc]

/-- A span of `abcd`, two insertions where it starts and one where it ends. -/
theorem applyEdits_eq_walk_touching :
    let text := "abcd".toList
    let edits : List Edit :=
      [⟨⟨⟨0, 1⟩, ⟨0, 3⟩, by decide⟩, ['X']⟩, ⟨.emptyAt ⟨0, 3⟩, ['z']⟩,
        ⟨.emptyAt ⟨0, 1⟩, ['p']⟩, ⟨.emptyAt ⟨0, 1⟩, ['q']⟩]
    let splices : List Splice :=
      [⟨1, 3, ['X'], 0⟩, ⟨3, 3, ['z'], 1⟩, ⟨1, 1, ['p'], 2⟩, ⟨1, 1, ['q'], 3⟩]
    (Document.mk text "").splices edits = .ok splices ∧
      (splices.Pairwise fun a b => ¬ Splice.Clash a b) ∧
      applyEdits text edits = .ok (Splice.walk (splices.mergeSort Splice.le) 0 text) ∧
      Splice.walk (splices.mergeSort Splice.le) 0 text = "apqXzd".toList := by
  intro text edits splices
  have hs : (Document.mk text "").splices edits = .ok splices := rfl
  have hc : splices.Pairwise fun a b => ¬ Splice.Clash a b := by decide
  exact ⟨hs, hc, (applyEdits_eq_walk hs hc).1, by cbv⟩

end Emend
