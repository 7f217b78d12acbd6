import Emend.Proofs.Document.Coordinates
import Emend.Proofs.Edit.Weave

/-!
# Batches of edits as splices

A batch can be turned into splices exactly if the document covers every range (`splices_eq_ok_iff`). If no
two of the edits clash, making them is weaving their splices into the text, in the order of their ranges
(`applyEdits_eq_weave`).

Main statements:

* `splices_eq_ok_iff`, `mergeSort_numberedSplice`: splices of edits, and their order.
* `checkOverlaps_eq_ok_iff`, `clear_perm`: what passes the check.
* `applyEdits_eq_foldr`, `applyEdits_eq_weave`: what a batch makes of the text.
* `applyEdits_of_not_clear`, `applyEdits_of_not_covers`: which batches are refused.
* `applyEdits_singleton`, `applyEdits_middle`: batches of one edit.
-/

namespace Emend

namespace Edit

/-- The order of edits by their ranges: by start, then by end. -/
def rangeLe (a b : Edit) : Bool :=
  decide (a.range.start < b.range.start ∨
    (a.range.start = b.range.start ∧ a.range.stop ≤ b.range.stop))

theorem rangeLe_iff (a b : Edit) :
    rangeLe a b ↔ a.range.start < b.range.start ∨
      (a.range.start = b.range.start ∧ a.range.stop ≤ b.range.stop) := by
  rw [rangeLe, decide_eq_true_iff]

theorem rangeLe_trans (a b c : Edit) (hab : rangeLe a b) (hbc : rangeLe b c) : rangeLe a c := by
  rw [rangeLe_iff] at *
  simp only [Position.lt_def, Position.le_def, Position.eq_iff] at *
  omega

theorem rangeLe_total (a b : Edit) : (rangeLe a b || rangeLe b a) = true := by
  rw [Bool.or_eq_true, rangeLe_iff, rangeLe_iff]
  simp only [Position.lt_def, Position.le_def, Position.eq_iff]
  omega

end Edit

namespace Document

/-- The offset of a position; zero where the document has no such position. -/
def offsetOf (d : Document) (p : Position) : Nat :=
  match d.offsetAt p with
  | .ok o => o
  | .error _ => 0

/-- The document has both positions of a range. -/
def Covers (d : Document) (r : Range) : Prop :=
  d.offsetAt r.start = .ok (d.offsetOf r.start) ∧ d.offsetAt r.stop = .ok (d.offsetOf r.stop)

/-- The splice of an edit, its place in the batch left open. -/
def spliceOf (d : Document) (e : Edit) : Splice :=
  ⟨d.offsetOf e.range.start, d.offsetOf e.range.stop, e.newText, 0⟩

/-- The splice of an edit at a place in the batch. -/
def numberedSplice (d : Document) (numbered : Edit × Nat) : Splice :=
  { d.spliceOf numbered.1 with index := numbered.2 }

theorem offsetOf_eq {d : Document} {p : Position} {o : Nat} (h : d.offsetAt p = .ok o) :
    d.offsetOf p = o := by
  simp [offsetOf, h]

theorem covers_of_ok {d : Document} {r : Range} {a b : Nat} (ha : d.offsetAt r.start = .ok a)
    (hb : d.offsetAt r.stop = .ok b) : d.Covers r := by
  rw [Covers, offsetOf_eq ha, offsetOf_eq hb]
  exact ⟨ha, hb⟩

theorem splice_eq_ok_iff {d : Document} {n : Nat} {e : Edit} {s : Splice} :
    d.splice n e = .ok s ↔ d.Covers e.range ∧ s = d.numberedSplice (e, n) := by
  constructor
  · intro h
    unfold splice at h
    -- A splice needs both offsets; either of them failing is the whole failing.
    rcases ha : d.offsetAt e.range.start with x | a
    · simp [ha, bind, Except.bind] at h
    · rcases hb : d.offsetAt e.range.stop with x | b
      · simp [ha, hb, bind, Except.bind] at h
      · simp only [ha, hb, bind, Except.bind, pure, Except.pure, Except.ok.injEq] at h
        refine ⟨covers_of_ok ha hb, ?_⟩
        rw [← h, numberedSplice, spliceOf, offsetOf_eq ha, offsetOf_eq hb]
  · rintro ⟨⟨ha, hb⟩, rfl⟩
    simp only [splice, ha, hb, bind, Except.bind, pure, Except.pure]
    rfl

theorem splicesFrom_eq_ok_iff {d : Document} {n : Nat} {edits : List Edit} {ss : List Splice} :
    d.splicesFrom n edits = .ok ss ↔
      (∀ e ∈ edits, d.Covers e.range) ∧ ss = (edits.zipIdx n).map d.numberedSplice := by
  -- Induction on the edits, the number of the first one free: the numbers run on from edit to edit.
  induction edits generalizing n ss with
  | nil => simp [splicesFrom, eq_comm]
  | cons e rest ih =>
    rw [splicesFrom, List.forall_mem_cons, List.zipIdx_cons, List.map_cons]
    constructor
    · intro h
      rcases hs : d.splice n e with x | s
      · simp [hs, bind, Except.bind] at h
      · rcases hmore : d.splicesFrom (n + 1) rest with x | more
        · simp [hs, hmore, bind, Except.bind] at h
        · simp only [hs, hmore, bind, Except.bind, pure, Except.pure, Except.ok.injEq] at h
          obtain ⟨hcover, rfl⟩ := splice_eq_ok_iff.mp hs
          obtain ⟨hrest, rfl⟩ := ih.mp hmore
          exact ⟨⟨hcover, hrest⟩, h.symm⟩
    · rintro ⟨⟨hcover, hrest⟩, rfl⟩
      have hs := splice_eq_ok_iff (n := n).mpr ⟨hcover, rfl⟩
      have hmore := (ih (n := n + 1)).mpr ⟨hrest, rfl⟩
      simp only [hs, hmore, bind, Except.bind, pure, Except.pure]

/-- A batch can be turned into splices exactly if the document covers every range. -/
theorem splices_eq_ok_iff {d : Document} {edits : List Edit} {ss : List Splice} :
    d.splices edits = .ok ss ↔
      (∀ e ∈ edits, d.Covers e.range) ∧ ss = edits.zipIdx.map d.numberedSplice :=
  splicesFrom_eq_ok_iff

/-! ## Splices of covered ranges -/

theorem Covers.start_le_stop {d : Document} {r : Range} (h : d.Covers r) :
    d.offsetOf r.start ≤ d.offsetOf r.stop :=
  (offsetAt_le_iff h.1 h.2).mpr r.start_le_stop

theorem Covers.stop_le_length {d : Document} {r : Range} (h : d.Covers r) :
    d.offsetOf r.stop ≤ d.text.length := by
  obtain ⟨text, uri⟩ := d
  exact (offsetAt_eq_ok_iff.mp h.2).1

theorem Covers.start_eq {d : Document} {r : Range} (h : d.Covers r) :
    r.start = Position.zero.extent (d.text.take (d.offsetOf r.start)) := by
  obtain ⟨text, uri⟩ := d
  exact (offsetAt_eq_ok_iff.mp h.1).2

theorem Covers.stop_eq {d : Document} {r : Range} (h : d.Covers r) :
    r.stop = Position.zero.extent (d.text.take (d.offsetOf r.stop)) := by
  obtain ⟨text, uri⟩ := d
  exact (offsetAt_eq_ok_iff.mp h.2).2

/-- Inside of a document, edits are ordered as their splices are. -/
theorem spanLe_spliceOf {d : Document} {a b : Edit} (ha : d.Covers a.range)
    (hb : d.Covers b.range) : Splice.spanLe (d.spliceOf a) (d.spliceOf b) = Edit.rangeLe a b := by
  rw [Bool.eq_iff_iff, Splice.spanLe_iff, Edit.rangeLe_iff]
  simp only [spliceOf]
  rw [offsetAt_lt_iff ha.1 hb.1, offsetAt_le_iff ha.2 hb.2]
  refine or_congr Iff.rfl (and_congr ?_ Iff.rfl)
  constructor
  · intro h
    exact offsetAt_inj ha.1 (h ▸ hb.1)
  · intro h
    rw [h]

end Document

/-! ## Batches without a clash -/

namespace Splice

/-- Weaving does not look at places in the batch. -/
theorem weave_spliceOf (text : List Char) (d : Document) (o : Nat) (numbered : List (Edit × Nat)) :
    weave text o (numbered.map d.numberedSplice)
      = weave text o ((numbered.map (·.1)).map d.spliceOf) := by
  induction numbered generalizing o with
  | nil => rfl
  | cons x rest ih =>
    simp only [List.map_cons, weave]
    rw [ih]
    rfl

/-- Nor does making the splices. -/
theorem foldr_apply_spliceOf (text : List Char) (d : Document) (numbered : List (Edit × Nat)) :
    (numbered.map d.numberedSplice).foldr apply text
      = ((numbered.map (·.1)).map d.spliceOf).foldr apply text := by
  induction numbered with
  | nil => rfl
  | cons x rest ih =>
    simp only [List.map_cons, List.foldr_cons]
    rw [ih]
    rfl

/-- Nor does order. -/
theorem inOrder_spliceOf (bound : Nat) (d : Document) (o : Nat) (numbered : List (Edit × Nat)) :
    InOrder bound o (numbered.map d.numberedSplice)
      ↔ InOrder bound o ((numbered.map (·.1)).map d.spliceOf) := by
  induction numbered generalizing o with
  | nil => exact Iff.rfl
  | cons x rest ih => exact and_congr Iff.rfl (and_congr Iff.rfl (ih _))

end Splice

namespace Document

/-- With their places in the batch, splices are sorted as edits are sorted by their ranges: what has one
range stays as submitted. -/
theorem mergeSort_numberedSplice {d : Document} {edits : List Edit}
    (hcov : ∀ e ∈ edits, d.Covers e.range) :
    (edits.zipIdx.map d.numberedSplice).mergeSort Splice.le
      = (edits.zipIdx.mergeSort (List.zipIdxLE Edit.rangeLe)).map d.numberedSplice := by
  symm
  apply List.map_mergeSort
  rintro ⟨a, i⟩ ha ⟨b, j⟩ hb
  have hca := hcov a (List.fst_mem_of_mem_zipIdx ha)
  have hcb := hcov b (List.fst_mem_of_mem_zipIdx hb)
  rw [List.zipIdxLE, ← spanLe_spliceOf hca hcb, ← spanLe_spliceOf hcb hca, Bool.eq_iff_iff,
    Splice.le_iff]
  simp only [numberedSplice]
  -- the place in the batch decides only between edits of one range
  by_cases hab : Splice.spanLe (d.spliceOf a) (d.spliceOf b)
  · by_cases hba : Splice.spanLe (d.spliceOf b) (d.spliceOf a)
    · simp only [hab, hba, if_true, decide_eq_true_eq]
      rw [Splice.spanLe_iff] at hab hba
      omega
    · simp only [hab, hba, if_true]
      rw [Splice.spanLe_iff] at hab hba
      simp
      omega
  · simp only [hab]
    rw [Splice.spanLe_iff] at hab
    simp
    omega

/-- No two edits of a batch claim the same text of a document. -/
def Clear (d : Document) (edits : List Edit) : Prop :=
  edits.Pairwise fun a b => ¬ Splice.Clash (d.spliceOf a) (d.spliceOf b)

/-- The splices of a batch in the order of their ranges. -/
def ordered (d : Document) (edits : List Edit) : List Splice :=
  (edits.mergeSort Edit.rangeLe).map d.spliceOf

theorem clear_iff {d : Document} {edits : List Edit} :
    (edits.zipIdx.map d.numberedSplice).Pairwise (fun a b => ¬ Splice.Clash a b) ↔
      d.Clear edits := by
  rw [List.pairwise_map]
  have h := List.pairwise_map (l := edits.zipIdx) (f := (·.1))
    (R := fun a b => ¬ Splice.Clash (d.spliceOf a) (d.spliceOf b))
  rw [List.zipIdx_map_fst] at h
  exact h.symm

/-- The order of the edits does not matter for that. -/
theorem clear_perm {d : Document} {edits edits' : List Edit} (h : edits.Perm edits') :
    d.Clear edits ↔ d.Clear edits' :=
  h.pairwise_iff fun hab hba => hab hba.symm

theorem forward_numberedSplice {d : Document} {edits : List Edit}
    (hcov : ∀ e ∈ edits, d.Covers e.range) :
    ∀ s ∈ edits.zipIdx.map d.numberedSplice, s.Forward ∧ s.stop ≤ d.text.length := by
  intro s hs
  obtain ⟨⟨e, n⟩, hmem, rfl⟩ := List.mem_map.mp hs
  have hcover := hcov e (List.fst_mem_of_mem_zipIdx hmem)
  exact ⟨hcover.start_le_stop, hcover.stop_le_length⟩

/-- The check accepts the splices of a batch exactly if the batch is clear. -/
theorem checkOverlaps_eq_ok_iff {d : Document} {edits : List Edit} {ss : List Splice}
    (hs : d.splices edits = .ok ss) : checkOverlaps ss = .ok () ↔ d.Clear edits := by
  obtain ⟨hcov, rfl⟩ := splices_eq_ok_iff.mp hs
  rw [Emend.checkOverlaps_eq_ok_iff fun s h => (forward_numberedSplice hcov s h).1, clear_iff]

theorem checkOverlaps_of_not_clear {d : Document} {edits : List Edit} {ss : List Splice}
    (hs : d.splices edits = .ok ss) (hclear : ¬ d.Clear edits) : ∃ o, checkOverlaps ss = .error (.overlap o) := by
  rcases checkOverlaps_cases ss with ⟨hok, -⟩ | ⟨o, hrefused, -⟩
  · exact absurd ((checkOverlaps_eq_ok_iff hs).mp hok) hclear
  · exact ⟨o, hrefused⟩

/-- The sorted splices of a batch, their places forgotten, are the splices of the sorted edits. -/
theorem map_fst_mergeSort (edits : List Edit) :
    (edits.zipIdx.mergeSort (List.zipIdxLE Edit.rangeLe)).map (·.1)
      = edits.mergeSort Edit.rangeLe :=
  List.mergeSort_zipIdx

/-- The splices of a clear batch come one after the other. -/
theorem inOrder_ordered {d : Document} {edits : List Edit}
    (hcov : ∀ e ∈ edits, d.Covers e.range) (hclear : d.Clear edits) :
    Splice.InOrder d.text.length 0 (d.ordered edits) := by
  have hsplices := forward_numberedSplice hcov
  have horder := (Splice.applyAll_eq_weave (fun s h => (hsplices s h).1) (fun s h => (hsplices s h).2)
    (clear_iff.mpr hclear)).1
  rw [mergeSort_numberedSplice hcov, Splice.inOrder_spliceOf, map_fst_mergeSort] at horder
  exact horder

end Document

/-! ## Outcomes -/

/-- Edits inside of the text are made from the last range to the first, if they are clear or overlaps are
let through. -/
theorem applyEdits_eq_foldr {text : List Char} {edits : List Edit} {strict : Bool}
    (hcov : ∀ e ∈ edits, (Document.mk text "").Covers e.range)
    (hclear : strict = true → (Document.mk text "").Clear edits) :
    applyEdits text edits strict
      = .ok (((Document.mk text "").ordered edits).foldr Splice.apply text) := by
  -- The empty batch is answered before anything is checked, so it is a case of its own.
  by_cases hempty : edits = []
  · subst hempty
    simp [applyEdits, Document.ordered]
  · have hne : edits.isEmpty = false := by simpa using hempty
    have hs := Document.splices_eq_ok_iff.mpr ⟨hcov, rfl⟩
    have hall : Splice.applyAll (edits.zipIdx.map (Document.mk text "").numberedSplice) text
        = ((Document.mk text "").ordered edits).foldr Splice.apply text := by
      rw [Splice.applyAll, Document.mergeSort_numberedSplice hcov, Splice.foldr_apply_spliceOf,
        Document.map_fst_mergeSort]
      rfl
    rw [applyEdits, hne, hs, ← hall]
    rcases strict with _ | _
    · rfl
    · have hcheck := (Document.checkOverlaps_eq_ok_iff hs).mpr (hclear rfl)
      simp only [Bool.false_eq_true, if_false, if_true, Except.mapError, hcheck, bind, Except.bind,
        pure, Except.pure]

/-- The edits of a clear batch, made at once. -/
theorem applyEdits_eq_weave {text : List Char} {edits : List Edit} (strict : Bool)
    (hcov : ∀ e ∈ edits, (Document.mk text "").Covers e.range)
    (hclear : (Document.mk text "").Clear edits) :
    applyEdits text edits strict
      = .ok (Splice.weave text 0 ((Document.mk text "").ordered edits)) := by
  have horder := Document.inOrder_ordered hcov hclear
  rw [applyEdits_eq_foldr hcov fun _ => hclear, Splice.foldr_apply_eq_weave horder, List.take_zero,
    List.nil_append]

/-- Edits that are not clear are refused where overlaps are. -/
theorem applyEdits_of_not_clear {text : List Char} {edits : List Edit}
    (hcov : ∀ e ∈ edits, (Document.mk text "").Covers e.range)
    (hclear : ¬ (Document.mk text "").Clear edits) :
    ∃ o, applyEdits text edits = .error (.overlap o) := by
  have hne : edits.isEmpty = false := by
    rcases edits with _ | ⟨e, rest⟩
    · exact absurd List.Pairwise.nil hclear
    · rfl
  have hs := Document.splices_eq_ok_iff.mpr ⟨hcov, rfl⟩
  obtain ⟨o, hcheck⟩ := Document.checkOverlaps_of_not_clear hs hclear
  rw [applyEdits, hne, hs]
  exact ⟨o, by simp [hcheck, Except.mapError, bind, Except.bind]⟩

/-- Edits that do not all lie inside of the text are refused. -/
theorem applyEdits_of_not_covers {text : List Char} {edits : List Edit} (strict : Bool)
    (hcov : ¬ ∀ e ∈ edits, (Document.mk text "").Covers e.range) :
    ∃ cause, applyEdits text edits strict = .error (.outOfRange cause) := by
  have hne : edits.isEmpty = false := by
    rcases edits with _ | ⟨e, rest⟩
    · exact absurd (by simp) hcov
    · rfl
  rcases hs : (Document.mk text "").splices edits with cause | splices
  · exact ⟨cause, by simp [applyEdits, hne, hs, Except.mapError, bind, Except.bind]⟩
  · exact absurd (Document.splices_eq_ok_iff.mp hs).1 hcov

/-- Where overlaps are let through, edits inside of the text can be made. -/
theorem applyEdits_of_covers {text : List Char} {edits : List Edit}
    (hcov : ∀ e ∈ edits, (Document.mk text "").Covers e.range) :
    ∃ after, applyEdits text edits false = .ok after :=
  ⟨_, applyEdits_eq_foldr hcov (by simp)⟩

/-- Edits that can be made lie inside of the text. -/
theorem covers_of_applyEdits {text after : List Char} {edits : List Edit} {strict : Bool}
    (h : applyEdits text edits strict = .ok after) :
    ∀ e ∈ edits, (Document.mk text "").Covers e.range := by
  unfold applyEdits at h
  by_cases hempty : edits = []
  · simp [hempty]
  · have hne : edits.isEmpty = false := by simpa using hempty
    rcases hs : (Document.mk text "").splices edits with x | ss
    · simp [hne, hs, Except.mapError, bind, Except.bind] at h
    · exact (Document.splices_eq_ok_iff.mp hs).1

/-! ## One edit -/

theorem Document.clear_singleton (d : Document) (e : Edit) : d.Clear [e] :=
  List.pairwise_singleton _ e

/-- One edit puts its text in the place of its range. -/
theorem applyEdits_singleton {text : List Char} {e : Edit} (strict : Bool)
    (h : (Document.mk text "").Covers e.range) :
    applyEdits text [e] strict
      = .ok (text.take ((Document.mk text "").offsetOf e.range.start) ++ e.newText
          ++ text.drop ((Document.mk text "").offsetOf e.range.stop)) := by
  rw [applyEdits_eq_weave strict (by simpa using h) (Document.clear_singleton _ e)]
  simp [Document.ordered, Splice.weave, Document.spliceOf]

/-- Whether one edit can be made does not depend on the treatment of overlaps. -/
theorem applyEdits_singleton_strict (text : List Char) (e : Edit) (strict : Bool) :
    applyEdits text [e] strict = applyEdits text [e] := by
  rcases hs : (Document.mk text "").splices [e] with x | ss
  · simp [applyEdits, hs, Except.mapError, bind, Except.bind]
  · have hcov := (Document.splices_eq_ok_iff.mp hs).1 e List.mem_cons_self
    rw [applyEdits_singleton strict hcov, applyEdits_singleton true hcov]

/-- An edit of what stands between two parts of a text. -/
theorem applyEdits_middle (s t u new : List Char) (strict : Bool)
    (h : Position.zero.extent s ≤ Position.zero.extent (s ++ t)) :
    applyEdits (s ++ t ++ u) [⟨⟨Position.zero.extent s, Position.zero.extent (s ++ t), h⟩, new⟩]
      strict = .ok (s ++ new ++ u) := by
  -- Both ends are reached by reading a prefix of the text, so their offsets are the lengths of the prefixes.
  have hstart : (Document.mk (s ++ t ++ u) "").offsetAt (Position.zero.extent s)
      = .ok s.length := by
    rw [List.append_assoc]
    exact Document.offsetAt_extent s (t ++ u) ""
  have hstop := Document.offsetAt_extent (s ++ t) u ""
  have hcov : (Document.mk (s ++ t ++ u) "").Covers
      ⟨Position.zero.extent s, Position.zero.extent (s ++ t), h⟩ :=
    Document.covers_of_ok hstart hstop
  have hsingle := applyEdits_singleton (e := ⟨⟨_, _, h⟩, new⟩) strict hcov
  rw [hsingle, Document.offsetOf_eq hstart, Document.offsetOf_eq hstop, List.drop_left,
    List.append_assoc s t u, List.take_left]

/-- An insertion puts its text in front of what stands behind its place. -/
theorem applyEdits_emptyAt {d : Document} {p : Position} {o : Nat} (ho : d.offsetAt p = .ok o) (new : List Char)
    (strict : Bool) :
    applyEdits d.text [⟨.emptyAt p, new⟩] strict = .ok (d.text.take o ++ new ++ d.text.drop o) := by
  have hcov : (Document.mk d.text "").Covers (.emptyAt p) := Document.covers_of_ok ho ho
  have hat : (Document.mk d.text "").offsetOf p = o := Document.offsetOf_eq ho
  have hsingle := applyEdits_singleton (e := ⟨.emptyAt p, new⟩) strict hcov
  simp only [Range.emptyAt, hat] at hsingle
  exact hsingle

end Emend
