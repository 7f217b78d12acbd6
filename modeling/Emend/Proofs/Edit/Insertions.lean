import Emend.Proofs.Document.Inside
import Emend.Proofs.Edit.Walk
import Emend.Proofs.Sort

/-!
# Insertions at the ends of lines

Insertions that stand where lines start or end leave the lines of a text where they are: the text that comes of
them is made line by line (`applyEdits_insertsAtEnd`). What is inserted in one place stands there as submitted. Only a
blank line starts and ends in one place.

Main statements:

* `quietInside_ordered`, `around_ordered`: nothing is inserted inside of a line, and what is at its two ends.
* `walk_lines`: the walk goes from line to line.
* `applyEdits_insertsAtEnd`: the text that comes of it.
-/

namespace Emend

open Text

namespace Splice

variable {splices : List Splice} {o : Nat} {line : List Char}

/-- A line with what is given out at its two ends. They are one place if the line is blank. -/
def around (splices : List Splice) (o : Nat) (line : List Char) : List Char :=
  textsAt splices o ++ if line = [] then [] else line ++ textsAt splices (o + line.length)

/-- A line of which nothing is covered, and in which nothing is given out but at its ends. -/
structure QuietInside (splices : List Splice) (o : Nat) (line : List Char) : Prop where
  uncovered : ∀ m, covered splices m = false
  nothing : ∀ m, o < m → m < o + line.length → textsAt splices m = []

/-- The walk along such a line. -/
theorem QuietInside.walk_eq (h : QuietInside splices o line) (rest : List Char) :
    walk splices o (line ++ rest)
      = if line = [] then walk splices o rest
        else textsAt splices o ++ line ++ walk splices (o + line.length) rest := by
  -- On an empty line start and end are one offset, so nothing is passed and nothing given out yet.
  rcases line with _ | ⟨c, line⟩
  · rfl
  · have hlater : ∀ m, o + 1 ≤ m → m < o + 1 + line.length →
        covered splices m = false ∧ textsAt splices m = [] := by
      intro m hm hm'
      exact ⟨h.uncovered m, h.nothing m hm (by rw [List.length_cons]; omega)⟩
    have hend : o + 1 + line.length = o + (c :: line).length := by
      rw [List.length_cons]
      omega
    rw [List.cons_append, walk, h.uncovered, walk_quiet rest hlater, hend, if_neg (List.cons_ne_nil c line)]
    simp

theorem QuietInside.walk_last (h : QuietInside splices o line) : walk splices o line = around splices o line := by
  have hwalk := h.walk_eq []
  rw [List.append_nil] at hwalk
  rw [hwalk, around]
  split
  · simp [walk]
  · rw [walk, List.append_assoc]

theorem QuietInside.walk_feed (h : QuietInside splices o line) (rest : List Char) :
    walk splices o (line ++ '\n' :: rest)
      = around splices o line ++ '\n' :: walk splices (o + line.length + 1) rest := by
  rw [h.walk_eq, around]
  split
  · -- what a blank line is given out with comes before its line feed
    rename_i hblank
    subst hblank
    simp [walk, h.uncovered]
  · simp [walk, h.uncovered]

end Splice

namespace Document

variable {d : Document} {edits : List Edit} {e : Edit} {p : Position} {o n : Nat} {raw : List Char}

/-- The texts that are inserted at a position, as submitted. -/
def insertedAt (edits : List Edit) (p : Position) : List Char :=
  (edits.filter (·.range.start = p)).flatMap (·.newText)

/-- A line, given with its number, with what is inserted at its two ends. They are one place if the line is blank. -/
def lineWith (edits : List Edit) (numbered : List Char × Nat) : List Char :=
  insertedAt edits ⟨numbered.2, 0⟩ ++
    if numbered.1 = [] then [] else numbered.1 ++ insertedAt edits ⟨numbered.2, numbered.1.length⟩

/-- The edit inserts its text where a line starts or where it ends, a carriage return before its feed included. -/
def InsertsAtEnd (d : Document) (e : Edit) : Prop :=
  ∃ (n : Nat) (raw : List Char), d.rawLines[n]? = some raw ∧
    (e.range = .emptyAt ⟨n, 0⟩ ∨ e.range = .emptyAt ⟨n, raw.length⟩)

theorem InsertsAtEnd.covers (h : d.InsertsAtEnd e) : d.Covers e.range := by
  obtain ⟨n, raw, hraw, hrange | hrange⟩ := h
  · rw [hrange]
    exact covers_emptyAt (has_of_rawLine hraw (Nat.zero_le _))
  · rw [hrange]
    exact covers_emptyAt (has_of_rawLine hraw (Nat.le_refl _))

theorem InsertsAtEnd.range_eq (h : d.InsertsAtEnd e) : e.range = .emptyAt e.range.start := by
  obtain ⟨n, raw, -, hrange | hrange⟩ := h <;> rw [hrange] <;> rfl

section

variable (hedits : ∀ e ∈ edits, d.InsertsAtEnd e)
include hedits

/-- What is given out at an offset is what is inserted at its position. -/
theorem textsAt_ordered (ho : d.offsetAt p = .ok o) : Splice.textsAt (d.ordered edits) o = insertedAt edits p := by
  have hsame : ∀ e ∈ edits, ((d.spliceOf e).start == o) = decide (e.range.start = p) := by
    intro e he
    rw [Bool.eq_iff_iff, beq_iff_eq, decide_eq_true_eq]
    have hstart := (hedits e he).covers.1
    constructor
    · intro h
      have hat : d.offsetOf e.range.start = o := h
      exact offsetAt_inj (hat ▸ hstart) ho
    · rintro rfl
      exact offsetOf_eq ho
  -- insertions at one place compare as equal, so they stay as submitted
  have hsorted : (edits.filter (·.range.start = p)).Pairwise fun a b => Edit.rangeLe a b := by
    refine List.pairwise_of_forall_mem_list ?_
    intro a ha b hb
    rw [List.mem_filter, decide_eq_true_eq] at ha hb
    rw [Edit.rangeLe_iff, (hedits a ha.1).range_eq, (hedits b hb.1).range_eq, ha.2, hb.2]
    exact .inr ⟨rfl, Position.le_refl p⟩
  have hfilter : edits.filter ((fun s => s.start == o) ∘ d.spliceOf) = edits.filter (·.range.start = p) :=
    List.filter_congr hsame
  rw [Splice.textsAt, ordered, List.filter_map, Sort.filter_mergeSort Edit.rangeLe_trans Edit.rangeLe_total,
    List.flatMap_map, hfilter, List.mergeSort_of_pairwise hsorted]
  rfl

/-- Nothing is covered, and inside of a line nothing is inserted. -/
theorem quietInside_ordered (hraw : d.rawLines[n]? = some raw) :
    Splice.QuietInside (d.ordered edits) (d.lineStart n) raw := by
  -- An insertion covers nothing. Behind the start of a line and before its end none starts either, since insertions
  -- stand at the two ends.
  constructor
  · intro m
    rw [Splice.covered, ordered, List.any_map, List.any_eq_false]
    intro e he
    have hsame : e.range.stop = e.range.start := by
      rw [(hedits e (List.mem_mergeSort.mp he)).range_eq]
      rfl
    simp only [Function.comp_apply, spliceOf, hsame]
    simp
  · intro m hstart hend
    obtain ⟨k, rfl⟩ := Nat.exists_eq_add_of_lt hstart
    have hat : d.offsetAt ⟨n, (k + 1 : Nat)⟩ = .ok (d.lineStart n + k + 1) :=
      offsetAt_eq_ok.mpr ⟨n, k + 1, raw, rfl, hraw, by omega, rfl⟩
    have hnone : edits.filter (·.range.start = ⟨n, (k + 1 : Nat)⟩) = [] := by
      rw [List.filter_eq_nil_iff]
      intro e he
      obtain ⟨n', raw', hraw', hrange | hrange⟩ := hedits e he
      · simp [hrange, Range.emptyAt, Position.eq_iff]
        omega
      · -- the end of this line lies further on, and the ends of other lines lie on other lines
        by_cases hline : n' = n
        · subst hline
          obtain rfl := Option.some.inj (hraw'.symm.trans hraw)
          simp [hrange, Range.emptyAt, Position.eq_iff]
          omega
        · simp [hrange, Range.emptyAt, Position.eq_iff, hline]
    rw [textsAt_ordered hedits hat, insertedAt, hnone, List.flatMap_nil]

/-- What is given out around a line is what is inserted at its ends. -/
theorem around_ordered (hraw : d.rawLines[n]? = some raw) :
    Splice.around (d.ordered edits) (d.lineStart n) raw = lineWith edits (raw, n) := by
  have hfirst : d.offsetAt ⟨n, 0⟩ = .ok (d.lineStart n) :=
    offsetAt_eq_ok.mpr ⟨n, 0, raw, rfl, hraw, Nat.zero_le _, rfl⟩
  have hlast : d.offsetAt ⟨n, raw.length⟩ = .ok (d.lineStart n + raw.length) :=
    offsetAt_eq_ok.mpr ⟨n, raw.length, raw, rfl, hraw, Nat.le_refl _, rfl⟩
  rw [Splice.around, lineWith, textsAt_ordered hedits hfirst, textsAt_ordered hedits hlast]

/-- The walk goes from line to line. -/
theorem walk_lines {raws : List (List Char)} (hne : raws ≠ []) (hraws : d.rawLines.drop n = raws) :
    Splice.walk (d.ordered edits) (d.lineStart n) (unlines raws)
      = unlines ((raws.zipIdx n).map (lineWith edits)) := by
  -- Induction on the lines left, their number free: each is walked from its start to its feed, and the feed is
  -- copied.
  induction raws generalizing n with
  | nil => exact absurd rfl hne
  | cons raw raws ih =>
    have hraw : d.rawLines[n]? = some raw := by
      rw [← List.head?_drop, hraws]
      rfl
    have hquiet := quietInside_ordered hedits hraw
    have haround := around_ordered hedits hraw
    rcases raws with _ | ⟨next, raws⟩
    · -- nothing ends the last line, so the walk ends with what is inserted at its end
      have hlast : unlines [raw] = raw := by simp [unlines]
      rw [hlast, hquiet.walk_last, haround]
      simp [unlines]
    · have hdrop : d.rawLines.drop (n + 1) = next :: raws := by
        rw [← List.drop_drop, hraws]
        rfl
      rw [unlines_cons_cons, hquiet.walk_feed, haround, ← d.lineStart_succ hraw,
        ih (List.cons_ne_nil _ _) hdrop]
      simp only [List.zipIdx_cons, List.map_cons, unlines_cons_cons]

/-- Insertions at the ends of lines are made line by line. -/
theorem applyEdits_insertsAtEnd (strict : Bool) :
    applyEdits d.text edits strict = .ok (unlines (d.rawLines.zipIdx.map (lineWith edits))) := by
  have hcov : ∀ e ∈ edits, (Document.mk d.text "").Covers e.range := fun e he => (hedits e he).covers
  -- insertions never overlap, so the batch is woven into the text in the order of its places
  have hclear : (Document.mk d.text "").Clear edits := by
    refine List.pairwise_of_forall_mem_list ?_
    intro a ha b hb
    have hinsertion : ∀ e ∈ edits, (d.spliceOf e).isInsertion = true := by
      intro e he
      rw [Splice.isInsertion, spliceOf, (hedits e he).range_eq]
      exact beq_self_eq_true _
    exact Splice.not_clash_of_insertions (hinsertion a ha) (hinsertion b hb)
  have hwalk := Splice.walk_eq_weave (inOrder_ordered hcov hclear)
  have hlines := walk_lines (n := 0) hedits (lines_ne_nil d.text) (List.drop_zero (l := d.rawLines))
  rw [unlines_lines] at hlines
  rw [List.drop_zero] at hwalk
  rw [applyEdits_eq_weave strict hcov hclear, ← hwalk]
  exact congrArg Except.ok hlines

end

end Document

end Emend
