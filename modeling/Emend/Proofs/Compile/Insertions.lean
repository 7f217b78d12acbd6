import Emend.Proofs.Compile
import Emend.Proofs.Document.Lines
import Emend.Proofs.Edit.Insertions

/-!
# Batches that insert lines

A line that is put in front of another one brings its line feed behind it, and a line that is put behind another
one brings it in front. Where lines end in line feeds alone, each line then stands between the lines that are put in
front of it and behind it, whatever the order of the batch is, but for one case: a blank line starts and ends in one
place, and what is inserted there stands as submitted. If the text behind a blank line is submitted first, the two
texts meet with no line feed between them. A batch makes lines of all its texts exactly if this does not happen
(`compile_insertions`).

Main statements:

* `exists_makes_inserts`: each instruction makes the insertion of its line.
* `lines_written`: the lines of what is inserted at a blank line.
* `lines_lineWith_of_ne_nil`, `lines_lineWith_nil`: the lines that come of one line.
* `compile_insertions`: the batch makes lines of all its texts unless two of them cross.
-/

namespace Emend

open Text

namespace Instruction

variable {i j : Instruction} {instructions : List Instruction} {n : Nat}

/-- The instruction puts a text without line feeds in front of a line or behind it, and a text of so many lines has
that line. -/
structure InsertsLine (count : Nat) (i : Instruction) : Prop where
  action : i.action = .insertBefore ∨ i.action = .insertAfter
  target : ∃ number : Int, i.target = .line number ∧ 1 ≤ number ∧ number ≤ count
  flat : '\n' ∉ i.newText

/-- A text with the line feed that makes it a line, on the side of the line that it is put next to. -/
def asLine (action : Action) (s : List Char) : List Char :=
  if action = .insertBefore then s ++ ['\n'] else '\n' :: s

/-- What an instruction writes. -/
def written (i : Instruction) : List Char := asLine i.action i.newText

/-- The instructions of a batch for a line, which is counted from zero. -/
def forLine (instructions : List Instruction) (n : Nat) : List Instruction :=
  instructions.filter (·.target = .line (n + 1))

/-- The new texts of an action, as submitted. -/
def textsOf (action : Action) (instructions : List Instruction) : List (List Char) :=
  (instructions.filter (·.action = action)).map (·.newText)

/-- A line between the lines that are put in front of it and the ones that are put behind it. -/
def between (instructions : List Instruction) (line : List Char) : List (List Char) :=
  textsOf .insertBefore instructions ++ [line] ++ textsOf .insertAfter instructions

/-- The first of two instructions puts a text behind a line and the second one a text in front, and the two texts
are not both empty. -/
structure Crosses (i j : Instruction) : Prop where
  behind : i.action = .insertAfter
  front : j.action = .insertBefore
  shown : i.newText ≠ [] ∨ j.newText ≠ []

instance (i j : Instruction) : Decidable (i.Crosses j) :=
  decidable_of_iff (i.action = .insertAfter ∧ j.action = .insertBefore ∧ (i.newText ≠ [] ∨ j.newText ≠ []))
    ⟨fun ⟨behind, front, shown⟩ => ⟨behind, front, shown⟩, fun h => ⟨h.behind, h.front, h.shown⟩⟩

/-! ## The lines of what is written -/

theorem lines_front {texts : List (List Char)} (h : ∀ t ∈ texts, '\n' ∉ t) (s : List Char) :
    lines (texts.flatMap (asLine .insertBefore) ++ s) = texts ++ lines s := by
  induction texts with
  | nil => rfl
  | cons t texts ih =>
    rw [List.forall_mem_cons] at h
    rw [List.flatMap_cons, asLine, if_pos rfl, List.append_assoc, List.append_assoc, List.singleton_append,
      lines_append_feed, lines_of_not_mem h.1, ih h.2]
    rfl

theorem lines_behind {texts : List (List Char)} (h : ∀ t ∈ texts, '\n' ∉ t) (s : List Char) :
    lines (s ++ texts.flatMap (asLine .insertAfter)) = lines s ++ texts := by
  induction texts generalizing s with
  | nil => simp
  | cons t texts ih =>
    rw [List.forall_mem_cons] at h
    rw [List.flatMap_cons, ← List.append_assoc, ih h.2, asLine, if_neg (by decide), lines_append_feed,
      lines_of_not_mem h.1, List.append_assoc]
    rfl

theorem action_cases (hi : i.action = .insertBefore ∨ i.action = .insertAfter)
    (hj : j.action = .insertBefore ∨ j.action = .insertAfter) (hne : i.action ≠ j.action) :
    (i.action = .insertBefore ∧ j.action = .insertAfter) ∨ (i.action = .insertAfter ∧ j.action = .insertBefore) := by
  rcases hi with hi | hi <;> rcases hj with hj | hj
  · exact absurd (hi.trans hj.symm) hne
  · exact .inl ⟨hi, hj⟩
  · exact .inr ⟨hi, hj⟩
  · exact absurd (hi.trans hj.symm) hne

/-- What is written where there is nothing else, if each action is asked for once. As many lines come of it as
there should be, and they are the right ones unless the text behind was submitted first. -/
theorem lines_written (haction : ∀ i ∈ instructions, i.action = .insertBefore ∨ i.action = .insertAfter)
    (hflat : ∀ i ∈ instructions, '\n' ∉ i.newText)
    (honce : instructions.Pairwise fun i j => i.action ≠ j.action) :
    (lines (instructions.flatMap (·.written))).length = (between instructions []).length ∧
      (lines (instructions.flatMap (·.written)) = between instructions [] ↔
        instructions.Pairwise fun i j => ¬ i.Crosses j) := by
  -- A blank line has at most one instruction for each side, so there are four batches to look at.
  rcases instructions with _ | ⟨i, _ | ⟨j, _ | ⟨k, rest⟩⟩⟩
  · simp [lines_nil, between, textsOf]
  · have hline := lines_of_not_mem (hflat i (by simp))
    rcases haction i (by simp) with hi | hi
    · have hlines : lines (i.newText ++ ['\n']) = [i.newText, []] := by
        rw [lines_append_feed, hline, lines_nil, List.singleton_append]
      simp [between, textsOf, written, asLine, hi, hlines]
    · have hlines : lines ('\n' :: i.newText) = [[], i.newText] := by
        rw [lines_feed, hline]
      simp [between, textsOf, written, asLine, hi, hlines]
  · have hli := lines_of_not_mem (hflat i (by simp))
    have hlj := lines_of_not_mem (hflat j (by simp))
    have hne : i.action ≠ j.action := by simpa using honce
    rcases action_cases (haction i (by simp)) (haction j (by simp)) hne with ⟨hi, hj⟩ | ⟨hi, hj⟩
    · have hlines : lines (i.newText ++ '\n' :: '\n' :: j.newText) = [i.newText, [], j.newText] := by
        rw [lines_append_feed, lines_feed, hli, hlj, List.singleton_append]
      have hcross : ¬ i.Crosses j := by
        intro h
        rw [h.behind] at hi
        cases hi
      simp [between, textsOf, written, asLine, hi, hj, hlines, hcross]
    · -- no line feed parts the two texts
      have hboth : '\n' ∉ i.newText ++ j.newText := by
        rw [List.mem_append, not_or]
        exact ⟨hflat i (by simp), hflat j (by simp)⟩
      have hlines : lines ('\n' :: (i.newText ++ (j.newText ++ ['\n']))) = [[], i.newText ++ j.newText, []] := by
        rw [lines_feed, ← List.append_assoc, lines_append_feed, lines_of_not_mem hboth, lines_nil,
          List.singleton_append]
      have hcross : i.Crosses j ↔ i.newText ≠ [] ∨ j.newText ≠ [] := ⟨fun h => h.shown, fun h => ⟨hi, hj, h⟩⟩
      have hglued : [[], i.newText ++ j.newText, []] = [j.newText, [], i.newText] ↔ ¬ i.Crosses j := by
        rw [hcross, not_or, not_not, not_not]
        constructor
        · intro h
          injection h with hfront h
          injection h with _ h
          injection h with hbehind _
          exact ⟨hbehind.symm, hfront.symm⟩
        · rintro ⟨hempty, hempty'⟩
          rw [hempty, hempty']
          rfl
      simpa [between, textsOf, written, asLine, hi, hj, hlines] using hglued
  · -- of three instructions, two would have the same one of the two actions
    have hall := List.pairwise_cons.mp honce
    have hij := action_cases (haction i (by simp)) (haction j (by simp)) (hall.1 j (by simp))
    have hik := action_cases (haction i (by simp)) (haction k (by simp)) (hall.1 k (by simp))
    have hjk : j.action ≠ k.action := (List.pairwise_cons.mp hall.2).1 k (by simp)
    rcases hij with ⟨hi, hj⟩ | ⟨hi, hj⟩ <;> rcases hik with ⟨hi', hk⟩ | ⟨hi', hk⟩
    · exact absurd (hj.trans hk.symm) hjk
    · cases hi.symm.trans hi'
    · cases hi.symm.trans hi'
    · exact absurd (hj.trans hk.symm) hjk

end Instruction

/-! ## The edits of insertions -/

namespace Document

variable {d : Document} {i : Instruction} {e : Edit} {raw line : List Char} {n m : Nat}

/-- The edit writes what an instruction writes, where the line that the instruction is about starts or ends. -/
structure Inserts (d : Document) (n : Nat) (raw : List Char) (i : Instruction) (e : Edit) : Prop where
  target : i.target = .line (n + 1)
  line : d.rawLines[n]? = some raw
  text : e.newText = i.written
  place : (i.action = .insertBefore ∧ e.range = .emptyAt ⟨n, 0⟩) ∨
    (i.action = .insertAfter ∧ e.range = .emptyAt ⟨n, raw.length⟩)

namespace Inserts

theorem insertsAtEnd (h : d.Inserts n raw i e) : d.InsertsAtEnd e := by
  obtain ⟨-, hrange⟩ | ⟨-, hrange⟩ := h.place
  · exact ⟨n, raw, h.line, .inl hrange⟩
  · exact ⟨n, raw, h.line, .inr hrange⟩

theorem target_iff (h : d.Inserts n raw i e) (m : Nat) : i.target = .line (m + 1) ↔ n = m := by
  rw [h.target, Match.line.injEq]
  omega

/-- The edit stands in the line of its instruction, where the action puts its text. -/
theorem start_eq_iff (h : d.Inserts n raw i e) (m c : Nat) :
    e.range.start = ⟨m, c⟩ ↔ i.target = .line (m + 1) ∧
      ((i.action = .insertBefore ∧ c = 0) ∨ (i.action = .insertAfter ∧ c = raw.length)) := by
  rw [h.target_iff]
  obtain ⟨haction, hrange⟩ | ⟨haction, hrange⟩ := h.place
  · simp [hrange, haction, Range.emptyAt, Position.eq_iff, eq_comm]
  · simp [hrange, haction, Range.emptyAt, Position.eq_iff, eq_comm]

/-- The line that an instruction is about is the line that its edit stands in. -/
theorem raw_eq (h : d.Inserts n raw i e) (htarget : i.target = .line (m + 1))
    (hline : d.rawLines[m]? = some line) : raw = line := by
  obtain rfl := (h.target_iff m).mp htarget
  exact Option.some.inj (h.line.symm.trans hline)

/-- Where a line starts that is not blank, the texts are inserted that come in front of it. -/
theorem start_iff (h : d.Inserts n raw i e) (hline : d.rawLines[m]? = some line) (hne : line ≠ []) :
    e.range.start = ⟨m, 0⟩ ↔ i.action = .insertBefore ∧ i.target = .line (m + 1) := by
  have hplace := h.start_eq_iff m 0
  rw [Nat.cast_zero] at hplace
  rw [hplace]
  constructor
  · rintro ⟨htarget, ⟨haction, -⟩ | ⟨-, hlength⟩⟩
    · exact ⟨haction, htarget⟩
    · obtain rfl := h.raw_eq htarget hline
      exact absurd (List.length_eq_zero_iff.mp hlength.symm) hne
  · rintro ⟨haction, htarget⟩
    exact ⟨htarget, .inl ⟨haction, rfl⟩⟩

/-- Where it ends, the texts are inserted that come behind it. -/
theorem stop_iff (h : d.Inserts n raw i e) (hline : d.rawLines[m]? = some line) (hne : line ≠ []) :
    e.range.start = ⟨m, line.length⟩ ↔ i.action = .insertAfter ∧ i.target = .line (m + 1) := by
  rw [h.start_eq_iff]
  constructor
  · rintro ⟨htarget, ⟨-, hlength⟩ | ⟨haction, -⟩⟩
    · exact absurd (List.length_eq_zero_iff.mp hlength) hne
    · exact ⟨haction, htarget⟩
  · rintro ⟨haction, htarget⟩
    obtain rfl := h.raw_eq htarget hline
    exact ⟨htarget, .inr ⟨haction, rfl⟩⟩

/-- On a blank line, both are inserted in one place. -/
theorem blank_iff (h : d.Inserts n raw i e) (hline : d.rawLines[m]? = some []) :
    e.range.start = ⟨m, 0⟩ ↔ i.target = .line (m + 1) := by
  have hplace := h.start_eq_iff m 0
  rw [Nat.cast_zero] at hplace
  rw [hplace]
  constructor
  · rintro ⟨htarget, -⟩
    exact htarget
  · intro htarget
    obtain rfl := h.raw_eq htarget hline
    exact ⟨htarget, h.place.imp (fun h => ⟨h.1, rfl⟩) (fun h => ⟨h.1, rfl⟩)⟩

end Inserts

/-! ## Line by line -/

variable {p : Position} {instructions : List Instruction} {make : Instruction → Edit}

section

variable (hmake : ∀ i ∈ instructions, (make i).newText = i.written)
include hmake

/-- What a batch inserts at a position is what the instructions for it write. -/
theorem insertedAt_map {P : Instruction → Bool}
    (hplace : ∀ i ∈ instructions, (make i).range.start = p ↔ P i = true) :
    insertedAt (instructions.map make) p = (instructions.filter P).flatMap (·.written) := by
  -- What is inserted in a place stems from the instructions whose edits start there.
  have hfilter : instructions.filter (fun i => decide ((make i).range.start = p)) = instructions.filter P := by
    refine List.filter_congr ?_
    intro i hi
    rw [Bool.eq_iff_iff, decide_eq_true_eq]
    exact hplace i hi
  rw [insertedAt, List.filter_map, List.flatMap_map]
  simp only [Function.comp_def]
  rw [hfilter, List.flatMap_congr]
  intro i hi
  exact hmake i (List.mem_filter.mp hi).1

theorem insertedAt_textsOf {action : Action}
    (hplace : ∀ i ∈ instructions, (make i).range.start = p ↔ i.action = action ∧ i.target = .line (m + 1)) :
    insertedAt (instructions.map make) p
      = (Instruction.textsOf action (Instruction.forLine instructions m)).flatMap (Instruction.asLine action) := by
  have hplace' : ∀ i ∈ instructions, (make i).range.start = p ↔
      (decide (i.action = action) && decide (i.target = .line (m + 1))) = true := by
    intro i hi
    rw [hplace i hi, Bool.and_eq_true, decide_eq_true_eq, decide_eq_true_eq]
  rw [insertedAt_map hmake hplace', ← List.filter_filter, Instruction.textsOf, Instruction.forLine,
    List.flatMap_map, List.flatMap_congr]
  intro i hi
  have haction : i.action = action := of_decide_eq_true (List.mem_filter.mp hi).2
  rw [Instruction.written, haction]

end

section

variable (hinserts : ∀ i ∈ instructions, ∃ n raw, d.Inserts n raw i (make i))
  (hflat : ∀ i ∈ instructions, '\n' ∉ i.newText)
include hinserts hflat

/-- A line that is not blank stands between what is put in front of it and what is put behind it. -/
theorem lines_lineWith_of_ne_nil (hline : d.rawLines[m]? = some line) (hne : line ≠ []) :
    lines (lineWith (instructions.map make) (line, m))
      = Instruction.between (Instruction.forLine instructions m) line := by
  have htext : ∀ i ∈ instructions, (make i).newText = i.written := by
    intro i hi
    obtain ⟨n, raw, h⟩ := hinserts i hi
    exact h.text
  have hfront : ∀ i ∈ instructions,
      (make i).range.start = ⟨m, 0⟩ ↔ i.action = .insertBefore ∧ i.target = .line (m + 1) := by
    intro i hi
    obtain ⟨n, raw, h⟩ := hinserts i hi
    exact h.start_iff hline hne
  have hbehind : ∀ i ∈ instructions,
      (make i).range.start = ⟨m, line.length⟩ ↔ i.action = .insertAfter ∧ i.target = .line (m + 1) := by
    intro i hi
    obtain ⟨n, raw, h⟩ := hinserts i hi
    exact h.stop_iff hline hne
  have hfree : ∀ action, ∀ t ∈ Instruction.textsOf action (Instruction.forLine instructions m), '\n' ∉ t := by
    intro action
    rw [Instruction.textsOf, List.forall_mem_map]
    exact fun i hi => hflat i (List.mem_filter.mp (List.mem_filter.mp hi).1).1
  -- A line that is not empty keeps the texts in front of it and behind it apart, so each makes lines of its own.
  have hone := lines_of_not_mem (not_mem_of_mem_lines d.text line (List.mem_of_getElem? hline))
  rw [lineWith, if_neg hne, insertedAt_textsOf htext hfront, insertedAt_textsOf htext hbehind,
    Instruction.lines_front (hfree _), Instruction.lines_behind (hfree _), hone, Instruction.between,
    List.append_assoc]

/-- On a blank line, everything is written in the order of the batch. -/
theorem lines_lineWith_nil
    (honce : instructions.Pairwise fun i j => ¬ (i.action = j.action ∧ i.target = j.target))
    (hline : d.rawLines[m]? = some []) :
    (lines (lineWith (instructions.map make) ([], m))).length
        = (Instruction.between (Instruction.forLine instructions m) []).length ∧
      (lines (lineWith (instructions.map make) ([], m))
          = Instruction.between (Instruction.forLine instructions m) [] ↔
        (Instruction.forLine instructions m).Pairwise fun i j => ¬ i.Crosses j) := by
  have htext : ∀ i ∈ instructions, (make i).newText = i.written := by
    intro i hi
    obtain ⟨n, raw, h⟩ := hinserts i hi
    exact h.text
  have hplace : ∀ i ∈ instructions,
      (make i).range.start = ⟨m, 0⟩ ↔ decide (i.target = .line (m + 1)) = true := by
    intro i hi
    obtain ⟨n, raw, h⟩ := hinserts i hi
    rw [h.blank_iff hline, decide_eq_true_eq]
  have haction : ∀ i ∈ Instruction.forLine instructions m, i.action = .insertBefore ∨ i.action = .insertAfter := by
    intro i hi
    obtain ⟨n, raw, h⟩ := hinserts i (List.mem_filter.mp hi).1
    exact h.place.imp And.left And.left
  have honce' : (Instruction.forLine instructions m).Pairwise fun i j => i.action ≠ j.action := by
    rw [Instruction.forLine, List.pairwise_filter]
    refine honce.imp ?_
    intro i j h hi hj haction
    rw [decide_eq_true_eq] at hi hj
    exact h ⟨haction, hi.trans hj.symm⟩
  -- both ends of the line are one place, so all of the texts stand there
  rw [lineWith, if_pos rfl, List.append_nil, insertedAt_map htext hplace]
  exact Instruction.lines_written haction (fun i hi => hflat i (List.mem_filter.mp hi).1) honce'

end

end Document

/-! ## Batches -/

/-- Items that stand for as many things each stand for the same things altogether if each of them does. -/
theorem flatMap_eq_flatMap_iff {α β : Type} {l : List α} {f g : α → List β}
    (hlength : ∀ a ∈ l, (f a).length = (g a).length) : l.flatMap f = l.flatMap g ↔ ∀ a ∈ l, f a = g a := by
  induction l with
  | nil => simp
  | cons a l ih =>
    rw [List.forall_mem_cons] at hlength ⊢
    rw [List.flatMap_cons, List.flatMap_cons, ← ih hlength.2]
    constructor
    · exact fun h => List.append_inj h hlength.1
    · rintro ⟨h, h'⟩
      rw [h, h']

namespace Context

variable {c : Context} {i : Instruction} {instructions : List Instruction}

/-- A line is found by its number. -/
theorem exists_lineNumberRange {d : Document} {raw : List Char} {n : Nat} (hraw : d.rawLines[n]? = some raw) :
    ∃ r, lineNumberRange d (n + 1) = .ok r ∧ r.start = ⟨n, 0⟩ ∧ r.stop = ⟨n, (Document.body raw).length⟩ := by
  have hcount : n < d.lineCount := (List.getElem?_eq_some_iff.mp hraw).1
  have hin : ¬ ((n : Int) < 0 ∨ (n : Int) ≥ d.lineCount) := by omega
  have hordered : (⟨n, 0⟩ : Position) ≤ ⟨n, (Document.body raw).length⟩ := .inr ⟨rfl, by simp⟩
  refine ⟨⟨_, _, hordered⟩, ?_, rfl, rfl⟩
  rw [lineNumberRange, Int.add_sub_cancel, if_neg hin]
  exact Attempt.ofRange_eq_ok.mpr (Document.lineRange_eq_ok.mpr ⟨n, raw, rfl, hraw, rfl, rfl⟩)

/-- An instruction that inserts a line makes an edit that does. -/
theorem exists_makes_inserts (hreturn : ∀ raw ∈ c.document.rawLines, raw.getLast? ≠ some '\r')
    (hi : i.InsertsLine c.document.lineCount) (normalize : Bool) :
    ∃ e, c.Makes normalize i e ∧ ∃ n raw, c.document.Inserts n raw i e := by
  obtain ⟨action, target, newText⟩ := i
  obtain ⟨number, htarget, hfirst, hlast⟩ := hi.target
  obtain rfl := htarget
  -- Lines are numbered from one in instructions and from zero in documents.
  obtain ⟨n, rfl⟩ : ∃ n : Nat, number = n + 1 := ⟨(number - 1).toNat, by omega⟩
  obtain ⟨raw, hraw⟩ := c.document.exists_rawLine (n := n) (by omega)
  obtain ⟨r, hr, hstart, hstop⟩ := exists_lineNumberRange hraw
  have hending : c.document.endingChars n = .ok ['\n'] := by
    rw [Document.endingChars, Document.endingAt_of_getLast?_ne hreturn hraw]
    rfl
  rw [Document.body_of_getLast?_ne (hreturn raw (List.mem_of_getElem? hraw))] at hstop
  rcases hi.action with haction | haction
  · obtain rfl := haction
    refine ⟨_, ⟨r, hr, Attempt.bind_eq_ok.mpr ⟨['\n'], by rwa [hstart], rfl⟩⟩, n, raw, rfl, hraw, rfl, ?_⟩
    exact .inl ⟨rfl, by rw [hstart]⟩
  · obtain rfl := haction
    refine ⟨_, ⟨r, hr, Attempt.bind_eq_ok.mpr ⟨['\n'], by rwa [hstop], rfl⟩⟩, n, raw, rfl, hraw, rfl, ?_⟩
    exact .inr ⟨rfl, by rw [hstop]⟩

/-- A batch that puts at most one line in front of each line and at most one line behind it is made, and each line
then stands between the lines that were put there, exactly if for no blank line a text behind it was submitted
before a text in front of it. -/
theorem compile_insertions (hreturn : ∀ raw ∈ c.document.rawLines, raw.getLast? ≠ some '\r')
    (hlines : ∀ i ∈ instructions, i.InsertsLine c.document.lineCount)
    (honce : instructions.Pairwise fun i j => ¬ (i.action = j.action ∧ i.target = j.target)) (normalize : Bool) :
    ∃ edits after, c.compile normalize instructions = .ok edits ∧
      applyEdits c.document.text edits true = .ok after ∧
      (lines after = c.document.rawLines.zipIdx.flatMap (fun (line, n) =>
          Instruction.between (Instruction.forLine instructions n) line) ↔
        ∀ n, c.document.rawLines[n]? = some [] →
          (Instruction.forLine instructions n).Pairwise fun i j => ¬ i.Crosses j) := by
  have hmakes : ∀ i, i ∈ instructions →
      ∃ e, c.Makes normalize i e ∧ ∃ n raw, c.document.Inserts n raw i e :=
    fun i hi => exists_makes_inserts hreturn (hlines i hi) normalize
  -- the edits of the instructions, chosen once and for all
  choose! make hmake hinserts using hmakes
  have hflat : ∀ i ∈ instructions, '\n' ∉ i.newText := fun i hi => (hlines i hi).flat
  have hedits : ∀ e ∈ instructions.map make, c.document.InsertsAtEnd e := by
    rw [List.forall_mem_map]
    intro i hi
    obtain ⟨n, raw, h⟩ := hinserts i hi
    exact h.insertsAtEnd
  refine ⟨instructions.map make, _, ?_, Document.applyEdits_insertsAtEnd hedits true, ?_⟩
  · rw [compile_eq_ok_iff, List.forall₂_map_right_iff, List.forall₂_same]
    exact hmake
  · have hsome : c.document.rawLines.zipIdx.map (Document.lineWith (instructions.map make)) ≠ [] := by
      rw [Ne, List.map_eq_nil_iff, List.zipIdx_eq_nil_iff]
      exact lines_ne_nil c.document.text
    -- each line has become as many lines as it should
    have hlength : ∀ numbered ∈ c.document.rawLines.zipIdx,
        (lines (Document.lineWith (instructions.map make) numbered)).length
          = (Instruction.between (Instruction.forLine instructions numbered.2) numbered.1).length := by
      rintro ⟨line, n⟩ hmem
      have hline : c.document.rawLines[n]? = some line := List.mem_zipIdx_iff_getElem?.mp hmem
      by_cases hblank : line = []
      · subst hblank
        exact (Document.lines_lineWith_nil hinserts hflat honce hline).1
      · rw [Document.lines_lineWith_of_ne_nil hinserts hflat hline hblank]
    rw [lines_unlines hsome, List.flatMap_map, flatMap_eq_flatMap_iff hlength]
    constructor
    · intro h n hline
      exact (Document.lines_lineWith_nil hinserts hflat honce hline).2.mp
        (h ([], n) (List.mem_zipIdx_iff_getElem?.mpr hline))
    · rintro h ⟨line, n⟩ hmem
      have hline : c.document.rawLines[n]? = some line := List.mem_zipIdx_iff_getElem?.mp hmem
      by_cases hblank : line = []
      · subst hblank
        exact (Document.lines_lineWith_nil hinserts hflat honce hline).2.mpr (h n hline)
      · exact Document.lines_lineWith_of_ne_nil hinserts hflat hline hblank

/-- Lines are put around a blank line, the one in front of it first, in front of the first line and behind the last
one. -/
theorem compile_insertions_around :
    let c : Context := { document := ⟨"x\n\ny".toList, "a.txt"⟩ }
    let instructions : List Instruction :=
      [⟨.insertAfter, .line 3, "Z".toList⟩, ⟨.insertBefore, .line 2, "B".toList⟩,
        ⟨.insertAfter, .line 2, "A".toList⟩, ⟨.insertBefore, .line 1, "W".toList⟩]
    (∀ raw ∈ c.document.rawLines, raw.getLast? ≠ some '\r') ∧
      (∀ i ∈ instructions, i.InsertsLine c.document.lineCount) ∧
      (instructions.Pairwise fun i j => ¬ (i.action = j.action ∧ i.target = j.target)) ∧
      ∃ edits, c.compile true instructions = .ok edits ∧
        applyEdits c.document.text edits true = .ok "W\nx\nB\n\nA\ny\nZ".toList := by
  intro c instructions
  have hreturn : ∀ raw ∈ c.document.rawLines, raw.getLast? ≠ some '\r' := by decide
  have hlines : ∀ i ∈ instructions, i.InsertsLine c.document.lineCount := by
    simp only [instructions, List.forall_mem_cons, List.not_mem_nil, false_imp_iff, implies_true, and_true]
    exact ⟨⟨.inr rfl, ⟨3, rfl, by decide⟩, by decide⟩, ⟨.inl rfl, ⟨2, rfl, by decide⟩, by decide⟩,
      ⟨.inr rfl, ⟨2, rfl, by decide⟩, by decide⟩, ⟨.inl rfl, ⟨1, rfl, by decide⟩, by decide⟩⟩
  have honce : instructions.Pairwise fun i j => ¬ (i.action = j.action ∧ i.target = j.target) := by decide
  refine ⟨hreturn, hlines, honce, ?_⟩
  obtain ⟨edits, after, hedits, happly, hiff⟩ := compile_insertions hreturn hlines honce true
  have hafter : lines after = ["W", "x", "B", "", "A", "y", "Z"].map (·.toList) := by
    refine hiff.mpr ?_
    intro n hblank
    have hn : n < 3 := (List.getElem?_eq_some_iff.mp hblank).1
    interval_cases n <;> decide
  have htext := unlines_lines after
  rw [hafter] at htext
  exact ⟨edits, hedits, happly.trans (congrArg Except.ok htext.symm)⟩

/-- The line behind a blank line is submitted before the line in front of it, and the two are made one line. -/
theorem compile_insertions_crossed :
    let c : Context := { document := ⟨"x\n\ny".toList, "a.txt"⟩ }
    let instructions : List Instruction :=
      [⟨.insertAfter, .line 2, "A".toList⟩, ⟨.insertBefore, .line 2, "B".toList⟩]
    '\r' ∉ c.document.text ∧ (∀ i ∈ instructions, i.InsertsLine c.document.lineCount) ∧
      (instructions.Pairwise fun i j => ¬ (i.action = j.action ∧ i.target = j.target)) ∧
      ∃ edits after, c.compile true instructions = .ok edits ∧
        applyEdits c.document.text edits true = .ok after ∧ after = "x\n\nAB\n\ny".toList ∧
        lines after ≠ c.document.rawLines.zipIdx.flatMap (fun (line, n) =>
          Instruction.between (Instruction.forLine instructions n) line) := by
  intro c instructions
  have hlines : ∀ i ∈ instructions, i.InsertsLine c.document.lineCount := by
    simp only [instructions, List.forall_mem_cons, List.not_mem_nil, false_imp_iff, implies_true, and_true]
    exact ⟨⟨.inr rfl, ⟨2, rfl, by decide⟩, by decide⟩, ⟨.inl rfl, ⟨2, rfl, by decide⟩, by decide⟩⟩
  refine ⟨by decide, hlines, by decide, [⟨.emptyAt ⟨1, 0⟩, "\nA".toList⟩, ⟨.emptyAt ⟨1, 0⟩, "B\n".toList⟩],
    _, ?_, ?_, rfl, ?_⟩
  · cbv
  · cbv
  · decide

end Context

end Emend
