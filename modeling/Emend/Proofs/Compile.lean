import Emend.Compile
import Emend.Proofs.Resolve

/-!
# Compiled batches

Once the match of an instruction is found, the edit of the instruction can be made (`exists_compile`): every
place that it looks at follows from the two ends of the match. So a batch compiles exactly if the match of each
instruction is found, and if it does not, the first one that is not found is at fault
(`compile_all_or_nothing`). A batch that compiles has one edit for each instruction, and the document has both
ends of each of them (`covers_compile`).

Main statements:

* `compile_cases`, `deleteEdit_cases`: the edit of an instruction, action by action.
* `exists_compile`, `covers_compile`: it can be made, and the document has both its ends.
* `compile_eq_ok_iff`: a batch compiles if there is an edit for each of its instructions.
* `compile_all_or_nothing`: and it fails with the first instruction whose match is not found.
-/

namespace Emend

open Text

/-! ## Places of a match -/

namespace Document

variable {d : Document} {p : Position}

/-- The indentation before a position is what the line starts with up to there. -/
theorem indentBefore_eq_ok {indent : List Char} :
    d.indentBefore p = .ok indent ↔
      ∃ line, d.lineText p.line = .ok line ∧ leadingBlanks (sliceTo line p.character) = indent := by
  rw [indentBefore, Attempt.bind_eq_ok]
  simp only [Attempt.ofRange_eq_ok, Attempt.pure_eq_ok]

/-- It is blank, and no line feed is in it. -/
theorem blank_of_indentBefore {indent : List Char} (h : d.indentBefore p = .ok indent) :
    '\n' ∉ indent ∧ ∀ c ∈ indent, isBlank c = true := by
  obtain ⟨line, hline, rfl⟩ := indentBefore_eq_ok.mp h
  constructor
  · intro hmem
    exact feed_not_mem_lineText hline (List.mem_of_mem_take (List.takeWhile_subset _ hmem))
  · intro c hc
    exact List.mem_takeWhile_imp hc

theorem Has.exists_indentBefore (h : d.Has p) : ∃ indent, d.indentBefore p = .ok indent := by
  obtain ⟨raw, hraw⟩ := h.rawLine
  simp [indentBefore, lineText, hraw, Attempt.ofRange, Except.map, bind, Except.bind, pure,
    Except.pure]

theorem Has.exists_endingChars (h : d.Has p) : ∃ ending, d.endingChars p.line = .ok ending := by
  obtain ⟨raw, hraw⟩ := h.rawLine
  simp [endingChars, endingAt, hraw, Attempt.ofRange, Except.map, bind, Except.bind, pure,
    Except.pure]

theorem Has.exists_followsBreak (h : d.Has p) : ∃ follows, d.followsBreak p = .ok follows := by
  obtain ⟨o, ho⟩ := h
  simp [followsBreak, ho, Attempt.ofRange, bind, Except.bind, pure, Except.pure]

end Document

/-! ## One instruction -/

namespace Instruction

variable {i : Instruction} {d : Document} {normalize : Bool} {resolved : Range} {e : Edit}

/-- Lines that are not the last ones are deleted up to the start of the next line. -/
theorem deleteEdit_of_next (hlines : i.target.kind = .lines)
    (hnext : resolved.stop.line + 1 < d.lineCount) :
    i.deleteEdit d resolved
      = .ok ⟨⟨resolved.start, ⟨resolved.stop.line + 1, 0⟩, resolved.start_le_next_line⟩, []⟩ := by
  rw [deleteEdit, if_pos ⟨hlines, hnext⟩, Range.between_of_le resolved.start_le_next_line]
  rfl

/-- Whatever else is deleted is the match itself. -/
theorem deleteEdit_of_not
    (h : ¬ (i.target.kind = .lines ∧ resolved.stop.line + 1 < d.lineCount)) :
    i.deleteEdit d resolved = .ok ⟨resolved, []⟩ :=
  if_neg h

/-- What is deleted is the match, or reaches from its start to the start of the line behind it. -/
theorem deleteEdit_cases (h : i.deleteEdit d resolved = .ok e) :
    e.newText = [] ∧ e.range.start = resolved.start ∧
      (e.range.stop = resolved.stop ∨
        (e.range.stop = ⟨resolved.stop.line + 1, 0⟩ ∧ resolved.stop.line + 1 < d.lineCount)) := by
  by_cases hnext : i.target.kind = .lines ∧ resolved.stop.line + 1 < d.lineCount
  · rw [deleteEdit_of_next hnext.1 hnext.2] at h
    obtain rfl := Except.ok.inj h
    exact ⟨rfl, rfl, .inr ⟨rfl, hnext.2⟩⟩
  · rw [deleteEdit_of_not hnext] at h
    obtain rfl := Except.ok.inj h
    exact ⟨rfl, rfl, .inl rfl⟩

theorem covers_deleteEdit (hresolved : d.Covers resolved) (h : i.deleteEdit d resolved = .ok e) :
    d.Covers e.range := by
  obtain ⟨hstart, hstop⟩ := Document.covers_iff.mp hresolved
  obtain ⟨-, hfrom, hto⟩ := deleteEdit_cases h
  rw [Document.covers_iff, hfrom]
  refine ⟨hstart, ?_⟩
  rcases hto with hto | ⟨hto, hnext⟩
  · rw [hto]
    exact hstop
  · have hnonneg := hstop.line_nonneg
    rw [hto]
    exact Document.has_line (by omega) hnext

theorem range_insertBeforeEdit (h : i.insertBeforeEdit d normalize resolved = .ok e) :
    e.range = .emptyAt resolved.start := by
  unfold insertBeforeEdit at h
  split at h
  · obtain ⟨ending, -, h⟩ := Attempt.bind_eq_ok.mp h
    rw [← Attempt.pure_eq_ok.mp h]
  · obtain ⟨indent, -, h⟩ := Attempt.bind_eq_ok.mp h
    rw [← Attempt.pure_eq_ok.mp h]

theorem range_insertAfterEdit (h : i.insertAfterEdit d normalize resolved = .ok e) :
    e.range = .emptyAt resolved.stop := by
  unfold insertAfterEdit at h
  simp only at h
  -- Line targets, texts that end with a break and texts that do not are made differently, all of them where the match
  -- ends.
  split at h
  · obtain ⟨ending, -, h⟩ := Attempt.bind_eq_ok.mp h
    rw [← Attempt.pure_eq_ok.mp h]
  · obtain ⟨text, -, h⟩ := Attempt.bind_eq_ok.mp h
    split at h
    · rw [← Attempt.pure_eq_ok.mp h]
    · obtain ⟨follows, -, h⟩ := Attempt.bind_eq_ok.mp h
      split at h
      · obtain ⟨indent, -, h⟩ := Attempt.bind_eq_ok.mp h
        obtain ⟨ending, -, h⟩ := Attempt.bind_eq_ok.mp h
        rw [← Attempt.pure_eq_ok.mp h]
      · rw [← Attempt.pure_eq_ok.mp h]

/-- What an instruction makes of its match: each action in its own way, if it takes such a match. -/
theorem compile_cases (h : i.compile d normalize resolved = .ok e) :
    i.action.accepts i.target.kind = true ∧
    ((i.action = .replace ∧ ∃ text, i.indentedText d normalize resolved = .ok text ∧
        e = ⟨resolved, text⟩) ∨
      (i.action = .delete ∧ i.deleteEdit d resolved = .ok e) ∨
      (i.action = .insertBefore ∧ i.insertBeforeEdit d normalize resolved = .ok e) ∨
      (i.action = .insertAfter ∧ i.insertAfterEdit d normalize resolved = .ok e) ∨
      (i.action = .prepend ∧ e = ⟨.emptyAt ⟨resolved.start.line, 0⟩, i.newText⟩) ∨
      (i.action = .append ∧ e = ⟨.emptyAt resolved.stop, i.newText⟩)) := by
  unfold compile at h
  split at h
  · exact absurd h Attempt.refuse_ne_ok
  · rename_i hpaired
    -- Once the action is known, the compilation is one function of the match, and the case is that function's
    -- equation.
    refine ⟨by simpa using hpaired, ?_⟩
    cases haction : i.action with
    | replace =>
      rw [haction] at h
      obtain ⟨text, htext, h⟩ := Attempt.bind_eq_ok.mp h
      exact .inl ⟨rfl, text, htext, (Attempt.pure_eq_ok.mp h).symm⟩
    | delete =>
      rw [haction] at h
      exact .inr (.inl ⟨rfl, h⟩)
    | insertBefore =>
      rw [haction] at h
      exact .inr (.inr (.inl ⟨rfl, h⟩))
    | insertAfter =>
      rw [haction] at h
      exact .inr (.inr (.inr (.inl ⟨rfl, h⟩)))
    | prepend =>
      rw [haction] at h
      exact .inr (.inr (.inr (.inr (.inl ⟨rfl, (Except.ok.inj h).symm⟩))))
    | append =>
      rw [haction] at h
      exact .inr (.inr (.inr (.inr (.inr ⟨rfl, (Except.ok.inj h).symm⟩))))

/-- A document that has both ends of a match has both ends of the edit that is made of it. -/
theorem covers_compile (hresolved : d.Covers resolved)
    (h : i.compile d normalize resolved = .ok e) : d.Covers e.range := by
  obtain ⟨hstart, hstop⟩ := Document.covers_iff.mp hresolved
  -- an action edits the match itself, or the empty range at one of its ends
  rcases (compile_cases h).2 with
    ⟨-, text, -, rfl⟩ | ⟨-, h⟩ | ⟨-, h⟩ | ⟨-, h⟩ | ⟨-, rfl⟩ | ⟨-, rfl⟩
  · exact hresolved
  · exact covers_deleteEdit hresolved h
  · rw [range_insertBeforeEdit h]
    exact Document.covers_emptyAt hstart
  · rw [range_insertAfterEdit h]
    exact Document.covers_emptyAt hstop
  · exact Document.covers_emptyAt hstart.line
  · exact Document.covers_emptyAt hstop

/-! ### Edits that can be made -/

theorem exists_indent (i : Instruction) (normalize : Bool) (h : d.Has resolved.start) :
    ∃ indent, i.indent d normalize resolved = .ok indent := by
  unfold indent
  split
  · exact h.exists_indentBefore
  · exact ⟨[], rfl⟩

theorem exists_indentedText (i : Instruction) (normalize : Bool) (h : d.Has resolved.start) :
    ∃ text, i.indentedText d normalize resolved = .ok text := by
  obtain ⟨indent, hindent⟩ := i.exists_indent normalize h
  exact ⟨_, Attempt.map_eq_ok.mpr ⟨indent, hindent, rfl⟩⟩

theorem exists_deleteEdit (i : Instruction) (d : Document) (resolved : Range) :
    ∃ e, i.deleteEdit d resolved = .ok e := by
  by_cases hnext : i.target.kind = .lines ∧ resolved.stop.line + 1 < d.lineCount
  · exact ⟨_, deleteEdit_of_next hnext.1 hnext.2⟩
  · exact ⟨_, deleteEdit_of_not hnext⟩

theorem exists_insertBeforeEdit (i : Instruction) (normalize : Bool) (h : d.Has resolved.start) :
    ∃ e, i.insertBeforeEdit d normalize resolved = .ok e := by
  unfold insertBeforeEdit
  split
  · obtain ⟨ending, hending⟩ := h.exists_endingChars
    exact ⟨_, Attempt.bind_eq_ok.mpr ⟨ending, hending, rfl⟩⟩
  · obtain ⟨indent, hindent⟩ := i.exists_indent normalize h
    exact ⟨_, Attempt.bind_eq_ok.mpr ⟨indent, hindent, rfl⟩⟩

theorem exists_insertAfterEdit (i : Instruction) (normalize : Bool) (h : d.Covers resolved) :
    ∃ e, i.insertAfterEdit d normalize resolved = .ok e := by
  -- Each of the places looked at on the way is the start or the end of the match, which the document has.
  obtain ⟨hstart, hstop⟩ := Document.covers_iff.mp h
  obtain ⟨ending, hending⟩ := hstop.exists_endingChars
  unfold insertAfterEdit
  simp only
  split
  · exact ⟨_, Attempt.bind_eq_ok.mpr ⟨ending, hending, rfl⟩⟩
  · obtain ⟨text, htext⟩ := i.exists_indentedText normalize hstart
    obtain ⟨indent, hindent⟩ := i.exists_indent normalize hstart
    obtain ⟨follows, hfollows⟩ := hstop.exists_followsBreak
    simp only [htext, hindent, hending, hfollows, bind, Except.bind, pure, Except.pure]
    split
    · exact ⟨_, rfl⟩
    · split <;> exact ⟨_, rfl⟩

/-- An instruction whose match was found makes an edit, if its action takes such a match. -/
theorem exists_compile (hpaired : i.action.accepts i.target.kind = true) (normalize : Bool)
    (hresolved : d.Covers resolved) : ∃ e, i.compile d normalize resolved = .ok e := by
  obtain ⟨hstart, hstop⟩ := Document.covers_iff.mp hresolved
  have hpaired' : ¬ (!i.action.accepts i.target.kind) = true := by simp [hpaired]
  unfold compile
  rw [if_neg hpaired']
  -- Every action looks at the two ends of the match and at nothing else that could be missing.
  cases i.action with
  | replace =>
    obtain ⟨text, htext⟩ := i.exists_indentedText normalize hstart
    exact ⟨_, Attempt.bind_eq_ok.mpr ⟨text, htext, rfl⟩⟩
  | delete => exact i.exists_deleteEdit d resolved
  | insertBefore => exact i.exists_insertBeforeEdit normalize hstart
  | insertAfter => exact i.exists_insertAfterEdit normalize hresolved
  | prepend => exact ⟨_, rfl⟩
  | append => exact ⟨_, rfl⟩

end Instruction

/-! ## Batches -/

namespace Context

variable {c : Context} {index : Nat} {normalize : Bool} {instructions : List Instruction}

/-- The match of an instruction is found in a range. -/
def Finds (c : Context) (i : Instruction) (r : Range) : Prop :=
  c.resolve i.acceptsOpenEnd i.target = .ok r

/-- The match of an instruction is found, and the edit of the instruction is made of where it is. -/
def Makes (c : Context) (normalize : Bool) (i : Instruction) (e : Edit) : Prop :=
  ∃ r, c.Finds i r ∧ i.compile c.document normalize r = .ok e

theorem resolveFrom_eq_each :
    c.resolveFrom index instructions
      = Attempt.each (fun i => c.resolve i.acceptsOpenEnd i.target)
          (fun k i => Failure.blame k (.instruction i)) index instructions := by
  induction instructions generalizing index with
  | nil => rfl
  | cons i rest ih => rw [resolveFrom, Attempt.each, ih]

/-- The first pass succeeds exactly with the ranges of the matches. -/
theorem resolveFrom_eq_ok_iff {ranges : List Range} :
    c.resolveFrom index instructions = .ok ranges ↔ List.Forall₂ c.Finds instructions ranges := by
  rw [resolveFrom_eq_each]
  exact Attempt.each_eq_ok_iff

theorem editsFrom_eq_each {d : Document} {located : List (Instruction × Range)} :
    editsFrom d normalize index located
      = Attempt.each (fun x => x.1.compile d normalize x.2)
          (fun k x => Failure.blame k (.instruction x.1)) index located := by
  induction located generalizing index with
  | nil => rfl
  | cons x rest ih => rw [editsFrom, Attempt.each, ih]

/-- The second pass succeeds exactly with the edits of the instructions. -/
theorem editsFrom_eq_ok_iff {d : Document} {located : List (Instruction × Range)}
    {edits : List Edit} :
    editsFrom d normalize index located = .ok edits ↔
      List.Forall₂ (fun x e => x.1.compile d normalize x.2 = .ok e) located edits := by
  rw [editsFrom_eq_each]
  exact Attempt.each_eq_ok_iff

/-- The two passes together make one edit of each instruction. -/
theorem forall₂_makes_iff {edits : List Edit} :
    List.Forall₂ (c.Makes normalize) instructions edits ↔
      ∃ ranges, List.Forall₂ c.Finds instructions ranges ∧
        List.Forall₂ (fun x e => x.1.compile c.document normalize x.2 = .ok e)
          (instructions.zip ranges) edits := by
  -- The ranges are what the instructions found, in their order.
  constructor
  · intro h
    induction h with
    | nil => exact ⟨[], .nil, .nil⟩
    | cons hmakes _ ih =>
      obtain ⟨r, hr, he⟩ := hmakes
      obtain ⟨ranges, hranges, hedits⟩ := ih
      exact ⟨r :: ranges, .cons hr hranges, .cons he hedits⟩
  · rintro ⟨ranges, hranges, hedits⟩
    induction hranges generalizing edits with
    | nil =>
      obtain rfl := List.forall₂_nil_left_iff.mp hedits
      exact .nil
    | cons hr _ ih =>
      rw [List.zip_cons_cons, List.forall₂_cons_left_iff] at hedits
      obtain ⟨e, more, he, hmore, rfl⟩ := hedits
      exact .cons ⟨_, hr, he⟩ (ih hmore)

/-- A batch compiles exactly to the edits that its instructions make, in their order. -/
theorem compile_eq_ok_iff {edits : List Edit} :
    c.compile normalize instructions = .ok edits ↔
      List.Forall₂ (c.Makes normalize) instructions edits := by
  rw [forall₂_makes_iff]
  constructor
  · intro h
    obtain ⟨ranges, hranges, hedits⟩ := Attempt.bind_eq_ok.mp h
    exact ⟨ranges, resolveFrom_eq_ok_iff.mp hranges, editsFrom_eq_ok_iff.mp hedits⟩
  · rintro ⟨ranges, hranges, hedits⟩
    exact Attempt.bind_eq_ok.mpr
      ⟨ranges, resolveFrom_eq_ok_iff.mpr hranges, editsFrom_eq_ok_iff.mpr hedits⟩

/-- A batch has one edit for each instruction. -/
theorem length_compile {edits : List Edit} (h : c.compile normalize instructions = .ok edits) :
    edits.length = instructions.length :=
  (compile_eq_ok_iff.mp h).length_eq.symm

/-- Every edit of a batch is made of an instruction. -/
theorem exists_makes_of_compile {edits : List Edit} {e : Edit}
    (h : c.compile normalize instructions = .ok edits) (he : e ∈ edits) :
    ∃ i ∈ instructions, c.Makes normalize i e := by
  have hmade : List.Forall₂ (fun i e => i ∈ instructions ∧ c.Makes normalize i e) instructions edits :=
    (List.forall₂_and_left _ _).mpr ⟨fun i hi => hi, compile_eq_ok_iff.mp h⟩
  exact exists_forall₂_iff.mp ⟨_, hmade.flip⟩ e he

/-- The document has both ends of every edit of a batch, if the symbols that are reported lie in it. -/
theorem covers_compile {edits : List Edit} (hsymbols : c.SymbolsWithin)
    (h : c.compile normalize instructions = .ok edits) :
    ∀ e ∈ edits, c.document.Covers e.range := by
  intro e he
  obtain ⟨i, -, r, hr, hmade⟩ := exists_makes_of_compile h he
  exact Instruction.covers_compile (covers_resolve hsymbols hr) hmade

/-! ## All or nothing -/

/-- The first of a list of instructions whose match is not found, and the failure to find it. -/
structure FirstLost (c : Context) (instructions : List Instruction) (k : Nat) (i : Instruction)
    (f : Failure) : Prop where
  place : instructions[k]? = some i
  lost : c.resolve i.acceptsOpenEnd i.target = .error f
  before : ∀ i' ∈ instructions.take k, ∃ r, c.Finds i' r

/-- The first pass fails with the first match that is not found. -/
theorem exists_firstLost {f : Failure} (h : c.resolveFrom index instructions = .error f) :
    ∃ k i g, c.FirstLost instructions k i g ∧ f = g.blame (index + k) (.instruction i) := by
  rw [resolveFrom_eq_each] at h
  obtain ⟨k, i, g, hplace, hg, hbefore, hf⟩ := Attempt.exists_first_of_each_eq_error h
  exact ⟨k, i, g, ⟨hplace, hg, hbefore⟩, hf⟩

/-- An instruction makes an edit exactly if its match is found. -/
theorem exists_makes_iff {i : Instruction} (hsymbols : c.SymbolsWithin)
    (hpaired : i.action.accepts i.target.kind = true) (normalize : Bool) :
    (∃ e, c.Makes normalize i e) ↔ ∃ r, c.Finds i r := by
  constructor
  · rintro ⟨e, r, hr, -⟩
    exact ⟨r, hr⟩
  · rintro ⟨r, hr⟩
    obtain ⟨e, he⟩ := Instruction.exists_compile hpaired normalize (covers_resolve hsymbols hr)
    exact ⟨e, r, hr, he⟩

/-- A batch compiles exactly if the match of each instruction is found. -/
theorem exists_compile_iff (hsymbols : c.SymbolsWithin)
    (hpaired : ∀ i ∈ instructions, i.action.accepts i.target.kind = true) (normalize : Bool) :
    (∃ edits, c.compile normalize instructions = .ok edits) ↔
      ∀ i ∈ instructions, ∃ r, c.Finds i r := by
  simp only [compile_eq_ok_iff, exists_forall₂_iff]
  exact forall₂_congr fun i hi => exists_makes_iff hsymbols (hpaired i hi) normalize

/-- Every instruction of a batch makes its edit inside of the document, or the batch is refused for the first
instruction whose match is not found. The edits of a batch can only be refused for what they share. -/
theorem compile_all_or_nothing (hsymbols : c.SymbolsWithin) (hforward : c.DeclarationsForward)
    (hpaired : ∀ i ∈ instructions, i.action.accepts i.target.kind = true) (normalize : Bool) :
    ((∃ edits, c.compile normalize instructions = .ok edits) ↔
      ∀ i ∈ instructions, ∃ r, c.Finds i r) ∧
    (∀ edits, c.compile normalize instructions = .ok edits →
      List.Forall₂ (c.Makes normalize) instructions edits ∧
      (∀ e ∈ edits, c.document.Has e.range.start ∧ c.document.Has e.range.stop) ∧
      (∃ after, applyEdits c.document.text edits false = .ok after) ∧
      ∀ cause, applyEdits c.document.text edits true = .error cause → ∃ o, cause = .overlap o) ∧
    ∀ f, c.compile normalize instructions = .error f →
      ∃ k i g, c.FirstLost instructions k i g ∧ f = g.blame k (.instruction i) ∧
        (c.Supplied → i.target.Readable → ∃ e, f = .edit e (some ⟨k, .instruction i⟩)) := by
  refine ⟨exists_compile_iff hsymbols hpaired normalize, ?_, ?_⟩
  · intro edits h
    have hcov : ∀ e ∈ edits, (Document.mk c.document.text "").Covers e.range :=
      covers_compile hsymbols h
    refine ⟨compile_eq_ok_iff.mp h, ?_, applyEdits_of_covers hcov, ?_⟩
    · intro e he
      exact Document.covers_iff.mp (covers_compile hsymbols h e he)
    · intro cause hcause
      -- a batch inside of the text is made if it is clear, and refused for an overlap if it is not
      by_cases hclear : (Document.mk c.document.text "").Clear edits
      · rw [applyEdits_eq_weave true hcov hclear] at hcause
        simp at hcause
      · obtain ⟨o, ho⟩ := applyEdits_of_not_clear hcov hclear
        rw [ho] at hcause
        exact ⟨o, (Except.error.inj hcause).symm⟩
  · intro f h
    rcases Attempt.bind_eq_error.mp h with hresolve | ⟨ranges, hranges, -⟩
    · obtain ⟨k, i, g, hfirst, rfl⟩ := exists_firstLost hresolve
      rw [Nat.zero_add]
      refine ⟨k, i, g, hfirst, rfl, ?_⟩
      intro hsupplied hreadable
      have hedit := isEditError_of_resolve hsupplied hforward hreadable hfirst.lost
      cases g with
      | edit e culprit => exact ⟨e, rfl⟩
      | _ => simp [Failure.isEditError] at hedit
    · -- once every match is found, the second pass goes through
      have hfound : ∀ i ∈ instructions, ∃ r, c.Finds i r :=
        exists_forall₂_iff.mp ⟨ranges, resolveFrom_eq_ok_iff.mp hranges⟩
      obtain ⟨edits, hmade⟩ := (exists_compile_iff hsymbols hpaired normalize).mpr hfound
      rw [h] at hmade
      simp at hmade

/-- A declaration whose end is not known can be inserted before, and the edits of the batch are made. It cannot
be deleted: then the batch is refused for this instruction, and nothing comes of the others. -/
theorem compile_all_or_nothing_incomplete :
    let node : Declaration := ⟨"function", "g", 0, 15, -1, 5, -1, none, none⟩
    let c : Context := {
      document := ⟨"def f\n  x\nend\n\ng".toList, "a.rb"⟩
      symbols := { symbols := .ok [{
        name := "f", kind := "Function", range := ⟨⟨0, 0⟩, ⟨2, 3⟩, by decide⟩ }] }
      outline := .ok ⟨[⟨"function", "f", 0, 0, 13, 1, 3, none, none⟩, node], []⟩ }
    let g : Match := .declaration "function" "g" none none 1
    let opening : Instruction := ⟨.insertBefore, g, "h\n".toList⟩
    let removal : Instruction := ⟨.delete, g, []⟩
    let rewriting : Instruction := ⟨.replace, .symbol "f" none none none 1, "k".toList⟩
    c.SymbolsWithin ∧ c.DeclarationsForward ∧ c.Supplied ∧
      (∀ i ∈ [opening, removal, rewriting],
        i.action.accepts i.target.kind = true ∧ i.target.Readable) ∧
      (∃ edits after, c.compile true [opening, rewriting] = .ok edits ∧ edits.length = 2 ∧
        applyEdits c.document.text edits false = .ok after) ∧
      ∃ k i e, c.compile true [opening, removal, rewriting]
        = .error (.edit e (some ⟨k, .instruction i⟩)) := by
  intro node c g opening removal rewriting
  have hsymbols : c.SymbolsWithin := by
    intro forest hforest s hs
    obtain rfl := Except.ok.inj hforest
    rw [List.mem_singleton] at hs
    subst hs
    exact .intro ⟨rfl, rfl⟩ (by simp)
  have hforward : c.DeclarationsForward := by
    intro found hfound
    obtain rfl := Except.ok.inj hfound
    decide
  have hsupplied : c.Supplied := ⟨⟨_, rfl⟩, ⟨_, rfl⟩⟩
  have hpaired : ∀ i ∈ [opening, removal, rewriting],
      i.action.accepts i.target.kind = true ∧ i.target.Readable := by
    simp only [List.forall_mem_cons, List.not_mem_nil, false_imp_iff, implies_true, and_true]
    exact ⟨⟨rfl, trivial⟩, ⟨rfl, trivial⟩, ⟨rfl, trivial⟩⟩
  have hpaired' : ∀ i ∈ [opening, rewriting], i.action.accepts i.target.kind = true := by
    intro i hi
    exact (hpaired i (by simp at hi ⊢; tauto)).1
  refine ⟨hsymbols, hforward, hsupplied, hpaired, ?_, ?_⟩
  · obtain ⟨hiff, hmade, -⟩ := compile_all_or_nothing hsymbols hforward hpaired' true
    have hfound : ∀ i ∈ [opening, rewriting], ∃ r, c.Finds i r := by
      simp only [List.forall_mem_cons, List.not_mem_nil, false_imp_iff, implies_true, and_true]
      exact ⟨⟨.emptyAt ⟨4, 0⟩, by cbv⟩, ⟨⟨⟨0, 0⟩, ⟨2, 3⟩, by decide⟩, by cbv⟩⟩
    obtain ⟨edits, hedits⟩ := hiff.mpr hfound
    obtain ⟨hforall, -, ⟨after, hafter⟩, -⟩ := hmade edits hedits
    exact ⟨edits, after, hedits, hforall.length_eq.symm, hafter⟩
  · obtain ⟨hiff, -, hfailed⟩ :=
      compile_all_or_nothing hsymbols hforward (fun i hi => (hpaired i hi).1) true
    have hlost : c.resolve removal.acceptsOpenEnd g = .error (.ofError (.incomplete g node)) := by
      cbv
    rcases hbatch : c.compile true [opening, removal, rewriting] with f | edits
    · obtain ⟨k, i, _, hfirst, -, hblamed⟩ := hfailed f hbatch
      obtain ⟨e, rfl⟩ := hblamed hsupplied (hpaired i (List.mem_of_getElem? hfirst.place)).2
      exact ⟨k, i, e, rfl⟩
    · obtain ⟨r, hr⟩ := hiff.mp ⟨edits, hbatch⟩ removal (by simp)
      rw [Finds, hlost] at hr
      simp at hr

end Context

end Emend
