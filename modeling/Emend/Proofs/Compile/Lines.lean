import Emend.Proofs.Compile
import Emend.Proofs.Document.Lines

/-!
# Batches that replace and delete lines

Replacing and deleting lines acts on the lines of a text and on nothing else: the lines that are taken become
what their instruction leaves of them, and every other line keeps its body and its terminator
(`compile_lines`). Blocks of lines that are apart never overlap, although the deletion of a block reaches up to
the start of the line behind it, where the next block may begin.

Main statements:

* `exists_makes_rewrites`: the edit of each instruction rewrites its block.
* `Rewrites.weave_cons`, `weave_rewrites`: blocks one behind the other are rewritten one by one.
* `Rewrites.not_clash`: blocks that are apart do not clash.
* `compile_lines`: the text that comes of the batch, line by line.
-/

namespace Emend

open Text

namespace Instruction

variable {i j : Instruction} {first last n m : Nat}

/-- A line, counted from zero, is one of the lines that an instruction is about. -/
def takes (i : Instruction) (n : Nat) : Bool :=
  match i.target with
  | .lines first last => first ≤ n + 1 && n + 1 ≤ last
  | _ => false

/-- What is left of a line that an instruction takes. Only the last of the lines that are replaced leaves
something: the new text, and its terminator behind it. -/
def leaves (i : Instruction) (n : Nat) (line : BrokenLine) : List Char :=
  if i.action = .replace ∧ i.takes (n + 1) = false then i.newText ++ line.ending else []

/-- The instruction replaces or deletes lines, and a text of so many lines has them. -/
def EditsLines (count : Nat) (i : Instruction) : Prop :=
  (i.action = .replace ∨ i.action = .delete) ∧
    ∃ first last : Int, i.target = .lines first last ∧ 1 ≤ first ∧ first ≤ last ∧ last ≤ count

/-- No line is taken by both. -/
def Apart (i j : Instruction) : Prop := ∀ n, ¬ (i.takes n = true ∧ j.takes n = true)

/-- Every line that the first one takes stands before every line that the second one takes. -/
def Precedes (i j : Instruction) : Prop := ∀ n m, i.takes n = true → j.takes m = true → n < m

theorem takes_iff (h : i.target = .lines (first + 1) (last + 1)) :
    i.takes n = true ↔ first ≤ n ∧ n ≤ last := by
  simp only [takes, h, Bool.and_eq_true, decide_eq_true_eq]
  omega

theorem Apart.symm (h : Apart i j) : Apart j i := fun n hn => h n hn.symm

instance : Std.Symm Apart := ⟨fun _ _ h => h.symm⟩

/-- A line that an instruction takes is taken by no other one. -/
theorem find?_takes {instructions : List Instruction} (hapart : instructions.Pairwise Apart)
    (hi : i ∈ instructions) (h : i.takes n = true) :
    instructions.find? (·.takes n) = some i := by
  rcases hfind : instructions.find? (·.takes n) with _ | j
  · exact absurd h (List.find?_eq_none.mp hfind i hi)
  · have hj := List.mem_of_find?_eq_some hfind
    have htakes := List.find?_some hfind
    by_cases hij : i = j
    · rw [hij]
      exact hfind
    · exact absurd ⟨h, htakes⟩ (hapart.forall hi hj hij n)

end Instruction

/-- What becomes of a line, given with its number: what the instruction that takes it leaves of it, or all of
it. -/
def lineAfter (instructions : List Instruction) (numbered : BrokenLine × Nat) : List Char :=
  match instructions.find? (·.takes numbered.2) with
  | some i => i.leaves numbered.2 numbered.1
  | none => numbered.1.full

theorem lineAfter_of_takes {instructions : List Instruction} {i : Instruction} {n : Nat}
    (hapart : instructions.Pairwise Instruction.Apart) (hi : i ∈ instructions)
    (h : i.takes n = true) (line : BrokenLine) :
    lineAfter instructions (line, n) = i.leaves n line := by
  simp only [lineAfter, Instruction.find?_takes hapart hi h]

theorem lineAfter_of_free {instructions : List Instruction} {n : Nat}
    (h : ∀ i ∈ instructions, i.takes n = false) (line : BrokenLine) :
    lineAfter instructions (line, n) = line.full := by
  have hnone : instructions.find? (·.takes n) = none := by
    rw [List.find?_eq_none]
    intro i hi
    rw [h i hi]
    exact Bool.false_ne_true
  simp only [lineAfter, hnone]

namespace Document

variable {d : Document} {i : Instruction} {instructions : List Instruction} {e : Edit}
  {edits : List Edit} {first last n m : Nat} {f : BrokenLine × Nat → List Char}

/-- The text with the lines of the instructions replaced and deleted. -/
def afterLines (d : Document) (instructions : List Instruction) : List Char :=
  d.terminatedLines.zipIdx.flatMap (lineAfter instructions)

/-! ## One block of lines -/

/-- An edit takes whole lines, from one to another, and leaves of them what its instruction leaves: its new
text and what it spares of the last line. -/
structure Rewrites (d : Document) (i : Instruction) (first last : Nat) (e : Edit) : Prop where
  target : i.target = .lines (first + 1) (last + 1)
  ordered : first ≤ last
  inside : last < d.lineCount
  covers : d.Covers e.range
  start : e.range.start = ⟨first, 0⟩
  within : d.offsetOf e.range.stop ≤ d.placeOf (last + 1)
  leaves : ∀ line, d.terminatedLines[last]? = some line →
    e.newText ++ (d.text.drop (d.offsetOf e.range.stop)).take
      (d.placeOf (last + 1) - d.offsetOf e.range.stop) = i.leaves last line

theorem Rewrites.start_spliceOf (h : d.Rewrites i first last e) :
    (d.spliceOf e).start = d.placeOf first := by
  rw [spliceOf, h.start]
  exact offsetOf_line (Nat.lt_of_le_of_lt h.ordered h.inside)

theorem Rewrites.takes_iff (h : d.Rewrites i first last e) :
    i.takes n = true ↔ first ≤ n ∧ n ≤ last :=
  Instruction.takes_iff h.target

theorem Rewrites.takes_first (h : d.Rewrites i first last e) : i.takes first = true :=
  h.takes_iff.mpr ⟨Nat.le_refl first, h.ordered⟩

theorem Rewrites.takes_last (h : d.Rewrites i first last e) : i.takes last = true :=
  h.takes_iff.mpr ⟨h.ordered, Nat.le_refl last⟩

/-- Lines of the document are found. -/
theorem exists_linesRange {raw : List Char} (hle : first ≤ last)
    (hraw : d.rawLines[last]? = some raw) :
    ∃ r, Context.linesRange d (first + 1) (last + 1) = .ok r ∧
      r.start = ⟨first, 0⟩ ∧ r.stop = ⟨last, (body raw).length⟩ := by
  have hordered : (⟨first, 0⟩ : Position) ≤ ⟨last, (body raw).length⟩ := by
    rw [Position.le_def]
    simp only
    omega
  refine ⟨⟨_, _, hordered⟩, Context.linesRange_eq_ok.mpr ?_, rfl, rfl⟩
  exact ⟨first, last, raw, rfl, rfl, hle, hraw, rfl, rfl⟩

/-- Lines that are replaced are given up for the new text as it is. -/
theorem compile_replace_lines {a b : Int} (haction : i.action = .replace)
    (htarget : i.target = .lines a b) (normalize : Bool) (r : Range) :
    i.compile d normalize r = .ok ⟨r, i.newText⟩ := by
  obtain ⟨action, target, newText⟩ := i
  obtain rfl := haction
  obtain rfl := htarget
  cases normalize <;> rfl

theorem compile_delete_lines {a b : Int} (haction : i.action = .delete)
    (htarget : i.target = .lines a b) (normalize : Bool) (r : Range) :
    i.compile d normalize r = i.deleteEdit d r := by
  obtain ⟨action, target, newText⟩ := i
  obtain rfl := haction
  obtain rfl := htarget
  rfl

/-- Lines that are deleted are given up with the terminator of the last one, up to the place of the next line or
to the end of the text. -/
theorem exists_deleteEdit_lines {a b : Int} {r : Range} {raw : List Char}
    (htarget : i.target = .lines a b) (hreturn : d.text.getLast? ≠ some '\r')
    (hraw : d.rawLines[last]? = some raw) (hstop : r.stop = ⟨last, (body raw).length⟩) :
    ∃ e, i.deleteEdit d r = .ok e ∧ e.newText = [] ∧ e.range.start = r.start ∧
      d.offsetOf e.range.stop = d.placeOf (last + 1) := by
  have hline := getElem?_terminatedLines_of_return hreturn hraw
  have hkind : i.target.kind = .lines := by rw [htarget]; rfl
  -- With a line behind it a block goes up to the start of that line, else up to the end of the text.
  by_cases hnext : last + 1 < d.lineCount
  · have hnext' : r.stop.line + 1 < d.lineCount := by
      rw [hstop]
      simp only
      omega
    refine ⟨_, Instruction.deleteEdit_of_next hkind hnext', rfl, rfl, ?_⟩
    simp only [hstop]
    exact offsetOf_line hnext
  · have hend : ¬ (i.target.kind = .lines ∧ r.stop.line + 1 < d.lineCount) := by
      rw [hstop]
      simp only
      omega
    refine ⟨_, Instruction.deleteEdit_of_not hend, rfl, rfl, ?_⟩
    rw [if_neg hnext] at hline
    rw [placeOf_succ hline]
    simp only [hstop, offsetOf_body hraw, List.length_nil, Nat.add_zero]

end Document

namespace Context

variable {c : Context} {i : Instruction}

/-- An instruction that edits lines makes an edit that rewrites them. -/
theorem exists_makes_rewrites (hreturn : c.document.text.getLast? ≠ some '\r')
    (hlines : i.EditsLines c.document.lineCount) (normalize : Bool) :
    ∃ e, c.Makes normalize i e ∧ ∃ first last, c.document.Rewrites i first last e := by
  obtain ⟨haction, a, b, htarget, ha, hab, hb⟩ := hlines
  -- Lines are numbered from one in instructions and from zero in documents.
  obtain ⟨first, rfl⟩ : ∃ first : Nat, a = first + 1 := ⟨(a - 1).toNat, by omega⟩
  obtain ⟨last, rfl⟩ : ∃ last : Nat, b = last + 1 := ⟨(b - 1).toNat, by omega⟩
  have hordered : first ≤ last := by omega
  have hinside : last < c.document.lineCount := by omega
  obtain ⟨raw, hraw⟩ := c.document.exists_rawLine hinside
  obtain ⟨r, hr, hstart, hstop⟩ := Document.exists_linesRange hordered hraw
  have hline := Document.getElem?_terminatedLines_of_return hreturn hraw
  have hfinds : c.Finds i r := by
    rw [Finds, htarget]
    exact hr
  have htaken : i.takes (last + 1) = false := by
    rw [Bool.eq_false_iff, ne_eq, Instruction.takes_iff htarget]
    omega
  rcases haction with haction | haction
  · -- replaced lines go up to the terminator of the last one, which stays behind the new text
    have hmade := Document.compile_replace_lines (d := c.document) haction htarget normalize r
    refine ⟨_, ⟨r, hfinds, hmade⟩, first, last, htarget, hordered, hinside, ?_, hstart, ?_, ?_⟩
    · exact covers_linesRange hr
    · simp only [hstop, Document.offsetOf_body hraw, Document.placeOf_succ hline]
      omega
    · intro line hline'
      obtain rfl := Option.some.inj (hline.symm.trans hline')
      simp only [hstop, Document.offsetOf_body hraw, Instruction.leaves, haction, htaken, and_self,
        if_true]
      rw [Document.take_drop_ending hline]
  · -- deleted lines go with that terminator
    obtain ⟨e, hmade, htext, hfrom, hto⟩ :=
      Document.exists_deleteEdit_lines htarget hreturn hraw hstop
    have hcompile : i.compile c.document normalize r = .ok e := by
      rw [Document.compile_delete_lines haction htarget, hmade]
    refine ⟨e, ⟨r, hfinds, hcompile⟩, first, last, htarget, hordered, hinside, ?_, ?_, ?_, ?_⟩
    · exact Instruction.covers_deleteEdit (covers_linesRange hr) hmade
    · rw [hfrom, hstart]
    · rw [hto]
    · intro line _
      simp [htext, hto, Instruction.leaves, haction]

end Context

namespace Document

variable {d : Document} {i : Instruction} {instructions : List Instruction} {e : Edit}
  {edits : List Edit} {first last n m : Nat} {f : BrokenLine × Nat → List Char}

/-! ## Blocks one after the other -/

/-- Lines from one on, each given to `f` with its number, in two parts: before the line `m`, where `f` does not
look at the numbers, and from there on. -/
theorem flatMap_drop_zipIdx {g : BrokenLine → List Char} (hnm : n ≤ m) (hm : m ≤ d.lineCount)
    (h : ∀ line k, n ≤ k → k < m → f (line, k) = g line) :
    ((d.terminatedLines.drop n).zipIdx n).flatMap f
      = ((d.terminatedLines.drop n).take (m - n)).flatMap g
        ++ ((d.terminatedLines.drop m).zipIdx m).flatMap f := by
  -- Induction on how many lines lie before `m`.
  induction hk : m - n generalizing n with
  | zero =>
    obtain rfl : n = m := by omega
    simp
  | succ k ih =>
    have hn : n < d.terminatedLines.length := by
      rw [length_terminatedLines]
      omega
    have hline := List.getElem?_eq_getElem hn
    rw [drop_terminatedLines hline, List.zipIdx_cons, List.flatMap_cons, List.take_succ_cons,
      List.flatMap_cons, h _ n (Nat.le_refl n) (by omega), List.append_assoc]
    rw [ih (by omega) (fun line k hk => h line k (by omega)) (by omega)]

/-- Up to the first block the lines stay, inside of it they go, and the last one leaves what its instruction
leaves of it. -/
theorem Rewrites.weave_cons {rest : List Splice} (he : d.Rewrites i first last e) (hn : n ≤ first)
    (hbefore : ∀ line k, n ≤ k → k < first → f (line, k) = line.full)
    (htaken : ∀ line k, i.takes k = true → f (line, k) = i.leaves k line)
    (horder : Splice.InOrder d.text.length (d.placeOf (last + 1)) rest)
    (hrest : Splice.weave d.text (d.placeOf (last + 1)) rest
      = ((d.terminatedLines.drop (last + 1)).zipIdx (last + 1)).flatMap f) :
    Splice.weave d.text (d.placeOf n) (d.spliceOf e :: rest)
      = ((d.terminatedLines.drop n).zipIdx n).flatMap f := by
  have hordered := he.ordered
  have hcount := he.inside
  have hinside : ∀ line k, first ≤ k → k < last → f (line, k) = [] := by
    intro line k hfk hk
    have htakes : i.takes k = true := he.takes_iff.mpr ⟨hfk, by omega⟩
    have hfurther : i.takes (k + 1) = true := he.takes_iff.mpr ⟨by omega, hk⟩
    rw [htaken line k htakes, Instruction.leaves, hfurther]
    simp
  have hwithin : (d.spliceOf e).stop ≤ d.placeOf (last + 1) := he.within
  obtain ⟨line, hline⟩ : ∃ line, d.terminatedLines[last]? = some line :=
    ⟨_, List.getElem?_eq_getElem (by rw [length_terminatedLines]; exact hcount)⟩
  -- The lines before the block stay, those inside leave nothing, and the last one leaves what the edit puts there.
  rw [Splice.weave, he.start_spliceOf, take_drop_placeOf d hn, Splice.weave_from hwithin horder,
    hrest]
  rw [flatMap_drop_zipIdx hn (by omega) hbefore, flatMap_drop_zipIdx hordered (by omega) hinside,
    drop_terminatedLines hline, List.zipIdx_cons, List.flatMap_cons,
    htaken line last he.takes_last, ← he.leaves line hline]
  simp [spliceOf]

/-- Edits that rewrite blocks of lines, one after the other, come in order. -/
theorem inOrder_rewrites
    (hedits : List.Forall₂ (fun i e => ∃ first last, d.Rewrites i first last e) instructions edits)
    (hprecedes : instructions.Pairwise Instruction.Precedes)
    (hfrom : ∀ i ∈ instructions, ∀ m, i.takes m = true → n ≤ m) :
    Splice.InOrder d.text.length (d.placeOf n) (edits.map d.spliceOf) := by
  -- Induction on the batch, the line from which it may start being free.
  induction hedits generalizing n with
  | nil => exact d.placeOf_le_length n
  | cons he _ ih =>
    obtain ⟨first, last, he⟩ := he
    rw [List.pairwise_cons] at hprecedes
    rw [List.forall_mem_cons] at hfrom
    refine ⟨?_, he.covers.start_le_stop, ?_⟩
    · rw [he.start_spliceOf]
      exact d.placeOf_mono (hfrom.1 first he.takes_first)
    · -- what follows starts from the next line on, up to which this edit may reach
      refine (ih hprecedes.2 ?_).start_earlier he.within
      intro j hj m hm
      exact hprecedes.1 j hj last m he.takes_last hm

/-- Edits that rewrite blocks of lines, one after the other, leave the other lines as they are. -/
theorem weave_rewrites
    (hedits : List.Forall₂ (fun i e => ∃ first last, d.Rewrites i first last e) instructions edits)
    (hprecedes : instructions.Pairwise Instruction.Precedes) (hn : n ≤ d.lineCount)
    (hfrom : ∀ i ∈ instructions, ∀ m, i.takes m = true → n ≤ m)
    (htaken : ∀ i ∈ instructions, ∀ line m, i.takes m = true → f (line, m) = i.leaves m line)
    (hkept : ∀ line m, n ≤ m → (∀ i ∈ instructions, i.takes m = false) → f (line, m) = line.full) :
    Splice.weave d.text (d.placeOf n) (edits.map d.spliceOf)
      = ((d.terminatedLines.drop n).zipIdx n).flatMap f := by
  induction hedits generalizing n with
  | nil =>
    have hall : ∀ line k, n ≤ k → k < d.lineCount → f (line, k) = line.full :=
      fun line k hk _ => hkept line k hk (by simp)
    have hend : d.terminatedLines.drop d.lineCount = [] := by
      rw [List.drop_eq_nil_iff, length_terminatedLines]
    rw [flatMap_drop_zipIdx hn (Nat.le_refl _) hall, hend, List.take_of_length_le]
    · simp [Splice.weave, drop_placeOf]
    · rw [List.length_drop, length_terminatedLines]
  | @cons i e is es he hmore ih =>
    obtain ⟨first, last, he⟩ := he
    rw [List.pairwise_cons] at hprecedes
    rw [List.forall_mem_cons] at hfrom htaken
    have hordered := he.ordered
    have hnext : ∀ j ∈ is, ∀ m, j.takes m = true → last + 1 ≤ m :=
      fun j hj m hm => hprecedes.1 j hj last m he.takes_last hm
    have hfirst : n ≤ first := hfrom.1 first he.takes_first
    -- outside of this block, a line is free if no later block takes it
    have hfree : ∀ line m, n ≤ m → ¬ (first ≤ m ∧ m ≤ last) → (∀ j ∈ is, j.takes m = false) →
        f (line, m) = line.full := by
      intro line m hm hout hlater
      refine hkept line m hm ?_
      rw [List.forall_mem_cons, Bool.eq_false_iff, ne_eq, he.takes_iff]
      exact ⟨hout, hlater⟩
    refine he.weave_cons hfirst ?_ htaken.1 (inOrder_rewrites hmore hprecedes.2 hnext) ?_
    · intro line k hnk hk
      refine hfree line k hnk (by omega) ?_
      intro j hj
      rw [Bool.eq_false_iff]
      intro htakes
      have hlater := hnext j hj k htakes
      omega
    · refine ih hprecedes.2 he.inside hnext htaken.2 ?_
      intro line m hm hlater
      exact hfree line m (by omega) (by omega) hlater

/-! ## Blocks in any order -/

variable {j : Instruction} {e' : Edit} {make : Instruction → Edit} {first' last' : Nat}

/-- If the range of an edit comes first, so do the lines of its instruction. -/
theorem Rewrites.precedes (he : d.Rewrites i first last e) (he' : d.Rewrites j first' last' e')
    (hapart : i.Apart j) (hle : Edit.rangeLe e e') : i.Precedes j := by
  have hstart : first ≤ first' := by
    rw [Edit.rangeLe_iff, he.start, he'.start, Position.lt_def, Position.eq_iff] at hle
    simp only at hle
    omega
  -- otherwise the first line of the second block would be one of the first block
  have hfree := hapart first'
  have hordered := he'.ordered
  intro n m hn hm
  rw [he.takes_iff] at hn hfree
  rw [he'.takes_iff] at hm hfree
  omega

/-- Of blocks one after the other, the edit of the first is over before the edit of the second starts. -/
theorem Rewrites.not_clash (he : d.Rewrites i first last e) (he' : d.Rewrites j first' last' e')
    (hprecedes : i.Precedes j) : ¬ Splice.Clash (d.spliceOf e) (d.spliceOf e') := by
  have hlines : last < first' := hprecedes last first' he.takes_last he'.takes_first
  have hplace : d.placeOf (last + 1) ≤ d.placeOf first' := d.placeOf_mono hlines
  have hstop : (d.spliceOf e).stop ≤ d.placeOf (last + 1) := he.within
  intro hclash
  have hlt := hclash.2
  rw [he'.start_spliceOf] at hlt
  omega

theorem precedes_of_sorted (hapart : instructions.Pairwise Instruction.Apart)
    (hsorted : instructions.Pairwise fun i j => Edit.rangeLe (make i) (make j))
    (hrewrites : ∀ i ∈ instructions, ∃ first last, d.Rewrites i first last (make i)) :
    instructions.Pairwise Instruction.Precedes := by
  refine (hsorted.and hapart).imp_of_mem ?_
  rintro i j hi hj ⟨hle, hapart⟩
  obtain ⟨_, _, he⟩ := hrewrites i hi
  obtain ⟨_, _, he'⟩ := hrewrites j hj
  exact he.precedes he' hapart hle

theorem clear_of_precedes (hprecedes : instructions.Pairwise Instruction.Precedes)
    (hrewrites : ∀ i ∈ instructions, ∃ first last, d.Rewrites i first last (make i)) :
    d.Clear (instructions.map make) := by
  rw [Clear, List.pairwise_map]
  refine hprecedes.imp_of_mem ?_
  intro i j hi hj hij
  obtain ⟨_, _, he⟩ := hrewrites i hi
  obtain ⟨_, _, he'⟩ := hrewrites j hj
  exact he.not_clash he' hij

/-- Edits that rewrite lines of their own rewrite the text line by line. -/
theorem applyEdits_rewrites (hapart : instructions.Pairwise Instruction.Apart)
    (hrewrites : ∀ i ∈ instructions, ∃ first last, d.Rewrites i first last (make i)) :
    applyEdits d.text (instructions.map make) true = .ok (d.afterLines instructions) := by
  -- the instructions in the order of their ranges, and with them their edits
  let sorted := instructions.mergeSort fun i j => Edit.rangeLe (make i) (make j)
  have hperm : sorted.Perm instructions := List.mergeSort_perm _ _
  have hmap : sorted.map make = (instructions.map make).mergeSort Edit.rangeLe :=
    List.map_mergeSort fun _ _ _ _ => rfl
  have hsorted := List.pairwise_mergeSort Edit.rangeLe_trans Edit.rangeLe_total
    (instructions.map make)
  rw [← hmap, List.pairwise_map] at hsorted
  have hrewrites' : ∀ i ∈ sorted, ∃ first last, d.Rewrites i first last (make i) :=
    fun i hi => hrewrites i (hperm.mem_iff.mp hi)
  have hprecedes := precedes_of_sorted ((hperm.pairwise_iff fun h => h.symm).mpr hapart) hsorted
    hrewrites'
  have hcov : ∀ e ∈ instructions.map make, (Document.mk d.text "").Covers e.range := by
    intro e he
    obtain ⟨i, hi, rfl⟩ := List.mem_map.mp he
    obtain ⟨_, _, he⟩ := hrewrites i hi
    exact he.covers
  have hclear : d.Clear (instructions.map make) :=
    (clear_perm (hperm.map make)).mp (clear_of_precedes hprecedes hrewrites')
  have hedits : List.Forall₂ (fun i e => ∃ first last, d.Rewrites i first last e) sorted
      (sorted.map make) := by
    rw [List.forall₂_map_right_iff, List.forall₂_same]
    exact hrewrites'
  have hweave : Splice.weave d.text 0 ((sorted.map make).map d.spliceOf)
      = d.afterLines instructions := by
    refine weave_rewrites (n := 0) hedits hprecedes (Nat.zero_le _) ?_ ?_ ?_
    · exact fun i _ m _ => Nat.zero_le m
    · exact fun i hi line m h => lineAfter_of_takes hapart (hperm.mem_iff.mp hi) h line
    · intro line m _ hfree
      exact lineAfter_of_free (fun i hi => hfree i (hperm.mem_iff.mpr hi)) line
  rw [applyEdits_eq_weave true hcov hclear, ← hweave, hmap]
  rfl

end Document

namespace Context

variable {c : Context} {instructions : List Instruction}

/-- Replacing and deleting lines acts on lines, in whatever order it is asked for. -/
theorem compile_lines (hreturn : c.document.text.getLast? ≠ some '\r')
    (hlines : ∀ i ∈ instructions, i.EditsLines c.document.lineCount)
    (hapart : instructions.Pairwise Instruction.Apart) (normalize : Bool) :
    ∃ edits, c.compile normalize instructions = .ok edits ∧
      applyEdits c.document.text edits true = .ok (c.document.afterLines instructions) := by
  have hmakes : ∀ i, i ∈ instructions →
      ∃ e, c.Makes normalize i e ∧ ∃ first last, c.document.Rewrites i first last e :=
    fun i hi => exists_makes_rewrites hreturn (hlines i hi) normalize
  choose! make hmake hrewrites using hmakes
  refine ⟨instructions.map make, ?_, Document.applyEdits_rewrites hapart hrewrites⟩
  rw [compile_eq_ok_iff, List.forall₂_map_right_iff, List.forall₂_same]
  exact hmake

/-- A blank line is replaced between a line that goes and one that stays, and the last lines go; the terminator
in front of them stays, and so does the one of the blank line. -/
theorem compile_lines_blank :
    let c : Context := { document := ⟨"a\r\n\nb\r\nc\nd".toList, "a.txt"⟩ }
    let instructions : List Instruction :=
      [⟨.delete, .lines 4 5, []⟩, ⟨.replace, .lines 2 2, "x".toList⟩, ⟨.delete, .lines 1 1, []⟩]
    c.document.text.getLast? ≠ some '\r' ∧
      (∀ i ∈ instructions, i.EditsLines c.document.lineCount) ∧
      instructions.Pairwise Instruction.Apart ∧
      ∃ edits, c.compile true instructions = .ok edits ∧
        applyEdits c.document.text edits true = .ok "x\nb\r\n".toList := by
  intro c instructions
  have hreturn : c.document.text.getLast? ≠ some '\r' := by decide
  have hlines : ∀ i ∈ instructions, i.EditsLines c.document.lineCount := by
    simp only [instructions, List.forall_mem_cons, List.not_mem_nil, false_imp_iff, implies_true,
      and_true]
    exact ⟨⟨.inr rfl, 4, 5, rfl, by decide⟩, ⟨.inl rfl, 2, 2, rfl, by decide⟩,
      ⟨.inr rfl, 1, 1, rfl, by decide⟩⟩
  have hapart : instructions.Pairwise Instruction.Apart := by
    simp only [instructions, List.pairwise_cons, List.forall_mem_cons, List.not_mem_nil,
      false_imp_iff, implies_true, and_true, List.Pairwise.nil, Instruction.Apart,
      Instruction.takes, Bool.and_eq_true, decide_eq_true_eq]
    refine ⟨⟨?_, ?_⟩, ?_⟩ <;> intro n <;> omega
  obtain ⟨edits, hcompile, happly⟩ := compile_lines hreturn hlines hapart true
  have hafter : c.document.afterLines instructions = "x\nb\r\n".toList := by cbv
  exact ⟨hreturn, hlines, hapart, edits, hcompile, hafter ▸ happly⟩

end Context

end Emend
