import Emend.Proofs.Compile
import Emend.Proofs.Edit.Substitution

/-!
# Batches that replace occurrences

Occurrences are looked for in the original text, each by its number and on its own. Instructions that replace some of
them, in any order, make a batch that compiles and passes the strict check, and all of them come to stand in the text
as they were numbered (`compile_occurrences`). With all occurrences of a text and one new text, this is replacing the
text from left to right.

Main statements:

* `exists_finds_occurrence`, `exists_makes_occurrence`: an occurrence is found and replaced by its number.
* `exists_compile_replaceNth`: all the instructions together compile.
* `compile_occurrences`: the text that comes of the batch.
-/

namespace Emend

open Pattern

namespace Pattern.Needle

variable {needle : Needle}

/-- The match that is an occurrence. -/
def target : Needle → Int → Match
  | .pattern source, n => .pattern source n
  | .literal text, n => .literal text n

/-- The instruction to replace an occurrence. -/
def replaceNth (needle : Needle) (newText : Int → List Char) (n : Int) : Instruction :=
  ⟨.replace, needle.target n, newText n⟩

/-- Every text can be looked for, and so can every pattern that can be read. -/
theorem exists_node (h : ∀ source, needle = .pattern source → ∃ node, Pattern.compile source = .ok node) :
    ∃ node, needle.node = .ok node := by
  cases needle with
  | pattern source =>
    obtain ⟨node, hnode⟩ := h source rfl
    exact ⟨node, node_of_compile hnode⟩
  | literal text =>
    obtain ⟨node, hnode, -⟩ := exists_node_literal text
    exact ⟨node, hnode⟩

end Pattern.Needle

namespace Context

variable {c : Context} {needle : Needle} {normalize : Bool} {newText : Int → List Char} {n : Int}

/-- An occurrence is found at the positions of its two offsets. -/
theorem exists_finds_occurrence {a b : Nat} (newText : Int → List Char)
    (hfound : needle.findNth c.document.text n = .ok (some (a, b))) (hlies : LiesFrom c.document.text.length 0 (a, b)) :
    ∃ r, c.Finds (needle.replaceNth newText n) r ∧ c.document.offsetAt r.start = .ok a ∧
      c.document.offsetAt r.stop = .ok b := by
  -- Both ends of the occurrence are offsets of the text, so they have positions, and these lead back to the offsets.
  obtain ⟨r, hr⟩ := exists_offsetRange (Int.natCast_nonneg a) (Int.ofNat_le.mpr hlies.forward)
    (Int.ofNat_le.mpr hlies.inside)
  obtain ⟨hstart, hstop⟩ := positionAt_of_offsetRange hr
  obtain ⟨_, hm, hfirst⟩ := Document.positionAt_eq_ok.mp hstart
  obtain ⟨_, hn, hlast⟩ := Document.positionAt_eq_ok.mp hstop
  rw [← Int.ofNat.inj hm] at hfirst
  rw [← Int.ofNat.inj hn] at hlast
  refine ⟨r, ?_, hfirst, hlast⟩
  have hresolve : ∀ openEnd, c.resolve openEnd (needle.target n)
      = searchRange c.document (needle.target n) needle n := by
    intro openEnd
    cases needle <;> rfl
  rw [Finds, Needle.replaceNth, hresolve]
  exact Attempt.bind_eq_ok.mpr ⟨some (a, b), hfound, hr⟩

/-- An occurrence is replaced by the new text as it is: it takes over no indentation. -/
theorem compile_replaceNth (needle : Needle) (newText : Int → List Char) (n : Int) (d : Document) (r : Range) :
    (needle.replaceNth newText n).compile d normalize r = .ok ⟨r, newText n⟩ := by
  cases needle with
  | pattern source => cases normalize <;> rfl
  | literal text => cases normalize <;> rfl

/-- The edit that an occurrence is replaced by covers it. -/
theorem exists_makes_occurrence {a b : Nat} (newText : Int → List Char) (normalize : Bool)
    (hfound : needle.findNth c.document.text n = .ok (some (a, b))) (hlies : LiesFrom c.document.text.length 0 (a, b)) :
    ∃ e, c.Makes normalize (needle.replaceNth newText n) e ∧ c.document.Covers e.range ∧
      c.document.spliceOf e = ⟨a, b, newText n, 0⟩ := by
  obtain ⟨r, hr, hstart, hstop⟩ := exists_finds_occurrence newText hfound hlies
  refine ⟨⟨r, newText n⟩, ⟨r, hr, compile_replaceNth needle newText n c.document r⟩, ?_, ?_⟩
  · exact Document.covers_of_ok hstart hstop
  · rw [Document.spliceOf, Document.offsetOf_eq hstart, Document.offsetOf_eq hstop]

/-- A batch that replaces matches that are there compiles, and its edits cover these matches. -/
theorem exists_compile_replaceNth {numbers : List Int} {spans : List (Nat × Nat)}
    (hlies : ∀ x ∈ spans, LiesFrom c.document.text.length 0 x)
    (hexist : ∀ n ∈ numbers, ∃ x, spans[(n - 1).toNat]? = some x ∧
      needle.findNth c.document.text n = .ok (some x)) (newText : Int → List Char) (normalize : Bool) :
    ∃ edits, c.compile normalize (numbers.map (needle.replaceNth newText)) = .ok edits ∧
      (∀ e ∈ edits, c.document.Covers e.range) ∧
      edits.map c.document.spliceOf = numbers.map (Splice.ofMatch newText spans) := by
  -- one edit for each number, with the span of the occurrence
  have hmakes : ∀ n, n ∈ numbers → ∃ e, c.Makes normalize (needle.replaceNth newText n) e ∧
      c.document.Covers e.range ∧ c.document.spliceOf e = Splice.ofMatch newText spans n := by
    intro n hn
    obtain ⟨⟨a, b⟩, hx, hfound⟩ := hexist n hn
    rw [Splice.ofMatch_eq hx]
    exact exists_makes_occurrence newText normalize hfound (hlies _ (List.mem_of_getElem? hx))
  choose! make hmake hcov hsplice using hmakes
  refine ⟨numbers.map make, ?_, ?_, ?_⟩
  · rw [compile_eq_ok_iff, List.forall₂_map_left_iff, List.forall₂_map_right_iff, List.forall₂_same]
    exact hmake
  · intro e he
    obtain ⟨n, hn, rfl⟩ := List.mem_map.mp he
    exact hcov n hn
  · rw [List.map_map]
    exact List.map_congr_left hsplice

/-- Different occurrences that are there, replaced in one batch. The batch compiles, its edits pass the check, and
the text is gone through once, with the matches as they are numbered given up for their new texts, and all others as
they are. If all occurrences of a text get one new text, the text is replaced everywhere. -/
theorem compile_occurrences {numbers : List Int}
    (hneedle : ∀ source, needle = .pattern source → ∃ node, Pattern.compile source = .ok node)
    (hdistinct : numbers.Nodup)
    (hexist : ∀ n ∈ numbers, ∃ span, needle.findNth c.document.text n = .ok (some span))
    (newText : Int → List Char) (normalize : Bool) :
    ∃ edits splices spans,
      c.compile normalize (numbers.map (needle.replaceNth newText)) = .ok edits ∧
      (Document.mk c.document.text "").splices edits = .ok splices ∧ checkOverlaps splices = .ok () ∧
      (∀ n, needle.findNth c.document.text n = .ok (if n < 1 then none else spans[(n - 1).toNat]?)) ∧
      applyEdits c.document.text edits = .ok (substituted c.document.text
        (fun n => if n ∈ numbers then some (newText n) else none) 0 1 spans) ∧
      ∀ old new, needle = .literal old → old ≠ [] →
        (∀ n span, needle.findNth c.document.text n = .ok (some span) → n ∈ numbers) →
        (∀ n ∈ numbers, newText n = new) →
        applyEdits c.document.text edits = .ok (replaceAll old new c.document.text) := by
  obtain ⟨node, hnode⟩ := Needle.exists_node hneedle
  -- One list of spans stands behind every number, since all are looked for in the original text.
  have hnumbered := Needle.findNth_eq_spans hnode c.document.text
  have hlies : ∀ x ∈ spans node c.document.text, LiesFrom c.document.text.length 0 x :=
    fun x hx => liesFrom_of_mem_spans hx
  have hapart := pairwise_spans node c.document.text
  have hplaces : ∀ n ∈ numbers, 1 ≤ n ∧ ∃ x, (spans node c.document.text)[(n - 1).toNat]? = some x ∧
      needle.findNth c.document.text n = .ok (some x) := by
    intro n hn
    obtain ⟨x, hx⟩ := hexist n hn
    have hplace := (hnumbered n).symm.trans hx
    rw [Except.ok.injEq] at hplace
    by_cases hlt : n < 1
    · simp [hlt] at hplace
    · rw [if_neg hlt] at hplace
      exact ⟨by omega, x, hplace, hx⟩
  obtain ⟨edits, hcompile, hcov, hsplices⟩ :=
    exists_compile_replaceNth hlies (fun n hn => (hplaces n hn).2) newText normalize
  have hperm := Splice.perm_chosen hapart hdistinct
    (fun n hn => ⟨(hplaces n hn).1, (hplaces n hn).2.imp fun x h => h.1⟩) newText
  rw [← hsplices] at hperm
  have happly : applyEdits c.document.text edits = .ok _ := applyEdits_eq_substituted hcov hperm hlies hapart
  have hs := Document.splices_eq_ok_iff (d := Document.mk c.document.text "").mpr ⟨hcov, rfl⟩
  refine ⟨edits, _, _, hcompile, hs, ?_, hnumbered, happly, ?_⟩
  · exact (Document.checkOverlaps_eq_ok_iff hs).mpr (Document.clear_of_perm_chosen hperm hapart)
  -- All occurrences of a literal, replaced by one text, are what replacing from left to right replaces.
  · rintro old new rfl hne hall hsame
    rw [happly, substituted_eq_replaceAll hnode hne]
    intro k hk
    have hplace : (((1 + k : Nat) : Int) - 1).toNat = k := by omega
    have hmem : ((1 + k : Nat) : Int) ∈ numbers := by
      refine hall _ (spans node c.document.text)[k] ?_
      rw [hnumbered, if_neg (by omega), hplace, List.getElem?_eq_getElem hk]
    rw [if_pos hmem, hsame _ hmem]

/-- Of `axx`, the empty match at the start and the one behind the last character are replaced, the latter first, and
the match that touches it stays. In `aaaaa`, the text `aa` occurs twice. -/
theorem compile_occurrences_touching :
    let c : Context := { document := ⟨['a', 'x', 'x'], ""⟩ }
    let stars := Needle.pattern ['x', '*']
    let marks (n : Int) : List Char := if n = 1 then ['<'] else ['>']
    let c' : Context := { document := ⟨['a', 'a', 'a', 'a', 'a'], ""⟩ }
    let pair := Needle.literal ['a', 'a']
    (∃ edits, c.compile true [stars.replaceNth marks 3, stars.replaceNth marks 1] = .ok edits ∧
      applyEdits c.document.text edits = .ok ['<', 'a', 'x', 'x', '>']) ∧
    ∃ edits, c'.compile true [pair.replaceNth (fun _ => ['b']) 2, pair.replaceNth (fun _ => ['b']) 1] = .ok edits ∧
      applyEdits c'.document.text edits = .ok ['b', 'b', 'a'] := by
  intro c stars marks c' pair
  constructor
  · have hneedle : ∀ source, stars = .pattern source → ∃ node, Pattern.compile source = .ok node := by
      rintro source hsource
      obtain rfl := Needle.pattern.inj hsource
      exact ⟨_, rfl⟩
    have hexist : ∀ n ∈ [(3 : Int), 1], ∃ span, stars.findNth c.document.text n = .ok (some span) := by
      simp only [List.forall_mem_cons, List.not_mem_nil, false_imp_iff, implies_true, and_true]
      exact ⟨⟨(3, 3), rfl⟩, ⟨(0, 0), rfl⟩⟩
    obtain ⟨edits, -, spans, hedits, -, -, hnumbered, happly, -⟩ :=
      compile_occurrences hneedle (by decide) hexist marks true
    have hfirst : spans[0]? = some (0, 0) := Except.ok.inj (hnumbered 1).symm
    have hsecond : spans[1]? = some (1, 3) := Except.ok.inj (hnumbered 2).symm
    have hthird : spans[2]? = some (3, 3) := Except.ok.inj (hnumbered 3).symm
    have hfourth : spans[3]? = none := Except.ok.inj (hnumbered 4).symm
    have hspans : spans = [(0, 0), (1, 3), (3, 3)] := by
      refine List.ext_getElem? ?_
      intro i
      rcases i with _ | _ | _ | i
      · exact hfirst
      · exact hsecond
      · exact hthird
      · have hlength := List.getElem?_eq_none_iff.mp hfourth
        rw [List.getElem?_eq_none (by omega), List.getElem?_eq_none (by simp)]
    refine ⟨edits, hedits, ?_⟩
    rw [happly, hspans, Except.ok.injEq]
    decide
  · have hexist : ∀ n ∈ [(2 : Int), 1], ∃ span, pair.findNth c'.document.text n = .ok (some span) := by
      simp only [List.forall_mem_cons, List.not_mem_nil, false_imp_iff, implies_true, and_true]
      exact ⟨⟨(2, 4), rfl⟩, ⟨(0, 2), rfl⟩⟩
    obtain ⟨edits, -, spans, hedits, -, -, hnumbered, -, hall⟩ :=
      compile_occurrences (c := c') (by simp [pair]) (by decide) hexist (fun _ => ['b']) true
    have hthird : spans[2]? = none := Except.ok.inj (hnumbered 3).symm
    refine ⟨edits, hedits, ?_⟩
    rw [hall ['a', 'a'] ['b'] rfl (by decide) ?_ (by simp), Except.ok.injEq]
    · decide
    · intro n span hfound
      have hlength := List.getElem?_eq_none_iff.mp hthird
      have hplace := Except.ok.inj ((hnumbered n).symm.trans hfound)
      by_cases hlt : n < 1
      · simp [hlt] at hplace
      · rw [if_neg hlt] at hplace
        have hroom := (List.getElem?_eq_some_iff.mp hplace).1
        rw [List.mem_cons, List.mem_singleton]
        omega

end Context

end Emend
