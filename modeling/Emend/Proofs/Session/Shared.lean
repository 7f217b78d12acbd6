import Emend.Proofs.Compile.Lines
import Emend.Proofs.Session.Request

/-!
# Blocks of lines that share a line

The check of a batch looks at characters, not at lines. Two blocks of lines that share a line claim a character of
it or the break behind it, except where they meet on a blank line: the line is the last one of a block that leaves
the break, and the first one of the other (`Document.clash_iff`). Any other two are refused, and then nothing
happens to the file and its changes (`apply_shared_lines`).

Main statements:

* `TakesBlock.endsOnBlank_iff`, `TakesBlock.start_lt_stop_iff`: the ends of the edit that takes a block.
* `clash_iff`: which blocks that share a line clash.
* `compile_of_not_clear`, `apply_of_not_compiled`: a batch that is refused changes nothing.
* `apply_shared_lines`: so two instructions that share a line are refused, but for a blank one.
-/

namespace Emend

namespace Instruction

/-- Of the lines that an instruction takes, this is the first. -/
def StartsOn (i : Instruction) (n : Nat) : Prop := i.takes n = true ∧ ∀ m < n, i.takes m = false

/-- Of the lines that an instruction takes, this is the last. It is blank, and the break behind it stays: because
the lines are replaced, or because the document ends here. -/
def EndsOnBlank (d : Document) (i : Instruction) (n : Nat) : Prop :=
  i.takes n = true ∧ i.takes (n + 1) = false ∧ d.rawLines[n]?.map Document.body = some [] ∧
    (i.action = .replace ∨ n + 1 = d.lineCount)

/-- The one ends where the other starts, on a line of which it takes nothing. -/
def MeetsOnBlank (d : Document) (i j : Instruction) : Prop := ∃ n, i.EndsOnBlank d n ∧ j.StartsOn n

end Instruction

/-! ## Two blocks -/

namespace Document

variable {d : Document} {i j : Instruction} {e e' : Edit} {first last first' last' n : Nat}

/-- An edit takes a block of lines: from the start of the first one to the end of the body of the last one, or up to
the start of the next line where lines are deleted. -/
structure TakesBlock (d : Document) (i : Instruction) (first last : Nat) (e : Edit) : Prop where
  target : i.target = .lines (first + 1) (last + 1)
  ordered : first ≤ last
  covers : d.Covers e.range
  start : e.range.start = ⟨first, 0⟩
  stop : ∃ raw, d.rawLines[last]? = some raw ∧
    e.range.stop = if i.action = .replace ∨ last + 1 = d.lineCount then ⟨last, (body raw).length⟩ else ⟨last + 1, 0⟩

theorem TakesBlock.takes_iff (h : d.TakesBlock i first last e) : i.takes n = true ↔ first ≤ n ∧ n ≤ last :=
  Instruction.takes_iff h.target

theorem TakesBlock.startsOn_iff (h : d.TakesBlock i first last e) : i.StartsOn n ↔ n = first := by
  have hordered := h.ordered
  simp only [Instruction.StartsOn, Bool.eq_false_iff, ne_eq, h.takes_iff]
  constructor
  · rintro ⟨hn, hbefore⟩
    by_contra hne
    exact hbefore first (by omega) ⟨Nat.le_refl first, hordered⟩
  · rintro rfl
    exact ⟨⟨Nat.le_refl n, hordered⟩, fun m hm => by omega⟩

/-- The edit ends where its last line starts exactly if the block ends on a blank line. -/
theorem TakesBlock.endsOnBlank_iff (h : d.TakesBlock i first last e) :
    i.EndsOnBlank d n ↔ n = last ∧ e.range.stop = ⟨last, 0⟩ := by
  have hordered := h.ordered
  obtain ⟨raw, hraw, hstop⟩ := h.stop
  have hlast : first ≤ n ∧ n ≤ last ∧ ¬ (first ≤ n + 1 ∧ n + 1 ≤ last) ↔ n = last := by omega
  simp only [Instruction.EndsOnBlank, Bool.eq_false_iff, ne_eq, h.takes_iff]
  rw [← and_assoc, and_assoc (a := first ≤ n), hlast]
  refine and_congr_right ?_
  rintro rfl
  rw [hraw, hstop]
  -- the break behind the last line is left by a replacement, or is not there at all
  by_cases hleft : i.action = .replace ∨ n + 1 = d.lineCount
  · simp [hleft]
  · simp [hleft]

/-- The edit goes at least to the start of its last line. -/
theorem TakesBlock.line_stop (h : d.TakesBlock i first last e) :
    (⟨last, 0⟩ : Position) ≤ e.range.stop := by
  obtain ⟨raw, -, hstop⟩ := h.stop
  rw [hstop, Position.le_def]
  split
  · exact .inr ⟨rfl, Int.natCast_nonneg _⟩
  · exact .inl (Int.lt_succ _)

/-- The edit does not go behind the start of the line after its last one. -/
theorem TakesBlock.stop_line (h : d.TakesBlock i first last e) :
    e.range.stop ≤ (⟨last + 1, 0⟩ : Position) := by
  obtain ⟨raw, -, hstop⟩ := h.stop
  rw [hstop, Position.le_def]
  split
  · exact .inl (Int.lt_succ _)
  · exact .inr ⟨rfl, Int.le_refl _⟩

/-- A block starts before the other one is over exactly if it starts on one of its lines or before, and not on a
blank line where the other one ends. -/
theorem TakesBlock.start_lt_stop_iff (he : d.TakesBlock i first last e) (he' : d.TakesBlock j first' last' e') :
    (d.spliceOf e').start < (d.spliceOf e).stop ↔ first' ≤ last ∧ ¬ i.MeetsOnBlank d j := by
  have hmeets : i.MeetsOnBlank d j ↔ first' = last ∧ e.range.stop = ⟨last, 0⟩ := by
    simp only [Instruction.MeetsOnBlank, he.endsOnBlank_iff, he'.startsOn_iff]
    constructor
    · rintro ⟨n, ⟨rfl, hstop⟩, rfl⟩
      exact ⟨rfl, hstop⟩
    · rintro ⟨rfl, hstop⟩
      exact ⟨_, ⟨rfl, hstop⟩, rfl⟩
  -- the one ends on its last line or at the start of the next, so the line of the other start decides
  have hfrom := he.line_stop
  have hto := he.stop_line
  rw [hmeets, spliceOf, spliceOf]
  simp only
  rw [offsetAt_lt_iff he'.covers.1 he.covers.2, he'.start]
  simp only [Position.lt_def, Position.le_def, Position.eq_iff] at *
  omega

/-- Two blocks of lines clash exactly if they share a line and do not meet on a blank one. -/
theorem clash_iff (he : d.TakesBlock i first last e) (he' : d.TakesBlock j first' last' e') :
    Splice.Clash (d.spliceOf e) (d.spliceOf e') ↔
      (∃ n, i.takes n = true ∧ j.takes n = true) ∧ ¬ i.MeetsOnBlank d j ∧ ¬ j.MeetsOnBlank d i := by
  -- two blocks share a line exactly if neither of them lies behind the other
  have hshare : (∃ n, i.takes n = true ∧ j.takes n = true) ↔ first ≤ last' ∧ first' ≤ last := by
    have hordered := he.ordered
    have hordered' := he'.ordered
    simp only [he.takes_iff, he'.takes_iff]
    constructor
    · rintro ⟨n, hn, hn'⟩
      omega
    · intro h
      exact ⟨max first first', by omega, by omega⟩
  rw [Splice.Clash, he.start_lt_stop_iff he', he'.start_lt_stop_iff he, hshare]
  tauto

end Document

/-! ## Batches -/

namespace Context

variable {c : Context} {i j : Instruction} {e : Edit} {normalize : Bool} {instructions : List Instruction}
  {edits : List Edit} {k l : Nat}

/-- An instruction that edits lines makes an edit that takes a block of lines. -/
theorem Makes.takesBlock (h : c.Makes normalize i e) (hlines : i.EditsLines c.document.lineCount) :
    ∃ first last, c.document.TakesBlock i first last e := by
  obtain ⟨r, hfinds, hmade⟩ := h
  obtain ⟨haction, a, b, htarget, -⟩ := hlines
  rw [Finds, htarget] at hfinds
  obtain ⟨first, last, raw, rfl, rfl, hordered, hraw, hstart, hstop⟩ := linesRange_eq_ok.mp hfinds
  have hcovers := Instruction.covers_compile (covers_linesRange hfinds) hmade
  have hlast : last < c.document.lineCount := (List.getElem?_eq_some_iff.mp hraw).1
  rcases haction with haction | haction
  · rw [Document.compile_replace_lines haction htarget] at hmade
    obtain rfl := Except.ok.inj hmade
    exact ⟨first, last, htarget, hordered, hcovers, hstart, raw, hraw, by rw [if_pos (.inl haction), hstop]⟩
  · rw [Document.compile_delete_lines haction htarget] at hmade
    have hfrom := (Instruction.deleteEdit_cases hmade).2.1.trans hstart
    have hkind : i.target.kind = .lines := by rw [htarget]; rfl
    have hline : r.stop.line = last := by rw [hstop]
    refine ⟨first, last, htarget, hordered, hcovers, hfrom, raw, hraw, ?_⟩
    -- a deletion reaches behind its last line where there is another one
    by_cases hnext : last + 1 < c.document.lineCount
    · have hleft : ¬ (i.action = .replace ∨ last + 1 = c.document.lineCount) := by
        simp [haction, Nat.ne_of_lt hnext]
      rw [Instruction.deleteEdit_of_next hkind (by omega)] at hmade
      obtain rfl := Except.ok.inj hmade
      rw [if_neg hleft]
      exact congrArg (fun line => (⟨line + 1, 0⟩ : Position)) hline
    · rw [Instruction.deleteEdit_of_not (by omega)] at hmade
      obtain rfl := Except.ok.inj hmade
      rw [if_pos (.inr (by omega))]
      exact hstop

/-- The edits of two blocks that share a line and do not meet on a blank one keep a batch from being clear. -/
theorem not_clear_of_shared (hk : instructions[k]? = some i) (hl : instructions[l]? = some j) (hkl : k ≠ l)
    (hi : i.EditsLines c.document.lineCount) (hj : j.EditsLines c.document.lineCount)
    (hshare : ∃ n, i.takes n = true ∧ j.takes n = true)
    (hij : ¬ i.MeetsOnBlank c.document j) (hji : ¬ j.MeetsOnBlank c.document i)
    (hcompile : c.compile normalize instructions = .ok edits) : ¬ c.document.Clear edits := by
  obtain ⟨hlength, hmakes⟩ := List.forall₂_iff_get.mp (compile_eq_ok_iff.mp hcompile)
  obtain ⟨hk', rfl⟩ := List.getElem?_eq_some_iff.mp hk
  obtain ⟨hl', rfl⟩ := List.getElem?_eq_some_iff.mp hl
  -- each of the two instructions takes a block of lines
  obtain ⟨first, last, he⟩ := (hmakes k hk' (hlength ▸ hk')).takesBlock hi
  obtain ⟨first', last', he'⟩ := (hmakes l hl' (hlength ▸ hl')).takesBlock hj
  have hclash := (Document.clash_iff he he').mpr ⟨hshare, hij, hji⟩
  intro hclear
  have hpair := List.pairwise_iff_getElem.mp hclear
  rcases Nat.lt_or_gt_of_ne hkl with hlt | hlt
  · exact hpair k l _ _ hlt hclash
  · exact hpair l k _ _ hlt hclash.symm

end Context

/-! ## Requests -/

namespace Session

variable {σ : Type} {s : Session σ} {w : Workspace σ} {request : Request} {path : String} {f : Failure}

/-- A request that is not compiled fails, and is logged if it is a refusal. Nothing else changes. -/
theorem apply_of_not_compiled (track : Bool) (hkey : s.host.key request.filePath = path)
    (hne : request.instructions ≠ []) (hcompile : s.compile w.files path request = .error f) :
    ∃ g w', s.apply w request track = (.error g, w') ∧ w'.ledger = w.ledger ∧ w'.verdicts = w.verdicts ∧
      (w'.files = w.files ∨ ∃ error, w'.files = (s.logBatch w request (some error)).2.files) ∧
      ((∀ error, (s.logBatch w request (some error)).1 = .ok ()) → g = f) := by
  subst hkey
  have hsome : request.instructions.isEmpty = false := by simpa using hne
  unfold Session.apply
  simp only [hsome, Bool.false_eq_true, if_false, hcompile]
  -- a refusal is logged, which may fail in turn; a failure of another kind ends the request
  rcases f with ⟨e, culprit⟩ | _
  · simp only [refuse, logBatch, Workspace.tell]
    by_cases hmetrics : s.settings.metricsEnabled
    · simp only [hmetrics, if_true]
      rcases hlog : s.log w.files (Metrics.entry request (some e)) with ⟨g | files, notes⟩
      · refine ⟨_, _, rfl, rfl, rfl, .inl rfl, ?_⟩
        intro h
        simpa [hlog] using h e
      · exact ⟨_, _, rfl, rfl, rfl, .inr ⟨e, by simp [hlog]⟩, fun _ => rfl⟩
    · simp only [hmetrics]
      exact ⟨_, _, rfl, rfl, rfl, .inl rfl, fun _ => rfl⟩
  all_goals exact ⟨_, _, rfl, rfl, rfl, .inl rfl, fun _ => rfl⟩

/-- Where overlaps are refused, edits of the document that clash are no request. -/
theorem compile_of_not_clear {d : Document} {edits : List Edit} (hreject : s.settings.rejectOverlaps = true)
    (hread : s.host.read w.files d.uri = .ok d.text)
    (hbatch : (s.context w.files d).compile s.settings.normalizeIndentation request.instructions = .ok edits)
    (hcov : ∀ e ∈ edits, d.Covers e.range) (hclear : ¬ d.Clear edits) :
    ∃ o, s.compile w.files d.uri request = .error (.ofError (.overlap o)) := by
  have hsplices := Document.splices_eq_ok_iff.mpr ⟨hcov, rfl⟩
  obtain ⟨o, hcheck⟩ := Document.checkOverlaps_of_not_clear hsplices hclear
  refine ⟨o, ?_⟩
  simp [Session.compile, compileFor, check, hread, hbatch, hreject, hsplices, hcheck, Attempt.ofRange,
    Attempt.ofBatch, Attempt.refuse, EditError.ofBatch, bind, Except.bind]

/-- Two blocks of lines that share a line are refused with the whole batch, unless they meet on a blank line: the
edits of the batch are not made in the text, and a request for it changes no more than the log. It is refused for an
overlap if all of its edits could be made of it and lie in the document. -/
theorem apply_shared_lines {d : Document} {instructions : List Instruction} {i j : Instruction} {k l : Nat}
    (hk : instructions[k]? = some i) (hl : instructions[l]? = some j) (hkl : k ≠ l)
    (hi : i.EditsLines d.lineCount) (hj : j.EditsLines d.lineCount)
    (hshare : ∃ n, i.takes n = true ∧ j.takes n = true)
    (hij : ¬ i.MeetsOnBlank d j) (hji : ¬ j.MeetsOnBlank d i) :
    (∀ (c : Context) (normalize : Bool) (edits : List Edit), c.document = d →
      c.compile normalize instructions = .ok edits → ∃ cause, applyEdits d.text edits = .error cause ∧
        ((∀ e ∈ edits, d.Covers e.range) → ∃ o, cause = .overlap o)) ∧
    ∀ {σ : Type} (s : Session σ) (w : Workspace σ) (request : Request) (track : Bool),
      s.settings.rejectOverlaps = true → request.instructions = instructions →
      s.host.key request.filePath = d.uri → s.host.read w.files d.uri = .ok d.text →
      ∃ f g w', s.compile w.files d.uri request = .error f ∧ s.apply w request track = (.error g, w') ∧
        w'.ledger = w.ledger ∧ w'.verdicts = w.verdicts ∧
        (w'.files = w.files ∨ ∃ error, w'.files = (s.logBatch w request (some error)).2.files) ∧
        ((∀ error, (s.logBatch w request (some error)).1 = .ok ()) → g = f) ∧
        ∀ edits, (s.context w.files d).compile s.settings.normalizeIndentation instructions = .ok edits →
          (∀ e ∈ edits, d.Covers e.range) → ∃ o, f = .ofError (.overlap o) := by
  constructor
  · rintro c normalize edits rfl hcompile
    -- whatever context the session gives, the edits of the two instructions clash
    have hclear := Context.not_clear_of_shared hk hl hkl hi hj hshare hij hji hcompile
    -- an edit that lies outside of the text is an error of its own
    by_cases hcov : ∀ e ∈ edits, c.document.Covers e.range
    · obtain ⟨o, ho⟩ := applyEdits_of_not_clear hcov hclear
      exact ⟨_, ho, fun _ => ⟨o, rfl⟩⟩
    · obtain ⟨cause, hcause⟩ := applyEdits_of_not_covers true hcov
      exact ⟨_, hcause, fun h => absurd h hcov⟩
  · rintro σ s w request track hreject rfl hkey hread
    have hne : request.instructions ≠ [] := List.ne_nil_of_mem (List.mem_of_getElem? hk)
    have hclear : ∀ edits, (s.context w.files d).compile s.settings.normalizeIndentation request.instructions
        = .ok edits → ¬ d.Clear edits :=
      fun edits => Context.not_clear_of_shared (c := s.context w.files d) hk hl hkl hi hj hshare hij hji
    rcases hcompile : s.compile w.files d.uri request with f | ⟨document, edits⟩
    · obtain ⟨g, w', happly, hledger, hverdicts, hfiles, hlog⟩ := apply_of_not_compiled track hkey hne hcompile
      refine ⟨f, g, w', rfl, happly, hledger, hverdicts, hfiles, hlog, ?_⟩
      intro edits hbatch hcov
      obtain ⟨o, ho⟩ := compile_of_not_clear hreject hread hbatch hcov (hclear edits hbatch)
      exact ⟨o, Except.error.inj (hcompile.symm.trans ho)⟩
    · -- what was compiled passed the check
      obtain ⟨-, hbatch, -⟩ := (compile_eq_ok_iff hread).mp hcompile
      exact absurd (clear_of_compile hreject hread hcompile).2 (hclear edits hbatch)

/-- Two deletions share a blank line. The first one takes the break behind it, so they are refused. -/
theorem apply_shared_lines_deleted :
    let d : Document := ⟨"a\n\nb".toList, "a.txt"⟩
    let i : Instruction := ⟨.delete, .lines 1 2, []⟩
    let j : Instruction := ⟨.delete, .lines 2 3, []⟩
    let w : Workspace Memory := { files := { texts := [("a.txt", d.text)] } }
    i.EditsLines d.lineCount ∧ j.EditsLines d.lineCount ∧ (∃ n, i.takes n = true ∧ j.takes n = true) ∧
      ¬ i.MeetsOnBlank d j ∧ ¬ j.MeetsOnBlank d i ∧
      ∃ o w', inMemory.apply w ⟨"a.txt", [i, j], ""⟩ = (.error (.ofError (.overlap o)), w') ∧
        w'.files = w.files ∧ w'.ledger = w.ledger := by
  intro d i j w
  have hi : i.EditsLines d.lineCount := ⟨.inr rfl, 1, 2, rfl, by decide⟩
  have hj : j.EditsLines d.lineCount := ⟨.inr rfl, 2, 3, rfl, by decide⟩
  have hshare : ∃ n, i.takes n = true ∧ j.takes n = true := ⟨1, by decide, by decide⟩
  have hij : ¬ i.MeetsOnBlank d j := by
    rintro ⟨n, ⟨htakes, hlast, -, hleft⟩, -⟩
    have hcount : d.lineCount = 3 := by decide
    simp only [i, Instruction.takes, Bool.and_eq_true, Bool.and_eq_false_iff, decide_eq_true_eq,
      decide_eq_false_iff_not, hcount, reduceCtorEq, false_or] at htakes hlast hleft
    omega
  have hji : ¬ j.MeetsOnBlank d i := by
    rintro ⟨n, ⟨htakes, -⟩, hstart, hbefore⟩
    have hfirst := hbefore 0
    simp only [i, j, Instruction.takes, Bool.and_eq_true, Bool.and_eq_false_iff, decide_eq_true_eq,
      decide_eq_false_iff_not] at htakes hstart hfirst
    omega
  refine ⟨hi, hj, hshare, hij, hji, ?_⟩
  have hfirst : [i, j][0]? = some i := rfl
  have hsecond : [i, j][1]? = some j := rfl
  obtain ⟨f, g, w', -, happly, hledger, -, hfiles, hlog, hoverlap⟩ := (apply_shared_lines hfirst hsecond
    (by decide) hi hj hshare hij hji).2 inMemory w ⟨"a.txt", [i, j], ""⟩ true rfl rfl rfl rfl
  obtain rfl : g = f := hlog fun _ => rfl
  have hbatch : (inMemory.context w.files d).compile true [i, j] = .ok
      [⟨⟨⟨0, 0⟩, ⟨2, 0⟩, by decide⟩, []⟩, ⟨⟨⟨1, 0⟩, ⟨2, 1⟩, by decide⟩, []⟩] := rfl
  obtain ⟨o, rfl⟩ := hoverlap _ hbatch (by
    simp only [List.forall_mem_cons, List.not_mem_nil, false_imp_iff, implies_true, and_true]
    exact ⟨⟨rfl, rfl⟩, rfl, rfl⟩)
  refine ⟨o, w', happly, ?_, hledger⟩
  -- the host has no log
  rcases hfiles with hfiles | ⟨_, hfiles⟩
  · exact hfiles
  · exact hfiles

/-- Two replacements share a blank line. The first one stops in front of the break behind it, where the second one
starts, and both are made. -/
theorem apply_shared_lines_blank :
    let c : Context := { document := ⟨"a\n\nb".toList, "a.txt"⟩ }
    let i : Instruction := ⟨.replace, .lines 1 2, "X".toList⟩
    let j : Instruction := ⟨.replace, .lines 2 3, "Y".toList⟩
    let w : Workspace Memory := { files := { texts := [("a.txt", c.document.text)] } }
    i.EditsLines c.document.lineCount ∧ j.EditsLines c.document.lineCount ∧
      (∃ n, i.takes n = true ∧ j.takes n = true) ∧
      (∃ edits, c.compile true [i, j] = .ok edits ∧ applyEdits c.document.text edits = .ok "XY".toList) ∧
      inMemory.settings.rejectOverlaps = true ∧
      ∃ done w', inMemory.apply w ⟨"a.txt", [i, j], ""⟩ = (.ok done, w') ∧
        inMemory.host.read w'.files "a.txt" = .ok "XY".toList := by
  intro c i j w
  let edits : List Edit :=
    [⟨⟨⟨0, 0⟩, ⟨1, 0⟩, by decide⟩, "X".toList⟩, ⟨⟨⟨1, 0⟩, ⟨2, 1⟩, by decide⟩, "Y".toList⟩]
  have hread : inMemory.host.read w.files "a.txt" = .ok c.document.text := rfl
  have happly : applyEdits c.document.text edits = .ok "XY".toList := by cbv
  have hcompile : inMemory.compile w.files "a.txt" ⟨"a.txt", [i, j], ""⟩ = .ok (c.document, edits) :=
    (compile_eq_ok_iff hread).mpr ⟨rfl, rfl, by cbv⟩
  obtain ⟨done, w', happ, -, hw', -⟩ := (inMemory_healthy "a.txt").accepts_first rfl
    rfl (List.cons_ne_nil i [j]) rfl hread rfl hcompile happly
  -- line 2 is blank, and both texts end up in one line
  exact ⟨⟨.inl rfl, 1, 2, rfl, by decide⟩, ⟨.inl rfl, 2, 3, rfl, by decide⟩, ⟨1, by decide, by decide⟩,
    ⟨edits, rfl, happly⟩, rfl, done, w', happ, hw'.read⟩

end Session

end Emend
