import Emend.Proofs.Compile
import Emend.Proofs.Text.Indentation
import Emend.Proofs.Text.Returns

/-!
# Line endings of two characters

In a text in which returns and line feeds come in pairs, a batch leaves no line feed without its return
(`compile_feedsHaveReturns`), if the texts of its instructions have none either and no match cuts a pair in two.
The breaks that instructions add by themselves are those of the document, and the indentation that they add has
no breaks in it.

Main statements:

* `Paired.endingChars_eq`: the breaks of the document are pairs.
* `feedsHaveReturns_compile`, `not_splits_compile`: the new text of an edit, and where it ends.
* `compile_feedsHaveReturns`: the text that comes of a batch.
-/

namespace Emend

open Text

/-! ## Indented texts -/

/-- Indentation without breaks leaves the breaks of a text as they are. -/
theorem Text.FeedsHaveReturns.applyIndentation {s indent : List Char} (hs : FeedsHaveReturns s)
    (hfeed : '\n' ∉ indent) (hreturn : '\r' ∉ indent) : FeedsHaveReturns (applyIndentation s indent) := by
  by_cases hne : indent = []
  · subst hne
    exact hs
  by_cases hprefix : indent <+: s
  · -- the first copy of the indentation goes, and what it ends in is no return
    obtain ⟨rest, rfl⟩ := hprefix
    rw [applyIndentation_append hne]
    refine hs.right_of_append ?_
    intro hlast
    exact absurd (List.mem_of_getLast? hlast) hreturn
  · obtain ⟨first, rest, hlines⟩ := exists_lines_eq_cons s
    have hends := feedsHaveReturns_iff.mp hs
    rw [hlines] at hends
    rw [applyIndentation_eq_unlines hne hlines hprefix,
      feedsHaveReturns_unlines (feed_not_mem_indented hfeed hlines)]
    rcases List.eq_nil_or_concat rest with rfl | ⟨middle, last, rfl⟩
    · simp
    · -- the last line may end in anything, and the others end as they did
      rw [List.concat_eq_append, List.dropLast_cons_of_ne_nil (by simp), List.dropLast_concat,
        List.forall_mem_cons] at hends
      rw [List.concat_eq_append, List.map_append, List.map_singleton,
        List.dropLast_cons_of_ne_nil (by simp), List.dropLast_concat, List.forall_mem_cons,
        List.forall_mem_map]
      exact ⟨hends.1, fun l hl => getLast?_indentLine (hends.2 l hl)⟩

/-! ## Documents -/

namespace Document

variable {d : Document} {p : Position} {o : Nat}

/-- The text has line breaks, each of them a return and a line feed, and there are no other returns. -/
structure Paired (d : Document) : Prop where
  broken : '\n' ∈ d.text
  feeds : FeedsHaveReturns d.text
  returns : ReturnsHaveFeeds d.text

/-- The position stands between a return and its line feed. -/
def Splits (d : Document) (p : Position) : Prop :=
  ∃ o, d.offsetAt p = .ok (o + 1) ∧ d.text[o]? = some '\r' ∧ d.text[o + 1]? = some '\n'

/-- Before the start of a line there is a line feed, unless it is the start of the text. -/
theorem feed_of_offsetAt_line {line : Int} (h : d.offsetAt ⟨line, 0⟩ = .ok (o + 1)) :
    d.text[o]? = some '\n' := by
  obtain ⟨text, uri⟩ := d
  obtain ⟨hle, hposition⟩ := offsetAt_eq_ok_iff.mp h
  obtain ⟨before, last, hlines⟩ := exists_lines_eq_append (text.take o)
  have ho : o < text.length := hle
  rw [List.take_add_one, List.getElem?_eq_getElem ho, Position.extent_append,
    Position.extent_zero hlines, Option.toList_some, Position.extent_cons, Position.extent_nil,
    Position.advance] at hposition
  simp only [List.getElem?_eq_getElem ho]
  -- behind any other character, the position is not the first of its line
  by_cases hfeed : text[o] = '\n'
  · rw [hfeed]
  · rw [if_neg hfeed, Position.mk.injEq] at hposition
    simp only at hposition
    omega

theorem not_splits_line (d : Document) (line : Int) : ¬ d.Splits ⟨line, 0⟩ := by
  rintro ⟨o, ho, hreturn, -⟩
  rw [feed_of_offsetAt_line ho] at hreturn
  exact absurd (Option.some.inj hreturn) (by decide)

theorem not_splits_of_offsetAt (ho : d.offsetAt p = .ok o) (hreturn : d.text[o - 1]? ≠ some '\r') :
    ¬ d.Splits p := by
  rintro ⟨before, hbefore, h, -⟩
  obtain rfl := Except.ok.inj (ho.symm.trans hbefore)
  exact hreturn h

/-- What stands behind a position that parts no pair. -/
theorem feedsHaveReturns_drop (hd : FeedsHaveReturns d.text) (ho : d.offsetAt p = .ok o)
    (hp : ¬ d.Splits p) : FeedsHaveReturns (d.text.drop o) := by
  -- Cutting right behind a return is harmful only in front of a feed, and there the position would split a pair.
  rcases o with _ | o
  · exact hd
  · have hin : o < d.text.length := by
      obtain ⟨text, uri⟩ := d
      exact (offsetAt_eq_ok_iff.mp ho).1
    rw [← List.take_append_drop (o + 1) d.text] at hd
    refine hd.right_of_append ?_
    intro hreturn hfeed
    refine hp ⟨o, ho, ?_, ?_⟩
    · simpa [List.getLast?_take, List.getElem?_eq_getElem hin] using hreturn
    · rwa [List.head?_drop] at hfeed

/-! ### Breaks and blanks of a document -/

theorem one_lt_lineCount (h : '\n' ∈ d.text) : 1 < d.lineCount := by
  have hjoined := unlines_lines d.text
  have hfree := not_mem_of_mem_lines d.text
  rw [lineCount, rawLines]
  rcases hlines : lines d.text with _ | ⟨first, _ | ⟨second, rest⟩⟩
  · exact absurd hlines (lines_ne_nil d.text)
  · -- a text of one line is that line
    obtain rfl : first = d.text := by simpa [hlines, unlines] using hjoined
    exact absurd h (hfree _ (by simp [hlines]))
  · simp

theorem endingOf_eq_crlf {raw : List Char} (h : raw.getLast? = some '\r') :
    endingOf raw = .crlf := by
  simp [endingOf, endsInReturn, h]

theorem Paired.ending_eq (hd : d.Paired) : d.ending = .crlf := by
  have hcount := one_lt_lineCount hd.broken
  have hends := feedsHaveReturns_iff.mp hd.feeds
  rw [lineCount, rawLines] at hcount
  rw [ending, rawLines]
  rcases hlines : lines d.text with _ | ⟨first, _ | ⟨second, rest⟩⟩
  · simp [hlines] at hcount
  · simp [hlines] at hcount
  · rw [hlines] at hends
    exact endingOf_eq_crlf (hends first (by simp))

/-- The ending of any line is a return and a line feed. -/
theorem Paired.endingChars_eq (hd : d.Paired) {line : Int} {ending : List Char}
    (h : d.endingChars line = .ok ending) : ending = ['\r', '\n'] := by
  obtain ⟨e, he, rfl⟩ := Attempt.map_eq_ok.mp h
  obtain ⟨raw, hfound, hend⟩ := Attempt.bind_eq_ok.mp (Attempt.ofRange_eq_ok.mp he)
  obtain ⟨n, rfl, hraw⟩ := rawLine_eq_ok.mp hfound
  rw [Attempt.pure_eq_ok] at hend
  split at hend
  · -- a line that another one follows
    rename_i hnext
    have hmem : raw ∈ (lines d.text).dropLast := by
      have hlast : n < d.rawLines.length - 1 := by
        rw [lineCount] at hnext
        omega
      have hget : d.rawLines.dropLast[n]? = some raw := by
        rw [List.getElem?_dropLast, if_pos hlast, hraw]
      exact List.mem_of_getElem? hget
    rw [← hend, endingOf_eq_crlf (feedsHaveReturns_iff.mp hd.feeds raw hmem)]
    rfl
  · rw [← hend, hd.ending_eq]
    rfl

/-- The body of a line has no break in it. -/
theorem Paired.not_mem_body (hd : d.Paired) {raw : List Char} (hraw : raw ∈ d.rawLines) :
    '\n' ∉ body raw ∧ '\r' ∉ body raw := by
  have hfeed := not_mem_of_mem_lines d.text raw hraw
  have hreturn := hd.returns.not_mem_dropLast hraw
  unfold body
  split
  · exact ⟨fun h => hfeed (List.dropLast_subset raw h), hreturn⟩
  · rename_i hlast
    refine ⟨hfeed, ?_⟩
    intro h
    -- a return in the line would be its last character
    rcases List.eq_nil_or_concat raw with rfl | ⟨front, c, rfl⟩
    · simp at h
    · rw [List.concat_eq_append, List.dropLast_concat] at hreturn
      have hc : '\r' = c := by simpa [hreturn] using h
      simp [endsInReturn, ← hc] at hlast

theorem Paired.not_mem_indentBefore (hd : d.Paired) {indent : List Char}
    (h : d.indentBefore p = .ok indent) : '\n' ∉ indent ∧ '\r' ∉ indent := by
  obtain ⟨line, hline, rfl⟩ := indentBefore_eq_ok.mp h
  obtain ⟨n, raw, -, hraw, rfl⟩ := lineText_eq_ok.mp hline
  obtain ⟨hfeed, hreturn⟩ := hd.not_mem_body (List.mem_of_getElem? hraw)
  have hsubset : leadingBlanks (sliceTo (body raw) p.character) ⊆ body raw :=
    fun c hc => List.mem_of_mem_take (List.takeWhile_subset _ hc)
  exact ⟨fun h => hfeed (hsubset h), fun h => hreturn (hsubset h)⟩

end Document

/-! ## One instruction -/

namespace Instruction

variable {i : Instruction} {d : Document} {normalize : Bool} {resolved : Range} {e : Edit}

theorem not_mem_indent (hd : d.Paired) {indent : List Char}
    (h : i.indent d normalize resolved = .ok indent) : '\n' ∉ indent ∧ '\r' ∉ indent := by
  unfold Instruction.indent at h
  split at h
  · exact hd.not_mem_indentBefore h
  · obtain rfl := Except.ok.inj h
    simp

theorem feedsHaveReturns_indentedText (hd : d.Paired) (hi : FeedsHaveReturns i.newText)
    {text : List Char} (h : i.indentedText d normalize resolved = .ok text) :
    FeedsHaveReturns text := by
  obtain ⟨indent, hindent, rfl⟩ := Attempt.map_eq_ok.mp h
  obtain ⟨hfeed, hreturn⟩ := not_mem_indent hd hindent
  exact hi.applyIndentation hfeed hreturn

theorem feedsHaveReturns_crlf : FeedsHaveReturns ['\r', '\n'] := ⟨by decide, by decide⟩

theorem feedsHaveReturns_insertBeforeEdit (hd : d.Paired) (hi : FeedsHaveReturns i.newText)
    (h : i.insertBeforeEdit d normalize resolved = .ok e) : FeedsHaveReturns e.newText := by
  unfold insertBeforeEdit at h
  -- In front of lines the text brings a break of the document, in front of others the indentation of the match.
  split at h
  · obtain ⟨ending, hending, h⟩ := Attempt.bind_eq_ok.mp h
    obtain rfl := Attempt.pure_eq_ok.mp h
    obtain rfl := hd.endingChars_eq hending
    exact hi.append feedsHaveReturns_crlf
  · obtain ⟨indent, hindent, h⟩ := Attempt.bind_eq_ok.mp h
    obtain rfl := Attempt.pure_eq_ok.mp h
    obtain ⟨hfeed, hreturn⟩ := not_mem_indent hd hindent
    refine (hi.applyIndentation hfeed hreturn).append ?_
    split
    · exact .of_not_mem hfeed
    · exact .of_not_mem List.not_mem_nil

theorem feedsHaveReturns_insertAfterEdit (hd : d.Paired) (hi : FeedsHaveReturns i.newText)
    (h : i.insertAfterEdit d normalize resolved = .ok e) : FeedsHaveReturns e.newText := by
  unfold insertAfterEdit at h
  -- What is added is made of breaks of the document and of indentation, and neither has a feed on its own.
  simp only at h
  split at h
  · obtain ⟨ending, hending, h⟩ := Attempt.bind_eq_ok.mp h
    obtain rfl := Attempt.pure_eq_ok.mp h
    obtain rfl := hd.endingChars_eq hending
    exact feedsHaveReturns_crlf.append hi
  · obtain ⟨text, htext, h⟩ := Attempt.bind_eq_ok.mp h
    have hkept := feedsHaveReturns_indentedText hd hi htext
    split at h
    · obtain rfl := Attempt.pure_eq_ok.mp h
      exact hkept
    · obtain ⟨follows, -, h⟩ := Attempt.bind_eq_ok.mp h
      split at h
      · -- the empty line behind a declaration
        obtain ⟨indent, hindent, h⟩ := Attempt.bind_eq_ok.mp h
        obtain ⟨ending, hending, h⟩ := Attempt.bind_eq_ok.mp h
        obtain rfl := Attempt.pure_eq_ok.mp h
        obtain rfl := hd.endingChars_eq hending
        have hblank : FeedsHaveReturns indent := .of_not_mem (not_mem_indent hd hindent).1
        exact ((feedsHaveReturns_crlf.append feedsHaveReturns_crlf).append hblank).append hkept
      · obtain rfl := Attempt.pure_eq_ok.mp h
        exact hkept

/-- The text of an edit has a return before each line feed, as the text of its instruction has. -/
theorem feedsHaveReturns_compile (hd : d.Paired) (hi : FeedsHaveReturns i.newText)
    (h : i.compile d normalize resolved = .ok e) : FeedsHaveReturns e.newText := by
  rcases (compile_cases h).2 with
    ⟨-, text, htext, rfl⟩ | ⟨-, h⟩ | ⟨-, h⟩ | ⟨-, h⟩ | ⟨-, rfl⟩ | ⟨-, rfl⟩
  · exact feedsHaveReturns_indentedText hd hi htext
  · rw [(deleteEdit_cases h).1]
    exact .of_not_mem List.not_mem_nil
  · exact feedsHaveReturns_insertBeforeEdit hd hi h
  · exact feedsHaveReturns_insertAfterEdit hd hi h
  · exact hi
  · exact hi

/-- An edit ends where its match starts or ends, or where a line starts. -/
theorem not_splits_compile (hstart : ¬ d.Splits resolved.start) (hstop : ¬ d.Splits resolved.stop)
    (h : i.compile d normalize resolved = .ok e) : ¬ d.Splits e.range.stop := by
  -- An edit ends at an end of the match or at the start of a line, and no line starts inside of a pair.
  rcases (compile_cases h).2 with
    ⟨-, text, -, rfl⟩ | ⟨-, h⟩ | ⟨-, h⟩ | ⟨-, h⟩ | ⟨-, rfl⟩ | ⟨-, rfl⟩
  · exact hstop
  · rcases (deleteEdit_cases h).2.2 with hto | ⟨hto, -⟩
    · rw [hto]
      exact hstop
    · rw [hto]
      exact d.not_splits_line _
  · rw [range_insertBeforeEdit h]
    exact hstart
  · rw [range_insertAfterEdit h]
    exact hstop
  · exact d.not_splits_line _
  · exact hstop

end Instruction

/-! ## Batches -/

/-- Texts and gaps that have a return before each line feed are woven into such a text. -/
theorem Splice.feedsHaveReturns_weave {text : List Char} {o : Nat} {splices : List Splice}
    (ho : FeedsHaveReturns (text.drop o))
    (h : ∀ s ∈ splices, FeedsHaveReturns s.newText ∧ FeedsHaveReturns (text.drop s.stop)) :
    FeedsHaveReturns (weave text o splices) := by
  induction splices generalizing o with
  | nil => exact ho
  | cons s rest ih =>
    rw [List.forall_mem_cons] at h
    obtain ⟨⟨hnew, hstop⟩, hrest⟩ := h
    exact ((ho.take _).append hnew).append (ih hstop hrest)

namespace Context

open Document

variable {c : Context} {instructions : List Instruction} {edits : List Edit} {splices : List Splice}

/-- Where returns and line feeds come in pairs, a batch that is made leaves no line feed without a return. -/
theorem compile_feedsHaveReturns (hd : c.document.Paired) (normalize : Bool)
    (htexts : ∀ i ∈ instructions, FeedsHaveReturns i.newText)
    (hwhole : ∀ i ∈ instructions, ∀ r, c.Finds i r →
      ¬ c.document.Splits r.start ∧ ¬ c.document.Splits r.stop)
    (hcompile : c.compile normalize instructions = .ok edits)
    (hsplices : c.document.splices edits = .ok splices)
    (hoverlaps : checkOverlaps splices = .ok ()) :
    ∃ after, applyEdits c.document.text edits true = .ok after ∧ FeedsHaveReturns after := by
  have hcov := (Document.splices_eq_ok_iff.mp hsplices).1
  have hclear := (Document.checkOverlaps_eq_ok_iff hsplices).mp hoverlaps
  -- The new text is woven of gaps and new texts, so both have to have their returns, and so does every cut.
  refine ⟨_, applyEdits_eq_weave true hcov hclear, Splice.feedsHaveReturns_weave hd.feeds ?_⟩
  intro s hs
  obtain ⟨e, hsorted, rfl⟩ := List.mem_map.mp hs
  have he : e ∈ edits := List.mem_mergeSort.mp hsorted
  obtain ⟨i, hi, r, hr, hmade⟩ := exists_makes_of_compile hcompile he
  obtain ⟨hstart, hstop⟩ := hwhole i hi r hr
  refine ⟨Instruction.feedsHaveReturns_compile hd (htexts i hi) hmade, ?_⟩
  exact Document.feedsHaveReturns_drop hd.feeds (hcov e he).2
    (Instruction.not_splits_compile hstart hstop hmade)

/-- A declaration is added behind another one, a line behind the last line, which nothing ends, and the first
line goes. -/
theorem compile_feedsHaveReturns_mixed :
    let c : Context := {
      document := ⟨"class A\r\n  def f\r\n  end\r\nend".toList, "a.rb"⟩
      symbols := { symbols := .ok [{
        name := "f", kind := "Function", range := ⟨⟨1, 2⟩, ⟨2, 5⟩, by decide⟩ }] } }
    let declaring : Instruction :=
      ⟨.insertAfter, .symbol "f" none none none 1, "def g\r\nend".toList⟩
    let ending : Instruction := ⟨.insertAfter, .line 4, "# done".toList⟩
    let removing : Instruction := ⟨.delete, .lines 1 1, []⟩
    let instructions := [declaring, ending, removing]
    c.document.Paired ∧ (∀ i ∈ instructions, FeedsHaveReturns i.newText) ∧
      (∀ i ∈ instructions, ∀ r, c.Finds i r →
        ¬ c.document.Splits r.start ∧ ¬ c.document.Splits r.stop) ∧
      ∃ edits splices, c.compile true instructions = .ok edits ∧
        c.document.splices edits = .ok splices ∧ checkOverlaps splices = .ok () ∧
        ∃ after, applyEdits c.document.text edits true = .ok after ∧ FeedsHaveReturns after ∧
          after = "  def f\r\n  end\r\n\r\n  def g\r\n  end\r\nend\r\n# done".toList := by
  intro c declaring ending removing instructions
  have hd : c.document.Paired := ⟨by decide, ⟨by decide, by decide⟩, ⟨by decide, by decide⟩⟩
  have htexts : ∀ i ∈ instructions, FeedsHaveReturns i.newText := by
    simp only [instructions, List.forall_mem_cons, List.not_mem_nil, false_imp_iff, implies_true,
      and_true]
    exact ⟨⟨by decide, by decide⟩, ⟨by decide, by decide⟩, ⟨by decide, by decide⟩⟩
  have hwhole : ∀ i ∈ instructions, ∀ r, c.Finds i r →
      ¬ c.document.Splits r.start ∧ ¬ c.document.Splits r.stop := by
    simp only [instructions, List.forall_mem_cons, List.not_mem_nil, false_imp_iff, implies_true,
      and_true]
    refine ⟨?_, ?_, ?_⟩
    · intro r hr
      have hfound : c.resolve declaring.acceptsOpenEnd declaring.target
          = .ok ⟨⟨1, 2⟩, ⟨2, 5⟩, by decide⟩ := by cbv
      obtain rfl := Except.ok.inj (hfound.symm.trans hr)
      exact ⟨not_splits_of_offsetAt (o := 11) (by cbv) (by decide),
        not_splits_of_offsetAt (o := 23) (by cbv) (by decide)⟩
    · intro r hr
      have hfound : c.resolve ending.acceptsOpenEnd ending.target
          = .ok ⟨⟨3, 0⟩, ⟨3, 3⟩, by decide⟩ := by cbv
      obtain rfl := Except.ok.inj (hfound.symm.trans hr)
      exact ⟨not_splits_line _ _, not_splits_of_offsetAt (o := 28) (by cbv) (by decide)⟩
    · intro r hr
      have hfound : c.resolve removing.acceptsOpenEnd removing.target
          = .ok ⟨⟨0, 0⟩, ⟨0, 7⟩, by decide⟩ := by cbv
      obtain rfl := Except.ok.inj (hfound.symm.trans hr)
      exact ⟨not_splits_line _ _, not_splits_of_offsetAt (o := 7) (by cbv) (by decide)⟩
  let edits : List Edit := [
    ⟨.emptyAt ⟨2, 5⟩, "\r\n\r\n  def g\r\n  end".toList⟩,
    ⟨.emptyAt ⟨3, 3⟩, "\r\n# done".toList⟩,
    ⟨⟨⟨0, 0⟩, ⟨1, 0⟩, by decide⟩, []⟩]
  let splices : List Splice := [
    ⟨23, 23, "\r\n\r\n  def g\r\n  end".toList, 0⟩, ⟨28, 28, "\r\n# done".toList, 1⟩, ⟨0, 9, [], 2⟩]
  have hcompile : c.compile true instructions = .ok edits := by cbv
  have hsplices : c.document.splices edits = .ok splices := by cbv
  have hoverlaps : checkOverlaps splices = .ok () := by cbv
  have happlied : applyEdits c.document.text edits true
      = .ok "  def f\r\n  end\r\n\r\n  def g\r\n  end\r\nend\r\n# done".toList := by cbv
  obtain ⟨after, hafter, hkept⟩ :=
    compile_feedsHaveReturns hd true htexts hwhole hcompile hsplices hoverlaps
  obtain rfl := Except.ok.inj (hafter.symm.trans happlied)
  exact ⟨hd, htexts, hwhole, edits, splices, hcompile, hsplices, hoverlaps, _, hafter, hkept, rfl⟩

end Context

end Emend
