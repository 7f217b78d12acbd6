import Emend.Proofs.Compile
import Emend.Proofs.Text.Indentation

/-!
# Edits of declarations

What is put in the place of a declaration, in front of it or behind it takes over the indentation of the
declaration, whether the snippet is written from the left margin or with all of its indentation
(`compile_indentLines`). Whole lines in front of a declaration push it down and leave it in its column
(`compile_insertBefore_column`). Behind a declaration, a snippet from the margin stands indented line by line, its
first line too, unless the declaration ends with a break: the first line then stands right behind that break, with no
indentation (`compile_insertAfter_stands`).

Main statements:

* `compile_replace_structural`, `compile_insertBefore_structural`, `compile_insertAfter_structural`: the three edits.
* `compile_indentLines`: a snippet from the margin and the same snippet indented make one edit.
* `compile_insertBefore_column`: a declaration that is pushed down stays in its column.
* `compile_insertAfter_stands`, `compile_insertAfter_unindented`: where a snippet stands behind a declaration.
-/

namespace Emend

open Text

namespace Document

variable {d : Document} {p : Position} {line : List Char}

/-- Where only blanks stand before a position, they are the indentation. -/
theorem indentBefore_of_blank (hline : d.lineText p.line = .ok line) (hnonneg : 0 ≤ p.character)
    (hblank : isBlankText (line.take p.character.toNat) = true) :
    d.indentBefore p = .ok (line.take p.character.toNat) := by
  refine indentBefore_eq_ok.mpr ⟨line, hline, ?_⟩
  have hslice : sliceTo line p.character = line.take p.character.toNat := by
    rw [sliceTo, clampBound, if_neg (Int.not_lt.mpr hnonneg), ← List.take_eq_take_min]
  rw [hslice, leadingBlanks, List.takeWhile_eq_self_iff.mpr]
  exact List.all_eq_true.mp hblank

/-- Behind the start of a text there is a character before a position. -/
theorem exists_followsBreak_of_pos {o : Nat} (ho : d.offsetAt p = .ok o) (hpos : 0 < o) :
    ∃ breaks, d.followsBreak p = .ok (some breaks) := by
  obtain ⟨text, uri⟩ := d
  have hle := (offsetAt_eq_ok_iff.mp ho).1
  have hin : o - 1 < text.length := by omega
  have hzero : o ≠ 0 := Nat.ne_of_gt hpos
  refine ⟨text[o - 1] == '\r' || text[o - 1] == '\n', Attempt.bind_eq_ok.mpr
    ⟨o, Attempt.ofRange_eq_ok.mpr ho, ?_⟩⟩
  rw [if_neg hzero, List.getElem?_eq_getElem hin]
  rfl

theorem exists_chars_of_endingChars {n : Int} {ending : List Char} (h : d.endingChars n = .ok ending) :
    ∃ e : LineEnding, ending = e.chars := by
  obtain ⟨e, -, rfl⟩ := Attempt.map_eq_ok.mp h
  exact ⟨e, rfl⟩

/-- A line ending ends the last line, and an empty one comes behind it. -/
theorem exists_lines_append_ending (s : List Char) (ending : LineEnding) :
    ∃ before, lines (s ++ ending.chars) = before ++ [[]] ∧ before.length = (lines s).length := by
  cases ending with
  | lf => exact ⟨_, lines_append_feed s [], rfl⟩
  | crlf =>
    have hsplit : s ++ LineEnding.crlf.chars = (s ++ ['\r']) ++ ['\n'] := by
      simp [LineEnding.chars]
    refine ⟨lines (s ++ ['\r']), ?_, ?_⟩
    · rw [hsplit]
      exact lines_append_feed _ []
    · simp [length_lines, countLineFeeds]

/-- A place of a document parts its line in two. -/
theorem exists_lines_take {o : Nat} (ho : d.offsetAt p = .ok o) :
    ∃ before front behind, lines (d.text.take o) = before ++ [front] ∧
      d.rawLines[before.length]? = some (front ++ behind) ∧ p = ⟨before.length, front.length⟩ := by
  obtain ⟨text, uri⟩ := d
  obtain ⟨before, front, hbefore⟩ := exists_lines_eq_append (text.take o)
  obtain ⟨behind, later, hbehind⟩ := exists_lines_eq_cons (text.drop o)
  have hlines := lines_append hbefore hbehind
  rw [List.take_append_drop] at hlines
  refine ⟨before, front, behind, hbefore, ?_, ?_⟩
  · rw [rawLines, hlines, List.getElem?_append_right (Nat.le_refl _), Nat.sub_self, List.getElem?_cons_zero]
  · rw [(offsetAt_eq_ok_iff.mp ho).2]
    exact Position.extent_zero hbefore

end Document

namespace Instruction

variable {i : Instruction} {d : Document} {r : Range} {indent ending : List Char}

/-- What takes the place of a declaration is indented like it. -/
theorem compile_replace_structural (haction : i.action = .replace)
    (hkind : i.target.kind.isStructural = true) (hindent : d.indentBefore r.start = .ok indent) :
    i.compile d true r = .ok ⟨r, applyIndentation i.newText indent⟩ := by
  obtain ⟨action, target, newText⟩ := i
  obtain rfl := haction
  cases target with
  | symbol | declaration =>
    exact Attempt.bind_eq_ok.mpr ⟨_, Attempt.map_eq_ok.mpr ⟨indent, hindent, rfl⟩, rfl⟩
  | _ => cases hkind

/-- So is what is put in front of it; behind a line feed, the declaration gets its indentation back. -/
theorem compile_insertBefore_structural (haction : i.action = .insertBefore)
    (hkind : i.target.kind.isStructural = true) (hindent : d.indentBefore r.start = .ok indent) :
    i.compile d true r = .ok ⟨.emptyAt r.start, applyIndentation i.newText indent ++
      if (applyIndentation i.newText indent).getLast? == some '\n' then indent else []⟩ := by
  obtain ⟨action, target, newText⟩ := i
  obtain rfl := haction
  cases target with
  | symbol | declaration => exact Attempt.bind_eq_ok.mpr ⟨indent, hindent, rfl⟩
  | _ => cases hkind

/-- So is what is put behind it. Unless the declaration ends with a break, one line is left empty, and the
indentation comes first. -/
theorem compile_insertAfter_structural {follows : Option Bool} (haction : i.action = .insertAfter)
    (hkind : i.target.kind.isStructural = true) (hindent : d.indentBefore r.start = .ok indent)
    (hfollows : d.followsBreak r.stop = .ok follows)
    (hending : d.endingChars r.stop.line = .ok ending) :
    i.compile d true r = .ok ⟨.emptyAt r.stop,
      (if follows = some false then ending ++ ending ++ indent else []) ++
        applyIndentation i.newText indent⟩ := by
  obtain ⟨action, target, newText⟩ := i
  obtain rfl := haction
  cases target with
  | symbol | declaration =>
    refine Attempt.bind_eq_ok.mpr ⟨_, Attempt.map_eq_ok.mpr ⟨indent, hindent, rfl⟩, ?_⟩
    refine Attempt.bind_eq_ok.mpr ⟨follows, hfollows, ?_⟩
    -- At the end of the text, and behind a break, nothing is put in front of the snippet.
    rcases follows with _ | _ | _
    · rfl
    · exact Attempt.bind_eq_ok.mpr ⟨indent, hindent,
        Attempt.bind_eq_ok.mpr ⟨ending, hending, rfl⟩⟩
    · rfl
  | _ => cases hkind

/-- A snippet written from the margin and the same snippet with all of its indentation compile to one edit. -/
theorem compile_indentLines (haction : i.action = .replace ∨ i.action = .insertBefore ∨ i.action = .insertAfter)
    (hkind : i.target.kind.isStructural = true) (hresolved : d.Covers r)
    (hindent : d.indentBefore r.start = .ok indent) (hne : indent ≠ [])
    (hmargin : FromMargin indent i.newText) :
    ∃ e, i.compile d true r = .ok e ∧
      Instruction.compile { i with newText := indentLines indent i.newText } d true r = .ok e := by
  -- once the two snippets are indented, nothing tells them apart
  let j : Instruction := { i with newText := indentLines indent i.newText }
  have hfeed := (Document.blank_of_indentBefore hindent).1
  have hsame : applyIndentation j.newText indent = applyIndentation i.newText indent :=
    hmargin.applyIndentation_indentLines hne hfeed
  obtain ⟨-, hstop⟩ := Document.covers_iff.mp hresolved
  rcases haction with haction | haction | haction
  · refine ⟨_, compile_replace_structural haction hkind hindent, ?_⟩
    rw [← hsame]
    exact compile_replace_structural (i := j) haction hkind hindent
  · refine ⟨_, compile_insertBefore_structural haction hkind hindent, ?_⟩
    rw [← hsame]
    exact compile_insertBefore_structural (i := j) haction hkind hindent
  · obtain ⟨follows, hfollows⟩ := hstop.exists_followsBreak
    obtain ⟨ending, hending⟩ := hstop.exists_endingChars
    refine ⟨_, compile_insertAfter_structural haction hkind hindent hfollows hending, ?_⟩
    rw [← hsame]
    exact compile_insertAfter_structural (i := j) haction hkind hindent hfollows hending

/-- A method is added behind another one, with a blank line in it. -/
theorem compile_indentLines_method :
    let d : Document := ⟨"class A:\n  def f():\n    pass\n".toList, "a.py"⟩
    let r : Range := ⟨⟨1, 2⟩, ⟨2, 8⟩, by decide⟩
    let i : Instruction := ⟨.insertAfter, .symbol "f" none none none 1, "def g():\n\n  pass".toList⟩
    d.Covers r ∧ d.indentBefore r.start = .ok "  ".toList ∧ FromMargin "  ".toList i.newText ∧
      indentLines "  ".toList i.newText = "  def g():\n\n    pass".toList ∧
      ∃ e, i.compile d true r = .ok e ∧
        Instruction.compile { i with newText := "  def g():\n\n    pass".toList } d true r = .ok e ∧
        e = ⟨.emptyAt ⟨2, 8⟩, "\n\n  def g():\n\n    pass".toList⟩ := by
  intro d r i
  have hresolved : d.Covers r := Document.covers_of_ok (a := 11) (b := 28) (by cbv) (by cbv)
  have hindent : d.indentBefore r.start = .ok "  ".toList := by cbv
  have hmargin : FromMargin "  ".toList i.newText := ⟨by decide, by decide⟩
  have hwritten : indentLines "  ".toList i.newText = "  def g():\n\n    pass".toList := by cbv
  obtain ⟨e, hrelative, habsolute⟩ :=
    compile_indentLines (.inr (.inr rfl)) rfl hresolved hindent (by decide) hmargin
  rw [hwritten] at habsolute
  refine ⟨hresolved, hindent, hmargin, hwritten, e, hrelative, habsolute, ?_⟩
  have hmade : i.compile d true r = .ok ⟨.emptyAt ⟨2, 8⟩, "\n\n  def g():\n\n    pass".toList⟩ := rfl
  exact Except.ok.inj (hrelative.symm.trans hmade)

/-- Where only blanks stand before a declaration, whole lines that are put in front of it push it down and leave it in
its column. -/
theorem compile_insertBefore_column {line : List Char} (haction : i.action = .insertBefore)
    (hkind : i.target.kind.isStructural = true) (hresolved : d.Covers r)
    (hline : d.lineText r.start.line = .ok line) (hcolumn : r.start.character ≤ line.length)
    (hblank : isBlankText (line.take r.start.character.toNat) = true)
    (hwhole : i.newText.getLast? = some '\n') (strict : Bool) :
    ∃ e after o o', i.compile d true r = .ok e ∧ applyEdits d.text [e] strict = .ok after ∧
      d.offsetAt r.start = .ok o ∧ after.take o = d.text.take o ∧
      (Document.mk after d.uri).offsetAt
        ⟨r.start.line + countLineFeeds i.newText, r.start.character⟩ = .ok o' ∧
      after.drop o' = d.text.drop o := by
  obtain ⟨o, ho⟩ := (Document.covers_iff.mp hresolved).1
  obtain ⟨l, c, raw, hstart, -⟩ := Document.offsetAt_eq_ok.mp ho
  have hnonneg : 0 ≤ r.start.character := by
    rw [hstart]
    exact Int.natCast_nonneg c
  let indent := line.take r.start.character.toNat
  have hindent : d.indentBefore r.start = .ok indent :=
    Document.indentBefore_of_blank hline hnonneg hblank
  have hfeed := (Document.blank_of_indentBefore hindent).1
  have hwidth : (indent.length : Int) = r.start.character := by
    rw [List.length_take_of_le (by omega), Int.toNat_of_nonneg hnonneg]
  -- the snippet ends in a line feed once it is indented, and the indentation comes behind it
  obtain ⟨front, hfront⟩ : ∃ front, i.newText = front ++ ['\n'] :=
    ⟨_, (List.dropLast_append_getLast? _ hwhole).symm⟩
  obtain ⟨written, hwritten, hcount⟩ := exists_applyIndentation_feed hfeed front
  have hmade := compile_insertBefore_structural haction hkind hindent
  rw [hfront, hwritten] at hmade
  simp only [List.getLast?_append, List.getLast?_singleton, Option.some_or, beq_self_eq_true, if_true] at hmade
  -- writing all of this from the start of the declaration arrives in its column, some lines further down
  have hreached : r.start.extent (written ++ ['\n'] ++ indent)
      = ⟨r.start.line + countLineFeeds i.newText, r.start.character⟩ := by
    rw [Position.extent_append, Position.extent_feed, Position.extent_of_not_mem hfeed, hwidth, hcount, hfront,
      Int.zero_add]
  have hfound := Document.offsetAt_behind ho (written ++ ['\n'] ++ indent) d.uri
  rw [hreached] at hfound
  refine ⟨_, _, o, _, hmade, applyEdits_emptyAt ho _ strict, ho, ?_, hfound, ?_⟩
  · obtain ⟨text, uri⟩ := d
    have hle := (Document.offsetAt_eq_ok_iff.mp ho).1
    rw [List.append_assoc, List.take_left' (List.length_take_of_le hle)]
  · rw [List.drop_left]

/-- A line is put in front of a method. -/
theorem compile_insertBefore_column_method :
    let d : Document := ⟨"class A:\n  def f():\n    pass\n".toList, "a.py"⟩
    let r : Range := ⟨⟨1, 2⟩, ⟨2, 8⟩, by decide⟩
    let i : Instruction := ⟨.insertBefore, .symbol "f" none none none 1, "@d\n".toList⟩
    let line := "  def f():".toList
    d.Covers r ∧ d.lineText r.start.line = .ok line ∧ r.start.character ≤ line.length ∧
      isBlankText (line.take r.start.character.toNat) = true ∧ i.newText.getLast? = some '\n' ∧
      ∃ e after o o', i.compile d true r = .ok e ∧ applyEdits d.text [e] true = .ok after ∧
        d.offsetAt r.start = .ok o ∧ after.take o = d.text.take o ∧
        (Document.mk after d.uri).offsetAt ⟨2, 2⟩ = .ok o' ∧ after.drop o' = d.text.drop o ∧
        after = "class A:\n  @d\n  def f():\n    pass\n".toList := by
  intro d r i line
  have hresolved : d.Covers r := Document.covers_of_ok (a := 11) (b := 28) (by cbv) (by cbv)
  have hline : d.lineText r.start.line = .ok line := by cbv
  have hcolumn : r.start.character ≤ line.length := by decide
  have hblank : isBlankText (line.take r.start.character.toNat) = true := by decide
  refine ⟨hresolved, hline, hcolumn, hblank, rfl, ?_⟩
  obtain ⟨e, after, o, o', hmade, happly, ho, hbefore, ho', hbehind⟩ :=
    compile_insertBefore_column (i := i) rfl rfl hresolved hline hcolumn hblank rfl true
  refine ⟨e, after, o, o', hmade, happly, ho, hbefore, ho', hbehind, ?_⟩
  have hedit : i.compile d true r = .ok ⟨.emptyAt ⟨1, 2⟩, "@d\n  ".toList⟩ := by cbv
  obtain rfl := Except.ok.inj (hmade.symm.trans hedit)
  have htext : applyEdits d.text [⟨.emptyAt ⟨1, 2⟩, "@d\n  ".toList⟩] true
      = .ok "class A:\n  @d\n  def f():\n    pass\n".toList := by cbv
  exact Except.ok.inj (happly.symm.trans htext)

/-- Behind a declaration, a snippet written from the margin takes over its indentation. If no break ends the
declaration, all lines of the snippet stand indented; the second line below the end of the declaration is the first of
them. If a break does, the later lines stand indented as well, but the first one stands right behind that break. -/
theorem compile_insertAfter_stands (haction : i.action = .insertAfter) (hkind : i.target.kind.isStructural = true)
    (hresolved : d.Covers r) (hsome : r.isEmpty = false) (hindent : d.indentBefore r.start = .ok indent)
    (hne : indent ≠ []) (hmargin : FromMargin indent i.newText) (strict : Bool) :
    ∃ e after raw, ∃ n : Nat, i.compile d true r = .ok e ∧ applyEdits d.text [e] strict = .ok after ∧
      r.stop.line = n ∧ d.rawLines[n]? = some raw ∧
      ((d.followsBreak r.stop = .ok (some false) ∧ StandsFrom (n + 2) indent indent i.newText after) ∨
        (d.followsBreak r.stop = .ok (some true) ∧
          StandsFrom n (raw.take r.stop.character.toNat) indent i.newText after ∧
          (r.stop.character = 0 → ¬ StandsFrom n indent indent i.newText after))) := by
  obtain ⟨⟨a, ha⟩, ⟨o, ho⟩⟩ := Document.covers_iff.mp hresolved
  obtain ⟨hfeed, hblank⟩ := Document.blank_of_indentBefore hindent
  obtain ⟨first, rest, hs⟩ := exists_lines_eq_cons i.newText
  -- a range that is not empty ends behind the start of the text
  have hpos : 0 < o := by
    have hlt : r.start < r.stop := by
      rcases (Position.le_iff_lt_or_eq _ _).mp r.start_le_stop with hlt | heq
      · exact hlt
      · simp [Range.isEmpty, heq] at hsome
    have := (Document.offsetAt_lt_iff ha ho).mpr hlt
    omega
  obtain ⟨breaks, hfollows⟩ := Document.exists_followsBreak_of_pos ho hpos
  obtain ⟨ending, hending⟩ := (Document.covers_iff.mp hresolved).2.exists_endingChars
  have hmade := compile_insertAfter_structural haction hkind hindent hfollows hending
  rw [hmargin.applyIndentation_eq hs hne hfeed] at hmade
  have happly := applyEdits_emptyAt ho ((if some breaks = some false then ending ++ ending ++ indent else [])
    ++ unlines (first :: rest.map (indentLine indent))) strict
  -- the line that the declaration ends in, parted at its end
  obtain ⟨before, front, behind, hbefore, hraw, hstop⟩ := Document.exists_lines_take ho
  refine ⟨_, _, _, before.length, hmade, happly, by rw [hstop], hraw, ?_⟩
  cases breaks with
  | false =>
    -- two line ends and the indentation come before the snippet, so it stands two lines further down
    refine .inl ⟨hfollows, ?_⟩
    obtain ⟨e, rfl⟩ := Document.exists_chars_of_endingChars hending
    obtain ⟨one, hone, honelen⟩ := Document.exists_lines_append_ending (d.text.take o) e
    obtain ⟨two, htwo, htwolen⟩ := Document.exists_lines_append_ending (d.text.take o ++ e.chars) e
    have hplace : lines (d.text.take o ++ e.chars ++ e.chars ++ indent) = two ++ [indent] := by
      have := lines_append htwo (lines_of_not_mem hfeed)
      simpa using this
    have hlength : two.length = before.length + 2 := by
      rw [htwolen, hone, List.length_append, honelen, hbefore, List.length_append]
      rfl
    have hstands := standsFrom_append hplace hs hfeed (d.text.drop o)
    rw [hlength] at hstands
    simpa using hstands
  | true =>
    have hstands := standsFrom_append hbefore hs hfeed (d.text.drop o)
    refine .inr ⟨hfollows, by simpa [hstop] using hstands, ?_⟩
    -- where nothing stands before the first line, the indentation does not either
    intro hcolumn hindented
    obtain rfl : front = [] := by simpa [hstop] using hcolumn
    obtain ⟨whole, hwhole, hfirst⟩ := hstands.first first (by simp [hs])
    obtain ⟨whole', hwhole', hfirst'⟩ := hindented.first first (by simp [hs])
    simp only [if_false, List.nil_append, Option.some.injEq, Bool.true_eq_false] at hwhole'
    obtain rfl := Option.some.inj (hwhole.symm.trans hwhole')
    exact hmargin.not_indented hs hblank hfirst hfirst'

/-- A method is added behind another one that no break ends. -/
theorem compile_insertAfter_stands_method :
    let d : Document := ⟨"class A:\n  def f():\n    pass\n".toList, "a.py"⟩
    let r : Range := ⟨⟨1, 2⟩, ⟨2, 8⟩, by decide⟩
    let i : Instruction := ⟨.insertAfter, .symbol "f" none none none 1, "def g():\n  pass".toList⟩
    d.Covers r ∧ r.isEmpty = false ∧ d.indentBefore r.start = .ok "  ".toList ∧
      FromMargin "  ".toList i.newText ∧
      ∃ e after, i.compile d true r = .ok e ∧ applyEdits d.text [e] true = .ok after ∧
        StandsFrom 4 "  ".toList "  ".toList i.newText after := by
  intro d r i
  have hresolved : d.Covers r := Document.covers_of_ok (a := 11) (b := 28) (by cbv) (by cbv)
  have hindent : d.indentBefore r.start = .ok "  ".toList := by cbv
  have hmargin : FromMargin "  ".toList i.newText := ⟨by decide, by decide⟩
  refine ⟨hresolved, rfl, hindent, hmargin, ?_⟩
  obtain ⟨e, after, raw, n, hmade, happly, hn, -, hcases⟩ :=
    compile_insertAfter_stands (i := i) rfl rfl hresolved rfl hindent (by decide) hmargin true
  obtain rfl : n = 2 := Int.ofNat_inj.mp hn.symm
  rcases hcases with ⟨-, hstands⟩ | ⟨hbreak, -⟩
  · exact ⟨e, after, hmade, happly, hstands⟩
  · have hnone : d.followsBreak r.stop = .ok (some false) := by cbv
    rw [hnone] at hbreak
    cases hbreak

/-- The range of a method takes in the line feed at its end. What is added behind it is the method `g` with its first
line at the margin, and no line of the text has that line behind the indentation. -/
theorem compile_insertAfter_unindented :
    let d : Document := ⟨"class A:\n  def f():\n    pass\n".toList, "a.py"⟩
    let r : Range := ⟨⟨1, 2⟩, ⟨3, 0⟩, by decide⟩
    let i : Instruction := ⟨.insertAfter, .symbol "f" none none none 1, "def g():\n  pass".toList⟩
    d.Covers r ∧ r.isEmpty = false ∧ d.indentBefore r.start = .ok "  ".toList ∧
      FromMargin "  ".toList i.newText ∧
      ∃ e after, i.compile d true r = .ok e ∧ applyEdits d.text [e] true = .ok after ∧
        after = "class A:\n  def f():\n    pass\ndef g():\n    pass".toList ∧
        "def g():".toList ∈ lines i.newText ∧ isBlankText "def g():".toList = false ∧
        ∀ line ∈ lines after, ¬ "  ".toList ++ "def g():".toList <+: line := by
  intro d r i
  have hresolved : d.Covers r := Document.covers_of_ok (a := 11) (b := 29) (by cbv) (by cbv)
  refine ⟨hresolved, rfl, by cbv, ⟨by decide, by decide⟩, ⟨.emptyAt ⟨3, 0⟩, "def g():\n    pass".toList⟩,
    _, ?_, ?_, rfl, ?_, ?_, ?_⟩
  · cbv
  · cbv
  · decide
  · decide
  · decide

end Instruction

end Emend
