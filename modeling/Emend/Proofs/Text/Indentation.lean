import Emend.Compile
import Emend.Proofs.Document.Coordinates

/-!
# Indented texts

A text with indentation in front of every line that is not blank is taken back to the text whose first line has no
indentation yet (`FromMargin.applyIndentation_indentLines`), because indentation has no line feeds in it: whether a
text starts with it is seen from its first line. A snippet that is indented and put behind a text stands there line by
line, each line behind its indentation (`standsFrom_append`).

Main statements:

* `prefix_iff_prefix_first`: whether a text starts with the indentation.
* `FromMargin.applyIndentation_indentLines`: indenting a snippet and taking it back.
* `standsFrom_append`: a snippet behind a text.
-/

namespace Emend

open Text

section

variable {s t first line indent : List Char} {rest before : List (List Char)}

/-- A line with indentation in front. A blank line stays as it is. -/
def indentLine (indent line : List Char) : List Char :=
  if isBlankText line then line else indent ++ line

/-- A text with indentation in front of every line that is not blank. -/
def indentLines (indent s : List Char) : List Char := unlines ((lines s).map (indentLine indent))

theorem indentLine_of_not_blank (h : isBlankText line = false) : indentLine indent line = indent ++ line := by
  rw [indentLine, h, if_neg Bool.false_ne_true]

/-- A line with indentation in front ends as it did. -/
theorem getLast?_indentLine (h : line.getLast? = some '\r') : (indentLine indent line).getLast? = some '\r' := by
  unfold indentLine
  split
  · exact h
  · rw [List.getLast?_append, h, Option.some_or]

theorem feed_not_mem_indentLine (hindent : '\n' ∉ indent) (hline : '\n' ∉ line) : '\n' ∉ indentLine indent line := by
  unfold indentLine
  split
  · exact hline
  · rw [List.mem_append, not_or]
    exact ⟨hindent, hline⟩

theorem feed_not_mem_indented (hfeed : '\n' ∉ indent) (hs : lines s = first :: rest) :
    ∀ l ∈ first :: rest.map (indentLine indent), '\n' ∉ l := by
  have hfree := not_mem_of_mem_lines s
  rw [hs, List.forall_mem_cons] at hfree
  rw [List.forall_mem_cons, List.forall_mem_map]
  exact ⟨hfree.1, fun l hl => feed_not_mem_indentLine hfeed (hfree.2 l hl)⟩

/-- Indentation leaves lines apart. -/
theorem lines_indented (hfeed : '\n' ∉ indent) (hs : lines s = first :: rest) :
    lines (unlines (first :: rest.map (indentLine indent))) = first :: rest.map (indentLine indent) :=
  lines_unlines_of_not_mem (List.cons_ne_nil _ _) (feed_not_mem_indented hfeed hs)

/-- The indentation has no line feed, so it can only be what the first line starts with. -/
theorem prefix_iff_prefix_first (hfeed : '\n' ∉ indent) (hs : lines s = first :: rest) :
    indent <+: s ↔ indent <+: first := by
  have hjoined := unlines_lines s
  rw [hs] at hjoined
  -- With one line there is nothing to see. Otherwise the first line ends with a feed, which the indentation cannot
  -- reach.
  rcases rest with _ | ⟨second, rest⟩
  · obtain rfl : first = s := by simpa [unlines] using hjoined
    exact Iff.rfl
  · rw [unlines_cons_cons] at hjoined
    subst hjoined
    constructor
    · intro h
      rcases Nat.le_total indent.length first.length with hle | hle
      · exact List.prefix_of_prefix_length_le h (List.prefix_append _ _) hle
      · -- a longer one would reach the line feed
        have hfirst : first <+: indent :=
          List.prefix_of_prefix_length_le (List.prefix_append _ _) h hle
        obtain ⟨more, rfl⟩ := hfirst
        rcases more with _ | ⟨c, more⟩
        · simp
        · rw [List.prefix_append_right_inj, List.cons_prefix_cons] at h
          simp [h.1] at hfeed
    · intro h
      exact h.trans (List.prefix_append _ _)

/-- A text that starts with the indentation loses it. -/
theorem applyIndentation_append (hne : indent ≠ []) (s : List Char) :
    applyIndentation (indent ++ s) indent = s := by
  have hsome : indent.isEmpty = false := by simpa using hne
  have hprefix : indent.isPrefixOf (indent ++ s) = true :=
    List.isPrefixOf_iff_prefix.mpr (List.prefix_append _ _)
  rw [applyIndentation, hsome, if_neg Bool.false_ne_true, if_pos hprefix, List.drop_left]

/-- Any other text keeps its first line, and the others are indented. -/
theorem applyIndentation_eq_unlines (hne : indent ≠ []) (hs : lines s = first :: rest)
    (h : ¬ indent <+: s) :
    applyIndentation s indent = unlines (first :: rest.map (indentLine indent)) := by
  have hsome : indent.isEmpty = false := by simpa using hne
  have hprefix : ¬ indent.isPrefixOf s = true := by rwa [List.isPrefixOf_iff_prefix]
  rw [applyIndentation, hsome, if_neg Bool.false_ne_true, if_neg hprefix, hs]
  rfl

/-- A text that ends in a line feed still does once it is indented, and it has as many line feeds. -/
theorem exists_applyIndentation_feed (hfeed : '\n' ∉ indent) (s : List Char) :
    ∃ t, applyIndentation (s ++ ['\n']) indent = t ++ ['\n'] ∧
      countLineFeeds (t ++ ['\n']) = countLineFeeds (s ++ ['\n']) := by
  by_cases hne : indent = []
  · subst hne
    exact ⟨s, rfl, rfl⟩
  by_cases hprefix : indent <+: s ++ ['\n']
  · -- the copy of the indentation that goes is not the whole text, nor has it a line feed
    obtain ⟨rest, hrest⟩ := hprefix
    rcases List.eq_nil_or_concat rest with rfl | ⟨t, c, rfl⟩
    · rw [List.append_nil] at hrest
      simp [hrest] at hfeed
    · rw [List.concat_eq_append, ← List.append_assoc] at hrest
      obtain ⟨rfl, hc⟩ := List.append_inj' hrest rfl
      obtain rfl : c = '\n' := by simpa using hc
      refine ⟨t, ?_, ?_⟩
      · rw [List.append_assoc, applyIndentation_append hne]
      · have hnone : indent.count '\n' = 0 := List.count_eq_zero.mpr hfeed
        simp [countLineFeeds, hnone]
  · obtain ⟨first, rest, hs⟩ := exists_lines_eq_cons s
    have hends : lines (s ++ ['\n']) = first :: (rest ++ [[]]) := by
      rw [lines_append_feed, hs, lines_nil, List.cons_append]
    have hblank : indentLine indent [] = [] := rfl
    have htext : applyIndentation (s ++ ['\n']) indent
        = unlines (first :: rest.map (indentLine indent)) ++ ['\n'] := by
      rw [applyIndentation_eq_unlines hne hends hprefix, List.map_append, List.map_singleton, hblank,
        ← List.cons_append, unlines_append_nil (List.cons_ne_nil _ _)]
    refine ⟨_, htext, ?_⟩
    -- each line is still one line, so there are as many line feeds between them
    have hcount := length_lines (unlines (first :: rest.map (indentLine indent)))
    have hcount' := length_lines s
    rw [lines_indented hfeed hs] at hcount
    rw [hs] at hcount'
    simp only [List.length_cons, List.length_map, countLineFeeds, List.count_append] at *
    omega

/-! ## Snippets that are written from the margin -/

/-- A snippet is written from the left margin: its first line is not blank and does not start with the
indentation. -/
structure FromMargin (indent s : List Char) : Prop where
  shown : ∀ first ∈ (lines s).head?, isBlankText first = false
  margin : ∀ first ∈ (lines s).head?, ¬ indent <+: first

/-- The first line of such a snippet stays as it is, and the others are indented. -/
theorem FromMargin.applyIndentation_eq (h : FromMargin indent s) (hs : lines s = first :: rest)
    (hne : indent ≠ []) (hfeed : '\n' ∉ indent) :
    applyIndentation s indent = unlines (first :: rest.map (indentLine indent)) := by
  refine applyIndentation_eq_unlines hne hs ?_
  rw [prefix_iff_prefix_first hfeed hs]
  exact h.margin first (by simp [hs])

/-- A line that starts with such a snippet does not start with the indentation in front of it. -/
theorem FromMargin.not_indented {whole : List Char} (h : FromMargin indent s) (hs : lines s = first :: rest)
    (hblank : ∀ c ∈ indent, isBlank c = true) (hfirst : first <+: whole) : ¬ indent ++ first <+: whole := by
  intro hindented
  have hindent : indent <+: whole := (List.prefix_append _ _).trans hindented
  rcases Nat.le_total indent.length first.length with hle | hle
  · exact h.margin first (by simp [hs]) (List.prefix_of_prefix_length_le hindent hfirst hle)
  · -- a part of the indentation would be blank
    have hpart := List.prefix_of_prefix_length_le hfirst hindent hle
    have hshown := h.shown first (by simp [hs])
    rw [isBlankText, List.all_eq_false] at hshown
    obtain ⟨c, hc, hnot⟩ := hshown
    exact hnot (hblank c (hpart.subset hc))

/-- Written out with all of its indentation, it is indented to the same text. -/
theorem FromMargin.applyIndentation_indentLines (h : FromMargin indent s) (hne : indent ≠ [])
    (hfeed : '\n' ∉ indent) :
    applyIndentation (indentLines indent s) indent = applyIndentation s indent := by
  obtain ⟨first, rest, hs⟩ := exists_lines_eq_cons s
  have hshown := h.shown first (by simp [hs])
  -- the first line is not blank, so the indented snippet starts with the indentation
  have hwritten : indentLines indent s
      = indent ++ unlines (first :: rest.map (indentLine indent)) := by
    rw [indentLines, hs, List.map_cons, indentLine_of_not_blank hshown, unlines_append_cons]
  rw [hwritten, applyIndentation_append hne, h.applyIndentation_eq hs hne hfeed]

/-! ## Where a snippet stands -/

/-- From the line `n` on, a text has the lines of a snippet, each where a line starts: the first one behind `front`,
and each later one that is not blank behind the indentation. -/
structure StandsFrom (n : Nat) (front indent snippet text : List Char) : Prop where
  first : ∀ line ∈ (lines snippet).head?,
    ∃ whole, (lines text)[n]? = some whole ∧ front ++ line <+: whole
  later : ∀ j line, (lines snippet)[j + 1]? = some line → isBlankText line = false →
    ∃ whole, (lines text)[n + j + 1]? = some whole ∧ indent ++ line <+: whole

/-- An indented snippet stands where it is put, its first line behind what is on the line before. -/
theorem standsFrom_append {front : List Char} (ht : lines t = before ++ [front]) (hs : lines s = first :: rest)
    (hfeed : '\n' ∉ indent) (behind : List Char) :
    StandsFrom before.length front indent s (t ++ unlines (first :: rest.map (indentLine indent)) ++ behind) := by
  -- The first line joins the line that the text before it ends in; the others are lines of their own.
  have hlines := lines_append ht (lines_indented hfeed hs)
  constructor
  · intro line hline
    obtain rfl : first = line := by simpa [hs] using hline
    refine exists_line_append ?_ behind
    rw [hlines, List.getElem?_append_right (Nat.le_refl _), Nat.sub_self]
    rfl
  · intro j line hline hshown
    rw [hs, List.getElem?_cons_succ] at hline
    refine exists_line_append ?_ behind
    have hplace : before.length + j + 1 - before.length = j + 1 := by omega
    rw [hlines, List.getElem?_append_right (by omega), hplace, List.getElem?_cons_succ, List.getElem?_map, hline,
      Option.map_some, indentLine_of_not_blank hshown]

end

end Emend
