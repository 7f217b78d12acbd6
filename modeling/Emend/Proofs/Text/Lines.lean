import Mathlib
import Emend.Text.Lines

/-!
# Lines of a text in two parts

Cutting at line feeds is undone by joining, and the lines of two texts put together are the lines of
each, with the last line of the first and the first line of the second made one (`lines_append`). The same holds
of pieces between other characters (`pieces_intercalate`), of which lines are a case (`lines_eq_pieces`).

Main statements:

* `lines_append`, `unlines_lines`, `lines_unlines`: cutting and joining at line feeds.
* `pieces_intercalate`, `intercalate_pieces`: the same for other separators.
* `exists_line_append`, `width_lines`: a line of two texts, and how long all lines are.
-/

namespace Emend.Text

theorem lines_nil : lines [] = [[]] := rfl

theorem lines_feed (s : List Char) : lines ('\n' :: s) = [] :: lines s := rfl

/-- A character that is no line feed goes in front of the first line. -/
theorem lines_cons {c : Char} (hc : c ≠ '\n') {s first : List Char} {after : List (List Char)}
    (h : lines s = first :: after) : lines (c :: s) = (c :: first) :: after := by
  rw [lines.eq_3 c s hc, h]

theorem lines_single {c : Char} (hc : c ≠ '\n') : lines [c] = [[c]] :=
  lines_cons hc lines_nil

theorem exists_lines_eq_cons (s : List Char) : ∃ first after, lines s = first :: after :=
  List.exists_cons_of_ne_nil (lines_ne_nil s)

theorem exists_lines_eq_append (s : List Char) : ∃ before last, lines s = before ++ [last] := by
  rcases List.eq_nil_or_concat (lines s) with h | ⟨before, last, h⟩
  · exact absurd h (lines_ne_nil s)
  · exact ⟨before, last, by simpa using h⟩

/-- Where two texts meet, the last line of the one and the first line of the other are one line. -/
theorem lines_append {s t last first : List Char} {before after : List (List Char)}
    (hs : lines s = before ++ [last]) (ht : lines t = first :: after) :
    lines (s ++ t) = before ++ (last ++ first) :: after := by
  -- Induction on the first text. Only at its end does the last line go on.
  induction s generalizing before last with
  | nil =>
    rcases before with _ | ⟨b, before⟩
    · have hlast : last = [] := by simpa [lines_nil] using hs
      simpa [hlast] using ht
    · simp [lines_nil] at hs
  | cons c s ih =>
    by_cases hc : c = '\n'
    · subst hc
      rw [lines_feed] at hs
      rcases before with _ | ⟨b, before⟩
      · simp [lines_ne_nil] at hs
      · rw [List.cons_append, List.cons.injEq] at hs
        rw [List.cons_append, lines_feed, ih hs.2, hs.1]
        rfl
    · obtain ⟨line, more, hl⟩ := exists_lines_eq_cons s
      rw [lines_cons hc hl] at hs
      rcases before with _ | ⟨b, before⟩
      · obtain ⟨rfl, rfl⟩ := by simpa using hs
        have hl' : lines s = [] ++ [line] := hl
        have hst : lines (s ++ t) = (line ++ first) :: after := ih hl'
        rw [List.cons_append, lines_cons hc hst]
        rfl
      · obtain ⟨rfl, rfl⟩ := by simpa using hs
        have hl' : lines s = (line :: before) ++ [last] := hl
        have hst : lines (s ++ t) = line :: (before ++ (last ++ first) :: after) := ih hl'
        rw [List.cons_append, lines_cons hc hst]
        rfl

/-- The lines of a text that is written to its end: a line feed opens a line, and any other character
makes the last one longer. -/
theorem lines_snoc {s last : List Char} {before : List (List Char)}
    (hs : lines s = before ++ [last]) (c : Char) :
    lines (s ++ [c]) = if c = '\n' then before ++ [last, []] else before ++ [last ++ [c]] := by
  by_cases hc : c = '\n'
  · subst hc
    have hfeed : lines ['\n'] = [] :: [[]] := rfl
    simpa using lines_append hs hfeed
  · simpa [hc] using lines_append hs (lines_single hc)

/-- Joining the lines gives the text back. -/
theorem unlines_lines (s : List Char) : unlines (lines s) = s := by
  -- Induction on the text: a character joins the first line or starts a new one.
  induction s with
  | nil => rfl
  | cons c s ih =>
    obtain ⟨first, after, hl⟩ := exists_lines_eq_cons s
    rw [hl] at ih
    by_cases hc : c = '\n'
    · subst hc
      rw [lines_feed, hl]
      simpa [unlines] using ih
    · rw [lines_cons hc hl]
      rcases after with _ | ⟨line, after⟩
      · simpa [unlines] using ih
      · simpa [unlines] using ih

theorem unlines_cons_cons (l m : List Char) (ls : List (List Char)) :
    unlines (l :: m :: ls) = l ++ '\n' :: unlines (m :: ls) := by
  simp [unlines]

theorem unlines_append_cons (s t : List Char) (ls : List (List Char)) :
    unlines ((s ++ t) :: ls) = s ++ unlines (t :: ls) := by
  rcases ls with _ | ⟨l, ls⟩
  · simp [unlines]
  · rw [unlines_cons_cons, unlines_cons_cons, List.append_assoc]

/-- A blank line at the end is a line feed at the end. -/
theorem unlines_append_nil {ls : List (List Char)} (hne : ls ≠ []) : unlines (ls ++ [[]]) = unlines ls ++ ['\n'] := by
  induction ls with
  | nil => exact absurd rfl hne
  | cons s ls ih =>
    rcases ls with _ | ⟨t, ls⟩
    · simp [unlines]
    · rw [List.cons_append, List.cons_append, unlines_cons_cons, unlines_cons_cons, ← List.cons_append,
        ih (List.cons_ne_nil t ls), List.append_assoc, List.cons_append]

/-- Each line but the last has a line feed behind it. -/
theorem unlines_concat (ls : List (List Char)) (l : List Char) :
    unlines (ls ++ [l]) = ls.flatMap (· ++ ['\n']) ++ l := by
  induction ls with
  | nil => simp [unlines]
  | cons s ls ih =>
    rcases ls with _ | ⟨t, ls⟩
    · simp [unlines]
    · rw [List.cons_append, List.cons_append, unlines_cons_cons, ← List.cons_append, ih]
      simp

theorem infix_unlines {l : List Char} {ls : List (List Char)} (h : l ∈ ls) : l <:+: unlines ls := by
  induction ls with
  | nil => simp at h
  | cons m ls ih =>
    rcases ls with _ | ⟨k, ls⟩
    · obtain rfl := List.mem_singleton.mp h
      simp [unlines]
    · rw [unlines_cons_cons]
      rcases List.mem_cons.mp h with rfl | h
      · exact List.infix_append' [] l _
      · exact (ih h).trans ((List.suffix_cons _ _).trans (List.suffix_append _ _)).isInfix

/-- A line is a part of its text. -/
theorem infix_of_mem_lines {s l : List Char} (h : l ∈ lines s) : l <:+: s := by
  have hinfix := infix_unlines h
  rwa [unlines_lines] at hinfix

/-- A line feed parts the lines before it from the ones behind it. -/
theorem lines_append_feed (s t : List Char) : lines (s ++ '\n' :: t) = lines s ++ lines t := by
  obtain ⟨before, last, hs⟩ := exists_lines_eq_append s
  rw [lines_append hs (lines_feed t), hs]
  simp

/-- Texts that are joined have the lines of each, one after the other. -/
theorem lines_unlines {ls : List (List Char)} (hne : ls ≠ []) : lines (unlines ls) = ls.flatMap lines := by
  induction ls with
  | nil => exact absurd rfl hne
  | cons s ls ih =>
    rcases ls with _ | ⟨t, ls⟩
    · simp [unlines]
    · rw [unlines_cons_cons, lines_append_feed, ih (List.cons_ne_nil t ls), List.flatMap_cons (x := s)]

/-- There is one more line than there are line feeds. -/
theorem length_lines (s : List Char) : (lines s).length = countLineFeeds s + 1 := by
  induction s with
  | nil => rfl
  | cons c s ih =>
    obtain ⟨first, after, hl⟩ := exists_lines_eq_cons s
    by_cases hc : c = '\n'
    · subst hc
      rw [lines_feed, List.length_cons, ih, countLineFeeds, countLineFeeds, List.count_cons_self]
    · rw [countLineFeeds, List.count_cons_of_ne hc, ← countLineFeeds, ← ih, lines_cons hc hl, hl]
      rfl

/-- More text leaves the lines of a text where they are, and makes the last one longer. -/
theorem exists_line_append {s l : List Char} {k : Nat} (h : (lines s)[k]? = some l) (t : List Char) :
    ∃ whole, (lines (s ++ t))[k]? = some whole ∧ l <+: whole := by
  obtain ⟨before, last, hs⟩ := exists_lines_eq_append s
  obtain ⟨first, after, ht⟩ := exists_lines_eq_cons t
  rw [hs] at h
  rw [lines_append hs ht]
  -- Every line but the last one stays as it is, and the last one goes on with the text behind it.
  rcases Nat.lt_or_ge k before.length with hlt | hge
  · rw [List.getElem?_append_left hlt] at h ⊢
    exact ⟨l, h, List.prefix_rfl⟩
  · rw [List.getElem?_append_right hge] at h ⊢
    rcases hk : k - before.length with _ | m
    · rw [hk, List.getElem?_cons_zero] at h
      obtain rfl := Option.some.inj h
      exact ⟨_, rfl, List.prefix_append _ _⟩
    · simp [hk] at h

/-! ## Pieces -/

section

variable {sep : Char}

theorem pieces_ne_nil (s : List Char) : pieces sep s ≠ [] := by
  fun_induction pieces sep s <;> simp_all

theorem not_mem_of_mem_pieces {s piece : List Char} (h : piece ∈ pieces sep s) :
    sep ∉ piece := by
  -- Induction on the text; a separator is left out, and any other character joins the first piece.
  induction s generalizing piece with
  | nil =>
    obtain rfl : piece = [] := by simpa [pieces] using h
    simp
  | cons c rest ih =>
    rw [pieces] at h
    by_cases hc : c = sep
    · rw [if_pos hc] at h
      rcases List.mem_cons.mp h with rfl | h
      · simp
      · exact ih h
    · rw [if_neg hc] at h
      rcases hrest : pieces sep rest with _ | ⟨first, more⟩
      · exact absurd hrest (pieces_ne_nil rest)
      · rw [hrest] at h ih
        rcases List.mem_cons.mp h with rfl | h
        · have hfirst := ih List.mem_cons_self
          simp [Ne.symm hc, hfirst]
        · exact ih (List.mem_cons_of_mem first h)

theorem pieces_of_not_mem {s : List Char} (h : sep ∉ s) : pieces sep s = [s] := by
  induction s with
  | nil => rfl
  | cons c rest ih =>
    rw [List.mem_cons, not_or] at h
    rw [pieces, if_neg (Ne.symm h.1), ih h.2]

theorem pieces_append {s : List Char} (t : List Char) (h : sep ∉ s) :
    pieces sep (s ++ sep :: t) = s :: pieces sep t := by
  induction s with
  | nil => simp [pieces]
  | cons c rest ih =>
    rw [List.mem_cons, not_or] at h
    rw [List.cons_append, pieces, if_neg (Ne.symm h.1), ih h.2]

/-- Pieces that are put together with separators are the pieces of what they make. -/
theorem pieces_intercalate {parts : List (List Char)} (hne : parts ≠ [])
    (h : ∀ part ∈ parts, sep ∉ part) :
    pieces sep (List.intercalate [sep] parts) = parts := by
  -- Induction on the parts: the first separator of the joined text is the one behind the first part.
  induction parts with
  | nil => exact absurd rfl hne
  | cons first rest ih =>
    rw [List.forall_mem_cons] at h
    rcases rest with _ | ⟨second, rest⟩
    · have hone : List.intercalate [sep] [first] = first := by simp [List.intercalate]
      rw [hone, pieces_of_not_mem h.1]
    · have hcons : List.intercalate [sep] (first :: second :: rest)
          = first ++ sep :: List.intercalate [sep] (second :: rest) := by
        simp [List.intercalate]
      rw [hcons, pieces_append _ h.1, ih (List.cons_ne_nil _ _) h.2]

/-- The pieces of a text make the text again. -/
theorem intercalate_pieces (s : List Char) : List.intercalate [sep] (pieces sep s) = s := by
  -- Induction on the text, as for lines.
  induction s with
  | nil => simp [pieces, List.intercalate]
  | cons c rest ih =>
    have hne : pieces sep rest ≠ [] := pieces_ne_nil rest
    obtain ⟨first, more, hrest⟩ := List.exists_cons_of_ne_nil hne
    rw [hrest] at ih
    rw [pieces, hrest]
    by_cases hc : c = sep
    · subst hc
      rw [if_pos rfl, List.intercalate_cons_cons, ih]
      rfl
    · rw [if_neg hc]
      rcases more with _ | ⟨second, more⟩
      · simpa [List.intercalate] using ih
      · rw [List.intercalate_cons_cons] at ih ⊢
        simpa using ih

end

/-- Lines are the pieces between line feeds. -/
theorem lines_eq_pieces (s : List Char) : lines s = pieces '\n' s := by
  induction s with
  | nil => rfl
  | cons c s ih =>
    by_cases hc : c = '\n'
    · subst hc
      rw [lines_feed, pieces, if_pos rfl, ih]
    · obtain ⟨first, after, hl⟩ := exists_lines_eq_cons s
      rw [lines_cons hc hl, pieces, if_neg hc, ← ih, hl]

theorem not_mem_of_mem_lines (s : List Char) : ∀ l ∈ lines s, '\n' ∉ l := by
  intro l hl
  rw [lines_eq_pieces] at hl
  exact not_mem_of_mem_pieces hl

/-- A text without line feeds is one line. -/
theorem lines_of_not_mem {s : List Char} (h : '\n' ∉ s) : lines s = [s] := by
  rw [lines_eq_pieces, pieces_of_not_mem h]

/-- Lines that are joined are the lines of what they make. -/
theorem lines_unlines_of_not_mem {ls : List (List Char)} (hne : ls ≠ []) (h : ∀ l ∈ ls, '\n' ∉ l) :
    lines (unlines ls) = ls := by
  rw [lines_eq_pieces, unlines, pieces_intercalate hne h]

/-! ## Widths -/

/-- The number of characters of lines that a line feed follows, each with its line feed. -/
def width (ls : List (List Char)) : Nat := (ls.map fun raw => raw.length + 1).foldr (· + ·) 0

@[simp] theorem width_nil : width [] = 0 := rfl

@[simp] theorem width_cons (l : List Char) (ls : List (List Char)) :
    width (l :: ls) = l.length + 1 + width ls := rfl

@[simp] theorem width_append (ls more : List (List Char)) :
    width (ls ++ more) = width ls + width more := by
  induction ls with
  | nil => simp
  | cons l ls ih =>
    simp only [List.cons_append, width_cons, ih]
    omega

/-- Only the last line has no line feed behind it. -/
theorem width_lines (s : List Char) : width (lines s) = s.length + 1 := by
  -- Induction on the text: each character adds one to its line or ends a line.
  induction s with
  | nil => rfl
  | cons c s ih =>
    obtain ⟨first, after, hl⟩ := exists_lines_eq_cons s
    rw [hl] at ih
    by_cases hc : c = '\n'
    · subst hc
      rw [lines_feed, hl]
      simp only [width_cons, List.length_cons, List.length_nil] at ih ⊢
      omega
    · rw [lines_cons hc hl]
      simp only [width_cons, List.length_cons] at ih ⊢
      omega

end Emend.Text
