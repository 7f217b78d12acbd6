import Emend.Proofs.Document.Inside

/-!
# Lines with their terminators

A text is the concatenation of its lines, each with the terminator that ends it (`flatMap_terminatedLines`).
The offset of a line is what the lines before it are long (`placeOf_eq_lineStart`), so that whole lines can be
cut out of the text at the places of the lines (`take_drop_placeOf`).

Main statements:

* `flatMap_terminatedLines`: the lines make up the text.
* `getElem?_terminate`, `getElem?_terminatedLines_of_return`: one line with its terminator.
* `placeOf_eq_lineStart`, `take_drop_placeOf`: where whole lines are cut out.
-/

namespace Emend.Document

open Text

variable {d : Document} {raw : List Char} {n m : Nat}

/-- Lines with a line feed between each two, cut into bodies and terminators. Nothing ends the last one. -/
def terminate : List (List Char) → List BrokenLine
  | [] => []
  | [last] => [⟨last, []⟩]
  | raw :: next :: rest => ⟨body raw, (endingOf raw).chars⟩ :: terminate (next :: rest)

/-- The lines of a document with their terminators. -/
def terminatedLines (d : Document) : List BrokenLine := terminate d.rawLines

/-- A line that ends in a return is its body and the return. -/
theorem body_append_return (h : raw.getLast? = some '\r') : body raw ++ ['\r'] = raw := by
  have hends : endsInReturn raw = true := by simp [endsInReturn, h]
  rw [body, if_pos hends]
  exact List.dropLast_append_getLast? '\r' h

/-- The body of a line and its terminator are the line and a line feed. -/
theorem body_append_chars (raw : List Char) : body raw ++ (endingOf raw).chars = raw ++ ['\n'] := by
  by_cases h : endsInReturn raw = true
  · have hlast : raw.getLast? = some '\r' := by simpa [endsInReturn] using h
    rw [endingOf, if_pos h, LineEnding.chars, List.append_cons, body_append_return hlast]
  · rw [body, endingOf, if_neg h, if_neg h, LineEnding.chars]

theorem flatMap_terminate (raws : List (List Char)) :
    (terminate raws).flatMap (·.full) = unlines raws := by
  -- The last line has no terminator; the others have the feed that joins them to the next one.
  fun_induction terminate raws with
  | case1 => rfl
  | case2 last => simp [BrokenLine.full, unlines]
  | case3 raw next rest ih =>
    rw [List.flatMap_cons, ih, BrokenLine.full, body_append_chars]
    simp [unlines]

/-- A text is the concatenation of its lines. -/
theorem flatMap_terminatedLines (d : Document) : d.terminatedLines.flatMap (·.full) = d.text := by
  rw [terminatedLines, flatMap_terminate, rawLines, unlines_lines]

theorem length_terminate (raws : List (List Char)) : (terminate raws).length = raws.length := by
  fun_induction terminate raws with
  | case1 => rfl
  | case2 last => rfl
  | case3 raw next rest ih => rw [List.length_cons, ih, List.length_cons (a := raw)]

theorem length_terminatedLines (d : Document) : d.terminatedLines.length = d.lineCount :=
  length_terminate d.rawLines

/-- A line that another one follows ends in its terminator; the last one is all body. -/
theorem getElem?_terminate {raws : List (List Char)} (h : raws[n]? = some raw) :
    (terminate raws)[n]? = some
      (if n + 1 < raws.length then ⟨body raw, (endingOf raw).chars⟩ else ⟨raw, []⟩) := by
  -- Only the last line has no terminator of its own, and it is the one that stops the recursion.
  fun_induction terminate raws generalizing n with
  | case1 => simp at h
  | case2 last =>
    rcases n with _ | n
    · simpa using h
    · simp at h
  | case3 first next rest ih =>
    rcases n with _ | n
    · obtain rfl : first = raw := by simpa using h
      simp
    · rw [List.getElem?_cons_succ] at h ⊢
      rw [ih h]
      simp

theorem getElem?_terminatedLines (h : d.rawLines[n]? = some raw) :
    d.terminatedLines[n]? = some
      (if n + 1 < d.lineCount then ⟨body raw, (endingOf raw).chars⟩ else ⟨raw, []⟩) :=
  getElem?_terminate h

theorem exists_rawLine (h : n < d.lineCount) : ∃ raw, d.rawLines[n]? = some raw :=
  ⟨_, List.getElem?_eq_getElem h⟩

theorem drop_terminatedLines {line : BrokenLine} (h : d.terminatedLines[n]? = some line) :
    d.terminatedLines.drop n = line :: d.terminatedLines.drop (n + 1) := by
  obtain ⟨hn, rfl⟩ := List.getElem?_eq_some_iff.mp h
  exact List.drop_eq_getElem_cons hn

/-! ## Lines that do not end in a carriage return -/

theorem endsInReturn_eq_false (h : raw.getLast? ≠ some '\r') : endsInReturn raw = false :=
  beq_eq_false_iff_ne.mpr h

/-- Such a line is all body. -/
theorem body_of_getLast?_ne (h : raw.getLast? ≠ some '\r') : body raw = raw := by
  rw [body, endsInReturn_eq_false h, if_neg Bool.false_ne_true]

theorem endingOf_of_getLast?_ne (h : raw.getLast? ≠ some '\r') : endingOf raw = .lf := by
  rw [endingOf, endsInReturn_eq_false h, if_neg Bool.false_ne_true]

section

variable (hreturn : ∀ raw ∈ d.rawLines, raw.getLast? ≠ some '\r')
include hreturn

theorem ending_of_getLast?_ne : d.ending = .lf := by
  unfold ending
  split
  · rename_i first second more hlines
    exact endingOf_of_getLast?_ne (hreturn first (by simp [hlines]))
  · rfl

/-- Where no line ends in a return, the ending of each line is a line feed. -/
theorem endingAt_of_getLast?_ne (h : d.rawLines[n]? = some raw) : d.endingAt n = .ok .lf := by
  refine Attempt.bind_eq_ok.mpr ⟨raw, rawLine_eq_ok.mpr ⟨n, rfl, h⟩, ?_⟩
  rw [endingOf_of_getLast?_ne (hreturn raw (List.mem_of_getElem? h)), ending_of_getLast?_ne hreturn, ite_self]
  rfl

end

/-! ## Places of lines -/

/-- The offset at which a line begins. Behind the last line, this is the end of the text. -/
def placeOf (d : Document) (n : Nat) : Nat := ((d.terminatedLines.take n).flatMap (·.full)).length

theorem flatMap_take_append_drop (d : Document) (n : Nat) :
    (d.terminatedLines.take n).flatMap (·.full) ++ (d.terminatedLines.drop n).flatMap (·.full)
      = d.text := by
  rw [← List.flatMap_append, List.take_append_drop, flatMap_terminatedLines]

/-- From the place of a line on, the text is that line and the ones after it. -/
theorem drop_placeOf (d : Document) (n : Nat) :
    d.text.drop (d.placeOf n) = (d.terminatedLines.drop n).flatMap (·.full) := by
  rw [← d.flatMap_take_append_drop n, placeOf, List.drop_left]

theorem take_eq_append (d : Document) (h : n ≤ m) :
    d.terminatedLines.take m
      = d.terminatedLines.take n ++ (d.terminatedLines.drop n).take (m - n) := by
  rw [← List.take_add, Nat.add_sub_cancel' h]

theorem placeOf_eq_add (d : Document) (h : n ≤ m) :
    d.placeOf m
      = d.placeOf n + (((d.terminatedLines.drop n).take (m - n)).flatMap (·.full)).length := by
  rw [placeOf, placeOf, d.take_eq_append h, List.flatMap_append, List.length_append]

theorem placeOf_mono (d : Document) (h : n ≤ m) : d.placeOf n ≤ d.placeOf m := by
  rw [d.placeOf_eq_add h]
  exact Nat.le_add_right _ _

theorem placeOf_le_length (d : Document) (n : Nat) : d.placeOf n ≤ d.text.length := by
  rw [← d.flatMap_take_append_drop n, List.length_append, placeOf]
  exact Nat.le_add_right _ _

/-- Between the places of two lines stand the lines from the first up to the second. -/
theorem take_drop_placeOf (d : Document) (h : n ≤ m) :
    (d.text.drop (d.placeOf n)).take (d.placeOf m - d.placeOf n)
      = ((d.terminatedLines.drop n).take (m - n)).flatMap (·.full) := by
  -- From one place on, the text is the lines up to the other place and the lines behind it.
  have hdrop : d.terminatedLines.drop m = (d.terminatedLines.drop n).drop (m - n) := by
    rw [List.drop_drop, Nat.add_sub_cancel' h]
  have hsplit : d.text.drop (d.placeOf n)
      = ((d.terminatedLines.drop n).take (m - n)).flatMap (·.full)
        ++ (d.terminatedLines.drop m).flatMap (·.full) := by
    rw [d.drop_placeOf, hdrop, ← List.flatMap_append, List.take_append_drop]
  rw [hsplit, d.placeOf_eq_add h, Nat.add_sub_cancel_left, List.take_left]

theorem placeOf_succ {line : BrokenLine} (h : d.terminatedLines[n]? = some line) :
    d.placeOf (n + 1) = d.placeOf n + line.body.length + line.ending.length := by
  rw [placeOf, List.take_add_one, h, List.flatMap_append, List.length_append, ← placeOf]
  simp [BrokenLine.full, Nat.add_assoc]

/-- A line of the document begins where its positions are counted from. -/
theorem placeOf_eq_lineStart (h : n < d.lineCount) : d.placeOf n = d.lineStart n := by
  -- Induction on the line: a line with its terminator is as long as its raw text and the feed.
  induction n with
  | zero => rfl
  | succ n ih =>
    obtain ⟨raw, hraw⟩ := d.exists_rawLine (Nat.lt_of_succ_lt h)
    have hline := getElem?_terminatedLines hraw
    rw [if_pos h] at hline
    have hlength := congrArg List.length (body_append_chars raw)
    simp only [List.length_append, List.length_singleton] at hlength
    rw [placeOf_succ hline, ih (Nat.lt_of_succ_lt h), d.lineStart_succ hraw]
    simp only
    omega

theorem offsetOf_line (h : n < d.lineCount) : d.offsetOf ⟨n, 0⟩ = d.placeOf n := by
  obtain ⟨raw, hraw⟩ := d.exists_rawLine h
  rw [placeOf_eq_lineStart h]
  exact offsetOf_eq (offsetAt_eq_ok.mpr ⟨n, 0, raw, rfl, hraw, Nat.zero_le _, rfl⟩)

/-- The body of a line ends behind its characters. -/
theorem offsetOf_body (h : d.rawLines[n]? = some raw) :
    d.offsetOf ⟨n, (body raw).length⟩ = d.placeOf n + (body raw).length := by
  have hn : n < d.lineCount := (List.getElem?_eq_some_iff.mp h).1
  rw [placeOf_eq_lineStart hn]
  exact offsetOf_eq (offsetAt_eq_ok.mpr ⟨n, _, raw, rfl, h, length_body_le raw, rfl⟩)

/-- Behind the body of a line, its terminator stands before the next line. -/
theorem take_drop_ending {line : BrokenLine} (h : d.terminatedLines[n]? = some line) :
    (d.text.drop (d.placeOf n + line.body.length)).take
      (d.placeOf (n + 1) - (d.placeOf n + line.body.length)) = line.ending := by
  rw [placeOf_succ h, Nat.add_sub_cancel_left, ← List.drop_drop, d.drop_placeOf,
    drop_terminatedLines h, List.flatMap_cons, BrokenLine.full, List.append_assoc, List.drop_left,
    List.take_left]

/-! ## Texts whose last line does not end in a return -/

/-- A text is its lines with their line feeds, and all of the last one. -/
theorem text_eq_flatMap_append {before : List (List Char)} {last : List Char}
    (hlines : d.rawLines = before ++ [last]) : d.text = before.flatMap (· ++ ['\n']) ++ last := by
  rw [← unlines_concat, ← hlines, rawLines, unlines_lines]

/-- A text ends in a return exactly if its last line does. -/
theorem getLast?_text_eq_return_iff {before : List (List Char)} {last : List Char}
    (hlines : d.rawLines = before ++ [last]) :
    d.text.getLast? = some '\r' ↔ last.getLast? = some '\r' := by
  rw [text_eq_flatMap_append hlines, List.getLast?_append]
  rcases hlast : last.getLast? with _ | c
  · -- nothing is in the last line, so the text ends in a line feed, if there is any line before
    rcases List.eq_nil_or_concat before with rfl | ⟨front, l, rfl⟩
    · simp
    · simp
  · simp

/-- If a text does not end in a return, its last line is all body. -/
theorem body_last (hreturn : d.text.getLast? ≠ some '\r') (hraw : d.rawLines[n]? = some raw)
    (hn : ¬ n + 1 < d.lineCount) : body raw = raw := by
  -- Nothing follows the last line, so a return at its end would be one at the end of the text.
  have hdrop : d.rawLines.drop n = [raw] := by
    have hcount : d.rawLines.length ≤ n + 1 := Nat.not_lt.mp hn
    obtain ⟨hlt, rfl⟩ := List.getElem?_eq_some_iff.mp hraw
    rw [List.drop_eq_getElem_cons hlt, List.drop_eq_nil_of_le hcount]
  have hlines : d.rawLines = d.rawLines.take n ++ [raw] := by rw [← hdrop, List.take_append_drop]
  exact body_of_getLast?_ne (mt (getLast?_text_eq_return_iff hlines).mpr hreturn)

/-- Every line then is its body and its terminator. -/
theorem getElem?_terminatedLines_of_return (hreturn : d.text.getLast? ≠ some '\r')
    (hraw : d.rawLines[n]? = some raw) :
    d.terminatedLines[n]? = some
      ⟨body raw, if n + 1 < d.lineCount then (endingOf raw).chars else []⟩ := by
  rw [getElem?_terminatedLines hraw]
  by_cases hn : n + 1 < d.lineCount
  · rw [if_pos hn, if_pos hn]
  · rw [if_neg hn, if_neg hn, body_last hreturn hraw hn]

end Emend.Document
