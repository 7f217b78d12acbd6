import Emend.Proofs.Document.Lines

/-!
# Lines put together again

Every line but the last is told with its ending, and the last one without. Together they are the text of the
document, unless the text ends in a carriage return. No line feed follows that return, yet it is no part of its
line, and nothing else has it (`reassembled_eq_text_iff`).

Main statements:

* `textIn_lineRange`: the range of a line has its text.
* `reassembled_eq_ok`: what the lines make up together.
* `reassembled_eq_text_iff`: whether that is the text.
-/

namespace Emend

open Text

namespace Document

variable {d : Document} {raw : List Char} {n : Nat}

/-- A line and the characters that end it, as the document tells them. -/
def endedLine (d : Document) (line : Int) : Except OutOfRange (List Char) := do
  let text ← d.lineText line
  let ending ← d.endingAt line
  return text ++ ending.chars

/-- The lines one after the other, each but the last with its ending. -/
def reassembled (d : Document) : Except OutOfRange (List Char) := do
  let front ← (List.range (d.lineCount - 1)).mapM fun (n : Nat) => d.endedLine n
  let last ← d.lineText (d.lineCount - 1)
  return front.flatten ++ last

/-! ## One line -/

theorem lineText_of_rawLine (h : d.rawLines[n]? = some raw) : d.lineText n = .ok (body raw) :=
  lineText_eq_ok.mpr ⟨n, raw, rfl, h, rfl⟩

/-- A line that another one follows is told with all that stands before the start of the next one. -/
theorem endedLine_of_next (h : d.rawLines[n]? = some raw) (hnext : n + 1 < d.lineCount) :
    d.endedLine n = .ok (raw ++ ['\n']) := by
  have hraw : d.rawLine n = .ok raw := rawLine_eq_ok.mpr ⟨n, rfl, h⟩
  have hnext' : (n : Int) + 1 < d.lineCount := by omega
  have hending : d.endingAt n = .ok (endingOf raw) := by
    refine Attempt.bind_eq_ok.mpr ⟨raw, hraw, ?_⟩
    rw [if_pos hnext']
    rfl
  refine Attempt.bind_eq_ok.mpr ⟨body raw, lineText_of_rawLine h, ?_⟩
  refine Attempt.bind_eq_ok.mpr ⟨endingOf raw, hending, ?_⟩
  rw [Attempt.pure_eq_ok, body_append_chars]

theorem body_isPrefix (raw : List Char) : body raw <+: raw := by
  unfold body
  split
  · exact List.dropLast_prefix raw
  · exact List.prefix_rfl

/-- From the start of a line on, the text starts with the line. -/
theorem prefix_drop_lineStart (h : d.rawLines[n]? = some raw) : raw <+: d.text.drop (d.lineStart n) := by
  have hn : n < d.lineCount := (List.getElem?_eq_some_iff.mp h).1
  have hline := getElem?_terminatedLines h
  rw [← placeOf_eq_lineStart hn, drop_placeOf, drop_terminatedLines hline, List.flatMap_cons]
  refine List.IsPrefix.trans ?_ (List.prefix_append _ _)
  split
  · rw [BrokenLine.full, body_append_chars]
    exact List.prefix_append _ _
  · exact List.prefix_append _ _

/-- The range of a line has the text of the line. -/
theorem textIn_lineRange (h : d.rawLines[n]? = some raw) :
    ∃ r, d.lineRange n = .ok r ∧ d.textIn r = .ok (body raw) := by
  obtain ⟨r, hr⟩ : ∃ r, d.lineRange n = .ok r :=
    ⟨_, Attempt.bind_eq_ok.mpr ⟨body raw, lineText_of_rawLine h, rfl⟩⟩
  obtain ⟨m, other, hm, hother, hstart, hstop⟩ := lineRange_eq_ok.mp hr
  obtain rfl := Int.ofNat.inj hm
  obtain rfl := Option.some.inj (h.symm.trans hother)
  -- Both ends of the range are on one line, so what is between them is the body that the line starts with.
  have hfirst : d.offsetAt r.start = .ok (d.lineStart n) := by
    rw [hstart]
    exact offsetAt_eq_ok.mpr ⟨n, 0, raw, rfl, h, Nat.zero_le _, rfl⟩
  have hlast : d.offsetAt r.stop = .ok (d.lineStart n + (body raw).length) := by
    rw [hstop]
    exact offsetAt_eq_ok.mpr ⟨n, (body raw).length, raw, rfl, h, length_body_le raw, rfl⟩
  refine ⟨r, hr, Attempt.bind_eq_ok.mpr ⟨_, hfirst, Attempt.bind_eq_ok.mpr ⟨_, hlast, ?_⟩⟩⟩
  rw [Attempt.pure_eq_ok, Nat.add_sub_cancel_left]
  exact (List.prefix_iff_eq_take.mp ((body_isPrefix raw).trans (prefix_drop_lineStart h))).symm

/-! ## All lines -/

/-- All lines together are the lines with their line feeds, and the last one without what looks like the return
of a terminator. -/
theorem reassembled_eq_ok {before : List (List Char)} {last : List Char}
    (hlines : d.rawLines = before ++ [last]) :
    d.reassembled = .ok (before.flatMap (· ++ ['\n']) ++ body last) := by
  have hcount : d.lineCount = before.length + 1 := by simp [lineCount, hlines]
  -- Behind every line but the last stands a feed, and its ending is what the body leaves of it.
  have hfront : ∀ n ∈ List.range before.length,
      d.endedLine (n : Nat) = .ok (before.getD n [] ++ ['\n']) := by
    intro n hn
    have hn' : n < before.length := List.mem_range.mp hn
    refine endedLine_of_next ?_ (by omega)
    rw [hlines, List.getElem?_append_left hn']
    simp [hn']
  have hlast : d.lineText ((d.lineCount : Int) - 1) = .ok (body last) := by
    have hline : d.rawLines[before.length]? = some last := by simp [hlines]
    rw [hcount, Int.natCast_add, Int.natCast_one, Int.add_sub_cancel]
    exact lineText_of_rawLine hline
  have hbodies : (List.range before.length).map (fun n => before.getD n [] ++ ['\n'])
      = before.map (· ++ ['\n']) := by
    refine List.ext_getElem (by simp) ?_
    intro i hi hi'
    simp at hi hi'
    simp [hi]
  have hsub : d.lineCount - 1 = before.length := by omega
  unfold reassembled
  rw [hsub]
  refine Attempt.bind_eq_ok.mpr ⟨_, Attempt.mapM_eq_ok hfront, ?_⟩
  refine Attempt.bind_eq_ok.mpr ⟨_, hlast, ?_⟩
  rw [Attempt.pure_eq_ok, hbodies, List.flatMap_def]

theorem body_eq_iff : body raw = raw ↔ raw.getLast? ≠ some '\r' := by
  constructor
  · intro hsame hreturn
    have hlonger := body_append_return hreturn
    rw [hsame] at hlonger
    simp at hlonger
  · exact body_of_getLast?_ne

/-- A line has no line feed in it and is the text of its own range. The lines, each but the last with its ending,
are put together to the text exactly if the text does not end in a carriage return; one that does is put together
without it. -/
theorem reassembled_eq_text_iff (d : Document) :
    (∀ n : Nat, n < d.lineCount → ∃ line r, d.lineText n = .ok line ∧ '\n' ∉ line ∧
      d.lineRange n = .ok r ∧ d.textIn r = .ok line) ∧
    (d.reassembled = .ok d.text ↔ d.text.getLast? ≠ some '\r') ∧
    (d.text.getLast? = some '\r' → ∃ whole, d.reassembled = .ok whole ∧ d.text = whole ++ ['\r']) := by
  obtain ⟨before, last, hlines⟩ := exists_lines_eq_append d.text
  have hlast := getLast?_text_eq_return_iff (d := d) hlines
  have hwhole := reassembled_eq_ok (d := d) hlines
  have htext := text_eq_flatMap_append (d := d) hlines
  refine ⟨?_, ?_, ?_⟩
  · intro n hn
    obtain ⟨raw, hraw⟩ := d.exists_rawLine hn
    have hline := lineText_of_rawLine hraw
    obtain ⟨r, hr, htextIn⟩ := textIn_lineRange hraw
    exact ⟨body raw, r, hline, feed_not_mem_lineText hline, hr, htextIn⟩
  · -- only the last line can differ from what is told of it
    rw [hwhole, Except.ok.injEq, Ne, hlast, ← Ne, ← body_eq_iff, htext, List.append_cancel_left_eq]
  · intro hreturn
    refine ⟨_, hwhole, ?_⟩
    rw [List.append_assoc, body_append_return (hlast.mp hreturn), ← htext]

/-- A return in front of a line feed is put back, and one that nothing follows is not. -/
theorem reassembled_eq_text_iff_trailing :
    let d : Document := ⟨['a', '\r', '\n', '\n', 'b', '\r'], ""⟩
    d.text.getLast? = some '\r' ∧ ∃ whole, d.reassembled = .ok whole ∧ d.text = whole ++ ['\r'] := by
  intro d
  have hreturn : d.text.getLast? = some '\r' := by decide
  exact ⟨hreturn, (reassembled_eq_text_iff d).2.2 hreturn⟩

/-- A text of one line that ends in a return is put together without the return. -/
theorem reassembled_loses_return :
    let d : Document := ⟨['a', '\r'], ""⟩
    d.reassembled = .ok ['a'] ∧ d.lineText 0 = .ok ['a'] ∧ d.lineCount = 1 ∧ d.reassembled ≠ .ok d.text := by
  decide

end Document

end Emend
