import Emend.Proofs.Attempt
import Emend.Proofs.Edit.Batch

/-!
# Places inside of a document

A document has the positions of its offsets and of its lines. What is found in a document is a range whose
two ends it has.
-/

namespace Emend

open Text

theorem Range.between_eq_ok {p q : Position} {r : Range} (h : Range.between p q = .ok r) :
    r.start = p ∧ r.stop = q := by
  unfold Range.between at h
  split at h
  · obtain rfl := Except.ok.inj h
    exact ⟨rfl, rfl⟩
  · simp at h

theorem Range.between_of_le {p q : Position} (h : p ≤ q) : Range.between p q = .ok ⟨p, q, h⟩ :=
  dif_pos h

/-- The line behind a range starts behind the start of the range. -/
theorem Range.start_le_next_line (r : Range) : r.start ≤ ⟨r.stop.line + 1, 0⟩ := by
  have h := r.start_le_stop
  rw [Position.le_def] at *
  simp only
  omega

namespace Document

variable {d : Document} {p q : Position} {r : Range}

/-- The document has a position. -/
def Has (d : Document) (p : Position) : Prop := ∃ o, d.offsetAt p = .ok o

theorem covers_iff : d.Covers r ↔ d.Has r.start ∧ d.Has r.stop := by
  constructor
  · intro h
    exact ⟨⟨_, h.1⟩, ⟨_, h.2⟩⟩
  · rintro ⟨⟨a, ha⟩, ⟨b, hb⟩⟩
    exact covers_of_ok ha hb

theorem covers_emptyAt (h : d.Has p) : d.Covers (.emptyAt p) := covers_iff.mpr ⟨h, h⟩

theorem covers_of_between (hp : d.Has p) (hq : d.Has q) (h : Range.between p q = .ok r) :
    d.Covers r := by
  obtain ⟨hstart, hstop⟩ := Range.between_eq_ok h
  rw [covers_iff, hstart, hstop]
  exact ⟨hp, hq⟩

/-! ## Offsets -/

/-- The position of an offset has that offset. -/
theorem has_of_positionAt {o : Int} (h : d.positionAt o = .ok p) : d.Has p := by
  obtain ⟨n, -, hn⟩ := positionAt_eq_ok.mp h
  exact ⟨n, hn⟩

/-- Positions of offsets are in the order of the offsets. -/
theorem positionAt_le {a b : Int} (hab : a ≤ b) (ha : d.positionAt a = .ok p)
    (hb : d.positionAt b = .ok q) : p ≤ q := by
  obtain ⟨m, rfl, hm⟩ := positionAt_eq_ok.mp ha
  obtain ⟨n, rfl, hn⟩ := positionAt_eq_ok.mp hb
  exact (offsetAt_le_iff hm hn).mp (Int.ofNat_le.mp hab)

theorem covers_fullRange : d.Covers d.fullRange := by
  obtain ⟨text, uri⟩ := d
  refine covers_iff.mpr ⟨⟨0, offsetAt_eq_ok_iff.mpr ⟨Nat.zero_le _, rfl⟩⟩,
    ⟨text.length, offsetAt_eq_ok_iff.mpr ⟨Nat.le_refl _, ?_⟩⟩⟩
  rw [List.take_length]
  rfl

/-! ## Lines -/

theorem has_of_rawLine {line c : Nat} {raw : List Char} (h : d.rawLines[line]? = some raw)
    (hc : c ≤ raw.length) : d.Has ⟨line, c⟩ :=
  ⟨_, offsetAt_eq_ok.mpr ⟨line, c, raw, rfl, h, hc, rfl⟩⟩

/-- A line that a document counts can be started. -/
theorem has_line {line : Int} (h : 0 ≤ line) (h' : line < d.lineCount) : d.Has ⟨line, 0⟩ := by
  obtain ⟨n, rfl⟩ := Int.eq_ofNat_of_zero_le h
  have hn : n < d.rawLines.length := by
    have : (n : Int) < d.rawLines.length := h'
    omega
  exact has_of_rawLine (List.getElem?_eq_getElem hn) (Nat.zero_le _)

/-- The line of a position can be started. -/
theorem Has.line (h : d.Has p) : d.Has ⟨p.line, 0⟩ := by
  obtain ⟨o, ho⟩ := h
  obtain ⟨line, c, raw, rfl, hraw, -, -⟩ := offsetAt_eq_ok.mp ho
  exact has_of_rawLine hraw (Nat.zero_le _)

/-- The document has the line of a position. -/
theorem Has.rawLine (h : d.Has p) : ∃ raw, d.rawLine p.line = .ok raw := by
  obtain ⟨o, ho⟩ := h
  obtain ⟨line, c, raw, rfl, hraw, -, -⟩ := offsetAt_eq_ok.mp ho
  exact ⟨raw, rawLine_eq_ok.mpr ⟨line, rfl, hraw⟩⟩

theorem Has.line_nonneg (h : d.Has p) : 0 ≤ p.line := by
  obtain ⟨o, ho⟩ := h
  obtain ⟨line, c, raw, rfl, -, -, -⟩ := offsetAt_eq_ok.mp ho
  exact Int.natCast_nonneg line

theorem length_body_le (raw : List Char) : (body raw).length ≤ raw.length := by
  unfold body
  split
  · rw [List.length_dropLast]
    omega
  · exact Nat.le_refl _

theorem lineText_eq_ok {line : Int} {text : List Char} :
    d.lineText line = .ok text ↔
      ∃ (n : Nat) (raw : List Char), line = n ∧ d.rawLines[n]? = some raw ∧ body raw = text := by
  rw [lineText, Attempt.map_eq_ok]
  -- The text of a line is its raw text without the return at the end.
  constructor
  · rintro ⟨raw, hraw, htext⟩
    obtain ⟨n, hn, hget⟩ := rawLine_eq_ok.mp hraw
    exact ⟨n, raw, hn, hget, htext⟩
  · rintro ⟨n, raw, hn, hget, htext⟩
    exact ⟨raw, rawLine_eq_ok.mpr ⟨n, hn, hget⟩, htext⟩

/-- A line has no line feed in it. -/
theorem feed_not_mem_lineText {line : Int} {text : List Char} (h : d.lineText line = .ok text) : '\n' ∉ text := by
  obtain ⟨n, raw, -, hraw, rfl⟩ := lineText_eq_ok.mp h
  have hfree := not_mem_of_mem_lines d.text raw (List.mem_of_getElem? hraw)
  unfold body
  split
  · exact fun hmem => hfree (List.dropLast_subset raw hmem)
  · exact hfree

/-- The range of a line goes from its start to the end of its body. -/
theorem lineRange_eq_ok {line : Int} :
    d.lineRange line = .ok r ↔ ∃ (n : Nat) (raw : List Char), line = n ∧ d.rawLines[n]? = some raw ∧
      r.start = ⟨n, 0⟩ ∧ r.stop = ⟨n, (body raw).length⟩ := by
  -- A line has a range if it has a text, which then tells where it ends.
  rw [lineRange, Attempt.bind_eq_ok]
  constructor
  · rintro ⟨text, htext, hr⟩
    obtain ⟨n, raw, rfl, hraw, rfl⟩ := lineText_eq_ok.mp htext
    obtain rfl := Attempt.pure_eq_ok.mp hr
    exact ⟨n, raw, rfl, hraw, rfl, rfl⟩
  · rintro ⟨n, raw, rfl, hraw, hstart, hstop⟩
    obtain ⟨_, _, _⟩ := r
    obtain rfl := hstart
    obtain rfl := hstop
    exact ⟨body raw, lineText_eq_ok.mpr ⟨n, raw, rfl, hraw, rfl⟩, rfl⟩

/-- The document has both ends of the range of a line. -/
theorem covers_lineRange {line : Int} (h : d.lineRange line = .ok r) :
    d.Covers r ∧ r.start = ⟨line, 0⟩ := by
  obtain ⟨n, raw, rfl, hraw, hstart, hstop⟩ := lineRange_eq_ok.mp h
  rw [covers_iff, hstart, hstop]
  exact ⟨⟨has_of_rawLine hraw (Nat.zero_le _), has_of_rawLine hraw (length_body_le raw)⟩, rfl⟩

end Document

end Emend
