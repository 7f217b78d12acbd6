import Emend.Document.Basic
import Emend.Proofs.Text.Lines

/-!
# Offsets and positions

A position is the position of an offset if writing the text before the offset arrives there
(`offsetAt_eq_ok_iff`, `positionAt_eq_ok`), and positions are ordered as their offsets are (`offsetAt_lt_iff`).

Main statements:

* `offsetAt_eq_ok`, `positionAt_eq_ok`: the two functions, by lines and columns.
* `offsetAt_eq_ok_iff`, `offsetAt_extent`: by the text that is written up to the place.
* `offsetAt_inj`, `offsetAt_lt_iff`: one offset for each position, in order.
-/

namespace Emend

open Text

/-! ## Order of positions -/

namespace Position

theorem eq_iff (p q : Position) : p = q ↔ p.line = q.line ∧ p.character = q.character := by
  rw [← Position.mk.injEq]

theorem lt_irrefl (p : Position) : ¬ p < p := by
  rw [lt_def]
  omega

theorem lt_trichotomy (p q : Position) : p < q ∨ p = q ∨ q < p := by
  rw [lt_def, lt_def, eq_iff]
  omega

theorem le_iff_lt_or_eq (p q : Position) : p ≤ q ↔ p < q ∨ p = q := by
  rw [lt_def, le_def, eq_iff]
  omega

/-- Where writing a text from the start arrives: the line is the last one, and the character is behind
all of it. -/
theorem extent_zero {s last : List Char} {before : List (List Char)}
    (hs : lines s = before ++ [last]) : zero.extent s = ⟨before.length, last.length⟩ := by
  -- Induction from the end of the text, as one more character moves the position that the text before it ends in.
  induction s using List.reverseRecOn generalizing before last with
  | nil =>
    rcases before with _ | ⟨b, before⟩
    · have hlast : last = [] := by simpa [lines_nil] using hs
      simp [hlast, zero, extent_nil]
    · simp [lines_nil] at hs
  | append_singleton s c ih =>
    obtain ⟨front, end_, hf⟩ := exists_lines_eq_append s
    rw [lines_snoc hf c] at hs
    rw [extent_append, ih hf, extent_cons, extent_nil, advance]
    by_cases hc : c = '\n'
    · rw [if_pos hc] at hs
      have hs' : (front ++ [end_]) ++ [[]] = before ++ [last] := by simpa using hs
      obtain ⟨rfl, hlast⟩ := List.append_inj' hs' rfl
      simp [hc, ← (List.cons.inj hlast).1]
    · rw [if_neg hc] at hs
      obtain ⟨rfl, hlast⟩ := List.append_inj' hs rfl
      simp [hc, ← (List.cons.inj hlast).1]

/-- Writing a text moves down by one line for each line feed. -/
theorem line_extent (p : Position) (s : List Char) : (p.extent s).line = p.line + countLineFeeds s := by
  induction s generalizing p with
  | nil => simp [extent_nil, countLineFeeds]
  | cons c s ih =>
    rw [extent_cons, ih, advance, countLineFeeds, countLineFeeds]
    by_cases hc : c = '\n'
    · subst hc
      rw [if_pos rfl, List.count_cons_self]
      push_cast
      omega
    · rw [if_neg hc, List.count_cons_of_ne hc]

/-- A text without line feeds is written behind what stands on the line. -/
theorem extent_of_not_mem {s : List Char} (h : '\n' ∉ s) (p : Position) :
    p.extent s = ⟨p.line, p.character + s.length⟩ := by
  induction s generalizing p with
  | nil => simp [extent_nil]
  | cons c s ih =>
    rw [List.mem_cons, not_or] at h
    rw [extent_cons, ih h.2, advance, if_neg (Ne.symm h.1), List.length_cons, eq_iff]
    push_cast
    exact ⟨rfl, by omega⟩

/-- Behind a line feed, writing goes on where a line starts. -/
theorem extent_feed (p : Position) (s : List Char) :
    p.extent (s ++ ['\n']) = ⟨p.line + countLineFeeds (s ++ ['\n']), 0⟩ := by
  rw [eq_iff, line_extent]
  refine ⟨rfl, ?_⟩
  rw [extent_append, extent_cons, extent_nil, advance, if_pos rfl]

end Position

namespace Document

/-- The lines that a document has are the lines of its text. -/
theorem rawLine_eq_ok {d : Document} {line : Int} {raw : List Char} :
    d.rawLine line = .ok raw ↔ ∃ n : Nat, line = n ∧ d.rawLines[n]? = some raw := by
  unfold rawLine
  constructor
  · intro h
    split at h
    · simp at h
    · rename_i hnonneg
      split at h
      · rename_i hraw
        obtain rfl := Except.ok.inj h
        exact ⟨line.toNat, (Int.toNat_of_nonneg (Int.not_lt.mp hnonneg)).symm, hraw⟩
      · simp at h
  · rintro ⟨n, rfl, hraw⟩
    have hnonneg : ¬ (n : Int) < 0 := by omega
    simp [hnonneg, hraw]

theorem lineStart_eq_width (d : Document) (line : Nat) :
    d.lineStart line = width (d.rawLines.take line) := rfl

theorem lineStart_mono (d : Document) {l m : Nat} (h : l ≤ m) :
    d.lineStart l ≤ d.lineStart m := by
  obtain ⟨k, rfl⟩ := Nat.exists_eq_add_of_le h
  rw [lineStart_eq_width, lineStart_eq_width, List.take_add, width_append]
  omega

/-- The next line starts behind the line feed of a line. -/
theorem lineStart_succ (d : Document) {line : Nat} {raw : List Char}
    (h : d.rawLines[line]? = some raw) :
    d.lineStart (line + 1) = d.lineStart line + raw.length + 1 := by
  rw [lineStart_eq_width, lineStart_eq_width, List.take_add_one, h, width_append]
  simp only [Option.toList_some, width_cons, width_nil]
  omega

/-- A line ends inside of the text. -/
theorem lineStart_add_length_le (d : Document) {line : Nat} {raw : List Char}
    (h : d.rawLines[line]? = some raw) : d.lineStart line + raw.length ≤ d.length := by
  have hsucc := d.lineStart_succ h
  have hall : width (lines d.text) = d.text.length + 1 := width_lines d.text
  have hsplit : width (d.rawLines.take (line + 1)) + width (d.rawLines.drop (line + 1))
      = width (lines d.text) := by
    rw [← width_append, List.take_append_drop, rawLines]
  rw [lineStart_eq_width] at hsucc
  rw [length]
  omega

/-- The positions that a document has are the characters of its lines, and the place behind each
line. -/
theorem offsetAt_eq_ok {d : Document} {p : Position} {o : Nat} :
    d.offsetAt p = .ok o ↔ ∃ (line character : Nat) (raw : List Char),
      p = ⟨line, character⟩ ∧ d.rawLines[line]? = some raw ∧ character ≤ raw.length ∧
        o = d.lineStart line + character := by
  obtain ⟨l, c⟩ := p
  -- Negative lines, lines that are not there and columns behind the end are refused, in this order.
  constructor
  · intro h
    unfold offsetAt rawLine at h
    simp only at h
    by_cases hl : l < 0
    · simp [hl, bind, Except.bind] at h
    · rw [if_neg hl] at h
      rcases hraw : d.rawLines[l.toNat]? with _ | raw
      · simp [hraw, bind, Except.bind] at h
      · simp only [hraw, bind, Except.bind] at h
        by_cases hc : c < 0 ∨ c > raw.length
        · simp [hc, throw, throwThe, MonadExceptOf.throw] at h
        · simp only [hc, if_false, pure, Except.pure, Except.ok.injEq] at h
          refine ⟨l.toNat, c.toNat, raw, ?_, hraw, ?_, h.symm⟩
          · rw [Position.mk.injEq]
            omega
          · omega
  · rintro ⟨line, character, raw, hp, hraw, hc, rfl⟩
    obtain ⟨rfl, rfl⟩ := Position.mk.inj hp
    have hline : ¬ (line : Int) < 0 := by omega
    have hchar : ¬ ((character : Int) < 0 ∨ (character : Int) > raw.length) := by omega
    simp only [offsetAt, rawLine, Int.toNat_natCast, hraw, bind, Except.bind, hline, hchar, if_false,
      pure, Except.pure]

/-- A position of an earlier line has a lesser offset. -/
theorem offset_lt_of_line_lt (d : Document) {l m c : Nat} {raw : List Char}
    (hraw : d.rawLines[l]? = some raw) (hc : c ≤ raw.length) (hlm : l < m) :
    d.lineStart l + c < d.lineStart m := by
  have hsucc := d.lineStart_succ hraw
  have hmono : d.lineStart (l + 1) ≤ d.lineStart m := d.lineStart_mono hlm
  omega

/-- Positions are ordered as their offsets are. -/
theorem offsetAt_lt_iff {d : Document} {p q : Position} {a b : Nat} (hp : d.offsetAt p = .ok a)
    (hq : d.offsetAt q = .ok b) : a < b ↔ p < q := by
  obtain ⟨l, c, raw, rfl, hraw, hc, rfl⟩ := offsetAt_eq_ok.mp hp
  obtain ⟨m, e, other, rfl, hother, he, rfl⟩ := offsetAt_eq_ok.mp hq
  rw [Position.lt_def]
  simp only [Int.ofNat_lt, Int.natCast_inj]
  rcases Nat.lt_trichotomy l m with hlm | rfl | hml
  · have hlt := d.offset_lt_of_line_lt hraw hc hlm
    omega
  · omega
  · have hlt := d.offset_lt_of_line_lt hother he hml
    omega

/-- No two positions have one offset. -/
theorem offsetAt_inj {d : Document} {p q : Position} {o : Nat} (hp : d.offsetAt p = .ok o)
    (hq : d.offsetAt q = .ok o) : p = q := by
  rcases Position.lt_trichotomy p q with h | h | h
  · exact absurd ((offsetAt_lt_iff hp hq).mpr h) (Nat.lt_irrefl o)
  · exact h
  · exact absurd ((offsetAt_lt_iff hq hp).mpr h) (Nat.lt_irrefl o)

theorem offsetAt_le_iff {d : Document} {p q : Position} {a b : Nat} (hp : d.offsetAt p = .ok a)
    (hq : d.offsetAt q = .ok b) : a ≤ b ↔ p ≤ q := by
  rw [Nat.le_iff_lt_or_eq, Position.le_iff_lt_or_eq, offsetAt_lt_iff hp hq]
  constructor
  · rintro (h | rfl)
    · exact Or.inl h
    · exact Or.inr (offsetAt_inj hp hq)
  · rintro (h | rfl)
    · exact Or.inl h
    · rw [hp] at hq
      exact Or.inr (Except.ok.inj hq)

/-- Writing the first part of a text arrives at the position where the second part starts. -/
theorem offsetAt_extent (s t : List Char) (uri : String) :
    (Document.mk (s ++ t) uri).offsetAt (Position.zero.extent s) = .ok s.length := by
  -- The last line of `s` goes on with the first line of `t`, which does not move its start.
  obtain ⟨before, last, hs⟩ := exists_lines_eq_append s
  obtain ⟨first, after, ht⟩ := exists_lines_eq_cons t
  have hraw : (Document.mk (s ++ t) uri).rawLines = before ++ (last ++ first) :: after :=
    lines_append hs ht
  have hwidth := width_lines s
  rw [hs] at hwidth
  simp only [width_append, width_cons, width_nil] at hwidth
  rw [offsetAt_eq_ok]
  refine ⟨before.length, last.length, last ++ first, Position.extent_zero hs, ?_, ?_, ?_⟩
  · rw [hraw]
    simp
  · simp
  · rw [lineStart_eq_width, hraw, List.take_left]
    omega

/-- The position of an offset is where writing the text before it arrives. -/
theorem offsetAt_eq_ok_iff {text : List Char} {uri : String} {p : Position} {o : Nat} :
    (Document.mk text uri).offsetAt p = .ok o ↔
      o ≤ text.length ∧ p = Position.zero.extent (text.take o) := by
  -- Writing the first `n` characters arrives at a position with the offset `n`, and only one position has it.
  have hwrite : ∀ {n : Nat}, n ≤ text.length →
      (Document.mk text uri).offsetAt (Position.zero.extent (text.take n)) = .ok n := by
    intro n hn
    have h := offsetAt_extent (text.take n) (text.drop n) uri
    rwa [List.take_append_drop, List.length_take_of_le hn] at h
  constructor
  · intro h
    have hle : o ≤ text.length := by
      obtain ⟨line, character, raw, -, hraw, hc, rfl⟩ := offsetAt_eq_ok.mp h
      have hend : _ ≤ text.length := lineStart_add_length_le _ hraw
      omega
    exact ⟨hle, offsetAt_inj h (hwrite hle)⟩
  · rintro ⟨hle, rfl⟩
    exact hwrite hle

/-- Where a text is put in, what stood there is found where writing the text arrives. -/
theorem offsetAt_behind {d : Document} {p : Position} {o : Nat} (ho : d.offsetAt p = .ok o) (new : List Char)
    (uri : String) :
    (Document.mk (d.text.take o ++ new ++ d.text.drop o) uri).offsetAt (p.extent new)
      = .ok (d.text.take o ++ new).length := by
  obtain ⟨text, uri⟩ := d
  obtain ⟨-, hplace⟩ := offsetAt_eq_ok_iff.mp ho
  rw [hplace, ← Position.extent_append]
  exact offsetAt_extent _ _ _

/-- The position of an offset is the one position that has this offset. -/
theorem positionAt_eq_ok {d : Document} {o : Int} {p : Position} :
    d.positionAt o = .ok p ↔ ∃ n : Nat, o = n ∧ d.offsetAt p = .ok n := by
  obtain ⟨text, uri⟩ := d
  constructor
  · intro h
    unfold positionAt at h
    split at h
    · simp at h
    · rename_i hin
      obtain rfl := Except.ok.inj h
      rw [not_or, Int.not_lt, Int.not_lt] at hin
      have hle : o.toNat ≤ text.length := Int.toNat_le.mpr hin.2
      exact ⟨o.toNat, (Int.toNat_of_nonneg hin.1).symm, offsetAt_eq_ok_iff.mpr ⟨hle, rfl⟩⟩
  · rintro ⟨n, rfl, h⟩
    obtain ⟨hle, rfl⟩ := offsetAt_eq_ok_iff.mp h
    have hin : ¬ ((n : Int) < 0 ∨ (n : Int) > text.length) := by omega
    exact if_neg hin

end Document

end Emend
