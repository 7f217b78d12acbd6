import Emend.Proofs.Document.Coordinates

/-!
# Where a text that is put in ends

The end of a text that is written at a position can be counted off from that text alone (`extent_eq_counted`), and the
position of an offset can be looked up in a table of the starts of all lines (`positionAt_eq_looked`). Counting off a
text that is put into a document gives what the table of the new document says of its end (`positionAt_inserted`).

Main statements:

* `extent_take_eq`: counting off follows the table of the starts of lines.
* `positionAt_eq_looked`, `extent_eq_counted`: the two ways to tell a position.
* `positionAt_inserted`: both tell the same of a text that is put in.
-/

namespace Emend

open Text

/-! ## Counting off -/

namespace Position

/-- How many characters stand behind the last line feed of a text; all of them where there is none. -/
def behindLastFeed (s : List Char) : Nat := (s.reverse.takeWhile (· != '\n')).length

/-- The end of a text that starts at `p`, counted off: as many lines down as the text has line feeds, and on the last
line as many characters as stand behind the last of them. -/
def counted (p : Position) (s : List Char) : Position :=
  if countLineFeeds s = 0 then ⟨p.line, p.character + s.length⟩
  else ⟨p.line + countLineFeeds s, behindLastFeed s⟩

theorem behindLastFeed_snoc (s : List Char) (c : Char) :
    behindLastFeed (s ++ [c]) = if c = '\n' then 0 else behindLastFeed s + 1 := by
  rw [behindLastFeed, List.reverse_append, List.reverse_singleton, List.singleton_append, List.takeWhile_cons]
  by_cases hc : c = '\n'
  · simp [hc]
  · simp [hc, behindLastFeed]

theorem countLineFeeds_snoc (s : List Char) (c : Char) :
    countLineFeeds (s ++ [c]) = countLineFeeds s + if c = '\n' then 1 else 0 := by
  rw [countLineFeeds, List.count_append, List.count_singleton, countLineFeeds]
  simp

theorem counted_snoc (p : Position) (s : List Char) (c : Char) :
    p.counted (s ++ [c]) = (p.counted s).advance c := by
  rw [counted, counted, countLineFeeds_snoc, behindLastFeed_snoc, advance]
  by_cases hc : c = '\n'
  · -- a line feed goes down by one more line, to its start
    by_cases hs : countLineFeeds s = 0
    · simp [hc, hs]
    · simp [hc, hs, Int.add_assoc]
  · by_cases hs : countLineFeeds s = 0
    · simp [hc, hs, Int.add_assoc]
    · simp [hc, hs]

/-- Writing a text character by character ends where counting it off does. -/
theorem extent_eq_counted (p : Position) (s : List Char) : p.extent s = p.counted s := by
  induction s using List.reverseRecOn with
  | nil => simp [extent_nil, counted, countLineFeeds]
  | append_singleton s c ih => rw [extent_append, ih, counted_snoc, extent_cons, extent_nil]

end Position

/-! ## Looking up -/

namespace Document

/-- The places behind the line feeds of a text that starts at an offset. -/
def startsBehind : Nat → List Char → List Nat
  | _, [] => []
  | o, c :: rest => if c = '\n' then (o + 1) :: startsBehind (o + 1) rest else startsBehind (o + 1) rest

/-- The offsets at which the lines of a document start, in ascending order. -/
def lineStarts (d : Document) : List Nat := 0 :: startsBehind 0 d.text

/-- The position of an offset by the table: its line is the last one that starts by the offset. -/
def looked (d : Document) (o : Nat) : Position :=
  let line := d.lineStarts.countP (· ≤ o) - 1
  ⟨line, (o - d.lineStarts.getD line 0 : Nat)⟩

/-- All places behind line feeds lie behind the start of the text. -/
theorem lt_of_mem_startsBehind {o n : Nat} {text : List Char} (h : n ∈ startsBehind o text) : o < n := by
  induction text generalizing o with
  | nil => simp [startsBehind] at h
  | cons c rest ih =>
    rw [startsBehind] at h
    split at h
    · rcases List.mem_cons.mp h with rfl | hlater
      · exact Nat.lt_succ_self o
      · exact Nat.lt_of_succ_lt (ih hlater)
    · exact Nat.lt_of_succ_lt (ih h)

theorem countP_startsBehind_self (o : Nat) (text : List Char) : (startsBehind o text).countP (· ≤ o) = 0 := by
  rw [List.countP_eq_zero]
  intro n hn
  have hlt := lt_of_mem_startsBehind hn
  simpa using hlt

/-- Writing the front of a text from a character of a line on. The line started at `start`, and the table goes on with
the lines behind it. -/
theorem extent_take_eq (line : Int) {start o k : Nat} {text : List Char} (hstart : start ≤ o)
    (hk : k ≤ text.length) :
    (Position.mk line (o - start : Nat)).extent (text.take k)
      = ⟨line + (startsBehind o text).countP (· ≤ o + k),
          (o + k - (start :: startsBehind o text).getD ((startsBehind o text).countP (· ≤ o + k)) 0 : Nat)⟩ := by
  -- Induction on the text. What has been read is kept as the offset `o` and the start of the line that it lies on.
  induction text generalizing line start o k with
  | nil =>
    obtain rfl : k = 0 := by simpa using hk
    simp [startsBehind, Position.extent_nil]
  | cons c rest ih =>
    rcases k with _ | k
    · simp only [List.take_zero, Position.extent_nil, Nat.add_zero, countP_startsBehind_self]
      simp
    · have hk' : k ≤ rest.length := by simpa using hk
      have hplace : o + (k + 1) = o + 1 + k := by omega
      rw [List.take_succ_cons, Position.extent_cons, Position.advance, startsBehind, hplace]
      by_cases hc : c = '\n'
      · -- the next line of the table is reached
        have hnext := ih (line + 1) (Nat.le_refl (o + 1)) hk'
        rw [Nat.sub_self] at hnext
        rw [if_pos hc, if_pos hc, List.countP_cons_of_pos (by simp), List.getD_cons_succ]
        refine hnext.trans ?_
        rw [Position.mk.injEq]
        refine ⟨?_, rfl⟩
        push_cast
        omega
      · have hnext := ih line (Nat.le_succ_of_le hstart) hk'
        have hcharacter : ((o - start : Nat) : Int) + 1 = (o + 1 - start : Nat) := by omega
        rw [if_neg hc, if_neg hc, hcharacter]
        exact hnext

/-- The position of an offset is where writing the text in front of it arrives. -/
theorem positionAt_eq_extent {d : Document} {o : Nat} (h : o ≤ d.length) :
    d.positionAt o = .ok (Position.zero.extent (d.text.take o)) := by
  have hin : ¬ ((o : Int) < 0 ∨ (o : Int) > d.length) := by omega
  rw [positionAt, if_neg hin, Int.toNat_natCast]

/-- The position of an offset is the one that the table has for it. -/
theorem positionAt_eq_looked {d : Document} {o : Nat} (h : o ≤ d.length) : d.positionAt o = .ok (d.looked o) := by
  have hwrite := extent_take_eq 0 (Nat.le_refl 0) h
  rw [Nat.sub_self, Nat.zero_add] at hwrite
  rw [positionAt_eq_extent h, looked, lineStarts, List.countP_cons_of_pos (by simp), Nat.add_sub_cancel,
    Position.zero]
  exact congrArg Except.ok (by simpa using hwrite)

/-! ## Putting in -/

/-- A document with a text put in at an offset. -/
def inserting (d : Document) (o : Nat) (s : List Char) : Document :=
  { d with text := d.text.take o ++ s ++ d.text.drop o }

theorem length_inserting {d : Document} {o : Nat} (ho : o ≤ d.length) (s : List Char) :
    (d.inserting o s).length = d.length + s.length := by
  rw [length] at ho
  simp only [length, inserting, List.length_append, List.length_take, List.length_drop]
  omega

/-- Where a text that is put in starts, and where it ends. The start is the place that it was before, and the end is
where writing the text from its start arrives. What is written character by character can be counted off, and both
places are the ones that the tables of the two documents have. -/
theorem positionAt_inserted (d : Document) {o : Nat} (s : List Char) (ho : o ≤ d.length) :
    ∃ p, d.positionAt o = .ok p ∧ (d.inserting o s).positionAt o = .ok p ∧
      (d.inserting o s).positionAt (o + s.length : Nat) = .ok (p.extent s) ∧
      p = d.looked o ∧ p = (d.inserting o s).looked o ∧
      p.extent s = p.counted s ∧ p.extent s = (d.inserting o s).looked (o + s.length) := by
  have hlength := length_inserting ho s
  have hbefore := positionAt_eq_extent ho
  have hfront : (d.text.take o).length = o := List.length_take_of_le ho
  -- The front of the text is the same in both documents, so the position of `o` is too, and what is written moves on
  -- from there.
  have hstart : (d.inserting o s).positionAt o = .ok (Position.zero.extent (d.text.take o)) := by
    rw [positionAt_eq_extent (by omega), inserting, List.append_assoc,
      List.take_append_of_le_length (Nat.le_of_eq hfront.symm), List.take_take, Nat.min_self]
  have hend : (d.inserting o s).positionAt (o + s.length : Nat)
      = .ok ((Position.zero.extent (d.text.take o)).extent s) := by
    have hwritten : (d.text.take o ++ s).length = o + s.length := by rw [List.length_append, hfront]
    rw [positionAt_eq_extent (by omega), inserting, List.take_left' hwritten, Position.extent_append]
  refine ⟨_, hbefore, hstart, hend, ?_, ?_, Position.extent_eq_counted _ s, ?_⟩
  · exact Except.ok.inj (hbefore.symm.trans (positionAt_eq_looked ho))
  · exact Except.ok.inj (hstart.symm.trans (positionAt_eq_looked (by omega)))
  · exact Except.ok.inj (hend.symm.trans (positionAt_eq_looked (by omega)))

/-- A text of two lines and an end of line, put in between a carriage return and its line feed. -/
theorem positionAt_inserted_terminator :
    let d : Document := ⟨"a\r\nb".toList, ""⟩
    let s := "x\ny\n".toList
    2 ≤ d.length ∧ ∃ p, d.positionAt (2 : Nat) = .ok p ∧
      (d.inserting 2 s).positionAt (2 + s.length : Nat) = .ok (p.extent s) ∧ p.extent s = p.counted s ∧
      p.counted s = ⟨2, 0⟩ := by
  intro d s
  have ho : 2 ≤ d.length := by decide
  obtain ⟨p, hbefore, -, hend, -, -, hcounted, -⟩ := positionAt_inserted d s ho
  obtain rfl : (⟨0, 2⟩ : Position) = p := Except.ok.inj (Eq.trans (by decide) hbefore)
  exact ⟨ho, _, hbefore, hend, hcounted, by decide⟩

end Document

end Emend
