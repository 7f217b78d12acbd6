import Emend.Ledger.Baseline
import Emend.Proofs.Attempt
import Emend.Proofs.Document.Coordinates

/-!
# What a baseline has in a range

Inside of a text, the ledger's way to read a range gives the characters between the offsets of its two
positions (`baselineText_eq`), as the document's own way does. Outside of a text it still gives something: no line
is ever asked for that is not there (`readRange_eq_ok`).

Main statements:

* `baselineText_middle`, `baselineText_eq`: a range inside of the text.
* `readLine_eq_ok`, `readRange_eq_ok`: no line is asked for that is not there.
* `baselineText_eq_textIn`: the ledger and the document read the same.
-/

namespace Emend

open Text

theorem clampBound_natCast (n i : Nat) : clampBound n (i : Int) = min i n := by
  simp [clampBound]

theorem slice_middle {α : Type} (s t u : List α) :
    slice (s ++ (t ++ u)) (s.length : Nat) (s.length + t.length : Nat) = t := by
  have hstart : min s.length (s ++ (t ++ u)).length = s.length := by simp
  have hstop : min (s.length + t.length) (s ++ (t ++ u)).length = s.length + t.length := by
    simp
  simp only [slice, clampBound_natCast, hstart, hstop]
  simp

theorem sliceFrom_append {α : Type} (s t : List α) : sliceFrom (s ++ t) (s.length : Nat) = t := by
  simp [sliceFrom, clampBound_natCast]

theorem sliceTo_append {α : Type} (s t : List α) : sliceTo (s ++ t) (s.length : Nat) = s := by
  simp [sliceTo, clampBound_natCast]

theorem lineOrEmpty_natCast (ls : List (List Char)) (n : Nat) :
    lineOrEmpty ls (n : Int) = ls.getD n [] := by
  simp [lineOrEmpty]

/-- The line behind the first `n` lines. -/
theorem lineOrEmpty_append {ls more : List (List Char)} {l : List Char} {n : Nat}
    (hn : ls.length = n) : lineOrEmpty (ls ++ l :: more) (n : Int) = l := by
  rw [lineOrEmpty_natCast, ← hn]
  simp

/-- The lines strictly between two lines are those that stand between them. -/
theorem linesBetween_append (before mid after : List (List Char)) (first last : List Char) :
    linesBetween (before ++ first :: (mid ++ last :: after)) (before.length : Nat)
      (before.length + 1 + mid.length : Nat) = mid := by
  have hcount : (((before.length + 1 + mid.length : Nat) : Int) - (before.length : Nat) - 1).toNat
      = mid.length := by omega
  unfold linesBetween
  rw [hcount]
  -- line by line: the k-th one between the two is the k-th one in the middle
  apply List.ext_getElem
  · simp
  · intro k hk hmid
    have hindex :
        ((before.length : Nat) : Int) + 1 + (k : Nat) = ((before.length + 1 + k : Nat) : Int) := by
      omega
    have hsub : before.length + 1 + k - before.length = k + 1 := by omega
    simp only [List.getElem_map, List.getElem_range, hindex, lineOrEmpty_natCast]
    rw [List.getD_eq_getElem?_getD, List.getElem?_append_right (by omega), hsub,
      List.getElem?_cons_succ, List.getElem?_append_left hmid, List.getElem?_eq_getElem hmid]
    rfl

/-- What stands between two parts of a text is read back from the range that it covers. -/
theorem baselineText_middle (s t u : List Char)
    (h : Position.zero.extent s ≤ Position.zero.extent (s ++ t)) :
    baselineText (s ++ t ++ u) ⟨Position.zero.extent s, Position.zero.extent (s ++ t), h⟩ = t := by
  obtain ⟨before, last, hs⟩ := exists_lines_eq_append s
  obtain ⟨opening, mids, ht⟩ := exists_lines_eq_cons t
  obtain ⟨first, after, hu⟩ := exists_lines_eq_cons u
  have hst := lines_append hs ht
  have hback := unlines_lines t
  rw [ht] at hback
  rcases List.eq_nil_or_concat mids with rfl | ⟨mid, closing, hmids⟩
  · -- the range lies in one line
    have hopening : opening = t := by simpa [unlines] using hback
    subst hopening
    have hall := lines_append hst hu
    simp only [baselineText, Position.extent_zero hs, Position.extent_zero hst, hall, if_true]
    rw [lineOrEmpty_append rfl, List.append_assoc, List.length_append]
    exact slice_middle last opening first
  · -- the range starts in one line and ends in a later one
    have hconcat : mids = mid ++ [closing] := by simpa using hmids
    subst hconcat
    have hst' : lines (s ++ t) = (before ++ (last ++ opening) :: mid) ++ [closing] := by
      simpa using hst
    have hall := lines_append hst' hu
    have hshape : lines (s ++ t ++ u)
        = before ++ (last ++ opening) :: (mid ++ (closing ++ first) :: after) := by
      simpa using hall
    have hend : (before ++ (last ++ opening) :: mid).length = before.length + 1 + mid.length := by
      simp only [List.length_append, List.length_cons]
      omega
    have hlines : ((before.length : Nat) : Int) ≠ ((before.length + 1 + mid.length : Nat) : Int) := by
      omega
    simp only [baselineText, Position.extent_zero hs, Position.extent_zero hst', hend, hlines,
      if_false]
    rw [hall, lineOrEmpty_append hend, ← hall, hshape, lineOrEmpty_append rfl,
      linesBetween_append, sliceFrom_append, sliceTo_append]
    simpa using hback

/-- Inside of a text, the text of a range is what stands between the two offsets. -/
theorem baselineText_eq {text : List Char} {uri : String} {r : Range} {a b : Nat}
    (ha : (Document.mk text uri).offsetAt r.start = .ok a)
    (hb : (Document.mk text uri).offsetAt r.stop = .ok b) :
    baselineText text r = (text.drop a).take (b - a) := by
  have hab : a ≤ b := (Document.offsetAt_le_iff ha hb).mpr r.start_le_stop
  obtain ⟨start, stop, hle⟩ := r
  obtain ⟨-, rfl⟩ := Document.offsetAt_eq_ok_iff.mp ha
  obtain ⟨-, rfl⟩ := Document.offsetAt_eq_ok_iff.mp hb
  have hjoined : text.take a ++ (text.drop a).take (b - a) = text.take b := by
    rw [← List.take_add, Nat.add_sub_cancel' hab]
  -- the text in three parts: before the range, in it, and behind it
  have hmiddle := baselineText_middle (text.take a) ((text.drop a).take (b - a)) (text.drop b)
    (by rw [hjoined]; exact hle)
  simpa only [hjoined, List.take_append_drop] using hmiddle

/-! ## Line by line -/

/-- A line that is asked for and is not there. -/
structure MissingLine where
  line : Int
  count : Nat
  deriving DecidableEq, Repr

/-- The line at an index, if there is one. An index below zero counts from the end. -/
def lineAt (ls : List (List Char)) (n : Int) : Except MissingLine (List Char) :=
  let i := if n < 0 then ls.length + n else n
  if i < 0 then .error ⟨n, ls.length⟩
  else match ls[i.toNat]? with
    | some l => .ok l
    | none => .error ⟨n, ls.length⟩

/-- A line that is asked for only if the text has it. -/
def readLine (ls : List (List Char)) (n : Int) : Except MissingLine (List Char) :=
  if 0 ≤ n ∧ n < ls.length then lineAt ls n else .ok []

/-- The text of a range, each of its lines asked for at its index. -/
def readRange (text : List Char) (r : Range) : Except MissingLine (List Char) := do
  let ls := lines text
  if r.start.line = r.stop.line then
    let line ← readLine ls r.start.line
    return slice line r.start.character r.stop.character
  else
    let first ← readLine ls r.start.line
    let middle ← (List.range (r.stop.line - r.start.line - 1).toNat).mapM fun (k : Nat) =>
      readLine ls (r.start.line + 1 + k)
    let last ← readLine ls r.stop.line
    return unlines (sliceFrom first r.start.character :: middle ++ [sliceTo last r.stop.character])

/-- The guard lets no index through that is outside of the lines. -/
theorem readLine_eq_ok (ls : List (List Char)) (n : Int) : readLine ls n = .ok (lineOrEmpty ls n) := by
  unfold readLine lineOrEmpty
  by_cases hbelow : n < 0
  · rw [if_neg (by omega), if_pos hbelow]
  · rw [if_neg hbelow]
    by_cases habove : n < ls.length
    · have hplace : n.toNat < ls.length := by omega
      rw [if_pos ⟨by omega, habove⟩, lineAt, if_neg hbelow, if_neg hbelow, List.getElem?_eq_getElem hplace,
        List.getD_eq_getElem ls [] hplace]
    -- a line that the text does not have reads as empty
    · have hplace : ls.length ≤ n.toNat := by omega
      rw [if_neg (by omega), List.getD_eq_default ls [] hplace]

/-- Every range is read, wherever it lies. -/
theorem readRange_eq_ok (text : List Char) (r : Range) : readRange text r = .ok (baselineText text r) := by
  unfold readRange baselineText
  by_cases hline : r.start.line = r.stop.line
  · rw [if_pos hline, if_pos hline]
    exact Attempt.bind_eq_ok.mpr ⟨_, readLine_eq_ok _ _, rfl⟩
  -- each line between the first and the last can be read
  · have hmiddle : ((List.range (r.stop.line - r.start.line - 1).toNat).mapM fun (k : Nat) =>
        readLine (lines text) (r.start.line + 1 + k))
        = .ok (linesBetween (lines text) r.start.line r.stop.line) :=
      Attempt.mapM_eq_ok fun k _ => readLine_eq_ok (lines text) (r.start.line + 1 + k)
    rw [if_neg hline, if_neg hline]
    refine Attempt.bind_eq_ok.mpr ⟨_, readLine_eq_ok _ _, ?_⟩
    refine Attempt.bind_eq_ok.mpr ⟨_, hmiddle, ?_⟩
    exact Attempt.bind_eq_ok.mpr ⟨_, readLine_eq_ok _ _, rfl⟩

/-- What the ledger reads of a range it reads without asking for a line that is missing. Where the document has
both positions of the range, the document reads the same. -/
theorem baselineText_eq_textIn (text : List Char) (r : Range) :
    readRange text r = .ok (baselineText text r) ∧
    ∀ (uri : String) (a b : Nat), (Document.mk text uri).offsetAt r.start = .ok a →
      (Document.mk text uri).offsetAt r.stop = .ok b →
      (Document.mk text uri).textIn r = .ok (baselineText text r) := by
  refine ⟨readRange_eq_ok text r, ?_⟩
  intro uri a b ha hb
  rw [baselineText_eq ha hb]
  exact Attempt.bind_eq_ok.mpr ⟨a, ha, Attempt.bind_eq_ok.mpr ⟨b, hb, rfl⟩⟩

/-- A range over a return and an empty line is read alike, and one that lies outside of the text is read too. -/
theorem baselineText_eq_textIn_outside :
    let text := ['a', '\r', '\n', '\n', 'b']
    let inside : Range := ⟨⟨0, 1⟩, ⟨2, 0⟩, by decide⟩
    let outside : Range := ⟨⟨-1, 3⟩, ⟨1, -2⟩, by decide⟩
    (Document.mk text "").offsetAt inside.start = .ok 1 ∧
    (Document.mk text "").offsetAt inside.stop = .ok 4 ∧
    (Document.mk text "").textIn inside = .ok ['\r', '\n', '\n'] ∧
    readRange text outside = .ok ['\n', 'a', '\r', '\n'] := by
  refine ⟨by decide, by decide, ?_, ?_⟩
  · exact (baselineText_eq_textIn _ _).2 "" 1 4 (by decide) (by decide)
  · exact (baselineText_eq_textIn _ _).1

end Emend
