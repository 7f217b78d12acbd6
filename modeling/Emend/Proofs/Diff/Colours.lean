import Emend.Proofs.Diff.Unified

/-!
# The colours of a diff

The colours are given to the rows of the written diff, by how each row begins. They follow what the lines say, whatever
stands in the two texts, up to one confusion: a removed line that begins with two dashes, or an added one that begins
with two pluses, looks like the name of a file and is bold (`colours_follow_iff`).

Main statements:

* `rows_of_line`, `exists_of_mem_rows`: the rows of the lines of a diff.
* `paintLine_signed`, `follows_lineRow_iff`: how a row is painted, by the sign at its start.
* `lines_coloured`: the coloured text is the painted rows.
* `forall_follows_iff`, `colours_follow_iff`: whether all colours follow the lines.
-/

namespace Emend.Diff

open Text

/-! ## What the colours stand for -/

namespace DiffLine

/-- The style that a line asks for by what it says. -/
def style : DiffLine → Option Style
  | .oldFile _ => some .bold
  | .newFile _ => some .bold
  | .position _ => some .cyan
  | .kept _ => none
  | .removed _ => some .red
  | .added _ => some .green

/-- The line names a file. -/
def IsHeader : DiffLine → Prop
  | .oldFile _ => True
  | .newFile _ => True
  | _ => False

/-- The line does not name a file, but with its sign it begins like one that does. -/
def ImitatesHeader : DiffLine → Prop
  | .removed line => ['-', '-'] <+: line
  | .added line => ['+', '+'] <+: line
  | _ => False

/-- A row of a line in the style of the line. A row without characters has nothing to paint. -/
def paintRow (l : DiffLine) (row : List Char) : List Char :=
  match l.style with
  | some s => if row = [] then [] else s.paint row
  | none => row

end DiffLine

/-- The rows that the lines of a diff take up on a display, each with its line. A line feed stands behind every line
but the last. -/
def rows : List DiffLine → List (DiffLine × List Char)
  | [] => []
  | l :: ls => (brokenLines (l.shown ++ if ls.isEmpty then [] else ['\n'])).map (fun r => (l, r.body)) ++ rows ls

/-- A row has the style of its line. What a break in the name of a file makes of a header is left open. -/
def Follows (x : DiffLine × List Char) (out : List Char) : Prop := x.1.IsHeader ∨ out = x.1.paintRow x.2

/-! ## Rows -/

/-- The rows of a diff are those of its text. -/
theorem map_rows (ls : List DiffLine) :
    (rows ls).map (·.2) = (brokenLines (unlines (ls.map (·.shown)))).map (·.body) := by
  induction ls with
  | nil => rfl
  | cons l ls ih =>
    rcases ls with _ | ⟨m, ls⟩
    · simp [rows, unlines]
    · rw [List.map_cons, List.map_cons, unlines_cons_cons, brokenLines_append_feed, List.map_append, ← List.map_cons,
        ← ih, rows]
      simp

/-- Every row is one of its line, with a line feed behind it or without. -/
theorem exists_of_mem_rows {ls : List DiffLine} {x : DiffLine × List Char} (h : x ∈ rows ls) :
    x.1 ∈ ls ∧ ∃ feed, (feed = [] ∨ feed = ['\n']) ∧ x.2 ∈ (brokenLines (x.1.shown ++ feed)).map (·.body) := by
  -- Induction on the lines: each of them but the last one is followed by a feed.
  induction ls with
  | nil => simp [rows] at h
  | cons l ls ih =>
    rw [rows] at h
    rcases List.mem_append.mp h with h | h
    · obtain ⟨r, hr, rfl⟩ := List.mem_map.mp h
      refine ⟨List.mem_cons_self, _, ?_, List.mem_map_of_mem hr⟩
      split
      · exact .inl rfl
      · exact .inr rfl
    · obtain ⟨hmem, hrow⟩ := ih h
      exact ⟨List.mem_cons_of_mem _ hmem, hrow⟩

/-- Every line has its rows. -/
theorem exists_rows_of_mem {ls : List DiffLine} {l : DiffLine} (h : l ∈ ls) :
    ∃ feed, (feed = [] ∨ feed = ['\n']) ∧ ∀ row ∈ (brokenLines (l.shown ++ feed)).map (·.body), (l, row) ∈ rows ls := by
  -- The same induction the other way.
  induction ls with
  | nil => simp at h
  | cons m ls ih =>
    rw [rows]
    rcases List.mem_cons.mp h with rfl | h
    · refine ⟨if ls.isEmpty then [] else ['\n'], ?_, ?_⟩
      · split
        · exact .inl rfl
        · exact .inr rfl
      · intro row hrow
        obtain ⟨r, hr, rfl⟩ := List.mem_map.mp hrow
        exact List.mem_append_left _ (List.mem_map_of_mem hr)
    · obtain ⟨feed, hfeed, hall⟩ := ih h
      exact ⟨feed, hfeed, fun row hrow => List.mem_append_right _ (hall row hrow)⟩

/-- A text without breaks takes up one row. -/
theorem rows_of_unbroken {s feed : List Char} (hs : Unbroken s) (hne : s ≠ []) (hfeed : feed = [] ∨ feed = ['\n']) :
    (brokenLines (s ++ feed)).map (·.body) = [s] := by
  rcases hfeed with rfl | rfl
  · rw [List.append_nil, brokenLines_of_unbroken hs hne]
    rfl
  · rw [brokenLines_append hs (brokenLines_feed [])]
    simp [brokenLines]

/-- The row of a line of a text: its sign, and the line up to its break. -/
def lineRow (sign : Char) (line : List Char) : List Char := sign :: line.takeWhile fun c => !isLineBreak c

/-- A line of a text takes up one row; behind it comes an empty one if another break than a line feed ends it. -/
theorem rows_of_line {text line feed : List Char} {l : DiffLine} {sign : Char} (hline : line ∈ fileLines text)
    (hfull : l.full = sign :: line) (hsign : isLineBreak sign = false) (hfeed : feed = [] ∨ feed = ['\n']) :
    lineRow sign line ∈ (brokenLines (l.shown ++ feed)).map (·.body) ∧
      ∀ row ∈ (brokenLines (l.shown ++ feed)).map (·.body), row = lineRow sign line ∨ row = [] := by
  rw [fileLines, List.mem_toArray] at hline
  obtain ⟨r, hr, rfl⟩ := List.mem_map.mp hline
  obtain ⟨hbody, hending⟩ := unbroken_of_mem hr
  have hrow : Unbroken (sign :: r.body) := unbroken_cons.mpr ⟨hsign, hbody⟩
  have hne : sign :: r.body ≠ [] := List.cons_ne_nil _ _
  rw [DiffLine.shown_eq, hfull, lineRow, BrokenLine.full, hbody.takeWhile_append hending, ← List.cons_append]
  -- A break that is not dropped ends the row, and what may follow it is an empty row.
  rcases rdropWhile_append_ending hrow hending with hshown | ⟨c, hc, hreturn, hshown⟩
  · rw [hshown, rows_of_unbroken hrow hne hfeed]
    simp
  · rw [hshown, List.append_assoc, List.singleton_append, brokenLines_append hrow (brokenLines_break hc hreturn feed)]
    rcases hfeed with rfl | rfl
    · simp [brokenLines]
    · simp [brokenLines_feed, brokenLines]

/-! ## How rows begin -/

/-- The row of a line that went or came has the colour of the sign, but it is bold if the line begins with the sign
twice more. -/
theorem paintLine_signed {sign : Char} {style : Style}
    (hsign : (sign = '-' ∧ style = .red) ∨ (sign = '+' ∧ style = .green)) (line : List Char) :
    paintLine (lineRow sign line) =
      if [sign, sign] <+: line then Style.bold.paint (lineRow sign line) else style.paint (lineRow sign line) := by
  have hunbroken : Unbroken [sign, sign] := by
    rcases hsign with ⟨rfl, -⟩ | ⟨rfl, -⟩
    · decide
    · decide
  have hstyle : ∀ body, styleOf (sign :: body) = if [sign, sign].isPrefixOf body then some .bold else some style := by
    intro body
    rcases hsign with ⟨rfl, rfl⟩ | ⟨rfl, rfl⟩
    · rfl
    · have hpluses : "+++".toList.isPrefixOf ('+' :: body) = ['+', '+'].isPrefixOf body := rfl
      have hdashes : "---".toList.isPrefixOf ('+' :: body) = false := rfl
      rw [styleOf, hpluses, hdashes, Bool.or_false]
      rfl
  rw [paintLine, lineRow, hstyle]
  -- With its own sign twice at the start, the row looks like the name of a file.
  by_cases himitates : [sign, sign] <+: line
  · rw [if_pos himitates, if_pos (List.isPrefixOf_iff_prefix.mpr (hunbroken.prefix_takeWhile_iff.mpr himitates))]
  · rw [if_neg himitates]
    rw [← hunbroken.prefix_takeWhile_iff, ← List.isPrefixOf_iff_prefix] at himitates
    rw [if_neg himitates]

/-- The row of a line that stayed is left as it is. -/
theorem paintLine_kept (line : List Char) : paintLine (lineRow ' ' line) = lineRow ' ' line := rfl

/-- The row that says where a group lies is cyan. -/
theorem paintLine_position (rest : List Char) :
    paintLine ('@' :: '@' :: rest) = Style.cyan.paint ('@' :: '@' :: rest) := rfl

/-! ## The row that says where a group lies -/

theorem isLineBreak_of_isDigit {c : Char} (h : c.isDigit = true) : isLineBreak c = false := by
  have hrange : 48 ≤ c.toNat ∧ c.toNat ≤ 57 := Char.isDigit_iff_toNat.mp h
  simp [isLineBreak]
  omega

theorem unbroken_toString (n : Nat) : Unbroken (toString n).toList := by
  intro c hc
  rw [Nat.toString_eq_repr, Nat.toList_repr] at hc
  exact isLineBreak_of_isDigit (Nat.isDigit_of_mem_toDigits (by decide) (by decide) hc)

theorem unbroken_append {s t : String} (hs : Unbroken s.toList) (ht : Unbroken t.toList) :
    Unbroken (s ++ t).toList := by
  rw [String.toList_append]
  exact hs.append ht

theorem unbroken_stretch (start stop : Nat) : Unbroken (stretch start stop).toList := by
  rw [stretch]
  split
  · exact unbroken_toString _
  · have hcomma : Unbroken (toString ",").toList := by decide +kernel
    exact unbroken_append (unbroken_append (unbroken_toString _) hcomma) (unbroken_toString _)

/-- Between its signs, the line has two texts without breaks. -/
theorem exists_position {left right : String} (hleft : Unbroken left.toList) (hright : Unbroken right.toList) :
    ∃ rest, Unbroken ('@' :: '@' :: rest) ∧ ("@@ -" ++ left ++ " +" ++ right ++ " @@").toList = '@' :: '@' :: rest := by
  have hopen : Unbroken "@@ -".toList := by decide +kernel
  have hbetween : Unbroken " +".toList := by decide +kernel
  have hclose : Unbroken " @@".toList := by decide +kernel
  have hunbroken : Unbroken ("@@ -" ++ left ++ " +" ++ right ++ " @@").toList :=
    unbroken_append (unbroken_append (unbroken_append (unbroken_append hopen hleft) hbetween) hright) hclose
  -- The header opens with its two signs, and none of its parts has a break.
  have hsigns : ("@@ -" ++ left ++ " +" ++ right ++ " @@").toList =
      '@' :: '@' :: (" -" ++ left ++ " +" ++ right ++ " @@").toList := by
    simp only [String.toList_append]
    rfl
  rw [hsigns] at hunbroken
  exact ⟨_, hunbroken, hsigns⟩

theorem exists_hunkHeader (group : List Change) :
    ∃ rest, Unbroken ('@' :: '@' :: rest) ∧ (hunkHeader group).full = '@' :: '@' :: rest :=
  exists_position (unbroken_stretch _ _) (unbroken_stretch _ _)

/-! ## All rows -/

/-- What is painted in bold is not painted in another style. -/
theorem paint_bold_ne {style : Style} (h : style ≠ .bold) (row : List Char) :
    Style.bold.paint row ≠ style.paint row := by
  cases style with
  | bold => exact absurd rfl h
  | red => simp [Style.paint, Style.code]
  | green => simp [Style.paint, Style.code]
  | cyan => simp [Style.paint, Style.code]

/-- The row of a line that went or came has the style of the line exactly if the line does not begin with the sign
twice more. -/
theorem follows_lineRow_iff {l : DiffLine} {sign : Char} {style : Style}
    (hsign : (sign = '-' ∧ style = .red) ∨ (sign = '+' ∧ style = .green)) (hstyle : l.style = some style)
    (hheader : ¬ l.IsHeader) (line : List Char) :
    Follows (l, lineRow sign line) (paintLine (lineRow sign line)) ↔ ¬ [sign, sign] <+: line := by
  have hbold : style ≠ .bold := by
    rcases hsign with ⟨-, rfl⟩ | ⟨-, rfl⟩
    · decide
    · decide
  have hrow : l.paintRow (lineRow sign line) = style.paint (lineRow sign line) := by
    rw [DiffLine.paintRow, hstyle]
    exact if_neg (List.cons_ne_nil _ _)
  rw [Follows, hrow, paintLine_signed hsign]
  -- A row that imitates a header is bold, and no sign is.
  by_cases himitates : [sign, sign] <+: line
  · rw [if_pos himitates]
    constructor
    · intro hfollows
      exact absurd (hfollows.resolve_left hheader) (paint_bold_ne hbold _)
    · intro hnot
      exact absurd himitates hnot
  · rw [if_neg himitates]
    constructor
    · intro _
      exact himitates
    · intro _
      exact .inr rfl

section

variable {path old new : List Char}

/-- Where a line of a diff imitates no header, its rows have its style. -/
theorem follows_of_not_imitates {x : DiffLine × List Char} (hx : x ∈ rows (diffLines path old new))
    (himitates : ¬ x.1.ImitatesHeader) : Follows x (paintLine x.2) := by
  obtain ⟨l, row⟩ := x
  obtain ⟨hmem, feed, hfeed, hrow⟩ := exists_of_mem_rows hx
  have hfrom := comesFrom_of_mem hmem
  -- One case for each kind of line: each makes one row that is not empty, and that row begins as the line does.
  cases l with
  | oldFile => exact .inl trivial
  | newFile => exact .inl trivial
  | position text =>
    obtain ⟨group, hgroup⟩ := hfrom
    obtain ⟨rest, hunbroken, hfull⟩ := exists_hunkHeader group
    rw [← hgroup] at hfull
    rw [DiffLine.shown_eq, hfull, rdropWhile_of_unbroken hunbroken,
      rows_of_unbroken hunbroken (List.cons_ne_nil _ _) hfeed, List.mem_singleton] at hrow
    obtain rfl := hrow
    exact .inr (paintLine_position rest)
  | kept line =>
    rcases (rows_of_line hfrom rfl (by decide) hfeed).2 row hrow with rfl | rfl
    · exact .inr (paintLine_kept line)
    · exact .inr rfl
  | removed line =>
    rcases (rows_of_line hfrom rfl (by decide) hfeed).2 row hrow with rfl | rfl
    · exact (follows_lineRow_iff (.inl ⟨rfl, rfl⟩) rfl id line).mpr himitates
    · exact .inr rfl
  | added line =>
    rcases (rows_of_line hfrom rfl (by decide) hfeed).2 row hrow with rfl | rfl
    · exact (follows_lineRow_iff (.inr ⟨rfl, rfl⟩) rfl id line).mpr himitates
    · exact .inr rfl

/-- A row of a line that went or came. -/
theorem lineRow_mem_rows {text line : List Char} {l : DiffLine} {sign : Char} (hl : l ∈ diffLines path old new)
    (hline : line ∈ fileLines text) (hfull : l.full = sign :: line) (hsign : isLineBreak sign = false) :
    (l, lineRow sign line) ∈ rows (diffLines path old new) := by
  obtain ⟨feed, hfeed, hall⟩ := exists_rows_of_mem hl
  exact hall _ (rows_of_line hline hfull hsign hfeed).1

/-- A line that imitates a header has a row that has not its style. -/
theorem exists_not_follows {l : DiffLine} (hl : l ∈ diffLines path old new) (himitates : l.ImitatesHeader) :
    ∃ x ∈ rows (diffLines path old new), ¬ Follows x (paintLine x.2) := by
  have hfrom := comesFrom_of_mem hl
  -- Only removed and added lines can imitate a header.
  cases l with
  | oldFile => exact himitates.elim
  | newFile => exact himitates.elim
  | position => exact himitates.elim
  | kept => exact himitates.elim
  | removed line =>
    refine ⟨_, lineRow_mem_rows hl hfrom rfl (by decide), ?_⟩
    rw [follows_lineRow_iff (.inl ⟨rfl, rfl⟩) rfl id, not_not]
    exact himitates
  | added line =>
    refine ⟨_, lineRow_mem_rows hl hfrom rfl (by decide), ?_⟩
    rw [follows_lineRow_iff (.inr ⟨rfl, rfl⟩) rfl id, not_not]
    exact himitates

/-- Where no line of the old text begins with two dashes and none of the new one with two pluses, nothing imitates a
header. -/
theorem not_imitates_of_lines (hold : ∀ line ∈ fileLines old, ¬ ['-', '-'] <+: line)
    (hnew : ∀ line ∈ fileLines new, ¬ ['+', '+'] <+: line) : ∀ l ∈ diffLines path old new, ¬ l.ImitatesHeader := by
  intro l hl
  have hfrom := comesFrom_of_mem hl
  cases l with
  | removed line => exact hold line hfrom
  | added line => exact hnew line hfrom
  | _ => exact id

end

/-! ## The coloured text -/

theorem feed_not_mem_paintLine {row : List Char} (h : Unbroken row) : '\n' ∉ paintLine row := by
  have hrow : '\n' ∉ row := h.not_mem (by decide)
  rw [paintLine]
  split
  · rename_i style _
    cases style with
    | _ => simp [Style.paint, Style.code, hrow]
  · exact hrow

/-- The lines of the coloured text are the painted rows. -/
theorem lines_coloured {ls : List DiffLine} (hne : unlines (ls.map (·.shown)) ≠ []) :
    lines (coloured (unlines (ls.map (·.shown)))) = (rows ls).map fun x => paintLine x.2 := by
  -- The rows are painted one by one and joined again; no painted row has a feed in it.
  have hpainted : (brokenLines (unlines (ls.map (·.shown)))).map (fun r => paintLine r.body) =
      (rows ls).map fun x => paintLine x.2 := by
    have h := congrArg (List.map paintLine) (map_rows ls)
    rw [List.map_map, List.map_map] at h
    exact h.symm
  have hlines : brokenLines (unlines (ls.map (·.shown))) ≠ [] := by
    intro hnone
    have hfull := flatten_full (unlines (ls.map (·.shown)))
    rw [hnone] at hfull
    exact hne hfull.symm
  rw [coloured, lines_unlines_of_not_mem, hpainted]
  · simpa using hlines
  · intro painted hmem
    obtain ⟨r, hr, rfl⟩ := List.mem_map.mp hmem
    exact feed_not_mem_paintLine (unbroken_of_mem hr).1

section

variable {path old new : List Char}

/-- Two texts that differ have a diff, and colouring it paints its rows. -/
theorem exists_coloured (path : List Char) (h : old ≠ new) : ∃ diff, unified path old new = some diff ∧
    lines (coloured diff) = (rows (diffLines path old new)).map fun x => paintLine x.2 :=
  ⟨_, unified_eq_some h, lines_coloured (List.ne_nil_of_mem (dash_mem_unlines h))⟩

/-- A line without breaks has one row. -/
theorem rows_cons_of_unbroken {l : DiffLine} (hl : Unbroken l.full) (hne : l.full ≠ []) (ls : List DiffLine) :
    rows (l :: ls) = (l, l.full) :: rows ls := by
  have hfeed : (if ls.isEmpty then [] else ['\n']) = ([] : List Char) ∨
      (if ls.isEmpty then [] else ['\n']) = ['\n'] := by
    split
    · exact .inl rfl
    · exact .inr rfl
  have hone := congrArg (List.map (Prod.mk l)) (rows_of_unbroken hl hne hfeed)
  rw [List.map_map] at hone
  rw [rows, DiffLine.shown_eq, rdropWhile_of_unbroken hl]
  exact congrArg (· ++ rows ls) hone

/-- A path without breaks is in bold in the two lines at the top. -/
theorem headers_prefix (hpath : Unbroken path) (h : old ≠ new) :
    [Style.bold.paint ("--- a/".toList ++ path), Style.bold.paint ("+++ b/".toList ++ path)] <+:
      (rows (diffLines path old new)).map fun x => paintLine x.2 := by
  have hold : Unbroken (DiffLine.oldFile path).full := Unbroken.append (by decide) hpath
  have hnew : Unbroken (DiffLine.newFile path).full := Unbroken.append (by decide) hpath
  rw [diffLines_eq h, rows_cons_of_unbroken hold (List.cons_ne_nil _ _),
    rows_cons_of_unbroken hnew (List.cons_ne_nil _ _), List.map_cons, List.map_cons]
  exact List.prefix_append [_, _] _

/-- The colours of the rows follow the lines if and only if no line imitates a header. -/
theorem forall_follows_iff : (∀ x ∈ rows (diffLines path old new), Follows x (paintLine x.2)) ↔
    ∀ l ∈ diffLines path old new, ¬ l.ImitatesHeader := by
  constructor
  · intro hall l hl himitates
    obtain ⟨x, hx, hwrong⟩ := exists_not_follows hl himitates
    exact hwrong (hall x hx)
  · intro hnone x hx
    exact follows_of_not_imitates hx (hnone x.1 (exists_of_mem_rows hx).1)

/-- Two texts that differ have a diff. In colour, its rows follow what its lines say exactly if no removed line begins
with two dashes and no added line with two pluses. A path without breaks is in bold in the two lines at the top. -/
theorem colours_follow_iff (path : List Char) (h : old ≠ new) : ∃ diff, unified path old new = some diff ∧
    (Unbroken path → [Style.bold.paint ("--- a/".toList ++ path), Style.bold.paint ("+++ b/".toList ++ path)] <+:
      lines (coloured diff)) ∧
    (List.Forall₂ Follows (rows (diffLines path old new)) (lines (coloured diff)) ↔
      ∀ l ∈ diffLines path old new, ¬ l.ImitatesHeader) := by
  obtain ⟨diff, hdiff, hlines⟩ := exists_coloured path h
  refine ⟨diff, hdiff, ?_, ?_⟩
  · intro hpath
    rw [hlines]
    exact headers_prefix hpath h
  · rw [hlines, List.forall₂_map_right_iff, List.forall₂_same, forall_follows_iff]

end

/-- A line is replaced by another one, without any signs in them. -/
theorem colours_follow_plain : ∃ diff, unified "a.txt".toList "x\n".toList "y\n".toList = some diff ∧
    [Style.bold.paint "--- a/a.txt".toList, Style.bold.paint "+++ b/a.txt".toList] <+: lines (coloured diff) ∧
    List.Forall₂ Follows (rows (diffLines "a.txt".toList "x\n".toList "y\n".toList)) (lines (coloured diff)) := by
  obtain ⟨diff, hdiff, hheaders, hiff⟩ := colours_follow_iff "a.txt".toList
    (by decide : "x\n".toList ≠ "y\n".toList)
  have hold : ∀ line ∈ fileLines "x\n".toList, ¬ ['-', '-'] <+: line := by decide
  have hnew : ∀ line ∈ fileLines "y\n".toList, ¬ ['+', '+'] <+: line := by decide
  exact ⟨diff, hdiff, hheaders (by decide), hiff.mpr (not_imitates_of_lines hold hnew)⟩

/-- A line that begins with two dashes is replaced. Its row is bold, although it is removed. -/
theorem colours_follow_not_dashes : ∃ diff, unified "a.txt".toList "-- x\n".toList "y\n".toList = some diff ∧
    (.removed "-- x\n".toList, "--- x".toList) ∈ rows (diffLines "a.txt".toList "-- x\n".toList "y\n".toList) ∧
    Style.bold.paint "--- x".toList ∈ lines (coloured diff) ∧
    ¬ List.Forall₂ Follows (rows (diffLines "a.txt".toList "-- x\n".toList "y\n".toList)) (lines (coloured diff)) := by
  have hne : "-- x\n".toList ≠ "y\n".toList := by decide
  obtain ⟨diff, hdiff, hlines⟩ := exists_coloured "a.txt".toList hne
  have hold : "-- x\n".toList ∈ fileLines "-- x\n".toList := List.mem_toArray.mpr (by decide)
  have hnew : "-- x\n".toList ∉ fileLines "y\n".toList := mt List.mem_toArray.mp (by decide)
  have hremoved : .removed "-- x\n".toList ∈ diffLines "a.txt".toList "-- x\n".toList "y\n".toList :=
    removed_mem_diffLines hold hnew
  have hrow := lineRow_mem_rows hremoved hold rfl (by decide)
  have himitates : ['-', '-'] <+: "-- x\n".toList := by decide
  have hbold : paintLine (lineRow '-' "-- x\n".toList) = Style.bold.paint (lineRow '-' "-- x\n".toList) :=
    (paintLine_signed (.inl ⟨rfl, rfl⟩) _).trans (if_pos himitates)
  refine ⟨diff, hdiff, hrow, ?_, ?_⟩
  · rw [hlines]
    exact List.mem_map.mpr ⟨_, hrow, hbold⟩
  · rw [hlines, List.forall₂_map_right_iff, List.forall₂_same, forall_follows_iff]
    intro hnone
    exact hnone _ hremoved himitates

end Emend.Diff
