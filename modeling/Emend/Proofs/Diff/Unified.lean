import Emend.Diff.Unified
import Emend.Proofs.Diff.Blocks
import Emend.Proofs.Text.Lines
import Emend.Proofs.Text.Rows

/-!
# What a diff shows

Every place of either text lies in a stretch that stayed, and is the same on the other side then, or in a change; and
every change is shown (`exists_hunk`). So two texts that differ have a diff (`unified_eq_some`), a line of the old text
that is not one of the new text is in it as removed (`removed_mem_diffLines`), and nothing else than lines of the texts
is told as kept, removed or added (`comesFrom_of_mem`).

Main statements:

* `exists_change`, `exists_hunk`: a place lies in a change, and a change is shown.
* `removed_mem_diffLines`, `comesFrom_of_mem`: what is in a diff, and what is not.
* `unified_eq_some`: texts that differ have a diff.
-/

namespace Emend.Diff

open Text

/-! ## Changes -/

section

variable {α : Type} {left right : Array α} {i j m n : Nat} {bs : List Block}

/-- The items of a common block, on both sides. -/
theorem Block.IsCommon.take_eq {b : Block} (h : b.IsCommon left right) :
    (left.toList.drop b.left).take b.size = (right.toList.drop b.right).take b.size := by
  refine List.ext_getElem? fun k => ?_
  simp only [List.getElem?_take, List.getElem?_drop, Array.getElem?_toList]
  split
  · rename_i hk
    obtain ⟨a, hleft, hright⟩ := h k hk
    rw [hleft, hright]
  · rfl

/-- If nothing changes behind two places, the sequences are the same behind them. -/
theorem drop_eq_of_forall_same (h : Aligned left right left.size right.size i j bs)
    (hsame : ∀ c ∈ changesFrom i j left.size right.size bs, c.same = true) :
    left.toList.drop i = right.toList.drop j := by
  -- Induction on the blocks: where nothing is changed, each block starts where the last one ended.
  induction h with
  | @nil i j hi hj =>
    rw [changesFrom] at hsame
    split at hsame
    · simp at hsame
    · rename_i hend
      have hends : left.size ≤ i ∧ right.size ≤ j := by simpa using hend
      rw [List.drop_of_length_le hends.1, List.drop_of_length_le hends.2]
  | @cons i j b rest hi hj hb _ ih =>
    rw [changesFrom] at hsame
    split at hsame
    · simp at hsame
    · rename_i hnext
      have hstarts : b.left ≤ i ∧ b.right ≤ j := by simpa using hnext
      obtain rfl := Nat.le_antisymm hi hstarts.1
      obtain rfl := Nat.le_antisymm hj hstarts.2
      have hrest := ih fun c hc => hsame c (List.mem_cons_of_mem _ hc)
      rw [← List.take_append_drop b.size (left.toList.drop b.left), hb.take_eq, List.drop_drop, hrest, ← List.drop_drop,
        List.take_append_drop]

/-- What stands between two places is in the part between them. -/
theorem mem_extract {xs : Array α} {a : α} {start stop p : Nat} (ha : xs[p]? = some a) (hstart : start ≤ p)
    (hstop : p < stop) : a ∈ (xs.extract start stop).toList := by
  have hsize := (Array.getElem?_eq_some_iff.mp ha).1
  have hplace : (xs.extract start stop)[p - start]? = some a := by
    rw [Array.getElem?_extract, if_pos (by omega), Nat.add_sub_of_le hstart, ha]
  exact Array.mem_toList_iff.mpr (Array.mem_of_getElem? hplace)

/-- A block is a change that stays, and the changes behind it are changes. -/
theorem mem_changesFrom_cons {b : Block} {c : Change}
    (h : c ∈ ⟨true, b.left, b.left + b.size, b.right, b.right + b.size⟩ ::
      changesFrom (b.left + b.size) (b.right + b.size) m n bs) : c ∈ changesFrom i j m n (b :: bs) := by
  rw [changesFrom]
  split
  · exact List.mem_cons_of_mem _ h
  · exact h

/-- Every place of the left sequence lies in a change, and what stands there stands on the right side as well if the
change is a stretch that stayed. -/
theorem exists_change (h : Aligned left right m n i j bs) {p : Nat} (hi : i ≤ p) (hp : p < m) :
    ∃ c ∈ changesFrom i j m n bs, (c.leftStart ≤ p ∧ p < c.leftStop) ∧
      (c.same = true → ∃ a ∈ right, left[p]? = some a) := by
  -- Induction on the blocks: the place lies in front of the first block, in it, or behind it.
  induction h with
  | @nil i j _ _ =>
    have hchange : (i < m || j < n) = true := by simp [Nat.lt_of_le_of_lt hi hp]
    rw [changesFrom, if_pos hchange]
    exact ⟨_, List.mem_singleton_self _, ⟨hi, hp⟩, by simp⟩
  | @cons i j b rest _ _ hb _ ih =>
    rcases Nat.lt_or_ge p b.left with hbefore | hbehind
    · have hchange : (i < b.left || j < b.right) = true := by simp [Nat.lt_of_le_of_lt hi hbefore]
      rw [changesFrom, if_pos hchange]
      exact ⟨_, List.mem_cons_self, ⟨hi, hbefore⟩, by simp⟩
    · rcases Nat.lt_or_ge p (b.left + b.size) with hinside | hafter
      · refine ⟨_, mem_changesFrom_cons List.mem_cons_self, ⟨hbehind, hinside⟩, fun _ => ?_⟩
        obtain ⟨a, hleft, hright⟩ := hb (p - b.left) (by omega)
        rw [Nat.add_sub_of_le hbehind] at hleft
        exact ⟨a, Array.mem_of_getElem? hright, hleft⟩
      · obtain ⟨c, hc, hplace, hsame⟩ := ih hafter
        exact ⟨c, mem_changesFrom_cons (List.mem_cons_of_mem _ hc), hplace, hsame⟩

end

/-! ## Groups of changes -/

section

variable {c : Change} {cs : List Change}

/-- Only stretches that stayed are cut. -/
theorem Change.tail_of_not_same (h : c.same = false) : c.tail = c := by
  simp [tail, h]

theorem Change.head_of_not_same (h : c.same = false) : c.head = c := by
  simp [head, h]

theorem mem_trimFirst (h : c ∈ cs) (hsame : c.same = false) : c ∈ trimFirst cs := by
  rcases cs with _ | ⟨d, cs⟩
  · simp at h
  · rcases List.mem_cons.mp h with rfl | h
    · rw [trimFirst, Change.tail_of_not_same hsame]
      exact List.mem_cons_self
    · exact List.mem_cons_of_mem _ h

theorem mem_trimLast (h : c ∈ cs) (hsame : c.same = false) : c ∈ trimLast cs := by
  fun_induction trimLast cs with
  | case1 => simp at h
  | case2 d =>
    obtain rfl := List.mem_singleton.mp h
    simp [Change.head_of_not_same hsame]
  | case3 d rest _ ih =>
    rcases List.mem_cons.mp h with rfl | h
    · exact List.mem_cons_self
    · exact List.mem_cons_of_mem _ (ih h)

/-- A group with a change in it is shown. -/
theorem isHunk_of_mem (h : c ∈ cs) (hsame : c.same = false) : isHunk cs = true := by
  rcases cs with _ | ⟨d, _ | ⟨e, cs⟩⟩
  · simp at h
  · obtain rfl := List.mem_singleton.mp h
    simp [isHunk, hsame]
  · rfl

/-- A change gets into one of the groups, from the current one or from those to come. -/
theorem exists_mem_groupsFrom {group : List Change} (h : c ∈ group ∨ c ∈ cs) (hsame : c.same = false) :
    ∃ g ∈ groupsFrom group cs, c ∈ g := by
  induction cs generalizing group with
  | nil =>
    have hgroup : c ∈ group := by simpa using h
    rw [groupsFrom, if_pos (isHunk_of_mem hgroup hsame)]
    exact ⟨_, List.mem_singleton_self _, List.mem_reverse.mpr hgroup⟩
  | cons d rest ih =>
    rw [groupsFrom]
    split
    · rename_i hlong
      -- the long stretch that stayed is not the change
      have hd : c ≠ d := by
        rintro rfl
        simp [hsame] at hlong
      rcases h with h | h
      · exact ⟨_, List.mem_cons_self, by simp [h]⟩
      · have hlater : c ∈ [d.tail] ∨ c ∈ rest := .inr ((List.mem_cons.mp h).resolve_left hd)
        obtain ⟨g, hg, hcg⟩ := ih hlater
        exact ⟨g, List.mem_cons_of_mem _ hg, hcg⟩
    · refine ih ?_
      rcases h with h | h
      · exact .inl (List.mem_cons_of_mem _ h)
      · rcases List.mem_cons.mp h with rfl | h
        · exact .inl List.mem_cons_self
        · exact .inr h

/-- Every change is shown. -/
theorem exists_hunk (h : c ∈ cs) (hsame : c.same = false) : ∃ g ∈ hunks cs, c ∈ g :=
  exists_mem_groupsFrom (.inr (mem_trimLast (mem_trimFirst h hsame) hsame)) hsame

end

/-! ## Lines -/

section

variable {path old new : List Char}

/-- The changes from the lines of a text to those of another one. -/
def fileChanges (old new : List Char) : List Change :=
  changes ((fileLines old).map String.ofList) ((fileLines new).map String.ofList)

theorem aligned_fileLines (old new : List Char) :
    Aligned ((fileLines old).map String.ofList) ((fileLines new).map String.ofList)
      ((fileLines old).map String.ofList).size ((fileLines new).map String.ofList).size 0 0
      (blocks ((fileLines old).map String.ofList) ((fileLines new).map String.ofList)) :=
  aligned_blocks _ _

/-- A text is made of its lines. -/
theorem flatten_fileLines (text : List Char) : (fileLines text).toList.flatten = text := by
  rw [fileLines, List.toList_toArray, flatten_full]

/-- Between two texts that differ, something changes. -/
theorem exists_change_of_ne (h : old ≠ new) : ∃ c ∈ fileChanges old new, c.same = false := by
  by_contra hnone
  push Not at hnone
  have hsame := drop_eq_of_forall_same (aligned_fileLines old new) fun c hc => by simpa using hnone c hc
  simp only [List.drop_zero, Array.toList_map] at hsame
  have hlines := List.map_injective_iff.mpr (fun _ _ => String.ofList_inj.mp) hsame
  rw [← flatten_fileLines old, ← flatten_fileLines new, hlines] at h
  exact h rfl

/-- The diff of two texts that differ: what names the file, and then the groups of changes. -/
theorem diffLines_eq (h : old ≠ new) : diffLines path old new = .oldFile path :: .newFile path ::
    (hunks (fileChanges old new)).flatMap (hunkLines (fileLines old) (fileLines new)) := by
  obtain ⟨c, hc, hsame⟩ := exists_change_of_ne h
  obtain ⟨g, hg, -⟩ := exists_hunk hc hsame
  rw [diffLines]
  split
  · rename_i hnone
    rw [fileChanges, hnone] at hg
    simp at hg
  · rfl

/-- A line of the old text that is none of the new text is shown as removed. -/
theorem removed_mem_diffLines {line : List Char} (hold : line ∈ fileLines old) (hnew : line ∉ fileLines new) :
    .removed line ∈ diffLines path old new := by
  have hne : old ≠ new := by
    rintro rfl
    exact hnew hold
  obtain ⟨p, hline⟩ := Array.mem_iff_getElem?.mp hold
  have hp : p < ((fileLines old).map String.ofList).size := by
    simpa using (Array.getElem?_eq_some_iff.mp hline).1
  -- The line lies in some stretch. Had this one stayed, the line would be one of the new text.
  obtain ⟨c, hc, ⟨hstart, hstop⟩, hstayed⟩ := exists_change (aligned_fileLines old new) (Nat.zero_le p) hp
  have hsame : c.same = false := by
    by_contra hsame
    obtain ⟨a, ha, hleft⟩ := hstayed (by simpa using hsame)
    obtain ⟨other, hother, rfl⟩ := Array.mem_map.mp ha
    rw [Array.getElem?_map, hline, Option.map_some, Option.some.injEq, String.ofList_inj] at hleft
    exact hnew (hleft ▸ hother)
  obtain ⟨g, hg, hcg⟩ := exists_hunk hc hsame
  rw [diffLines_eq hne]
  refine List.mem_cons_of_mem _ (List.mem_cons_of_mem _ (List.mem_flatMap.mpr ⟨g, hg, ?_⟩))
  refine List.mem_cons_of_mem _ (List.mem_flatMap.mpr ⟨c, hcg, ?_⟩)
  rw [changeLines, hsame]
  exact List.mem_append_left _ (List.mem_map_of_mem (mem_extract hline hstart hstop))

/-- What a line of a diff says is there: it names the file, says where a group lies, or has a line of the texts that
it is about. -/
def DiffLine.ComesFrom (path old new : List Char) : DiffLine → Prop
  | .oldFile p => p = path
  | .newFile p => p = path
  | .position text => ∃ group, .position text = hunkHeader group
  | .kept line => line ∈ fileLines old
  | .removed line => line ∈ fileLines old
  | .added line => line ∈ fileLines new

theorem mem_of_mem_extract {α : Type} {xs : Array α} {a : α} {start stop : Nat}
    (h : a ∈ (xs.extract start stop).toList) : a ∈ xs := by
  rw [Array.toList_extract] at h
  exact Array.mem_toList_iff.mp (List.mem_of_mem_drop (List.mem_of_mem_take h))

theorem comesFrom_of_mem_changeLines {l : DiffLine} {c : Change}
    (h : l ∈ changeLines (fileLines old) (fileLines new) c) : l.ComesFrom path old new := by
  rw [changeLines] at h
  split at h
  · obtain ⟨line, hline, rfl⟩ := List.mem_map.mp h
    exact mem_of_mem_extract hline
  · rcases List.mem_append.mp h with h | h
    · obtain ⟨line, hline, rfl⟩ := List.mem_map.mp h
      exact mem_of_mem_extract hline
    · obtain ⟨line, hline, rfl⟩ := List.mem_map.mp h
      exact mem_of_mem_extract hline

/-- A diff says nothing but what is there. -/
theorem comesFrom_of_mem {l : DiffLine} (h : l ∈ diffLines path old new) : l.ComesFrom path old new := by
  rw [diffLines] at h
  split at h
  · simp at h
  · rcases List.mem_cons.mp h with rfl | h
    · rfl
    · rcases List.mem_cons.mp h with rfl | h
      · rfl
      · obtain ⟨g, -, h⟩ := List.mem_flatMap.mp h
        -- The two names of files, then for each hunk its header and the lines of its changes.
        rcases List.mem_cons.mp h with rfl | h
        · exact ⟨g, rfl⟩
        · obtain ⟨c, -, h⟩ := List.mem_flatMap.mp h
          exact comesFrom_of_mem_changeLines h

end

/-! ## Lines as they are shown -/

/-- The characters that a line does not show at its end. -/
def isDropped (c : Char) : Bool := c == '\r' || c == '\n'

theorem DiffLine.shown_eq (l : DiffLine) : l.shown = l.full.rdropWhile isDropped := rfl

theorem isLineBreak_of_isDropped {c : Char} (h : isDropped c = true) : isLineBreak c = true := by
  simp only [isDropped, Bool.or_eq_true, beq_iff_eq] at h
  rcases h with rfl | rfl
  · decide
  · decide

/-- A character that is not dropped is shown. -/
theorem DiffLine.mem_shown {l : DiffLine} {c : Char} (hc : c ∈ l.full) (hshown : isDropped c = false) :
    c ∈ l.shown := by
  rw [← List.rdropWhile_append_rtakeWhile (p := isDropped) (l := l.full)] at hc
  rcases List.mem_append.mp hc with hc | hc
  · exact hc
  · simp [List.mem_rtakeWhile_imp hc] at hshown

/-- Without breaks, a text is shown as it is. -/
theorem rdropWhile_of_unbroken {s : List Char} (hs : Unbroken s) : s.rdropWhile isDropped = s := by
  rw [List.rdropWhile_eq_self_iff]
  intro hne hdropped
  exact hs.not_mem (isLineBreak_of_isDropped hdropped) (List.getLast_mem hne)

/-- The break at the end of a line is dropped, if it is not one that no carriage return and no line feed belongs to. -/
theorem rdropWhile_append_ending {s e : List Char} (hs : Unbroken s) (he : IsEnding e) :
    (s ++ e).rdropWhile isDropped = s ∨
      ∃ c, isLineBreak c = true ∧ c ≠ '\r' ∧ (s ++ e).rdropWhile isDropped = s ++ [c] := by
  have hself := rdropWhile_of_unbroken hs
  -- What a row ends in is a break of one or two characters or none, and only some breaks are dropped.
  rcases he with rfl | rfl | ⟨c, hc, rfl⟩
  · rw [List.append_nil]
    exact .inl hself
  · have hpair : s ++ ['\r', '\n'] = s ++ ['\r'] ++ ['\n'] := by simp
    rw [hpair, List.rdropWhile_concat_pos _ _ _ (by decide), List.rdropWhile_concat_pos _ _ _ (by decide)]
    exact .inl hself
  · by_cases hdropped : isDropped c = true
    · rw [List.rdropWhile_concat_pos _ _ _ hdropped]
      exact .inl hself
    · refine .inr ⟨c, hc, ?_, List.rdropWhile_concat_neg _ _ _ hdropped⟩
      rintro rfl
      exact hdropped (by decide)

/-- The diff of two texts that differ begins with the name of the file. -/
theorem dash_mem_unlines {path old new : List Char} (h : old ≠ new) :
    '-' ∈ unlines ((diffLines path old new).map (·.shown)) := by
  have hshown : '-' ∈ (DiffLine.oldFile path).shown :=
    DiffLine.mem_shown (List.mem_append_left path (by decide)) (by decide)
  have hline : (DiffLine.oldFile path).shown ∈ (diffLines path old new).map (·.shown) := by
    rw [diffLines_eq h]
    exact List.mem_map_of_mem List.mem_cons_self
  exact (infix_unlines hline).subset hshown

/-- Two texts that differ have a diff. -/
theorem unified_eq_some {path old new : List Char} (h : old ≠ new) :
    unified path old new = some (unlines ((diffLines path old new).map (·.shown))) := by
  have htext : isBlankText (unlines ((diffLines path old new).map (·.shown))) = false := by
    rw [isBlankText, List.all_eq_false]
    exact ⟨'-', dash_mem_unlines h, by decide⟩
  rw [unified, if_neg (by simpa using h)]
  simp only [htext]
  rfl

end Emend.Diff
