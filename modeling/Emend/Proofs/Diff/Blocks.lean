import Mathlib
import Emend.Diff.Blocks

/-!
# Matching blocks are common and in order

Every step of the search for the longest block of a region keeps to what the two sequences have in common there
(`longestBlock_inside`). So the blocks of two sequences hold the same items on both sides, and none of them starts in
front of the end of the one before it, on neither side (`aligned_blocks`).

Main statements:

* `runEnds_extendRuns`, `inside_longer`: one row of the search: the runs that end in it, and the longest so far.
* `inside_longestRun`, `longestBlock_inside`: the search through a region.
* `aligned_blocksIn`, `aligned_blocks`: the blocks of two sequences.
-/

namespace Emend.Diff

variable {α : Type} {left right : Array α}

/-! ## Blocks of a region -/

/-- The items of a block are the same on both sides. -/
def Block.IsCommon (left right : Array α) (b : Block) : Prop :=
  ∀ k < b.size, ∃ a, left[b.left + k]? = some a ∧ right[b.right + k]? = some a

/-- A common block that lies in a region. -/
structure Block.Inside (left right : Array α) (r : Region) (b : Block) : Prop where
  leftStart : r.leftStart ≤ b.left
  leftStop : b.left + b.size ≤ r.leftStop
  rightStart : r.rightStart ≤ b.right
  rightStop : b.right + b.size ≤ r.rightStop
  common : b.IsCommon left right

section

variable {r : Region} {b : Block} {a : α}

/-- One more common item behind a common block. -/
theorem Block.IsCommon.succ (h : b.IsCommon left right) (hleft : left[b.left + b.size]? = some a)
    (hright : right[b.right + b.size]? = some a) : IsCommon left right ⟨b.left, b.right, b.size + 1⟩ := by
  intro k hk
  rcases Nat.lt_succ_iff_lt_or_eq.mp hk with hk | rfl
  · exact h k hk
  · exact ⟨a, hleft, hright⟩

/-- A common block and one that follows it on both sides are one common block. -/
theorem Block.IsCommon.append {c : Block} (hb : b.IsCommon left right) (hc : c.IsCommon left right)
    (hleft : b.left + b.size = c.left) (hright : b.right + b.size = c.right) :
    IsCommon left right ⟨b.left, b.right, b.size + c.size⟩ := by
  intro k hk
  rcases Nat.lt_or_ge k b.size with hlt | hge
  · exact hb k hlt
  · have hin : k - b.size < c.size := Nat.sub_lt_left_of_lt_add hge hk
    have hplaces : c.left + (k - b.size) = b.left + k ∧ c.right + (k - b.size) = b.right + k := by omega
    have hsame := hc (k - b.size) hin
    rwa [hplaces.1, hplaces.2] at hsame

/-- A common block grows by one item towards its end. -/
theorem Block.Inside.succ (h : b.Inside left right r) (hleft : left[b.left + b.size]? = some a)
    (hright : right[b.right + b.size]? = some a) (hleftStop : b.left + b.size < r.leftStop)
    (hrightStop : b.right + b.size < r.rightStop) : Inside left right r ⟨b.left, b.right, b.size + 1⟩ :=
  ⟨h.leftStart, hleftStop, h.rightStart, hrightStop, h.common.succ hleft hright⟩

/-- A common block grows by one item towards its start. -/
theorem Block.Inside.pred (h : b.Inside left right r) (hleft : left[b.left - 1]? = some a)
    (hright : right[b.right - 1]? = some a) (hleftStart : r.leftStart < b.left)
    (hrightStart : r.rightStart < b.right) : Inside left right r ⟨b.left - 1, b.right - 1, b.size + 1⟩ := by
  -- One more item in front of a common block, so the bounds move by one.
  have hone : IsCommon left right ⟨b.left - 1, b.right - 1, 1⟩ := by
    intro k hk
    obtain rfl : k = 0 := by simpa using hk
    exact ⟨a, hleft, hright⟩
  have hmore : IsCommon left right ⟨b.left - 1, b.right - 1, 1 + b.size⟩ :=
    hone.append h.common (Nat.sub_add_cancel (Nat.zero_lt_of_lt hleftStart))
      (Nat.sub_add_cancel (Nat.zero_lt_of_lt hrightStart))
  have hleftStop : b.left - 1 + (b.size + 1) ≤ r.leftStop := by
    have hstop := h.leftStop
    omega
  have hrightStop : b.right - 1 + (b.size + 1) ≤ r.rightStop := by
    have hstop := h.rightStop
    omega
  rw [Nat.add_comm 1] at hmore
  exact ⟨Nat.le_sub_one_of_lt hleftStart, hleftStop, Nat.le_sub_one_of_lt hrightStart, hrightStop, hmore⟩

end

/-! ## Positions -/

section

variable [BEq α] [LawfulBEq α]

theorem exists_of_sameAt {i j : Nat} (h : sameAt left right i j = true) :
    ∃ a, left[i]? = some a ∧ right[j]? = some a := by
  rw [sameAt] at h
  split at h
  · rename_i a b hleft hright
    obtain rfl := eq_of_beq h
    exact ⟨a, hleft, hright⟩
  · simp at h

variable [Hashable α]

/-- The positions of an item are those of the places where it stands. -/
theorem getD_indexFrom (item : α) (items : List α) (p : Nat) :
    (indexFrom p items).getD item [] = ((items.zipIdx p).filter (·.1 == item)).map (·.2) := by
  induction items generalizing p with
  | nil => simp [indexFrom]
  | cons first rest ih =>
    rw [indexFrom, Std.HashMap.getD_insert, List.zipIdx_cons]
    by_cases h : first == item
    · obtain rfl := eq_of_beq h
      simp [ih]
    · simp [h, ih]

/-- The positions of an item ascend. -/
theorem pairwise_getD_indexFrom (item : α) (items : List α) :
    ((indexFrom 0 items).getD item []).Pairwise (· < ·) := by
  rw [getD_indexFrom]
  have hsub : (((items.zipIdx 0).filter (·.1 == item)).map (·.2)).Sublist (List.range' 0 items.length) := by
    rw [← List.zipIdx_map_snd 0 items]
    exact List.filter_sublist.map _
  exact List.Pairwise.sublist hsub List.pairwise_lt_range'

/-- In a list of ascending numbers, whatever is not dropped from the front is not smaller. -/
theorem le_of_mem_dropWhile {n j : Nat} {positions : List Nat} (hsorted : positions.Pairwise (· < ·))
    (hj : j ∈ positions.dropWhile (· < n)) : n ≤ j := by
  -- Induction on the positions: what is behind the first one that stays is larger.
  induction positions with
  | nil => simp at hj
  | cons p rest ih =>
    rw [List.dropWhile_cons] at hj
    rw [List.pairwise_cons] at hsorted
    split at hj
    · exact ih hsorted.2 hj
    · rename_i hp
      have hp : n ≤ p := by simpa using hp
      rcases List.mem_cons.mp hj with rfl | hj
      · exact hp
      · exact hp.trans (hsorted.1 j hj).le

/-- A block can only start with an item where the item stands, inside of the region. -/
theorem mem_starters {r : Region} {size j : Nat} {item : α}
    (h : j ∈ starters (indexFrom 0 right.toList) size r item) :
    right[j]? = some item ∧ r.rightStart ≤ j ∧ j < r.rightStop := by
  rw [starters] at h
  -- The index has the places of the item in order; those before the region are dropped and those behind it are not
  -- reached.
  split at h
  · simp at h
  · have hstop : j < r.rightStop := by simpa using List.mem_takeWhile_imp h
    have hdropped := (List.takeWhile_prefix _).subset h
    have hstart := le_of_mem_dropWhile (pairwise_getD_indexFrom item right.toList) hdropped
    have hmem := (List.dropWhile_suffix _).subset hdropped
    rw [getD_indexFrom] at hmem
    obtain ⟨⟨a, k⟩, hplace, rfl⟩ := List.mem_map.mp hmem
    obtain ⟨hat, ha⟩ := List.mem_filter.mp hplace
    obtain rfl := eq_of_beq ha
    exact ⟨by simpa using List.mem_zipIdx_iff_getElem?.mp hat, hstart, hstop⟩

end

/-! ## The longest block -/

/-- A run that ends with the left item in front of `i`: the items of a block that does. -/
def RunEnds (left right : Array α) (r : Region) (i : Nat) (run : Nat × Nat) : Prop :=
  ∃ b : Block, b.Inside left right r ∧ b.size = run.2 ∧ b.left + run.2 = i ∧ b.right + run.2 = run.1 + 1

section

variable {r : Region} {i : Nat}

/-- A single item that is the same on both sides is a run. -/
theorem runEnds_one {j : Nat} {item : α} (hleft : left[i]? = some item) (hright : right[j]? = some item)
    (hleftStart : r.leftStart ≤ i) (hleftStop : i < r.leftStop) (hrightStart : r.rightStart ≤ j)
    (hrightStop : j < r.rightStop) : RunEnds left right r (i + 1) (j, 1) := by
  refine ⟨⟨i, j, 1⟩, ⟨hleftStart, hleftStop, hrightStart, hrightStop, ?_⟩, rfl, rfl, rfl⟩
  intro k hk
  obtain rfl : k = 0 := by simpa using hk
  exact ⟨item, hleft, hright⟩

/-- A run goes on with the next item on either side. -/
theorem RunEnds.succ {j k : Nat} {item : α} (h : RunEnds left right r i (j, k)) (hleft : left[i]? = some item)
    (hright : right[j + 1]? = some item) (hleftStop : i < r.leftStop) (hrightStop : j + 1 < r.rightStop) :
    RunEnds left right r (i + 1) (j + 1, k + 1) := by
  obtain ⟨b, hb, rfl, rfl, hbright⟩ := h
  simp only at hleft hleftStop hbright
  rw [← hbright] at hright hrightStop
  refine ⟨⟨b.left, b.right, b.size + 1⟩, hb.succ hleft hright hleftStop hrightStop, rfl, rfl, ?_⟩
  simp only
  rw [← hbright, Nat.add_assoc]

/-- Runs that end in front of an item are made longer by it. -/
theorem runEnds_extendRuns {item : α} (hleft : left[i]? = some item) (hleftStart : r.leftStart ≤ i)
    (hleftStop : i < r.leftStop) {positions : List Nat}
    (hpositions : ∀ j ∈ positions, right[j]? = some item ∧ r.rightStart ≤ j ∧ j < r.rightStop) {runs : Runs}
    (hruns : ∀ run ∈ runs, RunEnds left right r i run) :
    ∀ run ∈ extendRuns runs positions, RunEnds left right r (i + 1) run := by
  -- Induction on the positions, the runs of the last row free: a run ends here, longer by one, or a new one starts.
  induction positions generalizing runs with
  | nil => simp [extendRuns]
  | cons j rest ih =>
    obtain ⟨⟨hright, hrightStart, hrightStop⟩, hrest⟩ := List.forall_mem_cons.mp hpositions
    have hone := runEnds_one hleft hright hleftStart hleftStop hrightStart hrightStop
    have hdropped : ∀ run ∈ runs.dropWhile fun x => x.1 + 1 < j, RunEnds left right r i run :=
      fun run hrun => hruns run ((List.dropWhile_suffix _).subset hrun)
    rw [extendRuns]
    split
    · rename_i stop k tail hshape
      rw [hshape] at hdropped
      refine List.forall_mem_cons.mpr ⟨?_, ih hrest (by rwa [hshape])⟩
      split
      · -- the run in front of the position goes on
        rename_i hnext
        subst hnext
        exact (hdropped (stop, k) List.mem_cons_self).succ hleft hright hleftStop hrightStop
      · exact hone
    · exact List.forall_mem_cons.mpr ⟨hone, ih hrest (by simp)⟩

/-- The longer of a block and of runs is a common block, since all of them are. -/
theorem inside_longer {best : Block} (hbest : best.Inside left right r) {runs : Runs}
    (hruns : ∀ run ∈ runs, RunEnds left right r (i + 1) run) : (longer i best runs).Inside left right r := by
  rw [longer]
  -- Induction on the runs, the best block so far free.
  induction runs generalizing best with
  | nil => exact hbest
  | cons run runs ih =>
    obtain ⟨hrun, hruns⟩ := List.forall_mem_cons.mp hruns
    refine ih ?_ hruns
    simp only
    split
    · obtain ⟨b, hb, hsize, hleft, hright⟩ := hrun
      have hblock : (⟨i + 1 - run.2, run.1 + 1 - run.2, run.2⟩ : Block) = b := by
        rw [← hleft, ← hright, Nat.add_sub_cancel, Nat.add_sub_cancel, ← hsize]
      rwa [hblock]
    · exact hbest

end

section

variable [BEq α] [LawfulBEq α] {r : Region}

theorem inside_extendBack {b : Block} (h : b.Inside left right r) (fuel : Nat) :
    (extendBack left right r fuel b).Inside left right r := by
  -- Induction on the fuel: each step takes one more common item in front of the block.
  induction fuel generalizing b with
  | zero => exact h
  | succ fuel ih =>
    rw [extendBack]
    split
    · rename_i hgrows
      simp only [Bool.and_eq_true, decide_eq_true_eq] at hgrows
      obtain ⟨⟨hleftStart, hrightStart⟩, hsame⟩ := hgrows
      obtain ⟨a, hleft, hright⟩ := exists_of_sameAt hsame
      exact ih (h.pred hleft hright hleftStart hrightStart)
    · exact h

theorem inside_extendForth {b : Block} (h : b.Inside left right r) (fuel : Nat) :
    (extendForth left right r fuel b).Inside left right r := by
  -- The same, behind the block.
  induction fuel generalizing b with
  | zero => exact h
  | succ fuel ih =>
    rw [extendForth]
    split
    · rename_i hgrows
      simp only [Bool.and_eq_true, decide_eq_true_eq] at hgrows
      obtain ⟨⟨hleftStop, hrightStop⟩, hsame⟩ := hgrows
      obtain ⟨a, hleft, hright⟩ := exists_of_sameAt hsame
      exact ih (h.succ hleft hright hleftStop hrightStop)
    · exact h

variable [Hashable α]

/-- The search for the longest run keeps to common blocks of the region: all runs that it carries along end at the row
that it has reached. -/
theorem inside_longestRun (size : Nat) {i room : Nat} {runs : Runs} {best : Block} (hbest : best.Inside left right r)
    (hruns : ∀ run ∈ runs, RunEnds left right r i run) (hstart : r.leftStart ≤ i) (hroom : i + room ≤ r.leftStop) :
    (longestRun left (indexFrom 0 right.toList) size r i runs best room).Inside left right r := by
  -- Induction on the rows left: the runs that end in the row before are what the next row is made of.
  induction room generalizing i runs best with
  | zero => exact hbest
  | succ room ih =>
    rw [longestRun]
    split
    · exact hbest
    · rename_i item hitem
      have hstarters : ∀ j ∈ starters (indexFrom 0 right.toList) size r item,
          right[j]? = some item ∧ r.rightStart ≤ j ∧ j < r.rightStop := fun _ => mem_starters
      have hruns' := runEnds_extendRuns hitem hstart (by omega) hstarters hruns
      exact ih (inside_longer hbest hruns') hruns' (by omega) (by omega)

/-- The longest block of a region is common and lies in the region. -/
theorem longestBlock_inside (hleft : r.leftStart ≤ r.leftStop) (hright : r.rightStart ≤ r.rightStop) :
    (longestBlock left right (indexFrom 0 right.toList) r).Inside left right r := by
  have hnone : Block.Inside left right r ⟨r.leftStart, r.rightStart, 0⟩ :=
    ⟨Nat.le_refl _, hleft, Nat.le_refl _, hright, by simp [Block.IsCommon]⟩
  have hruns : ∀ run ∈ ([] : Runs), RunEnds left right r r.leftStart run := by simp
  have hroom : r.leftStart + (r.leftStop - r.leftStart) ≤ r.leftStop := (Nat.add_sub_of_le hleft).le
  have hrun := inside_longestRun right.size hnone hruns (Nat.le_refl _) hroom
  exact inside_extendForth (inside_extendBack hrun left.size) left.size

end

/-! ## All blocks -/

/-- Common blocks one after the other on both sides, between two places of each sequence. -/
inductive Aligned (left right : Array α) (m n : Nat) : Nat → Nat → List Block → Prop where
  | nil {i j : Nat} (hi : i ≤ m) (hj : j ≤ n) : Aligned left right m n i j []
  | cons {i j : Nat} {b : Block} {rest : List Block} (hi : i ≤ b.left) (hj : j ≤ b.right)
    (hb : b.IsCommon left right) (hrest : Aligned left right m n (b.left + b.size) (b.right + b.size) rest) :
    Aligned left right m n i j (b :: rest)

namespace Aligned

variable {i j m n m' n' : Nat} {before after : List Block}

/-- Blocks up to some places, and blocks from these places on. -/
theorem append (hbefore : Aligned left right m n i j before) (hafter : Aligned left right m' n' m n after) :
    Aligned left right m' n' i j (before ++ after) := by
  induction hbefore with
  | nil hi hj =>
    cases hafter with
    | nil hm hn => exact .nil (hi.trans hm) (hj.trans hn)
    | cons hm hn hb hrest => exact .cons (hi.trans hm) (hj.trans hn) hb hrest
  | cons hi hj hb _ ih => exact .cons hi hj hb ih

/-- Blocks that touch make one block. -/
theorem mergeTouching {bs : List Block} (h : Aligned left right m n i j bs) :
    Aligned left right m n i j (mergeTouching bs) := by
  fun_induction Diff.mergeTouching bs generalizing i j with
  | case1 a b rest htouch ih =>
    obtain _ | ⟨hi, hj, ha, _ | ⟨-, -, hb, hrest⟩⟩ := h
    rw [← htouch.1, ← htouch.2, Nat.add_assoc, Nat.add_assoc] at hrest
    exact ih (.cons hi hj (ha.append hb htouch.1 htouch.2) hrest)
  | case2 a b rest _ ih =>
    obtain _ | ⟨hi, hj, ha, hrest⟩ := h
    exact .cons hi hj ha (ih hrest)
  | case3 bs => exact h

end Aligned

variable [BEq α] [LawfulBEq α] [Hashable α]

/-- The blocks of a region stand in it one after the other: those in front of its longest block, this one, and those
behind it. -/
theorem aligned_blocksIn {r : Region} (hleft : r.leftStart ≤ r.leftStop) (hright : r.rightStart ≤ r.rightStop)
    (fuel : Nat) :
    Aligned left right r.leftStop r.rightStop r.leftStart r.rightStart
      (blocksIn left right (indexFrom 0 right.toList) fuel r) := by
  -- Induction on the fuel: the longest block cuts the region in two, and what is found in either part lies before or
  -- behind it.
  induction fuel generalizing r with
  | zero => exact .nil hleft hright
  | succ fuel ih =>
    have hinside : (longestBlock left right (indexFrom 0 right.toList) r).Inside left right r :=
      longestBlock_inside hleft hright
    rw [blocksIn]
    generalize longestBlock left right (indexFrom 0 right.toList) r = b at hinside
    simp only
    split
    · exact .nil hleft hright
    · refine Aligned.append (m := b.left) (n := b.right) ?_ (.cons (Nat.le_refl _) (Nat.le_refl _) hinside.common ?_)
      · split
        · exact ih (r := ⟨r.leftStart, b.left, r.rightStart, b.right⟩) hinside.leftStart hinside.rightStart
        · exact .nil hinside.leftStart hinside.rightStart
      · split
        · exact ih (r := ⟨b.left + b.size, r.leftStop, b.right + b.size, r.rightStop⟩) hinside.leftStop
            hinside.rightStop
        · exact .nil hinside.leftStop hinside.rightStop

/-- The blocks of two sequences are common to them and stand one after the other on both sides. -/
theorem aligned_blocks (left right : Array α) : Aligned left right left.size right.size 0 0 (blocks left right) :=
  (aligned_blocksIn (r := ⟨0, left.size, 0, right.size⟩) (Nat.zero_le _) (Nat.zero_le _) _).mergeTouching

end Emend.Diff
