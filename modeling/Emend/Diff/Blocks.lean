import Std.Data.HashMap

/-!
# Matching blocks

What two sequences have in common: the longest common block, then the longest ones before it and after
it, and so on. Of several longest blocks the one that starts first is taken. In a long sequence an item
that is too frequent does not start a block, but it can be part of one.
-/

namespace Emend.Diff

/-- `size` items that are the same from `left` on in one sequence and from `right` on in the other. -/
structure Block where
  left : Nat
  right : Nat
  size : Nat
  deriving DecidableEq, BEq, Repr, Inhabited

/-- A part of each of two sequences. -/
structure Region where
  leftStart : Nat
  leftStop : Nat
  rightStart : Nat
  rightStop : Nat
  deriving DecidableEq, BEq, Repr

/-- From this length on frequent items are set aside. -/
def longSequence : Nat := 200

/-- The positions of every item of a sequence, in ascending order. -/
abbrev Index (α : Type) [BEq α] [Hashable α] := Std.HashMap α (List Nat)

/-- The positions of the items from `position` on. -/
def indexFrom {α : Type} [BEq α] [Hashable α] (position : Nat) : List α → Index α
  | [] => ∅
  | item :: rest =>
    let later := indexFrom (position + 1) rest
    later.insert item (position :: later.getD item [])

/-- An item with these positions is set aside in a sequence: it makes up more than one percent. -/
def isFrequent (size : Nat) (positions : List Nat) : Bool :=
  longSequence ≤ size && size / 100 + 1 < positions.length

/-- The positions at which a block can start with an item, inside a region. -/
def starters {α : Type} [BEq α] [Hashable α] (index : Index α) (size : Nat) (r : Region) (item : α) :
    List Nat :=
  let positions := index.getD item []
  if isFrequent size positions then []
  else (positions.dropWhile (· < r.rightStart)).takeWhile (· < r.rightStop)

/-- The lengths of the common runs that end at the items of a row, by the positions of their ends, in
ascending order. -/
abbrev Runs := List (Nat × Nat)

/-- The runs that end at the positions of an item, where `runs` end at the item before it. -/
def extendRuns (runs : Runs) : List Nat → Runs
  | [] => []
  | j :: rest =>
    let runs := runs.dropWhile fun (stop, _) => stop + 1 < j
    match runs with
    | (stop, k) :: _ => (j, if stop + 1 = j then k + 1 else 1) :: extendRuns runs rest
    | [] => (j, 1) :: extendRuns [] rest

/-- The longer of a block and the runs that end with the left item at `i`; the earlier where they are
equally long. -/
def longer (i : Nat) (best : Block) (runs : Runs) : Block :=
  runs.foldl (fun best (j, k) => if best.size < k then ⟨i + 1 - k, j + 1 - k, k⟩ else best) best

/-- The longest run of items that can start a block, from the left position `i` on. -/
def longestRun {α : Type} [BEq α] [Hashable α] (left : Array α) (index : Index α) (size : Nat)
    (r : Region) (i : Nat) (runs : Runs) (best : Block) : Nat → Block
  | 0 => best
  | room + 1 =>
    match left[i]? with
    | none => best
    | some item =>
      let runs := extendRuns runs (starters index size r item)
      longestRun left index size r (i + 1) runs (longer i best runs) room

/-- The items at two positions are the same. -/
def sameAt {α : Type} [BEq α] (left right : Array α) (i j : Nat) : Bool :=
  match left[i]?, right[j]? with
  | some a, some b => a == b
  | _, _ => false

/-- Extend a block towards the start of its region. -/
def extendBack {α : Type} [BEq α] (left right : Array α) (r : Region) : Nat → Block → Block
  | 0, b => b
  | fuel + 1, b =>
    if r.leftStart < b.left && r.rightStart < b.right && sameAt left right (b.left - 1) (b.right - 1)
    then extendBack left right r fuel ⟨b.left - 1, b.right - 1, b.size + 1⟩
    else b

/-- Extend a block towards the end of its region. -/
def extendForth {α : Type} [BEq α] (left right : Array α) (r : Region) : Nat → Block → Block
  | 0, b => b
  | fuel + 1, b =>
    if b.left + b.size < r.leftStop && b.right + b.size < r.rightStop
        && sameAt left right (b.left + b.size) (b.right + b.size)
    then extendForth left right r fuel { b with size := b.size + 1 }
    else b

/-- The longest common block of a region; its size is zero where there is none. -/
def longestBlock {α : Type} [BEq α] [Hashable α] (left right : Array α) (index : Index α)
    (r : Region) : Block :=
  let run := longestRun left index right.size r r.leftStart [] ⟨r.leftStart, r.rightStart, 0⟩
    (r.leftStop - r.leftStart)
  extendForth left right r left.size (extendBack left right r left.size run)

/-- The common blocks of a region, in order. Both parts of the region around a block are shorter. -/
def blocksIn {α : Type} [BEq α] [Hashable α] (left right : Array α) (index : Index α) :
    Nat → Region → List Block
  | 0, _ => []
  | fuel + 1, r =>
    let b := longestBlock left right index r
    if b.size = 0 then []
    else
      let before := if r.leftStart < b.left && r.rightStart < b.right then
          blocksIn left right index fuel ⟨r.leftStart, b.left, r.rightStart, b.right⟩
        else []
      let after := if b.left + b.size < r.leftStop && b.right + b.size < r.rightStop then
          blocksIn left right index fuel
            ⟨b.left + b.size, r.leftStop, b.right + b.size, r.rightStop⟩
        else []
      before ++ b :: after

/-- Blocks that touch in both sequences are one block. -/
def mergeTouching : List Block → List Block
  | a :: b :: rest =>
    if a.left + a.size = b.left ∧ a.right + a.size = b.right then
      mergeTouching (⟨a.left, a.right, a.size + b.size⟩ :: rest)
    else a :: mergeTouching (b :: rest)
  | bs => bs
termination_by bs => bs.length

/-- The common blocks of two sequences, in order. -/
def blocks {α : Type} [BEq α] [Hashable α] (left right : Array α) : List Block :=
  mergeTouching (blocksIn left right (indexFrom 0 right.toList) (left.size + 1)
    ⟨0, left.size, 0, right.size⟩)

end Emend.Diff
