import Emend.Diff.Blocks
import Emend.Text.Blank
import Emend.Text.Lines

/-!
# Unified diffs

The difference of two texts line by line: what was removed and added, with up to three lines around it
that stayed.
-/

namespace Emend.Diff

/-- What happens to a stretch of lines on the way from the old text to the new one. -/
structure Change where
  /-- The lines are the same on both sides. -/
  same : Bool
  leftStart : Nat
  leftStop : Nat
  rightStart : Nat
  rightStop : Nat
  deriving DecidableEq, BEq, Repr, Inhabited

/-- The changes from two places on, given the common blocks behind them. -/
def changesFrom (i j : Nat) (leftSize rightSize : Nat) : List Block → List Change
  | [] => if i < leftSize || j < rightSize then [⟨false, i, leftSize, j, rightSize⟩] else []
  | b :: rest =>
    let kept := ⟨true, b.left, b.left + b.size, b.right, b.right + b.size⟩ ::
      changesFrom (b.left + b.size) (b.right + b.size) leftSize rightSize rest
    if i < b.left || j < b.right then ⟨false, i, b.left, j, b.right⟩ :: kept else kept

/-- The changes from one sequence to another. -/
def changes {α : Type} [BEq α] [Hashable α] (left right : Array α) : List Change :=
  changesFrom 0 0 left.size right.size (blocks left right)

/-- The number of lines that are shown around a change. -/
def context : Nat := 3

/-- The end of a stretch that stayed. -/
def Change.tail (c : Change) : Change :=
  if c.same then
    { c with leftStart := max c.leftStart (c.leftStop - context),
             rightStart := max c.rightStart (c.rightStop - context) }
  else c

/-- The beginning of a stretch that stayed. -/
def Change.head (c : Change) : Change :=
  if c.same then
    { c with leftStop := min c.leftStop (c.leftStart + context),
             rightStop := min c.rightStop (c.rightStart + context) }
  else c

/-- Of a stretch that stayed at the start of the text, only the end is shown. -/
def trimFirst : List Change → List Change
  | [] => []
  | c :: rest => c.tail :: rest

/-- Of a stretch that stayed at the end of the text, only the beginning is shown. -/
def trimLast : List Change → List Change
  | [] => []
  | [c] => [c.head]
  | c :: rest => c :: trimLast rest

/-- A group of changes in which something changes. -/
def isHunk : List Change → Bool
  | [] => false
  | [c] => !c.same
  | _ => true

/-- Cut the changes where a long stretch stayed; `group` is the current group, the last change first. -/
def groupsFrom (group : List Change) : List Change → List (List Change)
  | [] => if isHunk group then [group.reverse] else []
  | c :: rest =>
    if c.same && 2 * context < c.leftStop - c.leftStart then
      (c.head :: group).reverse :: groupsFrom [c.tail] rest
    else groupsFrom (c :: group) rest

/-- The groups of changes that are shown together. -/
def hunks (cs : List Change) : List (List Change) := groupsFrom [] (trimLast (trimFirst cs))

/-- A line of a diff. -/
inductive DiffLine where
  | oldFile (path : List Char)
  | newFile (path : List Char)
  | position (text : String)
  | kept (line : List Char)
  | removed (line : List Char)
  | added (line : List Char)
  deriving DecidableEq, BEq, Repr

/-- The line as it is written, with its break. -/
def DiffLine.full : DiffLine → List Char
  | .oldFile path => "--- a/".toList ++ path
  | .newFile path => "+++ b/".toList ++ path
  | .position text => text.toList
  | .kept line => ' ' :: line
  | .removed line => '-' :: line
  | .added line => '+' :: line

/-- The line without the carriage returns and line feeds at its end. -/
def DiffLine.shown (l : DiffLine) : List Char :=
  Text.dropRightWhile (fun c => c == '\r' || c == '\n') l.full

/-- A stretch of lines by its first line, counted from one, and its length where that is not one. -/
def stretch (start stop : Nat) : String :=
  let length := stop - start
  if length = 1 then toString (start + 1)
  else s!"{if length = 0 then start else start + 1},{length}"

/-- The line that says where a group of changes lies. -/
def hunkHeader (group : List Change) : DiffLine :=
  let first := group.headD default
  let last := group.getLastD default
  .position ("@@ -" ++ stretch first.leftStart last.leftStop ++ " +"
    ++ stretch first.rightStart last.rightStop ++ " @@")

/-- The lines of a change. -/
def changeLines (left right : Array (List Char)) (c : Change) : List DiffLine :=
  let old := (left.extract c.leftStart c.leftStop).toList
  if c.same then old.map .kept
  else old.map .removed ++ (right.extract c.rightStart c.rightStop).toList.map .added

/-- The lines of a group of changes. -/
def hunkLines (left right : Array (List Char)) (group : List Change) : List DiffLine :=
  hunkHeader group :: group.flatMap (changeLines left right)

/-- The lines of a text with their breaks. -/
def fileLines (text : List Char) : Array (List Char) :=
  ((Text.brokenLines text).map (·.full)).toArray

/-- The lines of the diff of two texts of a file. -/
def diffLines (path old new : List Char) : List DiffLine :=
  let left := fileLines old
  let right := fileLines new
  match hunks (changes (left.map String.ofList) (right.map String.ofList)) with
  | [] => []
  | groups => .oldFile path :: .newFile path :: groups.flatMap (hunkLines left right)

/-- The diff of two texts of a file; none where they are the same. -/
def unified (path old new : List Char) : Option (List Char) :=
  if old == new then none
  else
    let text := Text.unlines ((diffLines path old new).map (·.shown))
    if Text.isBlankText text then none else some text

/-! ## Colours -/

/-- A way to set off a line on a terminal. -/
inductive Style where
  | bold
  | red
  | green
  | cyan
  deriving DecidableEq, BEq, Repr

/-- The number of a style. -/
def Style.code : Style → String
  | .bold => "1"
  | .red => "31"
  | .green => "32"
  | .cyan => "36"

/-- A text in a style. -/
def Style.paint (s : Style) (text : List Char) : List Char :=
  let sequence (code : String) : List Char := Char.ofNat 27 :: '[' :: code.toList ++ ['m']
  sequence s.code ++ text ++ sequence "0"

/-- The style of a line, by how it begins. -/
def styleOf (line : List Char) : Option Style :=
  if "+++".toList.isPrefixOf line || "---".toList.isPrefixOf line then some .bold
  else if "@@".toList.isPrefixOf line then some .cyan
  else if line.head? == some '+' then some .green
  else if line.head? == some '-' then some .red
  else none

/-- A line in its style. -/
def paintLine (line : List Char) : List Char :=
  match styleOf line with
  | some s => s.paint line
  | none => line

/-- A diff with its lines in colour. -/
def coloured (diff : List Char) : List Char :=
  Text.unlines ((Text.brokenLines diff).map fun l => paintLine l.body)

end Emend.Diff
