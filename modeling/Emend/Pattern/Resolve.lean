import Emend.Pattern.Letters
import Emend.Pattern.Width

/-!
# Working the options in

From the tree of a pattern as it was written to one that can be searched for. What is left to go wrong
is a look behind whose width is not fixed.
-/

namespace Emend.Pattern

/-- The name of a kind of repetition. -/
def Greed.name : Greed → String
  | .greedy => "MAX_REPEAT"
  | .lazy => "MIN_REPEAT"
  | .possessive => "POSSESSIVE_REPEAT"

/-- The greatest distance that a look behind can reach. -/
def farthestBehind : Nat := 0xFFFFFFFF

/-- A problem of the whole pattern. -/
def complain {α : Type} (p : Problem) : Except Rejection α := .error (.problem p none)

mutual

/-- Work the options into one item. -/
def Item.resolve (groups : GroupWidths) (o : Options) : Item → Except Rejection Node
  | .char n => .ok (.one (letterTest o n))
  | .notChar n =>
    let test := letterTest o n
    .ok (.one fun c => !test c)
  | .any => .ok (.one (if o.dotAll then fun _ => true else fun c => c != '\n'))
  | .set negated items => .ok (.one (setTest o negated items))
  | .anchor kind => .ok (.place (anchorTest o kind))
  | .branch alternatives => (resolveEach groups o alternatives).map Node.any
  | .repeated greed least most body =>
    if o.template then complain (.templateRepeat greed.name)
    else (resolveAll groups o body).map (.repeated greed least most)
  | .group index added removed body =>
    (resolveAll groups (o.within added removed) body).map fun n =>
      match index with
      | some i => .group i n
      | none => n
  | .atomic body => (resolveAll groups o body).map .atomic
  | .look behind negated body =>
    let width := widthOfAll groups body
    if behind && farthestBehind < width.least then complain .longLookbehind
    else if behind && width.least != width.most then complain .variableLookbehind
    else (resolveAll groups o body).map (.look (if behind then width.least else 0) negated)
  | .backref g => .ok (.backref g (backrefFold o))
  | .conditional g yes no => do
    let yes ← resolveAll groups o yes
    let no ← resolveAll groups o no
    return .ifGroup g yes no

/-- Work the options into items one after the other. -/
def resolveAll (groups : GroupWidths) (o : Options) : List Item → Except Rejection Node
  | [] => .ok .empty
  | [i] => i.resolve groups o
  | i :: rest => do
    let first ← i.resolve groups o
    let second ← resolveAll groups o rest
    return .seq first second

/-- Work the options into each of several alternatives. -/
def resolveEach (groups : GroupWidths) (o : Options) :
    List (List Item) → Except Rejection (List Node)
  | [] => .ok []
  | items :: rest => do
    let first ← resolveAll groups o items
    let more ← resolveEach groups o rest
    return first :: more

end

end Emend.Pattern
