import Emend.Command.Screen
import Emend.Diff.Unified
import Emend.Session

/-!
# Review

Every pending change of a file is shown with a question, the last change of the file first. A change is
taken back on a no; any other answer keeps it.
-/

namespace Emend.Command

variable {σ : Type}

/-- How many changes were kept, and how many were taken back. -/
structure ReviewCount where
  approved : Nat := 0
  rejected : Nat := 0
  deriving DecidableEq, BEq, Repr, Inhabited

/-- Lines of a text, each behind a mark and in a style. -/
def markedLines (mark : String) (style : Diff.Style) (text : List Char) : List String :=
  (Text.brokenLines text).map fun l => String.ofList (style.paint (mark.toList ++ l.body))

/-- A change as it is shown: what it is, the lines that it took away and those that it brought. -/
def changeLines (c : PendingChange) : List String :=
  let start := c.edit.range.start
  [s!"\n{c.description}  [{c.id}]  at {start.line + 1}:{start.character + 1}", rule]
    ++ markedLines "- " .red c.replaced ++ markedLines "+ " .green c.edit.newText

/-- The question for a change. -/
def question : String := "Keep this change? [Y/n] "

/-- The answer is a no, whatever its case and the blanks around it. -/
def isNo (answer : List Char) : Bool :=
  ["n", "no"].contains (Text.lower (String.ofList (Text.trim answer)))

/-- Ask for one change and do what the answer says. -/
def reviewOne (h : Host σ) (s : Scene σ) (count : ReviewCount) (c : PendingChange) :
    Attempt ReviewCount × Scene σ :=
  let (answer, screen) := (s.screen.printAll (changeLines c)).ask question
  let s := { s with screen }
  if isNo answer then
    match s.work.reject h c.id with
    | (.error f, w) => (.error f, s.move w)
    | (.ok true, w) => (.ok { count with rejected := count.rejected + 1 }, s.move w)
    | (.ok false, w) => (.ok count, (s.move w).on (·.complain s!"  Could not revert {c.id}"))
  else
    (.ok { count with approved := count.approved + 1 }, s.move (s.work.approve c.id).2)

/-- Ask for changes one after the other. -/
def reviewEach (h : Host σ) (s : Scene σ) (count : ReviewCount) :
    List PendingChange → Attempt ReviewCount × Scene σ
  | [] => (.ok count, s)
  | c :: rest =>
    match reviewOne h s count c with
    | (.error f, s) => (.error f, s)
    | (.ok count, s) => reviewEach h s count rest

/-- What is said after a review. -/
def reviewMessage (count : ReviewCount) : String :=
  s!"\nReview done: {count.approved} approved, {count.rejected} rejected"

/-- Review the pending changes of a file. -/
def review (session : Session σ) (s : Scene σ) (path : String) : Ending × Scene σ :=
  match reviewEach session.host s {} (session.reviewOrder s.work path) with
  | (.error f, s) => (.error f, s)
  | (.ok count, s) =>
    let (_, w) := session.saveAndClear s.work path
    (.ok 0, (s.move w).on (·.print (reviewMessage count)))

end Emend.Command
