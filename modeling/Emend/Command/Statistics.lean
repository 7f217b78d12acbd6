import Emend.Command.Screen
import Emend.Metrics.Statistics
import Emend.Number.Fixed

/-!
# Reports on the log

The statistics of the last batches as a report: the totals first, then the shares of the actions and of
the kinds of match, and the refusals where there were any.
-/

namespace Emend.Command

/-- A name in a column. A truth value stands there as a number; null cannot stand there. -/
def column (width : Nat) (name : Json) : Attempt String :=
  match name with
  | .null => .error (.noColumn Json.null.kindName)
  | .bool b => .ok (padRight width (toString b.toNat))
  | v => .ok (padRight width v.toText)

/-- The totals. -/
def totalLines (s : Metrics.Statistics) : List String :=
  [s!"Edit stats (last {s.batches} batch(es))",
   s!"  Edits          : {s.edits.toText}",
   s!"  Success rate   : {Fixed.render 1 s.successRate}%",
   s!"  Avg edits/batch: {Fixed.render 1 s.average}"]

/-- A name and its share. -/
def shareLine (name : Json) (share : Float) : Attempt String := do
  return "    " ++ (← column 14 name) ++ " " ++ padLeft 5 (Fixed.render 1 share) ++ "%"

/-- A name and its count. -/
def countLine (name count : Json) : Attempt String := do
  return "    " ++ (← column 24 name) ++ " " ++ count.toText

/-- The report, line by line, up to a line that cannot be written. -/
def reportLines (s : Metrics.Statistics) : List (Attempt String) :=
  if s.batches = 0 then [.ok "No edit metrics recorded yet."]
  else
    (totalLines s).map .ok
      ++ .ok "  Actions:" :: s.actions.map (fun (name, x) => shareLine name x)
      ++ .ok "  Match types:" :: s.matchKinds.map (fun (name, x) => shareLine name x)
      ++ (if s.errors.isEmpty then []
        else .ok "  Errors:" :: s.errors.map fun (name, n) => countLine name n)

/-- Show lines up to one that cannot be written. -/
def printUpTo {σ : Type} (s : Scene σ) : List (Attempt String) → Ending × Scene σ
  | [] => (.ok 0, s)
  | .ok line :: rest => printUpTo (s.on (·.print line)) rest
  | .error f :: _ => (.error f, s)

/-- Show the report on the last batches of a log. -/
def report (s : Scene Disk) (log : List Char) (last : Int) : Ending × Scene Disk :=
  match Metrics.read s.work.files log last with
  | .error f => s.stop (.failure f)
  | .ok found => printUpTo s (reportLines found)

end Emend.Command
