import Emend.Command.Run

/-!
# What a command looks at

The paths of the files that a command reads or writes. They follow from its words, from the settings and
from the request, as far as these are on the disk.
-/

namespace Emend.Command

/-- The log of the project. -/
def logPaths (around : Surroundings) (d : Disk) (i : Invocation) : List (List Char) :=
  match settingsOf around d i with
  | .ok s => [Metrics.path d s.projectRoot s.metricsDir]
  | .error _ => []

/-- The file of a request, and where its new content is written first. -/
def targetPaths (around : Surroundings) (d : Disk) (i : Invocation) (request : String) :
    List (List Char) :=
  match settingsOf around d i, readRequest d request with
  | .ok s, .ok r =>
    let file := ((sessionOf around d s).host.key r.filePath).toList
    [file, file ++ Disk.stagingSuffix]
  | _, _ => []

/-- What a task looks at. -/
def taskPaths (around : Surroundings) (d : Disk) (i : Invocation) : List (List Char) :=
  match i.task with
  | .outline file _ _ => [file.toList]
  | .apply request .. => request.toList :: targetPaths around d i request ++ logPaths around d i
  | .statistics _ => logPaths around d i

/-- What a command looks at. Words that make no command look at nothing. -/
def pathsOf (around : Surroundings) (d : Disk) (words : List String) : List (List Char) :=
  match parse words with
  | .error _ => []
  | .ok i =>
    (Settings.candidates d around.home i.config).map String.toList ++ taskPaths around d i

end Emend.Command
