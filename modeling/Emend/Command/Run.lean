import Emend.Command.Apply
import Emend.Command.Arguments
import Emend.Command.Help
import Emend.Command.Outline
import Emend.Command.Statistics
import Emend.Host.Files
import Emend.Settings.File

/-!
# Running a command

A command line is read and carried out on a disk. The outcome is how it ended, what it showed and the
disk that it left.
-/

namespace Emend.Command

/-- What a command finds around it. -/
structure Surroundings where
  /-- The home folder. -/
  home : String
  environment : Environment
  registry : Registry
  /-- Where the identifiers of changes come from. -/
  names : Identifiers
  /-- The time that is logged. -/
  time : String
  /-- Notes are shown on the screen. -/
  showsNotes : Bool := true

/-- What became of a command. -/
structure Outcome where
  ending : Ending
  screen : Screen
  disk : Disk

/-- The settings of a command. A root that is asked for takes the place of the one that is set. -/
def settingsOf (around : Surroundings) (d : Disk) (i : Invocation) : Attempt Settings := do
  let settings ← Settings.load d around.home around.environment i.config
  match i.projectRoot with
  | some root => return if root.isEmpty then settings else { settings with projectRoot := root }
  | none => return settings

/-- The least rank of the notes that are shown: that of the level that is set, or every rank where the
command is to be verbose. -/
def thresholdOf (around : Surroundings) (d : Disk) (i : Invocation) : Attempt (Option Nat) :=
  if !around.showsNotes then .ok none
  else if i.verbose then .ok (some Severity.debug.rank)
  else do
    let settings ← Settings.load d around.home around.environment i.config
    match Severity.threshold? settings.logLevel with
    | some rank => return some rank
    | none => throw (.unknownLevel settings.logLevel)

/-- The session of a command: it edits the files of the project. -/
def sessionOf (around : Surroundings) (d : Disk) (settings : Settings) : Session Disk :=
  let files : FileHost := {
    root := FileHost.rootOf d settings.projectRoot
    strict := settings.rejectOverlaps
    language := settings.defaultLanguage
    registry := around.registry }
  { host := files.host
    settings
    registry := around.registry
    names := around.names
    log := Metrics.record around.time settings.projectRoot settings.metricsDir }

/-- Apply the request in a file, or show what it would do. -/
def apply (around : Surroundings) (s : Scene Disk) (settings : Settings) (path : String)
    (dryRun noTrack wantsReview : Bool) : Ending × Scene Disk :=
  match readRequest s.work.files path with
  | .error stop => s.stop stop
  | .ok r =>
    let session := sessionOf around s.work.files settings
    if dryRun then showPreview session s r
    else applyRequest session s r (settings.trackChanges && !noTrack) wantsReview

/-- Sum up the log of the project. -/
def sumUp (s : Scene Disk) (settings : Settings) (last : Int) : Ending × Scene Disk :=
  report s (Metrics.path s.work.files settings.projectRoot settings.metricsDir) last

/-- Carry out a command. -/
def perform (around : Surroundings) (s : Scene Disk) (i : Invocation) : Ending × Scene Disk :=
  match i.task with
  | .outline file language json => outline around.registry s file language json
  | .apply path dryRun noTrack wantsReview =>
    match settingsOf around s.work.files i with
    | .error f => s.stop (.failure f)
    | .ok settings => apply around s settings path dryRun noTrack wantsReview
  | .statistics last =>
    match settingsOf around s.work.files i with
    | .error f => s.stop (.failure f)
    | .ok settings => sumUp s settings last

/-- Carry out a command on a disk. -/
def execute (around : Surroundings) (d : Disk) (typed : List Char) (i : Invocation) : Outcome :=
  match thresholdOf around d i with
  | .error f => ⟨.error f, {}, d⟩
  | .ok threshold =>
    let (ending, s) := perform around ⟨{ threshold, typed }, { files := d }⟩ i
    ⟨ending, s.screen, s.work.files⟩

/-- Read a command line and carry it out on a disk. Words that make no command end with exit code
two. -/
def run (around : Surroundings) (d : Disk) (typed : List Char) (words : List String) : Outcome :=
  match parse words with
  | .error .usage => ⟨.ok 2, usageComplaint.foldl Screen.complain {}, d⟩
  | .error (.help about) => ⟨.ok 0, Screen.printAll {} (helpLines about), d⟩
  | .ok i => execute around d typed i

end Emend.Command
