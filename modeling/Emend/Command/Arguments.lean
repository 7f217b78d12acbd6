import Emend.Command.Options
import Emend.Number.Numeral

/-!
# Commands

What can be asked for on the command line: to apply a request, to outline a file, or to sum up the log
of batches.
-/

namespace Emend.Command

/-- What to do. -/
inductive Task where
  /-- Apply a request, or show what it would do. -/
  | apply (request : String) (dryRun noTrack review : Bool)
  /-- List the declarations of a file. -/
  | outline (file : String) (language : Option String) (json : Bool)
  /-- Sum up the last batches of the log. -/
  | statistics (last : Int)
  deriving DecidableEq, BEq, Repr

/-- A command line. -/
structure Invocation where
  config : Option String := none
  projectRoot : Option String := none
  verbose : Bool := false
  task : Task
  deriving DecidableEq, BEq, Repr

/-- The options before the name of the task. -/
def globalFlags : List Flag :=
  [.help, .long "config" true, .long "project-root" true,
    { name := "verbose", spellings := ["-v".toList, "--verbose".toList] }]

/-- The options for applying a request. -/
def applyFlags : List Flag := [.help, .long "dry-run", .long "no-track", .long "review"]

/-- The options for an outline. -/
def outlineFlags : List Flag := [.help, .long "language" true, .long "json"]

/-- The options for statistics. -/
def statisticsFlags : List Flag := [.help, { Flag.long "last-n" true with wantsNumber := true }]

/-- Options that are read, and the words that are not part of them. -/
structure Gathered where
  values : Values := []
  /-- The one word that is wanted. -/
  wanted : Option (List Char) := none
  /-- There are words beside it. -/
  surplus : Bool := false

/-- The words up to the next option, without two dashes around the first one: that word, if there is
one, and whether there are more. -/
def takeWanted (words : List (List Char × Word)) : Option (List Char) × Bool :=
  match words.dropWhile (·.2 == .dashes) with
  | (w, _) :: rest => (some w, !(rest.dropWhile (·.2 == .dashes)).isEmpty)
  | [] => (none, !words.isEmpty)

/-- Words that belong to no option. -/
def isLoose : List Char × Word → Bool
  | (_, .plain) | (_, .dashes) => true
  | _ => false

/-- Add words that belong to no option; the first of them all is wanted if `wants` says so. -/
def Gathered.addLoose (g : Gathered) (wants : Bool) (words : List (List Char × Word)) : Gathered :=
  if wants && g.wanted.isNone then
    let (w, more) := takeWanted words
    { g with wanted := w, surplus := g.surplus || more }
  else { g with surplus := true }

/-- Gather the words of a task. -/
def gather (flags : List Flag) (wants : Bool) :
    Nat → Gathered → List (List Char × Word) → Except Halt Gathered
  | 0, _, _ => .error .usage
  | _, g, [] => .ok g
  | fuel + 1, g, (w, k) :: rest =>
    match k with
    | .flag f value short => do
      let t ← takeFlag flags g.values f value short rest
      gather flags wants fuel { g with values := t.values, surplus := g.surplus || t.surplus } t.next
    | .unknown => gather flags wants fuel { g with surplus := true } rest
    | .plain | .dashes =>
      let all := (w, k) :: rest
      gather flags wants fuel (g.addLoose wants (all.takeWhile isLoose)) (all.dropWhile isLoose)

/-- The options of a task and the word that it wants, with nothing left over. -/
def readTask (flags : List Flag) (wants : Bool) (words : List (List Char)) :
    Except Halt Gathered := do
  let classified ← classifyAll flags words
  let g ← gather flags wants (words.length + 1) {} classified
  if wants && g.wanted.isNone then throw .usage
  return g

/-- The number of batches that is asked for. -/
def lastCount (values : Values) : Int :=
  ((List.lookup "last-n" values).bind (Numeral.parse? 10)).getD 50

/-- The task of a name, with the words behind it; and whether words are left over. -/
def task (name : List Char) (words : List (List Char)) : Except Halt (Task × Bool) := do
  let wantedText (g : Gathered) : String := String.ofList (g.wanted.getD [])
  if name == "apply".toList then
    let g ← readTask applyFlags true words
    return (.apply (wantedText g) (g.values.has "dry-run") (g.values.has "no-track")
      (g.values.has "review"), g.surplus)
  else if name == "outline".toList then
    let g ← readTask outlineFlags true words
    return (.outline (wantedText g) (g.values.value "language") (g.values.has "json"), g.surplus)
  else if name == "edit-stats".toList then
    let g ← readTask statisticsFlags false words
    return (.statistics (lastCount g.values), g.surplus)
  else throw .usage

/-- Read options up to the name of the task. -/
def readGlobal : Nat → Values → Bool → List (List Char × Word) → Except Halt Invocation
  | 0, _, _, _ => .error .usage
  | _, _, _, [] => .error .usage
  | fuel + 1, values, surplus, (w, k) :: rest =>
    match k with
    | .flag f value short => do
      let t ← takeFlag globalFlags values f value short rest
      readGlobal fuel t.values (surplus || t.surplus) t.next
    | .unknown => readGlobal fuel values true rest
    | .dashes => .error .usage
    | .plain => do
      let (t, more) ← (task w (rest.map (·.1))).mapError (Halt.on (String.ofList w))
      if surplus || more then throw .usage
      return {
        config := values.value "config"
        projectRoot := values.value "project-root"
        verbose := values.has "verbose"
        task := t }

/-- Read a command line. -/
def parse (words : List String) : Except Halt Invocation := do
  let classified ← classifyAll globalFlags (words.map String.toList)
  readGlobal (words.length + 1) [] false classified

end Emend.Command
