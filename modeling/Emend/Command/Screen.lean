import Emend.Host.Basic

/-!
# The screen

What a command shows, on two channels, and what is typed to it line by line. Where a question finds
nothing typed, the screen remembers what was shown up to there. A scene is a screen with the workspace
behind it; what is told in the workspace is shown as soon as the scene moves on to it.
-/

namespace Emend.Command

/-- What is shown. -/
structure Shown where
  /-- Results and questions. -/
  out : String := ""
  /-- Complaints and notes. -/
  err : String := ""
  deriving DecidableEq, BEq, Repr, Inhabited

/-- What a command shows, and what is typed to it. -/
structure Screen extends Shown where
  /-- The least rank of the notes that are shown; without one, no note is. -/
  threshold : Option Nat := none
  /-- What is typed and not yet read. -/
  typed : List Char := []
  /-- What was shown up to the first question that found nothing typed. -/
  waited : Option Shown := none
  deriving DecidableEq, BEq, Repr, Inhabited

namespace Screen

/-- Show a line. -/
def print (s : Screen) (line : String) : Screen := { s with out := s.out ++ line ++ "\n" }

/-- Show several lines. -/
def printAll (s : Screen) (lines : List String) : Screen := lines.foldl print s

/-- Complain in a line. -/
def complain (s : Screen) (line : String) : Screen := { s with err := s.err ++ line ++ "\n" }

/-- Ask something and read a line. The answer is empty where nothing more is typed. -/
def ask (s : Screen) (question : String) : List Char × Screen :=
  let out := s.out ++ question
  (s.typed.takeWhile (· != '\n'),
    { s with
      out
      typed := (s.typed.dropWhile (· != '\n')).drop 1
      waited := if s.typed.isEmpty then s.waited <|> some ⟨out, s.err⟩ else s.waited })

/-- A note is severe enough to be shown. -/
def lets (s : Screen) (n : Note) : Bool := s.threshold.any (· ≤ n.severity.rank)

/-- Show the notes that are severe enough. -/
def tell (s : Screen) (notes : List Note) : Screen :=
  ((notes.filter s.lets).map Note.render).foldl complain s

end Screen

/-- A screen and the workspace behind it. -/
structure Scene (σ : Type) where
  screen : Screen
  work : Workspace σ

namespace Scene

variable {σ : Type}

/-- Change the screen. -/
def on (s : Scene σ) (f : Screen → Screen) : Scene σ := { s with screen := f s.screen }

/-- Go on with a workspace; what was told in it is shown. -/
def move (s : Scene σ) (w : Workspace σ) : Scene σ :=
  ⟨s.screen.tell w.notes, { w with notes := [] }⟩

end Scene

/-- Why a command stops: with a complaint, or with a failure that it does not deal with. -/
inductive Stop where
  | complaint (line : String)
  | failure (f : Failure)
  deriving BEq, Repr

/-- How a command ends: with an exit code, or with a failure that it does not deal with. -/
abbrev Ending := Attempt Nat

/-- Stop. After a complaint the exit code is one. -/
def Scene.stop {σ : Type} (s : Scene σ) : Stop → Ending × Scene σ
  | .complaint line => (.ok 1, s.on (·.complain line))
  | .failure f => (.error f, s)

/-- A line between a heading and what follows. -/
def rule : String := String.ofList (List.replicate 60 '-')

/-- A text filled up with blanks on the right. -/
def padRight (width : Nat) (text : String) : String :=
  text ++ String.ofList (List.replicate (width - text.length) ' ')

/-- A text filled up with blanks on the left. -/
def padLeft (width : Nat) (text : String) : String :=
  String.ofList (List.replicate (width - text.length) ' ') ++ text

end Emend.Command
