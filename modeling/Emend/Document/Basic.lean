import Emend.Document.Position
import Emend.Text.Lines

/-!
# Documents

A fixed text with two systems of coordinates: offsets count characters from the start of the text,
positions count lines and characters of a line. Lines end at line feeds; a carriage return right
before the line feed belongs to the terminator and not to the line's body, but it is counted by the
characters of a position.
-/

namespace Emend

open Text

/-- A place that the document does not have. -/
inductive OutOfRange where
  /-- An offset beyond the end, or below zero. -/
  | offset (offset : Int) (length : Nat)
  /-- A line that is not there. -/
  | line (line : Int) (count : Nat)
  /-- A character beyond the end of its line, or below zero. -/
  | character (character line : Int) (length : Nat)
  /-- A pair of line numbers, counted from one, that spans no lines. -/
  | lineSpan (first last : Int) (count : Nat)
  /-- A line number, counted from one, without a line. -/
  | lineNumber (number : Int) (count : Nat)
  deriving DecidableEq, BEq, Repr

/-- The place that was asked for and what the document has. -/
def OutOfRange.message : OutOfRange → String
  | .offset o n => s!"Offset {o} is outside the document (length {n})"
  | .line l n => s!"Line {l} is outside the document ({n} lines)"
  | .character c l n => s!"Character {c} is outside line {l} (length {n})"
  | .lineSpan s e n => s!"Invalid line range {s}-{e} (document has {n} lines)"
  | .lineNumber k n => s!"Invalid line {k} (document has {n} lines)"

/-- How a line ends. -/
inductive LineEnding where
  | lf
  | crlf
  deriving DecidableEq, BEq, Repr, Inhabited

/-- The characters of a line ending. -/
def LineEnding.chars : LineEnding → List Char
  | .lf => ['\n']
  | .crlf => ['\r', '\n']

/-- A text that does not change, and the name of the file that it is the text of. -/
structure Document where
  text : List Char
  uri : String := ""
  deriving DecidableEq, BEq, Repr, Inhabited

namespace Document

/-- The lines with their carriage returns and without their line feeds. -/
def rawLines (d : Document) : List (List Char) := lines d.text

/-- The number of lines: one more than there are line feeds. -/
def lineCount (d : Document) : Nat := d.rawLines.length

/-- The number of characters. -/
def length (d : Document) : Nat := d.text.length

/-- Whether a line, its line feed taken away, ends in a carriage return. -/
def endsInReturn (raw : List Char) : Bool := raw.getLast? == some '\r'

/-- A line without the carriage return of its terminator. -/
def body (raw : List Char) : List Char := if endsInReturn raw then raw.dropLast else raw

/-- The ending of a line that a line feed follows. -/
def endingOf (raw : List Char) : LineEnding := if endsInReturn raw then .crlf else .lf

/-- The document's line ending: the one of its first line. -/
def ending (d : Document) : LineEnding :=
  match d.rawLines with
  | first :: _ :: _ => endingOf first
  | _ => .lf

/-- The line with its carriage return, if the document has it. -/
def rawLine (d : Document) (line : Int) : Except OutOfRange (List Char) :=
  if line < 0 then .error (.line line d.lineCount)
  else match d.rawLines[line.toNat]? with
    | some raw => .ok raw
    | none => .error (.line line d.lineCount)

/-- The ending of a line. The last line, which has none, takes the document's. -/
def endingAt (d : Document) (line : Int) : Except OutOfRange LineEnding := do
  let raw ← d.rawLine line
  return if line + 1 < d.lineCount then endingOf raw else d.ending

/-- The text of a line without its terminator. -/
def lineText (d : Document) (line : Int) : Except OutOfRange (List Char) :=
  (d.rawLine line).map body

/-- The range of a line without its terminator. -/
def lineRange (d : Document) (line : Int) : Except OutOfRange Range := do
  let text ← d.lineText line
  return ⟨⟨line, 0⟩, ⟨line, text.length⟩, by simp [Position.le_def]⟩

/-! ## Offsets and positions -/

/-- The offset of the first character of a line. -/
def lineStart (d : Document) (line : Nat) : Nat :=
  ((d.rawLines.take line).map fun raw => raw.length + 1).foldr (· + ·) 0

/-- The position of an offset: where writing the text before it arrives. -/
def positionAt (d : Document) (offset : Int) : Except OutOfRange Position :=
  if offset < 0 ∨ offset > d.length then .error (.offset offset d.length)
  else .ok (Position.zero.extent (d.text.take offset.toNat))

/-- The offset of a position. -/
def offsetAt (d : Document) (p : Position) : Except OutOfRange Nat := do
  let raw ← d.rawLine p.line
  if p.character < 0 ∨ p.character > raw.length then
    throw (.character p.character p.line raw.length)
  return d.lineStart p.line.toNat + p.character.toNat

/-- The text of a range. -/
def textIn (d : Document) (r : Range) : Except OutOfRange (List Char) := do
  let start ← d.offsetAt r.start
  let stop ← d.offsetAt r.stop
  return (d.text.drop start).take (stop - start)

/-- The range of the whole text. -/
def fullRange (d : Document) : Range := .covering .zero d.text

end Document

end Emend
