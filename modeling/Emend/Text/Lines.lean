/-!
# Lines

Two ways to cut a text into lines. `lines` cuts at line feeds only and is undone by joining;
`brokenLines` cuts after every character or pair that breaks a line on a display.
-/

namespace Emend.Text

/-- The pieces between line feeds: one more than there are line feeds. -/
def lines : List Char → List (List Char)
  | [] => [[]]
  | '\n' :: rest => [] :: lines rest
  | c :: rest =>
    match lines rest with
    | [] => [[c]]
    | line :: more => (c :: line) :: more

/-- The pieces between occurrences of a character: one more than there are of those. -/
def pieces (separator : Char) : List Char → List (List Char)
  | [] => [[]]
  | c :: rest =>
    if c = separator then [] :: pieces separator rest
    else match pieces separator rest with
      | [] => [[c]]
      | piece :: more => (c :: piece) :: more

/-- The lines with a line feed between each two. -/
def unlines (ls : List (List Char)) : List Char := List.intercalate ['\n'] ls

theorem lines_ne_nil (s : List Char) : lines s ≠ [] := by
  fun_induction lines s <;> simp_all

/-- A character at which a display starts a new line. -/
def isLineBreak (c : Char) : Bool :=
  let n := c.toNat
  (10 ≤ n && n ≤ 13) || (28 ≤ n && n ≤ 30) || n == 0x85 || n == 0x2028 || n == 0x2029

/-- A line and the break that ends it; the break is empty only where the text ends. -/
structure BrokenLine where
  body : List Char
  ending : List Char
  deriving BEq, DecidableEq, Repr, Inhabited

/-- The line with the break that ends it. -/
def BrokenLine.full (l : BrokenLine) : List Char := l.body ++ l.ending

/-- Put a character in front of the first line. -/
def BrokenLine.consFirst (c : Char) : List BrokenLine → List BrokenLine
  | [] => [⟨[c], []⟩]
  | l :: more => { l with body := c :: l.body } :: more

/-- The lines of a text with their breaks. A carriage return and the line feed after it are one break,
and no empty line follows a break that ends the text. -/
def brokenLines : List Char → List BrokenLine
  | [] => []
  | '\r' :: '\n' :: rest => ⟨[], ['\r', '\n']⟩ :: brokenLines rest
  | c :: rest =>
    if isLineBreak c then ⟨[], [c]⟩ :: brokenLines rest
    else BrokenLine.consFirst c (brokenLines rest)

/-- The line breaks of every convention, carriage return alone included, read as line feeds. -/
def universalNewlines : List Char → List Char
  | [] => []
  | '\r' :: '\n' :: rest => '\n' :: universalNewlines rest
  | '\r' :: rest => '\n' :: universalNewlines rest
  | c :: rest => c :: universalNewlines rest

/-- How many line feeds the text holds. -/
def countLineFeeds (s : List Char) : Nat := s.count '\n'

end Emend.Text
