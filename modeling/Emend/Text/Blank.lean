/-!
# Blank characters

White space in the wide sense: the space separators of every script, the line and paragraph
separators, and the control characters that separate fields or break lines.
-/

namespace Emend.Text

/-- White space: separators of every script and the control characters that act as one. -/
def isBlank (c : Char) : Bool :=
  let n := c.toNat
  (9 ≤ n && n ≤ 13) || (28 ≤ n && n ≤ 32) || n == 0x85 || n == 0xA0 || n == 0x1680
    || (0x2000 ≤ n && n ≤ 0x200A) || n == 0x2028 || n == 0x2029 || n == 0x202F
    || n == 0x205F || n == 0x3000

/-- The text without its leading blanks. -/
def trimLeft (s : List Char) : List Char := s.dropWhile isBlank

/-- The text without the trailing characters that satisfy `p`. -/
def dropRightWhile (p : Char → Bool) (s : List Char) : List Char := (s.reverse.dropWhile p).reverse

/-- The text without its trailing blanks. -/
def trimRight (s : List Char) : List Char := dropRightWhile isBlank s

/-- The text without blanks on either side. -/
def trim (s : List Char) : List Char := trimRight (trimLeft s)

/-- A text of blanks only, the empty one included. -/
def isBlankText (s : List Char) : Bool := s.all isBlank

/-- The blanks before the first other character. -/
def leadingBlanks (s : List Char) : List Char := s.takeWhile isBlank

end Emend.Text
