/-!
# Texts as patterns

A text becomes the source of a pattern that matches nothing but the text: each character that can mean something
else in a pattern gets a backslash in front. Signs that mean something only in a set, and blanks and the number
sign, which a verbose pattern leaves out, are among them.
-/

namespace Emend.Pattern

/-- A character that can mean something else than itself. -/
def isSpecial (c : Char) : Bool :=
  ['(', ')', '[', ']', '\x7b', '\x7d', '?', '*', '+', '-', '|', '^', '$', '\\', '.', '&', '~', '#', ' ', '\t',
    '\n', '\r', '\x0b', '\x0c'].contains c

/-- The text with a backslash in front of each special character. -/
def escaped (text : List Char) : List Char :=
  text.flatMap fun c => if isSpecial c then ['\\', c] else [c]

@[simp] theorem escaped_nil : escaped [] = [] := rfl

theorem escaped_cons (c : Char) (text : List Char) :
    escaped (c :: text) = (if isSpecial c then ['\\', c] else [c]) ++ escaped text := rfl

end Emend.Pattern
