import Emend.Text.Table.CaseMaps
import Emend.Text.Table.Cased
import Emend.Text.Table.CaseIgnorable

/-!
# Lower, upper and capitalized text

Full case conversion for every script. Two rules look beyond one character: a letter may become
several, and a capital sigma is written with its final form at the end of a word.
-/

namespace Emend.Text

/-- The lower case of one letter, whatever surrounds it. -/
def lowerChar (c : Char) : List Char :=
  if c.toNat < 128 then [c.toLower] else Table.lowercase.apply c

/-- The lower case of one letter as a single character: the first of its lower case. -/
def foldChar (c : Char) : Char := (lowerChar c).headD c

/-- The upper case of one letter. -/
def upperChar (c : Char) : List Char :=
  if c.toNat < 128 then [c.toUpper] else Table.uppercase.apply c

/-- The form of a letter at the head of a capitalized word. -/
def titleChar (c : Char) : List Char :=
  if c.toNat < 128 then [c.toUpper] else (Table.titlecase.image? c).getD (upperChar c)

/-- A character with another form in lower or in upper case. -/
def isCased (c : Char) : Bool := lowerChar c != [c] || upperChar c != [c]

/-- Whether the nearest character that casing does not look through is a cased one. -/
def meetsCased (cs : List Char) : Bool :=
  match cs.dropWhile Table.caseIgnorable.contains with
  | c :: _ => Table.cased.contains c
  | [] => false

/-- The lower case of a letter with the text before it, nearest first, and the text after it. A
capital sigma that ends a word takes its final form. -/
def lowerBetween (before : List Char) (c : Char) (after : List Char) : List Char :=
  if c == 'Σ' then (if meetsCased before && !meetsCased after then ['ς'] else ['σ'])
  else lowerChar c

/-- The lower case of a text that follows `before`, given nearest first. -/
def lowerAfter (before : List Char) : List Char → List Char
  | [] => []
  | c :: rest => lowerBetween before c rest ++ lowerAfter (c :: before) rest

/-- The text in lower case. -/
def lower (s : String) : String := String.ofList (lowerAfter [] s.toList)

/-- The text in upper case. -/
def upper (s : String) : String := String.ofList (s.toList.flatMap upperChar)

/-- The first letter in title case and the others in lower case. -/
def capitalize (s : String) : String :=
  match s.toList with
  | [] => ""
  | c :: rest => String.ofList (titleChar c ++ lowerAfter [c] rest)

/-- Two spellings of one word that differ in case only. -/
def sameWord (s t : String) : Bool := lower s == lower t

end Emend.Text
