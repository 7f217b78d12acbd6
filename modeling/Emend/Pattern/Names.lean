import Emend.Text.Digits
import Emend.Text.Lines
import Emend.Text.Table.CharacterNames

/-!
# Characters by their names

A pattern can give a character by its name, in letters of either case. Ideographs are named by their
code points, in capitals only. The names that are known are those of the blocks in the table; the name of a
character of another block is refused like a name that no character has.
-/

namespace Emend.Pattern.Names

/-- The names of a run in their order. -/
def namesOf (run : Text.Table.NameRun) : List (List Char) :=
  run.lines.flatMap fun l => Text.pieces ';' l.toList

/-- The character of a name among those of a run. -/
def inRun? (name : List Char) (run : Text.Table.NameRun) : Option Nat :=
  ((namesOf run).idxOf? name).map (run.first + ·)

/-- The start of the name of an ideograph. -/
def ideographStart : List Char := "CJK UNIFIED IDEOGRAPH-".toList

/-- The first and the last code point of each block of ideographs. -/
def ideographs : List (Nat × Nat) :=
  [(0x3400, 0x4DBF), (0x4E00, 0x9FFF), (0x20000, 0x2A6DF), (0x2A700, 0x2B738), (0x2B740, 0x2B81D),
   (0x2B820, 0x2CEA1), (0x2CEB0, 0x2EBE0), (0x30000, 0x3134A)]

/-- The ideograph of a code point that is written in four or five digits. -/
def ideograph? (digits : List Char) : Option Nat := do
  if digits.length != 4 && digits.length != 5 then none
  if digits.any fun c => c.isLower then none
  let n := Text.ofDigits 16 (← digits.mapM Text.hexValue?)
  if ideographs.any fun (first, last) => first ≤ n && n ≤ last then some n else none

/-- The character of a name. -/
def lookup? (name : String) : Option Nat :=
  let letters := name.toList.map Char.toUpper
  if letters.isEmpty then none
  else if ideographStart.isPrefixOf name.toList then
    ideograph? (name.toList.drop ideographStart.length)
  else Text.Table.characterNames.findSome? (inRun? letters)
    <|> List.lookup (String.ofList letters) Text.Table.otherNames

end Emend.Pattern.Names
