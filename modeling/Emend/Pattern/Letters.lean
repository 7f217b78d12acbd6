import Emend.Pattern.Basic
import Emend.Text.Blank
import Emend.Text.Case
import Emend.Text.Digits
import Emend.Text.Table.Alphanumeric
import Emend.Text.Table.CaseKin

/-!
# Characters in patterns

What a leaf of a pattern accepts under the options that are in force there: which characters a class
holds, and which letters count as the same when case is ignored.
-/

namespace Emend.Pattern

open Text

/-- The last code point of two bytes. Sets treat the letters beyond it by a rule of their own. -/
def lastOfPlane : Nat := 0xFFFF

/-- The character of a code point, if it is one. -/
def charOf? (n : Nat) : Option Char := if n.isValidChar then some (Char.ofNat n) else none

/-! ## Classes -/

/-- A letter, digit or underscore. -/
def isWord (ascii : Bool) (c : Char) : Bool :=
  if ascii then c.isAlphanum || c == '_' else Table.alphanumeric.contains c || c == '_'

/-- The class holds the character. -/
def Category.holds (ascii : Bool) (k : Category) (c : Char) : Bool :=
  match k with
  | .digit => if ascii then c.isDigit else Text.isDigit c
  | .space => if ascii then c == ' ' || (9 ≤ c.toNat && c.toNat ≤ 13) else isBlank c
  | .word => isWord ascii c

/-! ## Case -/

/-- The letter that stands for a letter and its other cases. -/
def foldLetter (ascii : Bool) (c : Char) : Char := if ascii then c.toLower else foldChar c

/-- The code point that stands for a letter and its other cases. -/
def foldCode (ascii : Bool) (n : Nat) : Nat :=
  match charOf? n with
  | some c => (foldLetter ascii c).toNat
  | none => n

/-- The folded letters that count as the same as a folded letter, besides itself. -/
def kin (ascii : Bool) (n : Nat) : List Nat :=
  if ascii then [] else (Table.caseKin.lookup n).getD []

/-- The code point is a letter with two cases. -/
def hasCases (ascii : Bool) (n : Nat) : Bool :=
  match charOf? n with
  | some c => if ascii then c.isAlpha else isCased c
  | none => false

/-- A letter with two cases lies between two code points. -/
def casesBetween (ascii : Bool) (low high : Nat) : Bool :=
  if ascii then (low ≤ 90 && 65 ≤ high) || (low ≤ 122 && 97 ≤ high)
  else Table.lowercase.moves low high || Table.uppercase.moves low high
    || (low ≤ 90 && 65 ≤ high) || (low ≤ 122 && 97 ≤ high)

/-- The code points that fold to a given one. -/
def foldSources (ascii : Bool) (n : Nat) : List Nat :=
  let others :=
    if ascii then (if 97 ≤ n && n ≤ 122 then [n - 32] else [])
    else Table.lowercase.sources n
  if foldCode ascii n == n then n :: others else others

/-! ## Leaves -/

/-- A folded character is a member of a set item, when case is ignored. -/
def SetItem.acceptsFolded (ascii : Bool) (item : SetItem) (c : Char) : Bool :=
  let x := c.toNat
  match item with
  | .char n =>
    if lastOfPlane < n then x == n
    else
      let folded := foldCode ascii n
      x == folded || (kin ascii folded).contains x
  | .range low high =>
    ((x :: kin ascii x).any fun y => (foldSources ascii y).any fun n => low ≤ n && n ≤ high)
      || (lastOfPlane < high &&
        ((low ≤ x && x ≤ high) ||
          (let up := ((upperChar c).headD c).toNat
           low ≤ up && up ≤ high)))
  | .category k negated => k.holds ascii c != negated

/-- A character is a member of a set item. -/
def SetItem.accepts (ascii : Bool) (item : SetItem) (c : Char) : Bool :=
  match item with
  | .char n => c.toNat == n
  | .range low high => low ≤ c.toNat && c.toNat ≤ high
  | .category k negated => k.holds ascii c != negated

/-- The item makes its set look at folded characters. -/
def SetItem.folds (ascii : Bool) : SetItem → Bool
  | .char n => lastOfPlane < n || hasCases ascii n
  | .range low high => lastOfPlane < high || casesBetween ascii low high
  | .category .. => false

/-- The test of a set. -/
def setTest (o : Options) (negated : Bool) (items : List SetItem) : Char → Bool :=
  let folded := o.ignoreCase && items.any (·.folds o.ascii)
  if folded then fun c =>
    let x := foldLetter o.ascii c
    items.any (·.acceptsFolded o.ascii x) != negated
  else if o.ignoreCase then fun c => items.any (·.acceptsFolded o.ascii c) != negated
  else fun c => items.any (·.accepts o.ascii c) != negated

/-- The test of one letter. -/
def letterTest (o : Options) (n : Nat) : Char → Bool :=
  if o.ignoreCase && hasCases o.ascii n then
    let folded := foldCode o.ascii n
    let same := folded :: kin o.ascii folded
    fun c => same.contains (foldLetter o.ascii c).toNat
  else fun c => c.toNat == n

/-- The test of a place. -/
def anchorTest (o : Options) : Anchor → PlaceTest
  | .textStart => fun _ pos => pos == 0
  | .textEnd => fun text pos => pos == text.size
  | .start => fun text pos =>
    pos == 0 || (o.multiline && text[pos - 1]? == some '\n')
  | .stop => fun text pos =>
    pos == text.size || (text[pos]? == some '\n' && (o.multiline || pos + 1 == text.size))
  | .boundary => fun text pos =>
    let word (c : Option Char) := c.any (isWord o.ascii)
    word (if pos = 0 then none else text[pos - 1]?) != word text[pos]?
  | .notBoundary => fun text pos =>
    let word (c : Option Char) := c.any (isWord o.ascii)
    text.size != 0 && word (if pos = 0 then none else text[pos - 1]?) == word text[pos]?

/-- The change of case under which a group's text is found again. -/
def backrefFold (o : Options) : Char → Char :=
  if o.ignoreCase then foldLetter o.ascii else id

end Emend.Pattern
