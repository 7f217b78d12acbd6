import Emend.Outline.Declaration
import Emend.Pattern.Letters
import Emend.Pattern.Matcher
import Emend.Text.Blank

/-!
# Declarations by their words

For texts of no known language: declarations are found by the words that introduce them. Only their
starts are known.
-/

namespace Emend.Fallback

open Pattern

/-- At least one blank. -/
def blanks : Node := .repeated .greedy 1 none (.one Text.isBlank)

/-- Any number of blanks. -/
def optionalBlanks : Node := .repeated .greedy 0 none (.one Text.isBlank)

/-- One of several words. -/
def word (words : List String) : Node := .any (words.map fun w => .ofText w.toList)

/-- A part that may be missing. -/
def optional (n : Node) : Node := .repeated .greedy 0 (some 1) n

/-- A part any number of times. -/
def many (n : Node) : Node := .repeated .greedy 0 none n

/-- The first character of a name. -/
def startsName (c : Char) : Bool := c.isAlpha || c == '_' || c == '$'

/-- A further character of a name. -/
def continuesName (c : Char) : Bool := isWord false c || c == '$'

/-- A name. -/
def name : Node := .seq (.one startsName) (.repeated .greedy 0 none (.one continuesName))

/-- The words that may stand before the word for a class. -/
def modifiers : List String :=
  ["public", "private", "protected", "internal", "abstract", "final", "static", "sealed", "partial"]

/-- The words for classes and the like. -/
def classWords : List String := ["class", "interface", "trait", "enum", "struct"]

/-- The words for functions. -/
def functionWords : List String := ["function", "def", "func", "fn", "sub"]

/-- The start of a line. -/
def lineStart : Node := .place (anchorTest { multiline := true } .start)

/-- A place where a word begins or ends. -/
def boundary : Node := .place (anchorTest {} .boundary)

/-- A class at the start of a line. The groups are the declaration, its word and its name. -/
def classPattern : Node :=
  .all [lineStart, .repeated .greedy 0 none (.one fun c => c == ' ' || c == '\t'),
    .group 1 (.all [
      optional (.all [.ofText "export".toList, blanks,
        optional (.seq (.ofText "default".toList) blanks)]),
      many (.seq (word modifiers) blanks),
      .group 2 (word classWords), blanks, .group 3 name])]

/-- A function and the parenthesis after its name. The groups are the declaration and its name. -/
def functionPattern : Node :=
  .all [boundary, .group 1 (.all [word functionWords, blanks, .group 2 name]), optionalBlanks,
    .one (· == '(')]

/-- The text that a group captured. -/
def captured (text : List Char) (s : Cursor) (group : Nat) : String :=
  match s.capture? group with
  | some (a, b) => String.ofList ((text.drop a).take (b - a))
  | none => ""

/-- A declaration that starts where its first group does. -/
def declaration (text : List Char) (kind : String) (nameGroup : Nat) (s : Cursor) : Declaration :=
  let start := ((s.capture? 1).map (·.1)).getD 0
  let line := (text.take start).count '\n'
  { kind, name := captured text s nameGroup, depth := 0, start, stop := -1,
    startLine := line, endLine := line }

/-- The kind of a class by its word. -/
def classKind (word : String) : String := if word == "struct" then "class" else word

/-- The declarations of a text in their order. -/
def declarations (text : List Char) : List Declaration :=
  let classes := (allMatches classPattern text).map fun (_, s) =>
    declaration text (classKind (captured text s 2)) 3 s
  let functions := (allMatches functionPattern text).map fun (_, s) =>
    declaration text "function" 2 s
  (classes ++ functions).mergeSort fun a b => a.start ≤ b.start

end Emend.Fallback
