import Emend.Text.Quoted

/-!
# Instructions

An instruction says what to do (an action) and where (a match). Which kinds of match an action takes
is the table `Action.accepts`.
-/

namespace Emend

/-- What an instruction does to the part of the text that its match finds. -/
inductive Action where
  | replace
  | insertBefore
  | insertAfter
  | prepend
  | append
  | delete
  deriving DecidableEq, BEq, Repr, Inhabited

namespace Action

/-- Every action. -/
def all : List Action := [.replace, .insertBefore, .insertAfter, .prepend, .append, .delete]

/-- The word for the action in a request. -/
def name : Action → String
  | .replace => "replace"
  | .insertBefore => "insert-before"
  | .insertAfter => "insert-after"
  | .prepend => "prepend"
  | .append => "append"
  | .delete => "delete"

/-- The action of a word. -/
def ofName? (s : String) : Option Action := all.find? (·.name == s)

end Action

/-- The ways to say where. -/
inductive MatchKind where
  | lines
  | line
  | pattern
  | literal
  | wholeFile
  | symbol
  | declaration
  deriving DecidableEq, BEq, Repr, Inhabited

namespace MatchKind

/-- Every kind of match. -/
def all : List MatchKind := [.lines, .line, .pattern, .literal, .wholeFile, .symbol, .declaration]

/-- The word for the kind in a request. -/
def name : MatchKind → String
  | .lines => "lines"
  | .line => "line"
  | .pattern => "regex"
  | .literal => "str"
  | .wholeFile => "whole_file"
  | .symbol => "symbol"
  | .declaration => "ast"

/-- The kind of a word. -/
def ofName? (s : String) : Option MatchKind := all.find? (·.name == s)

/-- The match finds a declaration, whose indentation the new text takes over. -/
def isStructural : MatchKind → Bool
  | .symbol | .declaration => true
  | _ => false

end MatchKind

namespace Action

/-- The kinds of match that the action takes. -/
def accepted : Action → List MatchKind
  | .replace | .delete => [.lines, .pattern, .literal, .wholeFile, .symbol, .declaration]
  | .insertBefore | .insertAfter => [.line, .pattern, .literal, .symbol, .declaration]
  | .prepend | .append => [.line]

/-- The action takes matches of this kind. -/
def accepts (a : Action) (k : MatchKind) : Bool := a.accepted.contains k

end Action

/-- Where to act. Lines and occurrences are counted from one. -/
inductive Match where
  /-- The lines from one to another, both included. -/
  | lines (first last : Int)
  /-- One line. -/
  | line (number : Int)
  /-- An occurrence of a pattern. -/
  | pattern (source : List Char) (occurrence : Int)
  /-- An occurrence of a text. -/
  | literal (text : List Char) (occurrence : Int)
  /-- The whole text. -/
  | wholeFile
  /-- A symbol of the host's symbol tree. -/
  | symbol (name : String) (kind parentName parentKind : Option String) (occurrence : Int)
  /-- A declaration that an extractor found. -/
  | declaration (kind name : String) (depth : Option Int) (parent : Option String) (occurrence : Int)
  deriving DecidableEq, BEq, Repr, Inhabited

namespace Match

/-- The kind of a match. -/
def kind : Match → MatchKind
  | .lines .. => .lines
  | .line .. => .line
  | .pattern .. => .pattern
  | .literal .. => .literal
  | .wholeFile => .wholeFile
  | .symbol .. => .symbol
  | .declaration .. => .declaration

/-- A phrase, where there is a word to put into it. -/
def phrase (word : Option String) (text : String → String) : String :=
  match word with
  | some w => if w.isEmpty then "" else text w
  | none => ""

/-- The match in words. -/
def describe : Match → String
  | .lines first last => s!"lines {first}-{last}"
  | .line number => s!"line {number}"
  | .pattern source n => s!"occurrence {n} of regex " ++ Text.quote (String.ofList source)
  | .literal text n => s!"occurrence {n} of string " ++ Text.quote (String.ofList text)
  | .wholeFile => "whole file"
  | .symbol name kind parentName parentKind n =>
    let owner := match parentKind with
      | some k => if k.isEmpty then "parent" else k
      | none => "parent"
    "symbol " ++ Text.quote name ++ phrase kind (" of kind " ++ ·)
      ++ phrase parentName (fun p => " in " ++ owner ++ " " ++ Text.quote p)
      ++ s!" (occurrence {n})"
  | .declaration kind name depth parent n =>
    let level := match depth with
      | some d => s!" at depth {d}"
      | none => ""
    "AST node " ++ kind ++ " " ++ Text.quote name ++ level
      ++ phrase parent (fun p => " in parent " ++ Text.quote p) ++ s!" (occurrence {n})"

end Match

/-- One instruction of a request. -/
structure Instruction where
  action : Action
  target : Match
  newText : List Char := []
  deriving DecidableEq, BEq, Repr, Inhabited

/-- The instructions for one file. -/
structure Request where
  filePath : String
  instructions : List Instruction
  comment : String
  deriving DecidableEq, BEq, Repr, Inhabited

end Emend
