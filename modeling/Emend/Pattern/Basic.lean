import Emend.Text.Quoted

/-!
# Patterns

A pattern is read into a tree (`Item`) that keeps what was written, with the options of every group.
A tree that can be searched for (`Node`) has the options worked in: each of its leaves is a test of
one character or of a place between characters.
-/

namespace Emend.Pattern

/-- What can be switched on for a pattern or for a group of it. -/
structure Options where
  ignoreCase : Bool := false
  multiline : Bool := false
  dotAll : Bool := false
  verbose : Bool := false
  ascii : Bool := false
  unicode : Bool := false
  template : Bool := false
  locale : Bool := false
  deriving DecidableEq, BEq, Repr, Inhabited

namespace Options

/-- The options of either. -/
def union (a b : Options) : Options where
  ignoreCase := a.ignoreCase || b.ignoreCase
  multiline := a.multiline || b.multiline
  dotAll := a.dotAll || b.dotAll
  verbose := a.verbose || b.verbose
  ascii := a.ascii || b.ascii
  unicode := a.unicode || b.unicode
  template := a.template || b.template
  locale := a.locale || b.locale

/-- The options of the first that the second lacks. -/
def diff (a b : Options) : Options where
  ignoreCase := a.ignoreCase && !b.ignoreCase
  multiline := a.multiline && !b.multiline
  dotAll := a.dotAll && !b.dotAll
  verbose := a.verbose && !b.verbose
  ascii := a.ascii && !b.ascii
  unicode := a.unicode && !b.unicode
  template := a.template && !b.template
  locale := a.locale && !b.locale

/-- Both have an option in common. -/
def meets (a b : Options) : Bool :=
  a.ignoreCase && b.ignoreCase || a.multiline && b.multiline || a.dotAll && b.dotAll
    || a.verbose && b.verbose || a.ascii && b.ascii || a.unicode && b.unicode
    || a.template && b.template || a.locale && b.locale

/-- The option that says which characters a class like `\w` holds. -/
def hasClassRule (a : Options) : Bool := a.ascii || a.unicode || a.locale

/-- The options inside a group that adds some and takes others away. -/
def within (outer added removed : Options) : Options :=
  let kept :=
    if added.hasClassRule then { outer with ascii := false, unicode := false, locale := false }
    else outer
  (kept.union added).diff removed

/-- The option of a letter. -/
def ofLetter? : Char → Option Options
  | 'i' => some { ignoreCase := true }
  | 'L' => some { locale := true }
  | 'm' => some { multiline := true }
  | 's' => some { dotAll := true }
  | 'x' => some { verbose := true }
  | 'a' => some { ascii := true }
  | 't' => some { template := true }
  | 'u' => some { unicode := true }
  | _ => none

end Options

/-- A named class of characters. -/
inductive Category where
  | digit
  | space
  | word
  deriving DecidableEq, BEq, Repr

/-- One part of a character set. Characters are given by code point. -/
inductive SetItem where
  | char (code : Nat)
  | range (low high : Nat)
  | category (kind : Category) (negated : Bool)
  deriving DecidableEq, BEq, Repr

/-- A condition on a place between characters. -/
inductive Anchor where
  /-- The start of the text; of a line, with the multiline option. -/
  | start
  /-- The end of the text or before its last line feed; the end of a line, with the multiline option. -/
  | stop
  | textStart
  | textEnd
  | boundary
  | notBoundary
  deriving DecidableEq, BEq, Repr

/-- How a repetition chooses its length. -/
inductive Greed where
  /-- As long as possible, then shorter. -/
  | greedy
  /-- As short as possible, then longer. -/
  | lazy
  /-- As long as possible, and no other. -/
  | possessive
  deriving DecidableEq, BEq, Repr

/-- A part of a pattern as it was written. -/
inductive Item where
  | char (code : Nat)
  | notChar (code : Nat)
  | any
  | set (negated : Bool) (items : List SetItem)
  | anchor (kind : Anchor)
  | branch (alternatives : List (List Item))
  | repeated (greed : Greed) (least : Nat) (most : Option Nat) (body : List Item)
  /-- A group, with its number if it captures. -/
  | group (index : Option Nat) (added removed : Options) (body : List Item)
  | atomic (body : List Item)
  | look (behind negated : Bool) (body : List Item)
  | backref (group : Nat)
  | conditional (group : Nat) (yes no : List Item)
  deriving Inhabited

/-! ## What can be wrong -/

/-- What is wrong with a pattern. -/
inductive Problem where
  | escapeAtEnd
  | badEscape (text : String)
  | incompleteEscape (text : String)
  | octalTooLarge (text : String)
  | missingBrace
  | undefinedName (name : String)
  | missingName (what : String)
  | unterminatedName (terminator : Char)
  | badGroupName (name : String)
  | unknownGroupName (name : String)
  | badGroupNumber
  | openGroup
  | lookbehindGroup
  | invalidReference (group : Nat)
  | redefinedName (name : String) (group old : Nat)
  | unterminatedSet
  | badRange (low high : String)
  | reversedBounds
  | nothingToRepeat
  | multipleRepeat
  | unexpectedEnd
  | unknownExtension (text : String)
  | unterminatedComment
  | unterminatedGroup
  | tooManyBranches
  | misplacedOptions
  | localeOption
  | clashingOptions
  | missingOptionEnd
  | unknownOption
  | missingOption
  | missingColon
  | fixedOption
  | globalOptionOn
  | globalOptionOff
  | optionOnAndOff
  | unbalanced
  | variableLookbehind
  | longLookbehind
  | templateRepeat (operator : String)
  deriving DecidableEq, BEq, Repr

/-- The wording of a problem. -/
def Problem.message : Problem → String
  | .escapeAtEnd => "bad escape (end of pattern)"
  | .badEscape t => s!"bad escape {t}"
  | .incompleteEscape t => s!"incomplete escape {t}"
  | .octalTooLarge t => s!"octal escape value {t} outside of range 0-0o377"
  | .missingBrace => "missing \x7b"
  | .undefinedName n => "undefined character name " ++ Text.quote n
  | .missingName what => s!"missing {what}"
  | .unterminatedName t => s!"missing {t}, unterminated name"
  | .badGroupName n => "bad character in group name " ++ Text.quote n
  | .unknownGroupName n => "unknown group name " ++ Text.quote n
  | .badGroupNumber => "bad group number"
  | .openGroup => "cannot refer to an open group"
  | .lookbehindGroup => "cannot refer to group defined in the same lookbehind subpattern"
  | .invalidReference g => s!"invalid group reference {g}"
  | .redefinedName n g old =>
    "redefinition of group name " ++ Text.quote n ++ s!" as group {g}; was group {old}"
  | .unterminatedSet => "unterminated character set"
  | .badRange a b => s!"bad character range {a}-{b}"
  | .reversedBounds => "min repeat greater than max repeat"
  | .nothingToRepeat => "nothing to repeat"
  | .multipleRepeat => "multiple repeat"
  | .unexpectedEnd => "unexpected end of pattern"
  | .unknownExtension t => s!"unknown extension ?{t}"
  | .unterminatedComment => "missing ), unterminated comment"
  | .unterminatedGroup => "missing ), unterminated subpattern"
  | .tooManyBranches => "conditional backref with more than two branches"
  | .misplacedOptions => "global flags not at the start of the expression"
  | .localeOption => "bad inline flags: cannot use 'L' flag with a str pattern"
  | .clashingOptions => "bad inline flags: flags 'a', 'u' and 'L' are incompatible"
  | .missingOptionEnd => "missing -, : or )"
  | .unknownOption => "unknown flag"
  | .missingOption => "missing flag"
  | .missingColon => "missing :"
  | .fixedOption => "bad inline flags: cannot turn off flags 'a', 'u' and 'L'"
  | .globalOptionOn => "bad inline flags: cannot turn on global flag"
  | .globalOptionOff => "bad inline flags: cannot turn off global flag"
  | .optionOnAndOff => "bad inline flags: flag turned on and off"
  | .unbalanced => "unbalanced parenthesis"
  | .variableLookbehind => "look-behind requires fixed-width pattern"
  | .longLookbehind => "looks too much behind"
  | .templateRepeat op => s!"internal: unsupported template operator {op}"

/-- Why a pattern cannot be used. -/
inductive Rejection where
  /-- A problem, with its place in the pattern where it has one. -/
  | problem (cause : Problem) (position : Option Nat)
  /-- A number of repetitions that is too large to count. -/
  | repetitionTooLarge
  /-- Two options that exclude each other are both on. -/
  | exclusiveOptions
  deriving DecidableEq, BEq, Repr

/-- A problem with its place: the offset, and line and column where the pattern has several lines. -/
def Problem.messageAt (p : Problem) (position : Option Nat) (source : List Char) : String :=
  match position with
  | none => p.message
  | some n =>
    let before := source.take n
    let line := before.count '\n' + 1
    let column := (before.reverse.takeWhile (· != '\n')).length + 1
    p.message ++ s!" at position {n}"
      ++ (if source.contains '\n' then s!" (line {line}, column {column})" else "")

/-! ## Patterns that can be searched for -/

/-- Whether a text has some property at a place. -/
abbrev PlaceTest := Array Char → Nat → Bool

/-- A pattern with its options worked in. -/
inductive Node where
  | empty
  /-- One character that passes a test. -/
  | one (accepts : Char → Bool)
  /-- A place that passes a test. -/
  | place (holds : PlaceTest)
  | seq (first second : Node)
  | alt (first second : Node)
  | repeated (greed : Greed) (least : Nat) (most : Option Nat) (body : Node)
  | group (index : Nat) (body : Node)
  | atomic (body : Node)
  /-- The body matches, or does not, from `behind` characters back. -/
  | look (behind : Nat) (negated : Bool) (body : Node)
  /-- The text of a group again, up to a change of case. -/
  | backref (group : Nat) (fold : Char → Char)
  | ifGroup (group : Nat) (yes no : Node)

namespace Node

/-- One after the other. -/
def all (nodes : List Node) : Node := nodes.foldr .seq .empty

/-- The first that matches. -/
def any : List Node → Node
  | [] => .empty
  | [n] => n
  | n :: rest => .alt n (any rest)

/-- A text, character for character. -/
def ofText (text : List Char) : Node := all (text.map fun c => .one (· == c))

end Node

end Emend.Pattern
