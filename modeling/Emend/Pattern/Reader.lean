import Emend.Pattern.Width
import Emend.Pattern.Names
import Emend.Text.Blank
import Emend.Text.Digits
import Emend.Text.Table.Alphanumeric
import Emend.Text.Table.IdentifierPart
import Emend.Text.Table.IdentifierStart

/-!
# Reading patterns

From the text of a pattern to its tree. The reader looks one token ahead, where a token is a character
or a backslash with the character after it; a backslash at the very end is refused as soon as it comes
into view. Problems are reported with their place.
-/

namespace Emend.Pattern

open Text

/-- A character, or a backslash with the character after it. -/
inductive Token where
  | plain (c : Char)
  | escaped (c : Char)
  deriving DecidableEq, BEq, Repr

/-- The token as written. -/
def Token.text : Token → List Char
  | .plain c => [c]
  | .escaped c => ['\\', c]

/-- What the reader knows on its way. -/
structure Scan where
  /-- The pattern from the next token on. -/
  rest : List Char
  /-- The length of the whole pattern. -/
  length : Nat
  /-- The options of the whole pattern. -/
  options : Options := {}
  names : List (String × Nat) := []
  /-- The widths of the groups so far, the whole pattern in front; those still open have none. -/
  widths : GroupWidths := #[none]
  /-- The number of groups in front of the outermost look behind that is being read. -/
  lookbehindGroups : Option Nat := none
  /-- The groups that conditions refer to by number, with the places where they do first. -/
  references : List (Nat × Nat) := []

/-- A step of the reader. -/
abbrev Reading := StateT Scan (Except Rejection)

namespace Reading

/-- The place of the next token. -/
def tell : Reading Nat := do
  let s ← get
  return s.length - s.rest.length

/-- A problem, `back` characters before the next token. -/
def fail {α : Type} (p : Problem) (back : Nat) : Reading α := do
  let here ← tell
  throw (.problem p (some (here - back)))

/-- The next token. -/
def peek : Reading (Option Token) := do
  match (← get).rest with
  | '\\' :: c :: _ => return some (.escaped c)
  | c :: _ => return some (.plain c)
  | [] => return none

/-- Go on from `rest`; a backslash alone is no token. -/
def goTo (rest : List Char) : Reading Unit := do
  let s ← get
  if rest == ['\\'] then throw (.problem .escapeAtEnd (some (s.length - 1)))
  set { s with rest }

/-- Take the next token. -/
def take : Reading (Option Token) := do
  match (← get).rest with
  | '\\' :: c :: rest =>
    goTo rest
    return some (.escaped c)
  | c :: rest =>
    goTo rest
    return some (.plain c)
  | [] => return none

/-- Take the next token if it is the given character. -/
def accept (c : Char) : Reading Bool := do
  if (← peek) == some (.plain c) then
    discard take
    return true
  else return false

/-- The next token is a character that satisfies `p`. -/
def nextIs (p : Char → Bool) : Reading Bool := do
  match ← peek with
  | some (.plain c) => return p c
  | _ => return false

/-- Take characters that satisfy `p`, at most `n`. -/
def takeWhile (p : Char → Bool) : Nat → Reading (List Char)
  | 0 => return []
  | n + 1 => do
    match ← peek with
    | some (.plain c) =>
      if p c then
        discard take
        let more ← takeWhile p n
        return c :: more
      else return []
    | _ => return []

/-- Take everything up to a terminator, and the terminator. `what` is being read. -/
def takeUntil (terminator : Char) (what : String) : Nat → List Char → Reading (List Char)
  | 0, _ => fail (.missingName what) 0
  | fuel + 1, acc => do
    match ← take with
    | none =>
      if acc.isEmpty then fail (.missingName what) 0
      else fail (.unterminatedName terminator) acc.length
    | some t =>
      if t == .plain terminator then
        if acc.isEmpty then fail (.missingName what) 1 else return acc
      else takeUntil terminator what fuel (acc ++ t.text)

/-- Take a name up to its terminator. -/
def takeName (terminator : Char) (what : String) : Reading String := do
  let s ← get
  let name ← takeUntil terminator what (s.rest.length + 1) []
  return String.ofList name

end Reading

open Reading

/-! ## Groups -/

/-- How many groups there are, the whole pattern included. -/
def groupCount : Reading Nat := do return (← get).widths.size

/-- A group whose end has been read. -/
def isClosed (g : Nat) : Reading Bool := do return ((← get).widths.getD g none).isSome

/-- Inside a look behind, only groups in front of it can be referred to. -/
def checkLookbehind (g : Nat) : Reading Unit := do
  match (← get).lookbehindGroups with
  | none => return ()
  | some n =>
    if !(← isClosed g) then fail .openGroup 0
    if n ≤ g then fail .lookbehindGroup 0

/-- Start a group. -/
def openNewGroup (name : Option String) : Reading Nat := do
  let s ← get
  let g := s.widths.size
  set { s with widths := s.widths.push none }
  match name with
  | none => return g
  | some n =>
    match s.names.lookup n with
    | some old => fail (.redefinedName n g old) (n.length + 1)
    | none =>
      modify fun s => { s with names := (n, g) :: s.names }
      return g

/-- End a group. -/
def closeGroup (g : Nat) (body : List Item) : Reading Unit :=
  modify fun s => { s with widths := s.widths.setIfInBounds g (some (widthOfAll s.widths body)) }

/-- A text that can be the name of a group. -/
def isIdentifier (s : String) : Bool :=
  match s.toList with
  | [] => false
  | c :: rest => Table.identifierStart.contains c && rest.all Table.identifierPart.contains

/-- Refuse what cannot be the name of a group. -/
def checkName (name : String) : Reading Unit := do
  if !isIdentifier name then fail (.badGroupName name) (name.length + 1)

/-! ## Escapes -/

/-- A digit of base eight. -/
def isOctal (c : Char) : Bool := '0' ≤ c && c ≤ '7'

/-- A digit of base sixteen. -/
def isHex (c : Char) : Bool := (hexValue? c).isSome

/-- A digit of base ten. -/
def isDecimal (c : Char) : Bool := '0' ≤ c && c ≤ '9'

/-- The number that digits of any base up to ten write. -/
def digitsValue (base : Nat) (ds : List Char) : Nat := ofDigits base (ds.map fun c => c.toNat - 48)

/-- The control character of a letter. -/
def controlEscape? : Char → Option Nat
  | 'a' => some 7
  | 'b' => some 8
  | 'f' => some 12
  | 'n' => some 10
  | 'r' => some 13
  | 't' => some 9
  | 'v' => some 11
  | '\\' => some 92
  | _ => none

/-- The class of a letter. -/
def classEscape? : Char → Option SetItem
  | 'd' => some (.category .digit false)
  | 'D' => some (.category .digit true)
  | 's' => some (.category .space false)
  | 'S' => some (.category .space true)
  | 'w' => some (.category .word false)
  | 'W' => some (.category .word true)
  | _ => none

/-- The anchor of a letter. -/
def anchorEscape? : Char → Option Anchor
  | 'A' => some .textStart
  | 'b' => some .boundary
  | 'B' => some .notBoundary
  | 'Z' => some .textEnd
  | _ => none

/-- The character of so many hexadecimal digits. -/
def hexEscape (letter : Char) (count : Nat) : Reading Nat := do
  let digits ← takeWhile isHex count
  let text := '\\' :: letter :: digits
  if digits.length < count then fail (.incompleteEscape (String.ofList text)) text.length
  let n := (hexNumber? digits).getD 0
  if 0x10FFFF < n then fail (.badEscape (String.ofList text)) text.length
  return n

/-- The character of a name in braces. -/
def namedEscape : Reading Nat := do
  if !(← accept '\x7b') then fail .missingBrace 0
  let name ← takeName '\x7d' "character name"
  match Names.lookup? name with
  | some n => return n
  | none => fail (.undefinedName name) (name.length + 4)

/-- The character of an octal number. -/
def octal (digits : List Char) : Reading Nat := do
  let n := digitsValue 8 digits
  if 0o377 < n then
    fail (.octalTooLarge (String.ofList ('\\' :: digits))) (digits.length + 1)
  return n

/-- An escape that stands for itself, unless it is a letter or digit without a meaning. -/
def plainEscape (c : Char) : Reading Nat := do
  if c.isAlpha || isDecimal c then fail (.badEscape (String.ofList ['\\', c])) 2
  return c.toNat

/-- The escapes that give a code point, inside a set and outside. -/
def codeEscape (c : Char) : Reading Nat := do
  match c with
  | 'x' => hexEscape c 2
  | 'u' => hexEscape c 4
  | 'U' => hexEscape c 8
  | 'N' => namedEscape
  | c => plainEscape c

/-- An escape inside a set. -/
def setEscape (c : Char) : Reading SetItem := do
  match controlEscape? c, classEscape? c with
  | some n, _ => return .char n
  | none, some item => return item
  | none, none =>
    if isOctal c then
      let more ← takeWhile isOctal 2
      return .char (← octal (c :: more))
    else return .char (← codeEscape c)

/-- A reference to a group by its number. -/
def backreference (digits : List Char) : Reading Item := do
  let g := digitsValue 10 digits
  if g < (← groupCount) then
    if !(← isClosed g) then fail .openGroup (digits.length + 1)
    checkLookbehind g
    return .backref g
  else fail (.invalidReference g) digits.length

/-- A number after a backslash: three octal digits are a character, anything else is a reference. -/
def numberEscape (c : Char) : Reading Item := do
  if ← nextIs isDecimal then
    let second ← takeWhile isDecimal 1
    if isOctal c && second.all isOctal && (← nextIs isOctal) then
      let third ← takeWhile isOctal 1
      return .char (← octal (c :: second ++ third))
    else backreference (c :: second)
  else backreference [c]

/-- An escape outside a set. -/
def escape (c : Char) : Reading Item := do
  match anchorEscape? c, classEscape? c, controlEscape? c with
  | some a, _, _ => return .anchor a
  | none, some item, _ => return .set false [item]
  | none, none, some n => return .char n
  | none, none, none =>
    if c == '0' then
      let more ← takeWhile isOctal 2
      return .char (digitsValue 8 (c :: more))
    else if isDecimal c then numberEscape c
    else return .char (← codeEscape c)

/-! ## Sets -/

/-- One end of a range, or a set item by itself. -/
def setMember (t : Token) : Reading SetItem :=
  match t with
  | .escaped c => setEscape c
  | .plain c => return .char c.toNat

/-- The range between two members. -/
def setRange (this that : Token) (low high : SetItem) : Reading SetItem := do
  let bad : Problem := .badRange (String.ofList this.text) (String.ofList that.text)
  let back := this.text.length + 1 + that.text.length
  match low, high with
  | .char a, .char b => if b < a then fail bad back else return .range a b
  | _, _ => fail bad back

/-- The members of a set up to its bracket, after those already read, the last first. The set starts at
`start`. -/
def setMembers (start : Nat) : Nat → List SetItem → Reading (List SetItem)
  | 0, _ => fail .unterminatedSet 0
  | fuel + 1, acc => do
    let unterminated : Reading (List SetItem) := do
      let here ← tell
      fail .unterminatedSet (here - start)
    match ← take with
    | none => unterminated
    | some this =>
      if this == .plain ']' && !acc.isEmpty then return acc.reverse
      let low ← setMember this
      if ← accept '-' then
        match ← take with
        | none => unterminated
        | some that =>
          if that == .plain ']' then return (.char '-'.toNat :: low :: acc).reverse
          let high ← setMember that
          let item ← setRange this that low high
          setMembers start fuel (item :: acc)
      else setMembers start fuel (low :: acc)

/-- A set after its opening bracket. A set of one character is that character. -/
def readSet : Reading Item := do
  let start := (← tell) - 1
  let negated ← accept '^'
  let s ← get
  let items ← setMembers start (s.rest.length + 1) []
  match items.eraseDups with
  | [.char n] => return if negated then .notChar n else .char n
  | items => return .set negated items

/-! ## Repetitions -/

/-- Numbers of repetitions are below this. -/
def repeatLimit : Nat := 0xFFFFFFFF

/-- How often to repeat; nothing where a brace does not open a count and stands for itself. -/
def bounds (c : Char) : Reading (Option (Nat × Option Nat)) := do
  match c with
  | '?' => return some (0, some 1)
  | '*' => return some (0, none)
  | '+' => return some (1, none)
  | _ =>
    if ← nextIs (· == '\x7d') then return none
    let s ← get
    let here ← tell
    let low ← takeWhile isDecimal s.rest.length
    let high ← if ← accept ',' then takeWhile isDecimal s.rest.length else pure low
    if !(← accept '\x7d') then
      modify fun now => { now with rest := s.rest }
      return none
    let least := digitsValue 10 low
    if repeatLimit ≤ least then throw .repetitionTooLarge
    if high.isEmpty then return some (least, none)
    let most := digitsValue 10 high
    if repeatLimit ≤ most then throw .repetitionTooLarge
    if most < least then
      let now ← tell
      fail .reversedBounds (now - here)
    return some (least, some most)

/-- What a repetition repeats: a group without a number or options gives way to its body. -/
def repeatBody : Item → List Item
  | .group none added removed body =>
    if added == {} && removed == {} then body else [.group none added removed body]
  | i => [i]

/-- How greedy a repetition is, by the sign behind it. -/
def readGreed : Reading Greed := do
  if ← accept '?' then return .lazy
  if ← accept '+' then return .possessive
  return .greedy

/-- Repeat the last item; the repetition starts at `start`. -/
def repeatLast (start : Nat) (bounds : Nat × Option Nat) (acc : List Item) : Reading (List Item) := do
  let back := (← tell) - start
  match acc with
  | [] | .anchor _ :: _ => fail .nothingToRepeat back
  | .repeated .. :: _ => fail .multipleRepeat back
  | item :: before =>
    let greed ← readGreed
    return .repeated greed bounds.1 bounds.2 (repeatBody item) :: before

/-! ## Options -/

/-- A letter of any script. -/
def isLetter (c : Char) : Bool := Table.alphanumeric.contains c && !Text.isDigit c

/-- What is wrong with a token where an option was expected. -/
def badOption {α : Type} (t : Token) (otherwise : Problem) : Reading α :=
  match t with
  | .plain c => fail (if isLetter c then .unknownOption else otherwise) 1
  | .escaped _ => fail otherwise 2

/-- The options to switch on, from a letter on, and the character that ends them. -/
def optionsOn : Nat → Options → Char → Reading (Options × Char)
  | 0, _, _ => fail .missingOptionEnd 0
  | fuel + 1, acc, c => do
    let flag := (Options.ofLetter? c).getD {}
    if flag.locale then fail .localeOption 0
    let acc := acc.union flag
    if flag.hasClassRule && acc.ascii && acc.unicode then fail .clashingOptions 0
    match ← take with
    | none => fail .missingOptionEnd 0
    | some (.plain d) =>
      if d == ')' || d == '-' || d == ':' then return (acc, d)
      if (Options.ofLetter? d).isNone then badOption (.plain d) .missingOptionEnd
      optionsOn fuel acc d
    | some t => badOption t .missingOptionEnd

/-- The options to switch off, from a letter on. -/
def optionsOff : Nat → Options → Char → Reading Options
  | 0, _, _ => fail .missingColon 0
  | fuel + 1, acc, c => do
    let flag := (Options.ofLetter? c).getD {}
    if flag.hasClassRule then fail .fixedOption 0
    let acc := acc.union flag
    match ← take with
    | none => fail .missingColon 0
    | some (.plain d) =>
      if d == ':' then return acc
      if (Options.ofLetter? d).isNone then badOption (.plain d) .missingColon
      optionsOff fuel acc d
    | some t => badOption t .missingColon

/-- The options after `(?`, from a letter or a minus on: those to add to a group and to take away, or
nothing where they are options of the whole pattern. -/
def readOptions (c : Char) : Reading (Option (Options × Options)) := do
  let s ← get
  let fuel := s.rest.length + 1
  let (added, stop) ← if c == '-' then pure ({}, '-') else optionsOn fuel {} c
  if stop == ')' then
    modify fun s => { s with options := s.options.union added }
    return none
  if added.template then fail .globalOptionOn 1
  let removed : Options ←
    if stop == '-' then
      match ← take with
      | none => fail .missingOption 0
      | some (.plain d) =>
        if (Options.ofLetter? d).isNone then badOption (.plain d) .missingOption
        optionsOff fuel {} d
      | some t => badOption t .missingOption
    else pure {}
  if removed.template then fail .globalOptionOff 1
  if added.meets removed then fail .optionOnAndOff 1
  return some (added, removed)

/-! ## Items -/

/-- Skip a comment up to its parenthesis. -/
def skipComment (start : Nat) : Nat → Reading Unit
  | 0 => return ()
  | fuel + 1 => do
    match ← peek with
    | none =>
      let here ← tell
      fail .unterminatedComment (here - start)
    | some t =>
      discard take
      if t == .plain ')' then return () else skipComment start fuel

/-- Skip the rest of a line. -/
def skipLine : Nat → Reading Unit
  | 0 => return ()
  | fuel + 1 => do
    match ← take with
    | none => return ()
    | some t => if t == .plain '\n' then return () else skipLine fuel

/-- A number in any of the ways to write a whole number: signed, with blanks around and underscores
between its digits. -/
def wholeNumber? (s : List Char) : Option Int :=
  let digits (ds : List Char) : Option Nat :=
    let rec go : Nat → Bool → List Char → Option Nat
      | n, afterDigit, [] => if afterDigit then some n else none
      | n, afterDigit, '_' :: rest => if afterDigit then go n false rest else none
      | n, _, c :: rest => (digitValue? c).bind fun d => go (n * 10 + d) true rest
    go 0 false ds
  match trim s with
  | '-' :: ds => (digits ds).map fun n => -(n : Int)
  | '+' :: ds => (digits ds).map fun n => (n : Int)
  | ds => (digits ds).map fun n => (n : Int)

/-- The largest number that a group can have. -/
def groupLimit : Nat := 1073741823

/-- The group that a condition asks for. -/
def conditionGroup : Reading Nat := do
  let name ← takeName ')' "group name"
  let back := name.length + 1
  if isIdentifier name then
    match (← get).names.lookup name with
    | some g => return g
    | none => fail (.unknownGroupName name) back
  else
    match wholeNumber? name.toList with
    | some n =>
      if n < 0 then fail (.badGroupName name) back
      let g := n.toNat
      if g = 0 then fail .badGroupNumber back
      if groupLimit ≤ g then fail (.invalidReference g) back
      let here ← tell
      modify fun s =>
        if (s.references.lookup g).isSome then s
        else { s with references := s.references ++ [(g, here - back)] }
      return g
    | none => fail (.badGroupName name) back

/-- A reference to a group by its name. -/
def namedBackreference : Reading Item := do
  let name ← takeName ')' "group name"
  checkName name
  let back := name.length + 1
  match (← get).names.lookup name with
  | none => fail (.unknownGroupName name) back
  | some g =>
    if !(← isClosed g) then fail .openGroup back
    checkLookbehind g
    return .backref g

/-- Take the parenthesis that ends what starts at `start`. -/
def closeParenthesis (start : Nat) : Reading Unit := do
  if !(← accept ')') then
    let here ← tell
    fail .unterminatedGroup (here - start)

/-- Groups without a number or options give way to their bodies. -/
def unpack (items : List Item) : List Item := items.flatMap repeatBody

/-- What stands after an opening parenthesis. -/
inductive Opening where
  /-- A comment. -/
  | comment
  /-- Options of the whole pattern. -/
  | options
  /-- A reference by name. -/
  | item (i : Item)
  | capturing (name : Option String)
  | plain (added removed : Options)
  | atomic
  | look (behind negated : Bool)
  | condition (group : Nat)

/-- The opening after `(?P`. -/
def namedOpening : Reading Opening := do
  if ← accept '<' then
    let name ← takeName '>' "group name"
    checkName name
    return .capturing (some name)
  else if ← accept '=' then return .item (← namedBackreference)
  else
    match ← take with
    | none => fail .unexpectedEnd 0
    | some t => fail (.unknownExtension (String.ofList ('P' :: t.text))) (t.text.length + 2)

/-- The opening of a look behind, after `(?<`. -/
def behindOpening : Reading Opening := do
  match ← take with
  | none => fail .unexpectedEnd 0
  | some (.plain '=') => return .look true false
  | some (.plain '!') => return .look true true
  | some t => fail (.unknownExtension (String.ofList ('<' :: t.text))) (t.text.length + 2)

/-- Read an opening parenthesis' continuation. `atStart` says that options of the whole pattern may
stand here. -/
def readOpening (start : Nat) (atStart : Bool) : Reading Opening := do
  if !(← accept '?') then return .capturing none
  match ← take with
  | none => fail .unexpectedEnd 0
  | some (.plain 'P') => namedOpening
  | some (.plain ':') => return .plain {} {}
  | some (.plain '#') =>
    let s ← get
    skipComment start (s.rest.length + 1)
    return .comment
  | some (.plain '=') => return .look false false
  | some (.plain '!') => return .look false true
  | some (.plain '<') => behindOpening
  | some (.plain '(') => return .condition (← conditionGroup)
  | some (.plain '>') => return .atomic
  | some t =>
    let unknown : Reading Opening := fail (.unknownExtension (String.ofList t.text)) (t.text.length + 1)
    match t with
    | .plain c =>
      if c == '-' || (Options.ofLetter? c).isSome then
        match ← readOptions c with
        | some (added, removed) => return .plain added removed
        | none =>
          if !atStart then
            let here ← tell
            fail .misplacedOptions (here - start)
          return .options
      else unknown
    | .escaped _ => unknown

/-- A character that stands for itself outside a set. -/
def isOrdinary (c : Char) : Bool :=
  !(['.', '\\', '[', '(', ')', '*', '+', '?', '^', '$', '|', '\x7b'].contains c)

/-- The blanks that a verbose pattern may hold. -/
def isPatternSpace (c : Char) : Bool := c == ' ' || (9 ≤ c.toNat && c.toNat ≤ 13)

mutual

/-- Alternatives up to a parenthesis or the end, after those already read, the last first. -/
def alternatives : Nat → Bool → Bool → List (List Item) → Reading (List Item)
  | 0, _, _, _ => fail .unterminatedGroup 0
  | fuel + 1, verbose, outermost, acc => do
    let items ← sequence fuel verbose (outermost && acc.isEmpty) []
    let acc := items :: acc
    if ← accept '|' then
      let s ← get
      alternatives fuel (if outermost then s.options.verbose else verbose) outermost acc
    else
      match acc with
      | [only] => return only
      | _ => return [.branch acc.reverse]

/-- Items up to a bar, a parenthesis or the end, after those already read, the last first. `first` says
that nothing of the whole pattern stands before them. -/
def sequence : Nat → Bool → Bool → List Item → Reading (List Item)
  | 0, _, _, _ => fail .unterminatedGroup 0
  | fuel + 1, verbose, first, acc => do
    match ← peek with
    | none | some (.plain '|') | some (.plain ')') => return unpack acc.reverse
    | some t =>
      let start ← tell
      discard take
      match t with
      | .escaped c =>
        let item ← escape c
        sequence fuel verbose first (item :: acc)
      | .plain c =>
        if verbose && isPatternSpace c then sequence fuel verbose first acc
        else if verbose && c == '#' then
          let s ← get
          skipLine (s.rest.length + 1)
          sequence fuel verbose first acc
        else if isOrdinary c then sequence fuel verbose first (.char c.toNat :: acc)
        else match c with
          | '[' =>
            let item ← readSet
            sequence fuel verbose first (item :: acc)
          | '.' => sequence fuel verbose first (.any :: acc)
          | '^' => sequence fuel verbose first (.anchor .start :: acc)
          | '$' => sequence fuel verbose first (.anchor .stop :: acc)
          | '(' =>
            match ← readOpening start (first && acc.isEmpty) with
            | .comment => sequence fuel verbose first acc
            | .options =>
              let s ← get
              sequence fuel s.options.verbose first acc
            | .item i => sequence fuel verbose first (i :: acc)
            | opening =>
              let item ← group fuel verbose start opening
              sequence fuel verbose first (item :: acc)
          | c =>
            match ← bounds c with
            | none => sequence fuel verbose first (.char c.toNat :: acc)
            | some b =>
              let acc ← repeatLast start b acc
              sequence fuel verbose first acc

/-- What stands in parentheses after its opening. -/
def group : Nat → Bool → Nat → Opening → Reading Item
  | 0, _, _, _ => fail .unterminatedGroup 0
  | fuel + 1, verbose, start, opening => do
    match opening with
    | .capturing name =>
      let g ← openNewGroup name
      let body ← alternatives fuel verbose false []
      closeParenthesis start
      closeGroup g body
      return .group (some g) {} {} body
    | .atomic =>
      let body ← alternatives fuel verbose false []
      closeParenthesis start
      return .atomic body
    | .plain added removed =>
      let body ← alternatives fuel ((verbose || added.verbose) && !removed.verbose) false []
      closeParenthesis start
      return .group none added removed body
    | .look behind negated =>
      let outer := (← get).lookbehindGroups
      if behind && outer.isNone then
        modify fun s => { s with lookbehindGroups := some s.widths.size }
      let body ← alternatives fuel verbose false []
      if behind && outer.isNone then modify fun s => { s with lookbehindGroups := none }
      closeParenthesis start
      return .look behind negated body
    | .condition g =>
      checkLookbehind g
      let yes ← sequence fuel verbose false []
      let no ← if ← accept '|' then
          let no ← sequence fuel verbose false []
          if (← peek) == some (.plain '|') then fail .tooManyBranches 0
          pure no
        else pure []
      closeParenthesis start
      return .conditional g yes no
    | .comment | .options | .item _ => fail .unterminatedGroup 0

end

/-! ## Whole patterns -/

/-- A pattern that has been read. -/
structure Tree where
  items : List Item
  options : Options
  widths : GroupWidths

/-- Every condition asks for a group that the pattern has. -/
def checkReferences (count : Nat) : List (Nat × Nat) → Except Rejection Unit
  | [] => .ok ()
  | (g, position) :: rest =>
    if count ≤ g then .error (.problem (.invalidReference g) (some position))
    else checkReferences count rest

/-- Read a whole pattern. -/
def readAll (length : Nat) : Reading (List Item) := do
  goTo (← get).rest
  let items ← alternatives (4 * length + 8) false true []
  let s ← get
  if s.options.ascii && s.options.unicode then throw .exclusiveOptions
  if (← peek).isSome then fail .unbalanced 0
  checkReferences s.widths.size s.references
  return items

/-- Read a pattern. -/
def read (source : List Char) : Except Rejection Tree := do
  let (items, s) ← (readAll source.length).run { rest := source, length := source.length }
  return ⟨items, s.options, s.widths⟩

end Emend.Pattern
