import Emend.Yaml.Scalar
import Emend.Yaml.Token

/-!
# From text to tokens

Indentation opens and closes blocks, and a key is known as one only when the colon behind it is reached:
its token is put in front of it then. A key of that kind lies on one line and is at most 1024 characters
long.
-/

namespace Emend.Yaml

/-- A place where a key may have started. -/
structure KeyPlace where
  /-- The number of tokens before the key. -/
  token : Nat
  /-- Nothing but a key can start here. -/
  required : Bool
  index : Nat
  line : Nat
  column : Nat
  deriving Repr

/-- The longest key that needs no sign of its own. -/
def keyLimit : Nat := 1024

/-- A lexer at work. -/
structure Lexer where
  cursor : Cursor
  tokens : Array Token := #[]
  /-- How many brackets are open. -/
  flow : Nat := 0
  /-- The column of the innermost block, and those of the blocks around it. -/
  indent : Int := -1
  indents : List Int := []
  /-- A key may start here. -/
  keyAllowed : Bool := true
  /-- Where a key may have started, by the number of open brackets. -/
  keys : List (Nat × KeyPlace) := []

namespace Lexer

/-- Add a token. -/
def emit (x : Lexer) (t : Token) : Lexer := { x with tokens := x.tokens.push t }

/-- Add a token and go on behind it. -/
def emitAt (x : Lexer) (t : Token) (c : Cursor) : Lexer := { x.emit t with cursor := c }

/-- The key of this place is too far away to be one. -/
def isStale (x : Lexer) (k : KeyPlace) : Bool :=
  k.line != x.cursor.line || keyLimit < x.cursor.index - k.index

/-- Drop places whose key did not come. -/
def dropStale (x : Lexer) : Except Fault Lexer :=
  if x.keys.any fun (_, k) => x.isStale k && k.required then .error .malformed
  else .ok { x with keys := x.keys.filter fun (_, k) => !x.isStale k }

/-- Drop the place of the innermost bracket. -/
def dropKey (x : Lexer) : Except Fault Lexer :=
  match x.keys.lookup x.flow with
  | some k =>
    if k.required then .error .malformed
    else .ok { x with keys := x.keys.filter (·.1 != x.flow) }
  | none => .ok x

/-- Remember that a key may start here. -/
def saveKey (x : Lexer) : Except Fault Lexer :=
  if x.keyAllowed then do
    let required := x.flow == 0 && x.indent == x.cursor.column
    let y ← x.dropKey
    let place : KeyPlace :=
      ⟨x.tokens.size, required, x.cursor.index, x.cursor.line, x.cursor.column⟩
    return { y with keys := (x.flow, place) :: y.keys }
  else .ok x

/-- Close the blocks that are indented by more than `column`. -/
def unwind (column : Int) : List Int → Lexer → Lexer
  | [], x => x
  | outer :: rest, x =>
    if column < x.indent then
      unwind column rest ({ x with indent := outer, indents := rest }.emit .blockEnd)
    else x

/-- Close the blocks that end before a column. Inside brackets columns do not matter. -/
def unwindTo (x : Lexer) (column : Int) : Lexer :=
  if x.flow = 0 then unwind column x.indents x else x

/-- Open a block at a column that is further in than the innermost block; its token is put at `place`. -/
def openBlock (x : Lexer) (column : Nat) (place : Nat) (t : Token) : Lexer :=
  if x.indent < column then
    { x with indent := column, indents := x.indent :: x.indents,
             tokens := x.tokens.insertIdxIfInBounds place t }
  else x

/-- Go over spaces, comments and breaks to the next token. Outside of brackets a key may start on every
new line. -/
def skipToToken : Nat → Lexer → Lexer
  | 0, x => x
  | fuel + 1, x =>
    let c := x.cursor.skipSpaces.skipComment
    if c.peek.any isBreak then
      skipToToken fuel { x with cursor := c.takeBreak.2, keyAllowed := x.keyAllowed || x.flow == 0 }
    else { x with cursor := c }

/-! ## Tokens one by one -/

/-- End every block and forget where keys may have started. -/
def reset (x : Lexer) : Except Fault Lexer := do
  let x ← (x.unwindTo (-1)).dropKey
  return { x with keyAllowed := false }

/-- A mark between documents. -/
def documentMark (x : Lexer) (t : Token) : Except Fault Lexer := do
  let x ← x.reset
  return x.emitAt t (x.cursor.skip 3)

/-- An opening bracket. -/
def openFlow (x : Lexer) (t : Token) : Except Fault Lexer := do
  let x ← x.saveKey
  return { x.emitAt t x.cursor.next with flow := x.flow + 1, keyAllowed := true }

/-- A closing bracket. -/
def closeFlow (x : Lexer) (t : Token) : Except Fault Lexer := do
  if x.flow = 0 then throw .malformed
  let x ← x.dropKey
  return { x.emitAt t x.cursor.next with flow := x.flow - 1, keyAllowed := false }

/-- A comma inside brackets. -/
def flowEntry (x : Lexer) : Except Fault Lexer := do
  let x ← x.dropKey
  return { x.emitAt .flowEntry x.cursor.next with keyAllowed := true }

/-- The sign of an entry or of a key, which may open a block. -/
def blockSign (x : Lexer) (opening sign : Token) (keyAllowed : Bool) : Except Fault Lexer := do
  if x.flow = 0 && !x.keyAllowed then throw .malformed
  let x := if x.flow = 0 then x.openBlock x.cursor.column x.tokens.size opening else x
  let x ← x.dropKey
  return { x.emitAt sign x.cursor.next with keyAllowed }

/-- The colon before a value. Where a key may have started, it did. -/
def valueSign (x : Lexer) : Except Fault Lexer :=
  match x.keys.lookup x.flow with
  | some k =>
    let x := { x with keys := x.keys.filter (·.1 != x.flow),
                      tokens := x.tokens.insertIdxIfInBounds k.token .key, keyAllowed := false }
    let x := if x.flow = 0 then x.openBlock k.column k.token .blockMapping else x
    .ok (x.emitAt .value x.cursor.next)
  | none => x.blockSign .blockMapping .value (x.flow == 0)

/-- A token that a key can begin with, and that no key follows at once. -/
def word (x : Lexer) (read : Cursor → Except Fault (Token × Cursor)) : Except Fault Lexer := do
  let x ← x.saveKey
  let (t, c) ← read x.cursor
  return { x.emitAt t c with keyAllowed := false }

/-- A plain scalar. -/
def plainScalar (x : Lexer) : Except Fault Lexer := do
  let x ← x.saveKey
  let s := plain (x.flow != 0) (x.indent + 1).toNat x.cursor
  return { x.emitAt (.scalar s.text true) s.cursor with keyAllowed := s.crossed }

/-- A block scalar. -/
def blockScalar (x : Lexer) (folded : Bool) : Except Fault Lexer := do
  let x ← x.dropKey
  let (text, c) ← block folded x.indent x.cursor
  return { x.emitAt (.scalar text false) c with keyAllowed := true }

/-- The characters that cannot begin a plain scalar. -/
def indicators : List Char := "-?:,[]\x7b\x7d#&*!|>'\"%@`".toList

/-- A plain scalar can start here. -/
def startsPlain (x : Lexer) (ch : Char) : Bool :=
  !(isGap (some ch) || indicators.contains ch)
    || (!isGap (x.cursor.peekAt 1) && (ch == '-' || (x.flow == 0 && (ch == '?' || ch == ':'))))

/-- A named token: an anchor or an alias. -/
def named (make : List Char → Token) (c : Cursor) : Except Fault (Token × Cursor) :=
  (readAnchor c).map fun (name, c) => (make name, c)

/-- A scalar between quotes. -/
def quotedScalar (double : Bool) (c : Cursor) : Except Fault (Token × Cursor) :=
  (quoted double c).map fun (text, c) => (.scalar text false, c)

/-- The token that starts with a character. -/
def token (x : Lexer) (ch : Char) : Except Fault Lexer :=
  let c := x.cursor
  let lineStart := c.column == 0
  let gapFollows := isGap (c.peekAt 1)
  let block := x.flow == 0
  if ch == '%' && lineStart then do
    let x ← x.reset
    let (t, c) ← readDirective x.cursor
    return x.emitAt t c
  else if lineStart && c.atMark '-' then x.documentMark .documentStart
  else if lineStart && c.atMark '.' then x.documentMark .documentEnd
  else if ch == '[' then x.openFlow .flowSequence
  else if ch == '\x7b' then x.openFlow .flowMapping
  else if ch == ']' then x.closeFlow .flowSequenceEnd
  else if ch == '\x7d' then x.closeFlow .flowMappingEnd
  else if ch == ',' then x.flowEntry
  else if ch == '-' && gapFollows then x.blockSign .blockSequence .blockEntry true
  else if ch == '?' && (!block || gapFollows) then x.blockSign .blockMapping .key block
  else if ch == ':' && (!block || gapFollows) then x.valueSign
  else if ch == '*' then x.word (named .alias)
  else if ch == '&' then x.word (named .anchor)
  else if ch == '!' then x.word readTag
  else if ch == '|' && block then x.blockScalar false
  else if ch == '>' && block then x.blockScalar true
  else if ch == '\'' then x.word (quotedScalar false)
  else if ch == '"' then x.word (quotedScalar true)
  else if x.startsPlain ch then x.plainScalar
  else .error .malformed

/-- The end of the text. -/
def finish (x : Lexer) : Except Fault (List Token) := do
  let x ← (x.unwindTo (-1)).dropKey
  return (x.emit .streamEnd).tokens.toList

/-- The tokens of the rest of a text; each takes a character at least. -/
def run : Nat → Lexer → Except Fault (List Token)
  | 0, x => x.finish
  | fuel + 1, x => do
    let x ← (skipToToken (x.cursor.rest.length + 1) x).dropStale
    let x := x.unwindTo x.cursor.column
    match x.cursor.peek with
    | none => x.finish
    | some ch =>
      let x ← x.token ch
      run fuel x

end Lexer

/-- A character that may stand in a text. -/
def isAllowed (c : Char) : Bool :=
  let n := c.toNat
  n == 9 || n == 10 || n == 13 || (0x20 ≤ n && n ≤ 0x7E) || n == 0x85
    || (0xA0 ≤ n && n ≤ 0xD7FF) || (0xE000 ≤ n && n ≤ 0xFFFD) || 0x10000 ≤ n

/-- The tokens of a text. A byte order mark in front is passed over. -/
def tokens (text : List Char) : Except Fault (List Token) :=
  let start : Cursor := ⟨text, 0, 0, 0⟩
  let start := if start.peek == some '\uFEFF' then start.next else start
  if text.all isAllowed then Lexer.run (text.length + 1) { cursor := start } else .error .malformed

end Emend.Yaml
