import Emend.Text.Digits
import Emend.Yaml.Cursor

/-!
# Scalars

The four ways to write a text: plain, between single or double quotes, and as a block of lines that is
kept or folded. Folding makes one space of a single break and drops the first of several.
-/

namespace Emend.Yaml

/-- A scalar that was read, and the cursor behind it. -/
structure Scanned where
  text : List Char
  cursor : Cursor
  /-- The cursor stands at the start of a line. -/
  crossed : Bool := false

/-- Several breaks in a row as folding leaves them. -/
def foldBreaks (first more : List Char) : List Char :=
  if first != ['\n'] then first ++ more
  else if more.isEmpty then [' '] else more

/-! ## Plain scalars -/

/-- The characters that end a plain scalar inside brackets. -/
def isFlowMark (c : Char) : Bool := ",?[]\x7b\x7d".toList.contains c

/-- The part of a plain scalar up to a space, a break, a colon that ends it, or a mark. -/
def plainRun (inFlow : Bool) : List Char → List Char
  | [] => []
  | c :: rest =>
    let closes := rest.head?.any fun d => d != '?' && isFlowMark d
    let endsKey := isGap rest.head? || (inFlow && closes)
    if isSpace c || isBreak c || (c == ':' && endsKey) || (inFlow && isFlowMark c) then []
    else c :: plainRun inFlow rest

/-- Spaces and further breaks at the start of a line, inside a plain scalar: the breaks, or nothing if a
document ends here. -/
def plainBreaks : Nat → List Char → Cursor → Option (List Char) × Cursor
  | 0, acc, c => (some acc, c)
  | fuel + 1, acc, c =>
    match c.peek with
    | some ch =>
      if ch == ' ' then plainBreaks fuel acc c.next
      else if isBreak ch then
        let (b, c) := c.takeBreak
        if c.atDocumentMark then (none, c) else plainBreaks fuel (acc ++ b) c
      else (some acc, c)
    | none => (some acc, c)

/-- The gap between two parts of a plain scalar; an empty gap ends the scalar. -/
def plainGap (c : Cursor) : Scanned :=
  let (spaces, c) := c.span (· == ' ')
  if c.peek.any isBreak then
    let (first, c) := c.takeBreak
    if c.atDocumentMark then ⟨[], c, true⟩
    else match plainBreaks c.rest.length [] c with
      | (some more, c) => ⟨foldBreaks first more, c, true⟩
      | (none, c) => ⟨[], c, true⟩
  else ⟨spaces, c, false⟩

/-- The rest of a plain scalar. A line that is indented by less than `indent` ends it in a block. -/
def plainFrom (inFlow : Bool) (indent : Nat) : Nat → List Char → Scanned → Scanned
  | 0, _, sofar => sofar
  | fuel + 1, gap, sofar =>
    let run := plainRun inFlow sofar.cursor.rest
    if sofar.cursor.peek == some '#' || run.isEmpty then sofar
    else
      let after := plainGap (sofar.cursor.skip run.length)
      let sofar : Scanned := ⟨sofar.text ++ gap ++ run, after.cursor, after.crossed⟩
      if after.text.isEmpty || (!inFlow && after.cursor.column < indent) then sofar
      else plainFrom inFlow indent fuel after.text sofar

/-- A plain scalar. -/
def plain (inFlow : Bool) (indent : Nat) (c : Cursor) : Scanned :=
  plainFrom inFlow indent (c.rest.length + 1) [] ⟨[], c, false⟩

/-! ## Quoted scalars -/

/-- The character of an escape that is one letter. -/
def letterEscape? : Char → Option Char
  | '0' => some (Char.ofNat 0)
  | 'a' => some (Char.ofNat 7)
  | 'b' => some (Char.ofNat 8)
  | 't' | '\t' => some '\t'
  | 'n' => some '\n'
  | 'v' => some (Char.ofNat 11)
  | 'f' => some (Char.ofNat 12)
  | 'r' => some '\r'
  | 'e' => some (Char.ofNat 27)
  | ' ' => some ' '
  | '"' => some '"'
  | '\\' => some '\\'
  | '/' => some '/'
  | 'N' => some '\u0085'
  | '_' => some '\u00A0'
  | 'L' => some '\u2028'
  | 'P' => some '\u2029'
  | _ => none

/-- How many hexadecimal digits follow the letter of an escape. -/
def codeLength? : Char → Option Nat
  | 'x' => some 2
  | 'u' => some 4
  | 'U' => some 8
  | _ => none

/-- The breaks at the start of a line inside quotes. -/
def quotedBreaks : Nat → List Char → Cursor → Except Fault (List Char × Cursor)
  | 0, acc, c => .ok (acc, c)
  | fuel + 1, acc, c =>
    if c.atDocumentMark then .error .malformed
    else
      let c := c.skipWhile isSpace
      if c.peek.any isBreak then
        let (b, c) := c.takeBreak
        quotedBreaks fuel (acc ++ b) c
      else .ok (acc, c)

/-- The character of a code. -/
def codeChar (n : Nat) : Except Fault Char :=
  if 0x10FFFF < n then .error (.badValue "chr() arg not in range(0x110000)")
  else if 0xD800 ≤ n && n ≤ 0xDFFF then .ok '\uFFFD'
  else .ok (Char.ofNat n)

/-- An escape, the cursor behind its backslash. -/
def readEscape (c : Cursor) : Except Fault (List Char × Cursor) :=
  match c.peek with
  | none => .error .malformed
  | some ch =>
    match letterEscape? ch, codeLength? ch with
    | some e, _ => .ok ([e], c.next)
    | none, some n =>
      let digits := c.next.rest.take n
      match Text.hexNumber? digits with
      | some code =>
        if digits.length < n then .error .malformed
        else (codeChar code).map fun e => ([e], c.next.skip n)
      | none => .error .malformed
    | none, none =>
      if isBreak ch then quotedBreaks (c.rest.length + 1) [] c.takeBreak.2 else .error .malformed

/-- The part of a quoted scalar up to its closing quote, a space or a break. -/
def quotedRun (double : Bool) : Nat → List Char → Cursor → Except Fault (List Char × Cursor)
  | 0, acc, c => .ok (acc, c)
  | fuel + 1, acc, c =>
    let (run, c) := c.span fun ch =>
      !(ch == '\'' || ch == '"' || ch == '\\' || isSpace ch || isBreak ch)
    let acc := acc ++ run
    match double, c.peek with
    | false, some '\'' =>
      if c.peekAt 1 == some '\'' then quotedRun double fuel (acc ++ ['\'']) (c.skip 2)
      else .ok (acc, c)
    | false, some '"' | false, some '\\' => quotedRun double fuel (acc ++ c.rest.take 1) c.next
    | true, some '\'' => quotedRun double fuel (acc ++ ['\'']) c.next
    | true, some '\\' => do
      let (e, c) ← readEscape c.next
      quotedRun double fuel (acc ++ e) c
    | _, _ => .ok (acc, c)

/-- The gap between two parts of a quoted scalar. -/
def quotedGap (c : Cursor) : Except Fault (List Char × Cursor) := do
  let (spaces, c) := c.span isSpace
  match c.peek with
  | none => throw .malformed
  | some ch =>
    if isBreak ch then
      let (first, c) := c.takeBreak
      let (more, c) ← quotedBreaks (c.rest.length + 1) [] c
      return (foldBreaks first more, c)
    else return (spaces, c)

/-- The parts of a quoted scalar up to its closing quote. -/
def quotedFrom (double : Bool) : Nat → List Char → Cursor → Except Fault (List Char × Cursor)
  | 0, _, _ => .error .malformed
  | fuel + 1, acc, c => do
    let (run, c) ← quotedRun double (c.rest.length + 1) [] c
    let acc := acc ++ run
    if c.peek == some (if double then '"' else '\'') then return (acc, c.next)
    else
      let (gap, c) ← quotedGap c
      quotedFrom double fuel (acc ++ gap) c

/-- A quoted scalar, the cursor at its opening quote. -/
def quoted (double : Bool) (c : Cursor) : Except Fault (List Char × Cursor) :=
  quotedFrom double (c.rest.length + 1) [] c.next

/-! ## Block scalars -/

/-- What becomes of the breaks at the end of a block. -/
inductive Chomping where
  | strip
  | clip
  | keep
  deriving DecidableEq, BEq, Repr

/-- The mark for chomping, if it is one. -/
def chomping? : Option Char → Option Chomping
  | some '+' => some .keep
  | some '-' => some .strip
  | _ => none

/-- The number of columns by which a block is indented, if one is given. Zero is none. -/
def indentMark (c : Cursor) : Except Fault (Option Nat × Cursor) :=
  match c.peek with
  | some ch =>
    if '0' ≤ ch && ch ≤ '9' then
      if ch == '0' then .error .malformed else .ok (some (ch.toNat - 48), c.next)
    else .ok (none, c)
  | none => .ok (none, c)

/-- The marks behind the sign of a block scalar, in either order. -/
def blockHeader (c : Cursor) : Except Fault (Chomping × Option Nat × Cursor) := do
  let (chomping, increment, c) ← match chomping? c.peek with
    | some m => do
      let (n, c) ← indentMark c.next
      pure (m, n, c)
    | none => do
      let (n, c) ← indentMark c
      match n, chomping? c.peek with
      | some _, some m => pure (m, n, c.next)
      | _, _ => pure (.clip, n, c)
  if isTightGap c.peek then
    let c ← c.endLine
    return (chomping, increment, c)
  else throw .malformed

/-- The empty lines before a block whose indentation is not given: the breaks and the widest column. -/
def blockIndentation : Nat → List Char → Nat → Cursor → List Char × Nat × Cursor
  | 0, acc, widest, c => (acc, widest, c)
  | fuel + 1, acc, widest, c =>
    match c.peek with
    | some ch =>
      if ch == ' ' then
        let c := c.next
        blockIndentation fuel acc (max widest c.column) c
      else if isBreak ch then
        let (b, c) := c.takeBreak
        blockIndentation fuel (acc ++ b) widest c
      else (acc, widest, c)
    | none => (acc, widest, c)

/-- Go over spaces up to a column. -/
def skipIndent (indent : Nat) (c : Cursor) : Cursor :=
  c.skip ((c.rest.takeWhile (· == ' ')).take (indent - c.column)).length

/-- Empty lines inside a block. -/
def blockBreaks (indent : Nat) : Nat → List Char → Cursor → List Char × Cursor
  | 0, acc, c => (acc, c)
  | fuel + 1, acc, c =>
    let c := skipIndent indent c
    if c.peek.any isBreak then
      let (b, c) := c.takeBreak
      blockBreaks indent fuel (acc ++ b) c
    else (acc, c)

/-- What stands between two lines of a block. Lines that start with a space are not folded. -/
def blockJoin (folded : Bool) (line : List Char) (first more : List Char) (after : Option Char) :
    List Char :=
  let solid := !(line.head?.any isSpace) && !(after.any isSpace)
  if folded && first == ['\n'] && solid then (if more.isEmpty then [' '] else []) else first

/-- The lines of a block; `breaks` are the empty lines before the next one. -/
def blockLines (folded : Bool) (chomping : Chomping) (indent : Nat) :
    Nat → List Char → List Char → Cursor → List Char × Cursor
  | 0, acc, _, c => (acc, c)
  | fuel + 1, acc, breaks, c =>
    if c.column == indent && c.peek.isSome then
      let acc := acc ++ breaks
      let (line, c) := c.span (!isBreak ·)
      let (first, c) := c.takeBreak
      let (more, c) := blockBreaks indent (c.rest.length + 1) [] c
      let acc := acc ++ line
      if c.column == indent && c.peek.isSome then
        blockLines folded chomping indent fuel (acc ++ blockJoin folded line first more c.peek) more c
      else match chomping with
        | .strip => (acc, c)
        | .clip => (acc ++ first, c)
        | .keep => (acc ++ first ++ more, c)
    else (if chomping == .keep then acc ++ breaks else acc, c)

/-- A block scalar inside a block that is indented to column `outer`, the cursor at its sign. -/
def block (folded : Bool) (outer : Int) (c : Cursor) : Except Fault (List Char × Cursor) := do
  let (chomping, increment, c) ← blockHeader c.next
  let least := max (outer + 1).toNat 1
  let size := c.rest.length + 1
  match increment with
  | none =>
    let (breaks, widest, c) := blockIndentation size [] 0 c
    return blockLines folded chomping (max least widest) size [] breaks c
  | some n =>
    let indent := least + n - 1
    let (breaks, c) := blockBreaks indent size [] c
    return blockLines folded chomping indent size [] breaks c

end Emend.Yaml
