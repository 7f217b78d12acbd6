import Emend.Text.Digits
import Emend.Text.Utf8
import Emend.Yaml.Cursor

/-!
# Tokens

The tokens of a YAML text, and the reading of those that are one word: anchors, aliases, tags and
directives.
-/

namespace Emend.Yaml

/-- A line that says something about the documents after it. -/
inductive Directive where
  | version (major minor : Nat)
  | tag (handle tagStart : List Char)
  | other
  deriving DecidableEq, BEq, Repr

/-- A token. The start and end of a block stand for a change of indentation. -/
inductive Token where
  | directive (d : Directive)
  | documentStart
  | documentEnd
  | streamEnd
  | blockSequence
  | blockMapping
  | blockEnd
  | flowSequence
  | flowSequenceEnd
  | flowMapping
  | flowMappingEnd
  | flowEntry
  | blockEntry
  | key
  | value
  | alias (name : List Char)
  | anchor (name : List Char)
  | tag (handle : Option (List Char)) (suffix : List Char)
  | scalar (text : List Char) (plain : Bool)
  deriving DecidableEq, BEq, Repr, Inhabited

/-- A character of a name. -/
def isNameChar (c : Char) : Bool := c.isAlphanum || c == '-' || c == '_'

/-- A name, which is not empty. -/
def readName (c : Cursor) : Except Fault (List Char × Cursor) :=
  let (name, c) := c.span isNameChar
  if name.isEmpty then .error .malformed else .ok (name, c)

/-- The name of an anchor or an alias, the cursor at its sign. -/
def readAnchor (c : Cursor) : Except Fault (List Char × Cursor) := do
  let (name, c) ← readName c.next
  let ends := isGap c.peek || c.peek.any ("?:,]\x7d%@`".toList.contains ·)
  if ends then return (name, c) else throw .malformed

/-! ## Tags -/

/-- A character of a tag that stands for itself. -/
def isTagChar (c : Char) : Bool := c.isAlphanum || "-;/?:@&=+$,_.!~*'()[]".toList.contains c

/-- Bytes written with percent signs. -/
def percentBytes : Nat → List UInt8 → Cursor → Except Fault (List UInt8 × Cursor)
  | 0, acc, c => .ok (acc, c)
  | fuel + 1, acc, c =>
    if c.peek == some '%' then
      match Text.hexNumber? (c.next.rest.take 2) with
      | some n =>
        if c.next.rest.length < 2 then .error .malformed
        else percentBytes fuel (acc ++ [UInt8.ofNat n]) (c.next.skip 2)
      | none => .error .malformed
    else .ok (acc, c)

/-- The characters of a tag. -/
def tagCharsFrom : Nat → List Char → Cursor → Except Fault (List Char × Cursor)
  | 0, acc, c => .ok (acc, c)
  | fuel + 1, acc, c => do
    let (run, c) := c.span isTagChar
    if c.peek == some '%' then
      let (bytes, c) ← percentBytes (c.rest.length + 1) [] c
      match Text.decode? bytes with
      | some cs => tagCharsFrom fuel (acc ++ run ++ cs) c
      | none => throw .malformed
    else return (acc ++ run, c)

/-- The characters of a tag; there is one at least. -/
def readTagChars (c : Cursor) : Except Fault (List Char × Cursor) := do
  let (cs, after) ← tagCharsFrom (c.rest.length + 1) [] c
  if after.index == c.index then throw .malformed else return (cs, after)

/-- A handle: a name between exclamation marks, or one such mark. -/
def readHandle (c : Cursor) : Except Fault (List Char × Cursor) :=
  if c.peek != some '!' then .error .malformed
  else if c.peekAt 1 == some ' ' then .ok (['!'], c.next)
  else
    let (name, after) := c.next.span isNameChar
    if after.peek == some '!' then .ok ('!' :: name ++ ['!'], after.next) else .error .malformed

/-- A handle stands in front of the tag: there is another exclamation mark in the word. -/
def hasHandle (c : Cursor) : Bool :=
  ((c.rest.drop 1).takeWhile fun ch => !isTightGap (some ch)).contains '!'

/-- A tag, the cursor at its exclamation mark. -/
def readTag (c : Cursor) : Except Fault (Token × Cursor) := do
  let (token, c) ←
    if c.peekAt 1 == some '<' then do
      let (suffix, c) ← readTagChars (c.skip 2)
      if c.peek != some '>' then throw .malformed
      pure (Token.tag none suffix, c.next)
    else if isGap (c.peekAt 1) then pure (Token.tag none ['!'], c.next)
    else if hasHandle c then do
      let (handle, c) ← readHandle c
      let (suffix, c) ← readTagChars c
      pure (Token.tag (some handle) suffix, c)
    else do
      let (suffix, c) ← readTagChars c.next
      pure (Token.tag (some ['!']) suffix, c)
  if isTightGap c.peek then return (token, c) else throw .malformed

/-! ## Directives -/

/-- A number of decimal digits. -/
def readCount (c : Cursor) : Except Fault (Nat × Cursor) :=
  let (digits, c) := c.span (·.isDigit)
  if digits.isEmpty then .error .malformed
  else .ok (Text.ofDigits 10 (digits.map fun d => d.toNat - 48), c)

/-- The two numbers of a version. -/
def readVersion (c : Cursor) : Except Fault (Directive × Cursor) := do
  let (major, c) ← readCount c.skipSpaces
  if c.peek != some '.' then throw .malformed
  let (minor, c) ← readCount c.next
  if isTightGap c.peek then return (.version major minor, c) else throw .malformed

/-- The handle and the start of the tags that it stands for. -/
def readTagDirective (c : Cursor) : Except Fault (Directive × Cursor) := do
  let (handle, c) ← readHandle c.skipSpaces
  if c.peek != some ' ' then throw .malformed
  let (tagStart, c) ← readTagChars c.skipSpaces
  if isTightGap c.peek then return (.tag handle tagStart, c) else throw .malformed

/-- A directive and the rest of its line, the cursor at its percent sign. -/
def readDirective (c : Cursor) : Except Fault (Token × Cursor) := do
  let (name, c) ← readName c.next
  if !isTightGap c.peek then throw .malformed
  let (d, c) ←
    if name == "YAML".toList then readVersion c
    else if name == "TAG".toList then readTagDirective c
    else pure (Directive.other, c.skipWhile (!isBreak ·))
  let c ← c.endLine
  return (.directive d, c)

end Emend.Yaml
