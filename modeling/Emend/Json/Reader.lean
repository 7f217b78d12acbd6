import Emend.Json.Basic
import Emend.Number.Binary
import Emend.Text.Digits

/-!
# Reading JSON

A reader that says where a text stops being JSON, and what it expected there. Besides the standard it
takes the names of the numbers that are not finite. A key that is set twice keeps its last value.
-/

namespace Emend.Json

/-- What is wrong at a place of a text. -/
inductive Problem where
  | expectingValue
  | expectingName
  | expectingColon
  | expectingComma
  | extraData
  | unterminated
  | controlCharacter
  | badEscape
  | badUnicodeEscape
  | byteOrderMark
  deriving DecidableEq, BEq, Repr

/-- The wording of a problem. -/
def Problem.message : Problem → String
  | .expectingValue => "Expecting value"
  | .expectingName => "Expecting property name enclosed in double quotes"
  | .expectingColon => "Expecting ':' delimiter"
  | .expectingComma => "Expecting ',' delimiter"
  | .extraData => "Extra data"
  | .unterminated => "Unterminated string starting at"
  | .controlCharacter => "Invalid control character at"
  | .badEscape => "Invalid \\escape"
  | .badUnicodeEscape => "Invalid \\uXXXX escape"
  | .byteOrderMark => "Unexpected UTF-8 BOM (decode using utf-8-sig)"

/-- A problem, and how much of the text is left from the place where it lies. -/
structure Stop where
  problem : Problem
  left : Nat
  deriving DecidableEq, BEq, Repr

/-- A problem and its place in a text. -/
structure Malformed where
  problem : Problem
  line : Nat
  column : Nat
  offset : Nat
  deriving DecidableEq, BEq, Repr

/-- The problem with its line and column, counted from one, and its offset. -/
def Malformed.message (m : Malformed) : String :=
  s!"{m.problem.message}: line {m.line} column {m.column} (char {m.offset})"

/-- Place a stop in the text that was read. -/
def Stop.place (s : Stop) (text : List Char) : Malformed :=
  let offset := text.length - s.left
  let before := text.take offset
  let sinceBreak := (before.reverse.takeWhile (· != '\n')).length
  { problem := s.problem, line := before.count '\n' + 1, column := sinceBreak + 1, offset }

/-- The blanks that may stand between two tokens. -/
def isSpace (c : Char) : Bool := c == ' ' || c == '\t' || c == '\n' || c == '\r'

/-- The text from its next token on. -/
def skipSpace (cs : List Char) : List Char := cs.dropWhile isSpace

/-! ## Strings -/

/-- The character that a one-letter escape stands for. -/
def simpleEscape? : Char → Option Char
  | '"' => some '"'
  | '\\' => some '\\'
  | '/' => some '/'
  | 'b' => some (Char.ofNat 8)
  | 'f' => some (Char.ofNat 12)
  | 'n' => some '\n'
  | 'r' => some '\r'
  | 't' => some '\t'
  | _ => none

/-- Four hexadecimal digits that something follows. `left` counts the text from the backslash's
successor on. -/
def unit16 (cs : List Char) : Except Stop (Nat × List Char) :=
  match cs with
  | a :: b :: c :: d :: rest =>
    match rest, Text.hexNumber? [a, b, c, d] with
    | _ :: _, some n => .ok (n, rest)
    | _, _ => .error ⟨.badUnicodeEscape, cs.length + 1⟩
  | _ => .error ⟨.badUnicodeEscape, cs.length + 1⟩

/-- The character of a surrogate pair whose first unit was read. Where no second unit follows, the first one stands for
no character and becomes U+FFFD; what follows is not used up. -/
def pairUnit (high : Nat) (cs : List Char) : Except Stop (Char × List Char) :=
  match cs with
  | '\\' :: 'u' :: rest =>
    if rest.length < 5 then .ok ('\uFFFD', cs)
    else do
      let (low, rest) ← unit16 rest
      if 0xDC00 ≤ low && low ≤ 0xDFFF then
        return (Char.ofNat (0x10000 + (high - 0xD800) * 0x400 + (low - 0xDC00)), rest)
      else return ('\uFFFD', cs)
  | _ => .ok ('\uFFFD', cs)

/-- The rest of a string whose opening quote has `opening` characters from it to the end of the text. A second unit of a
surrogate pair without a first one becomes U+FFFD, too. -/
def stringTail (opening : Nat) : Nat → List Char → List Char → Except Stop (String × List Char)
  | 0, _, _ => .error ⟨.unterminated, opening⟩
  | fuel + 1, acc, cs =>
    match cs with
    | [] => .error ⟨.unterminated, opening⟩
    | '"' :: rest => .ok (String.ofList acc.reverse, rest)
    | '\\' :: 'u' :: rest => do
      let (n, after) ← unit16 rest
      if 0xD800 ≤ n && n ≤ 0xDBFF then
        let (c, after) ← pairUnit n after
        stringTail opening fuel (c :: acc) after
      else if 0xDC00 ≤ n && n ≤ 0xDFFF then stringTail opening fuel ('\uFFFD' :: acc) after
      else stringTail opening fuel (Char.ofNat n :: acc) after
    | '\\' :: c :: rest =>
      match simpleEscape? c with
      | some e => stringTail opening fuel (e :: acc) rest
      | none => .error ⟨.badEscape, rest.length + 2⟩
    | ['\\'] => .error ⟨.unterminated, opening⟩
    | c :: rest =>
      if c.toNat ≤ 0x1f then .error ⟨.controlCharacter, rest.length + 1⟩
      else stringTail opening fuel (c :: acc) rest

/-- The rest of a string after its opening quote. -/
def readString (cs : List Char) : Except Stop (String × List Char) :=
  stringTail (cs.length + 1) (cs.length + 1) [] cs

/-! ## Numbers -/

/-- A digit from 0 to 9. -/
def isNumeral (c : Char) : Bool := '0' ≤ c && c ≤ '9'

/-- The number written by numerals. -/
def numeral (ds : List Char) : Nat := Text.ofDigits 10 (ds.map fun c => c.toNat - 48)

/-- The digits after a point, if a digit follows it. -/
def fraction (cs : List Char) : List Char × List Char :=
  match cs with
  | '.' :: rest =>
    let digits := rest.takeWhile isNumeral
    if digits.isEmpty then ([], cs) else (digits, rest.dropWhile isNumeral)
  | _ => ([], cs)

/-- The exponent, if digits follow its mark. -/
def exponent (cs : List Char) : Option Int × List Char :=
  let signed (negative : Bool) (rest : List Char) : Option Int × List Char :=
    let digits := rest.takeWhile isNumeral
    if digits.isEmpty then (none, cs)
    else
      let n : Int := numeral digits
      (some (if negative then -n else n), rest.dropWhile isNumeral)
  match cs with
  | e :: rest =>
    if e == 'e' || e == 'E' then
      match rest with
      | '-' :: rest => signed true rest
      | '+' :: rest => signed false rest
      | rest => signed false rest
    else (none, cs)
  | [] => (none, cs)

/-- A number without its sign; a zero in front stands alone. -/
def unsigned (negative : Bool) (cs : List Char) : Option (Json × List Char) :=
  let whole := match cs with
    | '0' :: _ => ['0']
    | cs => cs.takeWhile isNumeral
  if whole.isEmpty then none
  else
    let (places, afterPoint) := fraction (cs.drop whole.length)
    let (power, rest) := exponent afterPoint
    if places.isEmpty && power.isNone then
      let n : Int := numeral whole
      some (.int (if negative then -n else n), rest)
    else
      let exponent := power.getD 0 - places.length
      some (.float (Binary.ofDecimal negative (numeral (whole ++ places)) exponent), rest)

/-- A number. -/
def readNumber (cs : List Char) : Option (Json × List Char) :=
  match cs with
  | '-' :: rest => unsigned true rest
  | cs => unsigned false cs

/-! ## Values -/

/-- The words that stand for a value. -/
def words : List (String × Json) :=
  [("null", .null), ("true", .bool true), ("false", .bool false), ("NaN", .float (0.0 / 0.0)),
   ("Infinity", .float (1.0 / 0.0)), ("-Infinity", .float (-1.0 / 0.0))]

/-- The word that the text begins with. -/
def readWord (cs : List Char) : Option (Json × List Char) :=
  words.findSome? fun (w, v) =>
    if w.toList.isPrefixOf cs then some (v, cs.drop w.toList.length) else none

mutual

/-- The value that the text begins with. Every nested value costs one unit of fuel. -/
def readValue : Nat → List Char → Except Stop (Json × List Char)
  | 0, cs => .error ⟨.expectingValue, cs.length⟩
  | fuel + 1, cs =>
    match cs with
    | '"' :: rest => (readString rest).map fun (s, rest) => (.str s, rest)
    | '\x7b' :: rest =>
      let rest := skipSpace rest
      match rest with
      | '\x7d' :: rest => .ok (.obj [], rest)
      | _ => readFields fuel [] rest
    | '[' :: rest =>
      let rest := skipSpace rest
      match rest with
      | ']' :: rest => .ok (.arr [], rest)
      | _ => readItems fuel [] rest
    | cs =>
      match readWord cs <|> readNumber cs with
      | some r => .ok r
      | none => .error ⟨.expectingValue, cs.length⟩

/-- The items of a list from an item on, after those already read, the last first. -/
def readItems : Nat → List Json → List Char → Except Stop (Json × List Char)
  | 0, _, cs => .error ⟨.expectingValue, cs.length⟩
  | fuel + 1, acc, cs => do
    let (v, rest) ← readValue fuel cs
    match skipSpace rest with
    | ']' :: rest => return (.arr (v :: acc).reverse, rest)
    | ',' :: rest => readItems fuel (v :: acc) (skipSpace rest)
    | rest => throw ⟨.expectingComma, rest.length⟩

/-- The fields of an object from a name on, after those already read. -/
def readFields : Nat → List (String × Json) → List Char → Except Stop (Json × List Char)
  | 0, _, cs => .error ⟨.expectingName, cs.length⟩
  | fuel + 1, acc, cs =>
    match cs with
    | '"' :: rest => do
      let (name, rest) ← readString rest
      match skipSpace rest with
      | ':' :: rest =>
        let (v, rest) ← readValue fuel (skipSpace rest)
        let acc := insert name v acc
        match skipSpace rest with
        | '\x7d' :: rest => return (.obj acc, rest)
        | ',' :: rest => readFields fuel acc (skipSpace rest)
        | rest => throw ⟨.expectingComma, rest.length⟩
      | rest => throw ⟨.expectingColon, rest.length⟩
    | cs => .error ⟨.expectingName, cs.length⟩

end

/-- The value that a whole text is. -/
def readWhole (text : List Char) : Except Stop Json := do
  if text.head? == some '\uFEFF' then throw ⟨.byteOrderMark, text.length⟩
  let (v, rest) ← readValue (2 * text.length + 2) (skipSpace text)
  match skipSpace rest with
  | [] => return v
  | rest => throw ⟨.extraData, rest.length⟩

/-- The value that a text is, or what is wrong with the text. -/
def parse (text : List Char) : Except Malformed Json := (readWhole text).mapError (·.place text)

end Emend.Json
