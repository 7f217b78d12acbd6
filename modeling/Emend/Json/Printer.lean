import Emend.Json.Basic
import Emend.Number.Shortest
import Emend.Text.Quoted

/-!
# Writing JSON

Two layouts. On one line, items are separated by a comma and a space. In blocks, every item stands on
its own line, two blanks deeper than its container. Only ASCII is written: other characters are escaped
by their UTF-16 units.
-/

namespace Emend.Json

/-- The UTF-16 units of a character. -/
def units16 (c : Char) : List Nat :=
  if c.toNat < 0x10000 then [c.toNat]
  else [0xD800 + (c.toNat - 0x10000) / 0x400, 0xDC00 + (c.toNat - 0x10000) % 0x400]

/-- A character between the quotes of a string. -/
def escapeChar (c : Char) : List Char :=
  if c == '"' || c == '\\' then ['\\', c]
  else if c == '\n' then ['\\', 'n']
  else if c == '\r' then ['\\', 'r']
  else if c == '\t' then ['\\', 't']
  else if c.toNat == 8 then ['\\', 'b']
  else if c.toNat == 12 then ['\\', 'f']
  else if 32 ≤ c.toNat && c.toNat < 127 then [c]
  else (units16 c).flatMap fun n => '\\' :: 'u' :: Text.hex 4 n

/-- A string with its quotes. -/
def renderString (s : String) : String :=
  String.ofList ('"' :: s.toList.flatMap escapeChar ++ ['"'])

/-- A floating-point number; those that are not finite have names. -/
def renderFloat (x : Float) : String :=
  match Binary.magnitude x with
  | .undefined => "NaN"
  | .infinite => if Binary.isNegative x then "-Infinity" else "Infinity"
  | .finite _ _ => Shortest.render x

mutual

/-- The value on one line. -/
def render : Json → String
  | .null => "null"
  | .bool true => "true"
  | .bool false => "false"
  | .int n => toString n
  | .float x => renderFloat x
  | .str s => renderString s
  | .arr items => "[" ++ ", ".intercalate (renderItems items) ++ "]"
  | .obj fields => "\x7b" ++ ", ".intercalate (renderFields fields) ++ "\x7d"

/-- Every item on one line. -/
def renderItems : List Json → List String
  | [] => []
  | v :: rest => render v :: renderItems rest

/-- Every field on one line. -/
def renderFields : List (String × Json) → List String
  | [] => []
  | (k, v) :: rest => (renderString k ++ ": " ++ render v) :: renderFields rest

end

/-- A line break and the indentation of a level. -/
def newlineAt (level : Nat) : String := "\n" ++ String.ofList (List.replicate (2 * level) ' ')

mutual

/-- The value in blocks, inside `level` containers. -/
def renderBlock (level : Nat) : Json → String
  | .arr (v :: rest) =>
    "[" ++ newlineAt (level + 1)
      ++ ("," ++ newlineAt (level + 1)).intercalate (blockItems (level + 1) (v :: rest))
      ++ newlineAt level ++ "]"
  | .obj (f :: rest) =>
    "\x7b" ++ newlineAt (level + 1)
      ++ ("," ++ newlineAt (level + 1)).intercalate (blockFields (level + 1) (f :: rest))
      ++ newlineAt level ++ "\x7d"
  | v => render v

/-- Every item in blocks. -/
def blockItems (level : Nat) : List Json → List String
  | [] => []
  | v :: rest => renderBlock level v :: blockItems level rest

/-- Every field in blocks. -/
def blockFields (level : Nat) : List (String × Json) → List String
  | [] => []
  | (k, v) :: rest => (renderString k ++ ": " ++ renderBlock level v) :: blockFields level rest

end

end Emend.Json
