import Emend.Number.Exact
import Emend.Text.Quoted
import Emend.Yaml.Moment

/-!
# Values of YAML texts

What a YAML text means. Mappings keep the order of their keys, and a key that is equal to an earlier one
takes its place.
-/

namespace Emend.Yaml

/-- A value. -/
inductive Value where
  | null
  | bool (value : Bool)
  | int (value : Int)
  | float (value : Float)
  | str (text : List Char)
  | bytes (bytes : List UInt8)
  | time (value : Timestamp)
  | list (items : List Value)
  | map (entries : List (Value × Value))
  /-- Keys without values. -/
  | set (items : List Value)
  /-- A list of pairs. -/
  | pairs (entries : List (Value × Value))
  /-- A value inside of itself. -/
  | cycle (isMap : Bool)
  deriving Inhabited

namespace Value

/-- Values that count as present: not null, false, zero or empty. -/
def isTruthy : Value → Bool
  | .null => false
  | .bool b => b
  | .int n => n != 0
  | .float x => x != 0.0
  | .str cs => !cs.isEmpty
  | .bytes bs => !bs.isEmpty
  | .time _ | .cycle _ => true
  | .list items | .set items => !items.isEmpty
  | .map entries | .pairs entries => !entries.isEmpty

/-- A byte between quotes. -/
def escapeByte (quote : Char) (b : UInt8) : List Char :=
  let c := Char.ofNat b.toNat
  if c == quote || c == '\\' then ['\\', c]
  else if c == '\t' then ['\\', 't']
  else if c == '\n' then ['\\', 'n']
  else if c == '\r' then ['\\', 'r']
  else if 0x20 ≤ b.toNat && b.toNat < 0x7F then [c]
  else '\\' :: 'x' :: Text.hex 2 b.toNat

/-- Bytes between quotes. -/
def quoteBytes (bs : List UInt8) : String :=
  let quote := Text.quoteFor (bs.map fun b => Char.ofNat b.toNat)
  String.ofList ('b' :: quote :: bs.flatMap (escapeByte quote) ++ [quote])

mutual

/-- The value as it is shown inside a list or a mapping. -/
def literal : Value → String
  | .null => "None"
  | .bool true => "True"
  | .bool false => "False"
  | .int n => toString n
  | .float x => Shortest.render x
  | .str cs => String.ofList (Text.quoteChars cs)
  | .bytes bs => quoteBytes bs
  | .time (.day d) => dayLiteral d
  | .time (.moment m) => m.literal
  | .list items => "[" ++ ", ".intercalate (literals items) ++ "]"
  | .map entries => "\x7b" ++ ", ".intercalate (entryLiterals entries) ++ "\x7d"
  | .set [] => "set()"
  | .set items => "\x7b" ++ ", ".intercalate (literals items) ++ "\x7d"
  | .pairs entries => "[" ++ ", ".intercalate (pairLiterals entries) ++ "]"
  | .cycle true => "\x7b...\x7d"
  | .cycle false => "[...]"

/-- The values of a list, each as it is shown. -/
def literals : List Value → List String
  | [] => []
  | v :: rest => literal v :: literals rest

/-- The entries of a mapping as they are shown. -/
def entryLiterals : List (Value × Value) → List String
  | [] => []
  | (k, v) :: rest => (literal k ++ ": " ++ literal v) :: entryLiterals rest

/-- The entries of a list of pairs as they are shown. -/
def pairLiterals : List (Value × Value) → List String
  | [] => []
  | (k, v) :: rest => ("(" ++ literal k ++ ", " ++ literal v ++ ")") :: pairLiterals rest

end

/-- The value as text: a text is itself, and so are days and moments. -/
def text : Value → String
  | .str cs => String.ofList cs
  | .time (.day d) => d.text
  | .time (.moment m) => m.text
  | v => v.literal

/-! ## Keys -/

/-- What a value is as a key: numbers are the same key if they are equal, whatever their kind. -/
inductive Key where
  | null
  | number (value : Exact)
  | str (cs : List Char)
  | bytes (bs : List UInt8)
  | time (value : Timestamp)
  deriving DecidableEq, BEq, Repr

/-- The key that a value is, if it can be one. -/
def key? : Value → Option Key
  | .null => some .null
  | .bool b => some (.number (.ofInt b.toInt))
  | .int n => some (.number (.ofInt n))
  | .float x => some (.number (.ofFloat x))
  | .str cs => some (.str cs)
  | .bytes bs => some (.bytes bs)
  | .time t => some (.time t)
  | _ => none

/-- Set a key of a mapping: the value of an equal key gives way, and a new key comes last. -/
def insert (k : Key) (key value : Value) : List (Value × Value) → List (Value × Value)
  | [] => [(key, value)]
  | (old, v) :: rest =>
    if old.key? == some k then (old, value) :: rest else (old, v) :: insert k key value rest

/-- The value of a text among the keys of a mapping. -/
def lookup (name : List Char) (entries : List (Value × Value)) : Option Value :=
  (entries.find? fun (k, _) => k.key? == some (.str name)).map (·.2)

end Value

end Emend.Yaml
