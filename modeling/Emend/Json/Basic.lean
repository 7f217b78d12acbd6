/-!
# Values

The values of requests, log entries and answers: what can be written in JSON. The keys of an object
are distinct and keep the order in which they were first set.
-/

namespace Emend

/-- A JSON value. Whole numbers and floating-point numbers are told apart by how they are written. -/
inductive Json where
  | null
  | bool (value : Bool)
  | int (value : Int)
  | float (value : Float)
  | str (value : String)
  | arr (items : List Json)
  | obj (fields : List (String × Json))
  deriving BEq, Repr, Inhabited

namespace Json

/-- Set a key of an object: its old value gives way, and a new key comes last. -/
def insert (key : String) (value : Json) : List (String × Json) → List (String × Json)
  | [] => [(key, value)]
  | (k, v) :: rest => if k = key then (key, value) :: rest else (k, v) :: insert key value rest

/-- The fields of an object that is written field by field. -/
def collect (fields : List (String × Json)) : List (String × Json) :=
  fields.foldl (fun acc (k, v) => insert k v acc) []

/-- The value of a key. -/
def lookup (key : String) (fields : List (String × Json)) : Option Json :=
  (fields.find? (·.1 == key)).map (·.2)

/-- The value of a key, and null where the key is not set. -/
def get (key : String) (fields : List (String × Json)) : Json := (lookup key fields).getD .null

/-- Values that count as present: not null, false, zero or empty. -/
def isTruthy : Json → Bool
  | .null => false
  | .bool b => b
  | .int n => n != 0
  | .float x => x != 0.0
  | .str s => !s.isEmpty
  | .arr items => !items.isEmpty
  | .obj fields => !fields.isEmpty

/-- The name of the kind of a value. -/
def kindName : Json → String
  | .null => "NoneType"
  | .bool _ => "bool"
  | .int _ => "int"
  | .float _ => "float"
  | .str _ => "str"
  | .arr _ => "list"
  | .obj _ => "dict"

/-- A text, or null. -/
def ofOption (s : Option String) : Json := match s with
  | some s => .str s
  | none => .null

end Json

end Emend
