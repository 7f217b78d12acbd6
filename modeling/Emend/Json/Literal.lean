import Emend.Json.Basic
import Emend.Number.Shortest
import Emend.Text.Quoted

/-!
# Values in messages

How a value is shown inside a message: texts between quotes, lists in brackets, objects in braces, and
a name for each of null, true and false.
-/

namespace Emend.Json

mutual

/-- The value as a message shows it. -/
def literal : Json → String
  | .null => "None"
  | .bool true => "True"
  | .bool false => "False"
  | .int n => toString n
  | .float x => Shortest.render x
  | .str s => Text.quote s
  | .arr items => "[" ++ ", ".intercalate (literals items) ++ "]"
  | .obj fields => "\x7b" ++ ", ".intercalate (fieldLiterals fields) ++ "\x7d"

/-- The values of a list, each as a message shows it. -/
def literals : List Json → List String
  | [] => []
  | v :: rest => literal v :: literals rest

/-- The fields of an object, each as a message shows it. -/
def fieldLiterals : List (String × Json) → List String
  | [] => []
  | (k, v) :: rest => (Text.quote k ++ ": " ++ literal v) :: fieldLiterals rest

end

/-- The value as text: a text is itself, anything else is shown as in a message. -/
def toText : Json → String
  | .str s => s
  | v => v.literal

end Emend.Json
