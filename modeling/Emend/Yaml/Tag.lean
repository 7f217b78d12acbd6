import Emend.Pattern.Compile

/-!
# Kinds of scalars

What a plain scalar is follows from its text: each kind has a pattern, and the kinds are tried in a
fixed order. A text of no other kind is a string.
-/

namespace Emend.Yaml

/-- The kinds of values that a tag can name. -/
inductive Kind where
  | null
  | bool
  | int
  | float
  | timestamp
  | str
  | binary
  | seq
  | map
  | set
  | omap
  | pairs
  /-- The key that takes over the entries of another mapping. -/
  | merge
  /-- The key of the value that stands for a mapping. -/
  | default
  /-- A kind that is not known. -/
  | unknown
  deriving DecidableEq, BEq, Repr, Inhabited

namespace Kind

/-- How the tags of the known kinds begin. -/
def tagStart : List Char := "tag:yaml.org,2002:".toList

/-- The kinds that can be named, by the ends of their tags. -/
def names : List (String × Kind) :=
  [("null", .null), ("bool", .bool), ("int", .int), ("float", .float), ("timestamp", .timestamp),
   ("str", .str), ("binary", .binary), ("seq", .seq), ("map", .map), ("set", .set), ("omap", .omap),
   ("pairs", .pairs), ("merge", .merge), ("value", .default)]

/-- The kind that a tag names. -/
def ofTag (tag : List Char) : Kind :=
  if tagStart.isPrefixOf tag then
    (names.lookup (String.ofList (tag.drop tagStart.length))).getD .unknown
  else .unknown

/-- The patterns of plain scalars, in the order in which they are tried. -/
def patterns : List (Kind × String) :=
  [(.bool, "^(?:yes|Yes|YES|no|No|NO|true|True|TRUE|false|False|FALSE|on|On|ON|off|Off|OFF)$"),
   (.float, "^(?:[-+]?(?:[0-9][0-9_]*)\\.[0-9_]*(?:[eE][-+][0-9]+)?"
      ++ "|\\.[0-9][0-9_]*(?:[eE][-+][0-9]+)?|[-+]?[0-9][0-9_]*(?::[0-5]?[0-9])+\\.[0-9_]*"
      ++ "|[-+]?\\.(?:inf|Inf|INF)|\\.(?:nan|NaN|NAN))$"),
   (.int, "^(?:[-+]?0b[0-1_]+|[-+]?0[0-7_]+|[-+]?(?:0|[1-9][0-9_]*)|[-+]?0x[0-9a-fA-F_]+"
      ++ "|[-+]?[1-9][0-9_]*(?::[0-5]?[0-9])+)$"),
   (.merge, "^(?:<<)$"),
   (.null, "^(?:~|null|Null|NULL|)$"),
   (.timestamp, "^(?:[0-9][0-9][0-9][0-9]-[0-9][0-9]-[0-9][0-9]"
      ++ "|[0-9][0-9][0-9][0-9]-[0-9][0-9]?-[0-9][0-9]?(?:[Tt]|[ \\t]+)[0-9][0-9]?"
      ++ ":[0-9][0-9]:[0-9][0-9](?:\\.[0-9]*)?(?:[ \\t]*(?:Z|[-+][0-9][0-9]?(?::[0-9][0-9])?))?)$"),
   (.default, "^(?:=)$")]

/-- A pattern is found in a text. -/
def occurs (pattern : String) (text : List Char) : Bool :=
  match (Pattern.Needle.pattern pattern.toList).findNth text 1 with
  | .ok found => found.isSome
  | .error _ => false

/-- The kind of a plain scalar. -/
def ofPlain (text : List Char) : Kind :=
  ((patterns.find? fun (_, p) => occurs p text).map (·.1)).getD .str

end Kind

end Emend.Yaml
