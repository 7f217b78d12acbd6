import Emend.Number.Numeral
import Emend.Text.Case
import Emend.Text.Lines
import Emend.Yaml.Node
import Emend.Yaml.Value

/-!
# From nodes to values

The value of every node, by its kind. A mapping may take over the entries of others; its own entries
win over those.
-/

namespace Emend.Yaml

/-! ## Scalars -/

/-- The truth values of words. -/
def truthWords : List (String × Bool) :=
  [("yes", true), ("no", false), ("true", true), ("false", false), ("on", true), ("off", false)]

/-- The truth value of a word. -/
def readBool (cs : List Char) : Except Fault Bool :=
  let word := Text.lower (String.ofList cs)
  match truthWords.lookup word with
  | some b => .ok b
  | none => .error (.unknownWord word)

/-- The text without underscores, its sign apart. -/
def signed (cs : List Char) : Bool × List Char :=
  match cs.filter (· != '_') with
  | '-' :: rest => (true, rest)
  | '+' :: rest => (false, rest)
  | rest => (false, rest)

/-- A numeral in a base, or the complaint about it. -/
def numeral (base : Nat) (cs : List Char) : Except Fault Int :=
  match Numeral.parse? base cs with
  | some n => .ok n
  | none =>
    let shown := String.ofList (Text.quoteChars cs)
    .error (.badValue s!"invalid literal for int() with base {base}: {shown}")

/-- The parts between colons. -/
def colonParts (cs : List Char) : List (List Char) := Text.pieces ':' cs

/-- A whole number: binary, octal, hexadecimal or decimal by how it starts, or of base sixty with
colons. -/
def readInt (cs : List Char) : Except Fault Int := do
  let (negative, digits) := signed cs
  let n ← match digits with
    | [] => throw (.badValue "string index out of range")
    | ['0'] => pure 0
    | '0' :: 'b' :: rest => numeral 2 rest
    | '0' :: 'x' :: rest => numeral 16 rest
    | '0' :: _ => numeral 8 digits
    | _ =>
      if digits.contains ':' then do
        let parts ← (colonParts digits).mapM (numeral 10)
        pure (parts.foldl (fun n d => n * 60 + d) 0)
      else numeral 10 digits
  return if negative then -n else n

/-- The text after a sequence of decimal digits. -/
def decimalRun (cs : List Char) : List Char × List Char :=
  (cs.takeWhile (·.isDigit), cs.dropWhile (·.isDigit))

/-- The number that decimal digits write. -/
def decimalValue (ds : List Char) : Nat := Text.ofDigits 10 (ds.map fun c => c.toNat - 48)

/-- The exponent that ends a decimal; zero where there is none. -/
def decimalExponent? (cs : List Char) : Option Int :=
  match cs with
  | [] => some 0
  | 'e' :: rest =>
    let (negative, digits) := match rest with
      | '-' :: ds => (true, ds)
      | '+' :: ds => (false, ds)
      | ds => (false, ds)
    if digits.isEmpty || !digits.all (·.isDigit) then none
    else
      let n : Int := decimalValue digits
      some (if negative then -n else n)
  | _ => none

/-- A decimal with an optional point and exponent, in lower case. -/
def decimal? (cs : List Char) : Option Float :=
  let (whole, rest) := decimalRun cs
  let (places, rest) := match rest with
    | '.' :: rest => decimalRun rest
    | rest => ([], rest)
  if whole.isEmpty && places.isEmpty then none
  else (decimalExponent? rest).map fun e =>
    Binary.ofDecimal false (decimalValue (whole ++ places)) (e - places.length)

/-- The names of numbers that are not finite. -/
def notFinite? (cs : List Char) : Option Float :=
  if cs == "inf".toList || cs == "infinity".toList then some (1.0 / 0.0)
  else if cs == "nan".toList then some (0.0 / 0.0)
  else none

/-- A floating-point number without its sign. -/
def unsignedFloat (cs : List Char) : Except Fault Float :=
  match notFinite? (Text.trim cs) <|> decimal? (Text.trim cs) with
  | some x => .ok x
  | none =>
    let shown := String.ofList (Text.quoteChars cs)
    .error (.badValue s!"could not convert string to float: {shown}")

/-- The sum of parts of base sixty, the last one first. -/
def sexagesimal (base sum : Float) : List Float → Float
  | [] => sum
  | x :: rest => sexagesimal (base * 60.0) (sum + x * base) rest

/-- A floating-point number. -/
def readFloat (cs : List Char) : Except Fault Float := do
  let (negative, digits) := signed (Text.lower (String.ofList cs)).toList
  let x ←
    if digits.isEmpty then throw (.badValue "string index out of range")
    else if digits == ".inf".toList then pure (1.0 / 0.0)
    else if digits == ".nan".toList then pure (0.0 / 0.0)
    else if digits.contains ':' then do
      let parts ← (colonParts digits).mapM unsignedFloat
      pure (sexagesimal 1.0 0.0 parts.reverse)
    else unsignedFloat digits
  return if negative then -x else x

/-- The value of a letter in base 64. -/
def sextet? (c : Char) : Option Nat :=
  if 'A' ≤ c && c ≤ 'Z' then some (c.toNat - 65)
  else if 'a' ≤ c && c ≤ 'z' then some (c.toNat - 71)
  else if '0' ≤ c && c ≤ '9' then some (c.toNat + 4)
  else if c == '+' then some 62
  else if c == '/' then some 63
  else none

/-- The bytes of the rest of a text in base 64: `count` letters of the current four were read, with
`carry` left of them, and `pads` signs of the end behind them. Other characters are passed over. -/
def base64From (count carry pads : Nat) : List Char → Except Fault (List UInt8)
  | [] => if count = 0 then .ok [] else .error .malformed
  | c :: rest =>
    if c == '=' then
      if 2 ≤ count && 4 ≤ count + pads + 1 then .ok []
      else base64From count carry (if 2 ≤ count then pads + 1 else pads) rest
    else match sextet? c with
      | none => base64From count carry pads rest
      | some v =>
        let more (count carry byte : Nat) : Except Fault (List UInt8) :=
          (base64From count carry 0 rest).map (UInt8.ofNat byte :: ·)
        match count with
        | 0 => base64From 1 v 0 rest
        | 1 => more 2 (v % 16) (carry * 4 + v / 16)
        | 2 => more 3 (v % 4) (carry * 16 + v / 4)
        | _ => more 0 0 (carry * 64 + v)

/-- The bytes of a text in base 64. -/
def readBase64 (cs : List Char) : Except Fault (List UInt8) :=
  if cs.all (·.toNat < 128) then base64From 0 0 0 cs else .error .malformed

/-- The value of a scalar. -/
def scalarValue (kind : Kind) (cs : List Char) : Except Fault Value :=
  match kind with
  | .null => .ok .null
  | .bool => (readBool cs).map .bool
  | .int => (readInt cs).map .int
  | .float => (readFloat cs).map .float
  | .timestamp => (Timestamp.read cs).map .time
  | .str => .ok (.str cs)
  | .binary => (readBase64 cs).map .bytes
  | _ => .error .malformed

/-! ## Mappings -/

/-- The kind of a node. -/
def Node.kind : Node → Kind
  | .scalar k _ | .seq k _ | .map k _ => k
  | .cycle isMap => if isMap then .map else .seq

/-- The key of a default is a text like any other where it is a key. -/
def plainKey : Node → Node
  | .scalar .default cs => .scalar .str cs
  | n => n

mutual

/-- The entries of a mapping together with those that it takes over, which come first. -/
def merged : Nat → List (Node × Node) → Except Fault (List (Node × Node))
  | 0, _ => .error .malformed
  | fuel + 1, entries => do
    let sources := entries.filter fun (k, _) => k.kind == .merge
    let own := entries.filter fun (k, _) => k.kind != .merge
    let taken ← mergeSources fuel sources
    return taken ++ own.map fun (k, v) => (plainKey k, v)

/-- The entries that the sources give. -/
def mergeSources : Nat → List (Node × Node) → Except Fault (List (Node × Node))
  | 0, _ => .error .malformed
  | _, [] => .ok []
  | fuel + 1, (_, source) :: rest => do
    let here ← match source with
      | .map _ entries => merged fuel entries
      | .seq _ items => mergeItems fuel items
      | _ => throw .malformed
    let more ← mergeSources fuel rest
    return here ++ more

/-- The entries of several sources, those of the first one last. -/
def mergeItems : Nat → List Node → Except Fault (List (Node × Node))
  | 0, _ => .error .malformed
  | _, [] => .ok []
  | fuel + 1, item :: rest => do
    match item with
    | .map _ entries =>
      let here ← merged fuel entries
      let more ← mergeItems fuel rest
      return more ++ here
    | _ => throw .malformed

end

/-- The text that stands for a node where a text is wanted: its own, or that of its default. -/
def textOf : Nat → Node → Except Fault (List Char)
  | 0, _ => .error .malformed
  | fuel + 1, n =>
    match n with
    | .scalar _ cs => .ok cs
    | .map _ entries =>
      match entries.find? fun (k, _) => k.kind == .default with
      | some (_, v) => textOf fuel v
      | none => .error .malformed
    | _ => .error .malformed

/-! ## Nodes

The contents of containers are read level by level. Of several faults the one that has the fewest
containers around it is met first, and of those the one that is written first.
-/

/-- A fault, and how many containers around it are read before it is met. -/
structure Buried where
  depth : Nat
  fault : Fault

/-- A fault that is met at once. -/
def atOnce {α : Type} (r : Except Fault α) : Except Buried α := r.mapError (⟨0, ·⟩)

/-- What is inside of a container. -/
def inside {α : Type} (r : Except Buried α) : Except Buried α :=
  r.mapError fun b => { b with depth := b.depth + 1 }

/-- Two results, or the fault of them that is met first. -/
def both {α β : Type} : Except Buried α → Except Buried β → Except Buried (α × β)
  | .ok a, .ok b => .ok (a, b)
  | .error e, .ok _ => .error e
  | .ok _, .error e => .error e
  | .error e, .error f => .error (if f.depth < e.depth then f else e)

/-- The kinds of containers. -/
def Kind.isContainer : Kind → Bool
  | .seq | .map | .set | .omap | .pairs => true
  | _ => false

/-- The entries of a mapping; of two equal keys the first one stays, with the value of the last. -/
def collect (entries : List (Value.Key × Value × Value)) : List (Value × Value) :=
  entries.foldl (fun acc (hashed, k, v) => Value.insert hashed k v acc) []

mutual

/-- The value of a node. -/
def valueOf : Nat → Node → Except Buried Value
  | 0, _ => atOnce (.error .malformed)
  | fuel + 1, n =>
    match n with
    | .scalar k cs => atOnce (scalarValue k cs)
    | .cycle isMap => .ok (.cycle isMap)
    | .seq .seq items => (valuesOf fuel items).map .list
    | .seq .omap items | .seq .pairs items => (pairsOf fuel items).map .pairs
    | .seq _ _ => atOnce (.error .malformed)
    | .map .map entries => (mappingOf fuel entries).map .map
    | .map .set entries => (mappingOf fuel entries).map fun es => .set (es.map (·.1))
    | .map k _ => atOnce (do scalarValue k (← textOf (fuel + 1) n))

/-- The value of a node inside a container. -/
def itemOf : Nat → Node → Except Buried Value
  | 0, _ => atOnce (.error .malformed)
  | fuel + 1, n => if n.kind.isContainer then inside (valueOf fuel n) else valueOf fuel n

/-- The values of the items of a list. -/
def valuesOf : Nat → List Node → Except Buried (List Value)
  | 0, _ => atOnce (.error .malformed)
  | _, [] => .ok []
  | fuel + 1, n :: rest =>
    (both (itemOf fuel n) (valuesOf fuel rest)).map fun (v, more) => v :: more

/-- The pairs that mappings of one entry are. -/
def pairsOf : Nat → List Node → Except Buried (List (Value × Value))
  | 0, _ => atOnce (.error .malformed)
  | _, [] => .ok []
  | fuel + 1, n :: rest =>
    match n with
    | .map _ [(k, v)] =>
      let pair := both (itemOf fuel k) (itemOf fuel v)
      (both pair (pairsOf fuel rest)).map fun (p, more) => p :: more
    | _ => atOnce (.error .malformed)

/-- The entries of a mapping with those that it takes over. -/
def mappingOf : Nat → List (Node × Node) → Except Buried (List (Value × Value))
  | 0, _ => atOnce (.error .malformed)
  | fuel + 1, entries => do
    let entries ← atOnce (merged (fuel + 1) entries)
    (entriesOf fuel entries).map collect

/-- A key. A container cannot be one. -/
def keyOf : Nat → Node → Except Buried (Value.Key × Value)
  | 0, _ => atOnce (.error .malformed)
  | fuel + 1, n => do
    if n.kind.isContainer then atOnce (.error .malformed)
    let k ← valueOf fuel n
    match k.key? with
    | some hashed => return (hashed, k)
    | none => atOnce (.error .malformed)

/-- The keys and values of entries. -/
def entriesOf : Nat → List (Node × Node) → Except Buried (List (Value.Key × Value × Value))
  | 0, _ => atOnce (.error .malformed)
  | _, [] => .ok []
  | fuel + 1, (k, v) :: rest =>
    let entry := both (keyOf fuel k) (itemOf fuel v)
    (both entry (entriesOf fuel rest)).map fun (((hashed, k), v), more) => (hashed, k, v) :: more

end

mutual

/-- How many nodes a node and those inside it are. -/
def Node.size : Node → Nat
  | .scalar _ _ | .cycle _ => 1
  | .seq _ items => sizeOfItems items + 1
  | .map _ entries => sizeOfEntries entries + 1

/-- How many nodes the items of a sequence are. -/
def sizeOfItems : List Node → Nat
  | [] => 1
  | n :: rest => n.size + sizeOfItems rest + 1

/-- How many nodes the entries of a mapping are. -/
def sizeOfEntries : List (Node × Node) → Nat
  | [] => 1
  | (k, v) :: rest => k.size + v.size + sizeOfEntries rest + 1

end

/-- The value that a text writes; a text of nothing writes null. -/
def read (text : List Char) : Except Fault Value := do
  match ← compose text with
  | none => return .null
  | some n => (valueOf (4 * n.size + 4) n).mapError (·.fault)

end Emend.Yaml
