import Emend.Number.Numeral

/-!
# Options on a command line

How a list of words falls into options, their values and the other words. A long option may be cut short
as long as it stays unambiguous, and may carry its value behind an equals sign; short options may be
written together. After two dashes every word is taken as it stands.
-/

namespace Emend.Command

/-- Why a command line is not carried out. -/
inductive Halt where
  /-- The words make no command. -/
  | usage
  /-- Help is asked for: on a task, or on all of them. -/
  | help (about : Option String)
  deriving DecidableEq, BEq, Repr

/-- Say which task help is asked on. -/
def Halt.on (name : String) : Halt → Halt
  | .help _ => .help (some name)
  | .usage => .usage

/-- An option: its spellings, and whether it takes a value, which may have to be a number. -/
structure Flag where
  name : String
  spellings : List (List Char)
  takesValue : Bool := false
  wantsNumber : Bool := false
  deriving DecidableEq, BEq, Repr

namespace Flag

/-- An option that is one long word. -/
def long (name : String) (takesValue : Bool := false) : Flag :=
  { name, spellings := [("--" ++ name).toList], takesValue }

/-- The option that asks for help. -/
def help : Flag := { name := "help", spellings := ["-h".toList, "--help".toList] }

end Flag

/-- What a word on a command line is. -/
inductive Word where
  /-- An option, and what is written behind it in the same word. -/
  | flag (f : Flag) (rest : Option (List Char)) (short : Bool)
  /-- It looks like an option, and is none. -/
  | unknown
  /-- Two dashes. -/
  | dashes
  | plain
  deriving DecidableEq, BEq, Repr

/-- The option of a spelling. -/
def flagOf (flags : List Flag) (spelling : List Char) : Option Flag :=
  flags.find? (·.spellings.contains spelling)

/-- A word and what stands behind its first equals sign. -/
def splitValue (word : List Char) : List Char × Option (List Char) :=
  match word.dropWhile (· != '=') with
  | [] => (word, none)
  | _ :: value => (word.takeWhile (· != '='), some value)

/-- Only digits, and a point with digits behind it, follow a minus sign. -/
def isNegativeNumber (word : List Char) : Bool :=
  match word with
  | '-' :: rest =>
    let whole := rest.takeWhile (·.isDigit)
    match rest.drop whole.length with
    | [] => !whole.isEmpty
    | '.' :: places => !places.isEmpty && places.all (·.isDigit)
    | _ => false
  | _ => false

/-- The options that a word can be short for. -/
def shortFor (flags : List Flag) (word : List Char) : List Word :=
  match word with
  | '-' :: '-' :: _ =>
    let (start, value) := splitValue word
    flags.flatMap fun f => (f.spellings.filter start.isPrefixOf).map fun _ => .flag f value false
  | '-' :: c :: rest =>
    flags.flatMap fun f =>
      (f.spellings.filter (· == ['-', c])).map fun _ => .flag f (some rest) true
  | _ => []

/-- What a word is that is not behind two dashes. -/
def classify (flags : List Flag) (word : List Char) : Except Halt Word :=
  if word == ['-', '-'] then .ok .dashes
  else if word.head? != some '-' || word.length < 2 then .ok .plain
  else
    let (start, value) := splitValue word
    let isShort := (word.drop 1).head? != some '-'
    match flagOf flags word, value, flagOf flags start with
    | some f, _, _ => .ok (.flag f none isShort)
    | none, some v, some f => .ok (.flag f (some v) false)
    | _, _, _ =>
      match shortFor flags word with
      | [w] => .ok w
      | [] => .ok (if isNegativeNumber word || word.contains ' ' then .plain else .unknown)
      | _ => .error .usage

/-- What every word is. -/
def classifyAll (flags : List Flag) : List (List Char) → Except Halt (List (List Char × Word))
  | [] => .ok []
  | w :: rest => do
    match ← classify flags w with
    | .dashes => return (w, .dashes) :: rest.map (·, .plain)
    | k => return (w, k) :: (← classifyAll flags rest)

/-- The values of options, the last one first; an option without a value has an empty one. -/
abbrev Values := List (String × List Char)

/-- The short options that are written together behind another one, up to a letter that is none; and
whether there is such a letter. -/
def shortRun (flags : List Flag) (sofar : Values) : List Char → Except Halt (Values × Bool)
  | [] => .ok (sofar, false)
  | c :: rest =>
    if c == '-' || c == '=' then .error .usage
    else match flagOf flags ['-', c] with
      | some f => shortRun flags ((f.name, []) :: sofar) rest
      | none => .ok (sofar, true)

/-- The value of an option, if it is one that the option can have. -/
def checkValue (f : Flag) (v : List Char) : Except Halt (List Char) :=
  if f.wantsNumber && (Numeral.parse? 10 v).isNone then .error .usage else .ok v

/-- Set an option; asking for help stops everything. -/
def setValues (values added : Values) : Except Halt Values :=
  if added.any (·.1 == Flag.help.name) then .error (.help none) else .ok (added ++ values)

/-- An option that is taken: all values so far, whether a part of its word is left over, and the words
behind it. -/
structure Taken where
  values : Values
  surplus : Bool := false
  next : List (List Char × Word)

/-- Take an option with what is written behind it, and with the next word where it takes a value. -/
def takeFlag (flags : List Flag) (values : Values) (f : Flag) (value : Option (List Char))
    (short : Bool) (next : List (List Char × Word)) : Except Halt Taken := do
  if f.takesValue then
    match value, next with
    | some v, _ => return { values := ← setValues values [(f.name, ← checkValue f v)], next }
    | none, (w, .plain) :: next =>
      return { values := ← setValues values [(f.name, ← checkValue f w)], next }
    | none, _ => throw .usage
  else
    match value with
    | none => return { values := ← setValues values [(f.name, [])], next }
    | some v =>
      if !short || v.isEmpty then throw .usage
      let (added, surplus) ← shortRun flags [(f.name, [])] v
      return { values := ← setValues values added, surplus, next }

/-- Whether an option is given. -/
def Values.has (values : Values) (name : String) : Bool := values.any (·.1 == name)

/-- The value of an option. -/
def Values.value (values : Values) (name : String) : Option String :=
  (List.lookup name values).map String.ofList

end Emend.Command
