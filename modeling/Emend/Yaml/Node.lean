import Emend.Yaml.Lexer
import Emend.Yaml.Tag

/-!
# Nodes

The tree that the tokens of a document write, every node with its kind. An alias stands for the node of
its anchor; inside that node itself it stands for a cycle.
-/

namespace Emend.Yaml

/-- A node of a document. -/
inductive Node where
  | scalar (kind : Kind) (text : List Char)
  | seq (kind : Kind) (items : List Node)
  | map (kind : Kind) (entries : List (Node × Node))
  /-- A node inside of itself. -/
  | cycle (isMap : Bool)
  deriving Inhabited

/-- A document that is being read: the tokens to come, and the nodes of the anchors so far. -/
structure Reading where
  tokens : List Token
  anchors : List (List Char × Node) := []

/-- A step that reads tokens. -/
abbrev Step := StateT Reading (Except Fault)

namespace Step

/-- Stop: the tokens make no document. -/
def fail {α : Type} : Step α := throw .malformed

/-- The next token. -/
def peek : Step Token := do return ((← get).tokens.head?).getD .streamEnd

/-- Take the next token. -/
def take : Step Unit := modify fun r => { r with tokens := r.tokens.drop 1 }

/-- Take the next token if it is the given one. -/
def takeIf (t : Token) : Step Bool := do
  if (← peek) == t then
    take
    return true
  else return false

/-- The next token is one of the given ones. -/
def isAt (ts : List Token) : Step Bool := do return ts.contains (← peek)

/-- Give an anchor its node. -/
def setAnchor (name : Option (List Char)) (n : Node) : Step Unit :=
  match name with
  | some name => modify fun r => { r with anchors := (name, n) :: r.anchors }
  | none => pure ()

end Step

/-- What stands in front of a node. -/
structure Properties where
  anchor : Option (List Char) := none
  tag : Option (List Char) := none

/-- The handles of tags, and the starts that they stand for. -/
abbrev Handles := List (List Char × List Char)

/-- The handles that are known without a directive. -/
def Handles.standard : Handles := [(['!'], ['!']), (['!', '!'], Kind.tagStart)]

namespace Properties

/-- Nothing stands in front. -/
def isEmpty (p : Properties) : Bool := p.anchor.isNone && p.tag.isNone

/-- The tag leaves the kind to the node. -/
def isImplicit (p : Properties) : Bool := p.tag.isNone || p.tag == some ['!']

/-- The kind of a node that has `own` unless its tag says otherwise. -/
def kind (p : Properties) (own : Kind) : Kind :=
  if p.isImplicit then own else Kind.ofTag (p.tag.getD [])

/-- The node of a scalar; its text decides where it is plain and without a tag, or where its tag says
so. -/
def scalar (p : Properties) (text : List Char) (plain : Bool) : Node :=
  let byText := (plain && p.tag.isNone) || p.tag == some ['!']
  .scalar (p.kind (if byText then Kind.ofPlain text else .str)) text

end Properties

/-- The scalar that stands where nothing is written. -/
def emptyNode : Node := .scalar .null []

/-- Read an anchor into properties. -/
def readAnchorToken (p : Properties) : Step Properties := do
  match ← Step.peek with
  | .anchor name =>
    Step.take
    return { p with anchor := some name }
  | _ => return p

/-- Read a tag into properties. -/
def readTagToken (handles : Handles) (p : Properties) : Step Properties := do
  match ← Step.peek with
  | .tag none suffix =>
    Step.take
    return { p with tag := some suffix }
  | .tag (some handle) suffix =>
    Step.take
    match handles.lookup handle with
    | some start => return { p with tag := some (start ++ suffix) }
    | none => Step.fail
  | _ => return p

/-- Read what stands in front of a node: an anchor and a tag, in either order. -/
def readProperties (handles : Handles) : Step Properties := do
  let first ← readAnchorToken {}
  let p ← readTagToken handles first
  let p ← if first.anchor.isNone then readAnchorToken p else pure p
  if p.anchor.any ((← get).anchors.map (·.1)).contains then Step.fail
  return p

/-- A node of which nothing is written but what stands in front. -/
def readEmpty (p : Properties) : Step Node :=
  if p.isEmpty then Step.fail
  else do
    let n := p.scalar [] true
    Step.setAnchor p.anchor n
    return n

/-- A sequence. Inside of it its anchor stands for a cycle. -/
def readSeq (p : Properties) (items : Step (List Node)) : Step Node := do
  Step.setAnchor p.anchor (.cycle false)
  let n := Node.seq (p.kind .seq) (← items)
  Step.setAnchor p.anchor n
  return n

/-- A mapping. Inside of it its anchor stands for a cycle. -/
def readMap (p : Properties) (entries : Step (List (Node × Node))) : Step Node := do
  Step.setAnchor p.anchor (.cycle true)
  let n := Node.map (p.kind .map) (← entries)
  Step.setAnchor p.anchor n
  return n

/-- A node, unless one of some tokens comes at once. -/
def readUnless (stops : List Token) (node : Step Node) : Step Node := do
  if ← Step.isAt stops then return emptyNode else node

/-- What follows a token, unless one of some other tokens comes at once; nothing without the token. -/
def readAfter (sign : Token) (stops : List Token) (node : Step Node) : Step Node := do
  if ← Step.takeIf sign then readUnless stops node else return emptyNode

mutual

/-- Read a node. `inBlock` says whether it may be a block, and `indentless` whether entries may stand at
the column of the block around them. -/
def readNode (handles : Handles) : Nat → Bool → Bool → Step Node
  | 0, _, _ => Step.fail
  | fuel + 1, inBlock, indentless => do
    match ← Step.peek with
    | .alias name =>
      Step.take
      match (← get).anchors.lookup name with
      | some n => return n
      | none => Step.fail
    | _ => readContent handles fuel inBlock indentless (← readProperties handles)

/-- Read a node behind what stands in front of it. -/
def readContent (handles : Handles) : Nat → Bool → Bool → Properties → Step Node
  | 0, _, _, _ => Step.fail
  | fuel + 1, inBlock, indentless, p => do
    match ← Step.peek with
    | .blockEntry =>
      if indentless then readSeq p (readIndentless handles fuel []) else readEmpty p
    | .scalar text plain =>
      Step.take
      let n := p.scalar text plain
      Step.setAnchor p.anchor n
      return n
    | .flowSequence =>
      Step.take
      readSeq p (readFlowItems handles fuel [])
    | .flowMapping =>
      Step.take
      readMap p (readFlowEntries handles fuel [])
    | .blockSequence =>
      if inBlock then
        Step.take
        readSeq p (readBlockItems handles fuel [])
      else readEmpty p
    | .blockMapping =>
      if inBlock then
        Step.take
        readMap p (readBlockEntries handles fuel [])
      else readEmpty p
    | _ => readEmpty p

/-- Read the items of a block sequence, after those read so far, the last first. -/
def readBlockItems (handles : Handles) : Nat → List Node → Step (List Node)
  | 0, _ => Step.fail
  | fuel + 1, acc => do
    if ← Step.takeIf .blockEntry then
      let n ← readUnless [.blockEntry, .blockEnd] (readNode handles fuel true false)
      readBlockItems handles fuel (n :: acc)
    else if ← Step.takeIf .blockEnd then return acc.reverse
    else Step.fail

/-- Read the items of a sequence at the column of the mapping around it. -/
def readIndentless (handles : Handles) : Nat → List Node → Step (List Node)
  | 0, _ => Step.fail
  | fuel + 1, acc => do
    if ← Step.takeIf .blockEntry then
      let n ← readUnless [.blockEntry, .key, .value, .blockEnd] (readNode handles fuel true false)
      readIndentless handles fuel (n :: acc)
    else return acc.reverse

/-- Read the entries of a block mapping. -/
def readBlockEntries (handles : Handles) : Nat → List (Node × Node) → Step (List (Node × Node))
  | 0, _ => Step.fail
  | fuel + 1, acc => do
    if ← Step.takeIf .key then
      let stops : List Token := [.key, .value, .blockEnd]
      let k ← readUnless stops (readNode handles fuel true true)
      let v ← readAfter .value stops (readNode handles fuel true true)
      readBlockEntries handles fuel ((k, v) :: acc)
    else if ← Step.takeIf .blockEnd then return acc.reverse
    else Step.fail

/-- Read the items between brackets. An item with the sign of a key is a mapping of one entry. -/
def readFlowItems (handles : Handles) : Nat → List Node → Step (List Node)
  | 0, _ => Step.fail
  | fuel + 1, acc => do
    if ← Step.takeIf .flowSequenceEnd then return acc.reverse
    if !acc.isEmpty then
      if !(← Step.takeIf .flowEntry) then Step.fail
    if ← Step.takeIf .key then
      let k ← readUnless [.value, .flowEntry, .flowSequenceEnd] (readNode handles fuel false false)
      let v ← readAfter .value [.flowEntry, .flowSequenceEnd] (readNode handles fuel false false)
      readFlowItems handles fuel (.map .map [(k, v)] :: acc)
    else if ← Step.takeIf .flowSequenceEnd then return acc.reverse
    else
      let n ← readNode handles fuel false false
      readFlowItems handles fuel (n :: acc)

/-- Read the entries between braces. -/
def readFlowEntries (handles : Handles) : Nat → List (Node × Node) → Step (List (Node × Node))
  | 0, _ => Step.fail
  | fuel + 1, acc => do
    if ← Step.takeIf .flowMappingEnd then return acc.reverse
    if !acc.isEmpty then
      if !(← Step.takeIf .flowEntry) then Step.fail
    if ← Step.takeIf .key then
      let k ← readUnless [.value, .flowEntry, .flowMappingEnd] (readNode handles fuel false false)
      let v ← readAfter .value [.flowEntry, .flowMappingEnd] (readNode handles fuel false false)
      readFlowEntries handles fuel ((k, v) :: acc)
    else if ← Step.takeIf .flowMappingEnd then return acc.reverse
    else
      let k ← readNode handles fuel false false
      readFlowEntries handles fuel ((k, emptyNode) :: acc)

end

/-! ## Documents -/

/-- Read directives, given whether there was a version and which handles were named. -/
def readDirectives : Nat → Bool → Handles → Step Handles
  | 0, _, _ => Step.fail
  | fuel + 1, versioned, handles => do
    match ← Step.peek with
    | .directive d =>
      Step.take
      match d with
      | .version major _ =>
        if versioned || major != 1 then Step.fail
        readDirectives fuel true handles
      | .tag handle start =>
        if (handles.lookup handle).isSome then Step.fail
        readDirectives fuel versioned ((handle, start) :: handles)
      | .other => readDirectives fuel versioned handles
    | _ => return handles ++ Handles.standard

/-- Read the only document of a text, if it has one. -/
def readDocument (fuel : Nat) : Step (Option Node) := do
  if ← Step.isAt [.streamEnd] then return none
  match ← Step.peek with
  | .directive _ | .documentStart =>
    let handles ← readDirectives fuel false []
    if !(← Step.takeIf .documentStart) then Step.fail
    match ← Step.peek with
    | .directive _ | .documentStart | .documentEnd | .streamEnd => return some emptyNode
    | _ => return some (← readNode handles fuel true false)
  | _ => return some (← readNode Handles.standard fuel true false)

/-- Nothing follows a document but marks of its end. -/
def endsHere (tokens : List Token) : Bool :=
  (tokens.dropWhile (· == .documentEnd)).head? == some .streamEnd

/-- The node that a text writes, if it writes one. -/
def compose (text : List Char) : Except Fault (Option Node) := do
  let ts ← tokens text
  let (n, r) ← (readDocument (3 * ts.length + 3)).run ⟨ts, []⟩
  if n.isSome && !endsHere r.tokens then throw .malformed
  return n

end Emend.Yaml
