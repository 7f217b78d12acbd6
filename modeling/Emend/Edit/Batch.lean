import Emend.Document.Basic
import Emend.Edit.Basic
import Emend.Log

/-!
# Batches of edits

All edits of a batch speak of the same text. They become splices at offsets of that text, are checked
for overlaps, and are made from the last to the first, so that no splice moves the offsets of those
still to be made.
-/

namespace Emend

/-- An edit at offsets, with its place in the batch. -/
structure Splice where
  start : Nat
  stop : Nat
  newText : List Char
  index : Nat
  deriving DecidableEq, BEq, Repr, Inhabited

/-- Two edits that claim the same text. The numbers of edits count from one. -/
inductive Overlap where
  /-- Two spans share characters. -/
  | spans (first second : Splice)
  /-- An insertion falls strictly inside a span. -/
  | inside (insertion span : Splice)
  deriving DecidableEq, BEq, Repr

/-- Which edits overlap, and where. -/
def Overlap.message : Overlap → String
  | .spans a b =>
    s!"Edits {a.index + 1} ({a.start}-{a.stop}) and {b.index + 1} ({b.start}-{b.stop}) overlap"
  | .inside i s =>
    s!"Insertion {i.index + 1} at {i.start} falls inside edit {s.index + 1} ({s.start}-{s.stop})"

namespace Splice

/-- The splice takes nothing away. -/
def isInsertion (s : Splice) : Bool := s.start == s.stop

/-- Put the new text in its place. -/
def apply (s : Splice) (text : List Char) : List Char :=
  text.take s.start ++ s.newText ++ text.drop s.stop

/-- The order of spans: by start, then by end. -/
def spanLe (a b : Splice) : Bool :=
  a.start < b.start || (a.start == b.start && a.stop ≤ b.stop)

/-- The order in which the new texts appear: by start, by end, then as submitted. -/
def le (a b : Splice) : Bool :=
  a.start < b.start || (a.start == b.start &&
    (a.stop < b.stop || (a.stop == b.stop && a.index ≤ b.index)))

/-- The first two neighbours of a list in order that share characters. -/
def firstClash : List Splice → Option Overlap
  | a :: b :: rest => if b.start < a.stop then some (.spans a b) else firstClash (b :: rest)
  | _ => none

/-- The first span that an insertion falls inside of. -/
def spanAround (spans : List Splice) (insertion : Splice) : Option Overlap :=
  (spans.find? fun s => s.start < insertion.start && insertion.start < s.stop).map
    (.inside insertion)

/-- The first overlap in a batch. Spans that touch and insertions at the edge of a span are no
overlap, and neither are several insertions at one place. -/
def overlap? (splices : List Splice) : Option Overlap :=
  let spans := (splices.filter (!·.isInsertion)).mergeSort spanLe
  firstClash spans <|> (splices.filter (·.isInsertion)).findSome? (spanAround spans)

/-- Make every splice, the last one first. -/
def applyAll (splices : List Splice) (text : List Char) : List Char :=
  (splices.mergeSort le).foldr apply text

end Splice

namespace Document

/-- The edit as a splice of the document, with its place in the batch. -/
def splice (d : Document) (index : Nat) (e : Edit) : Except OutOfRange Splice := do
  let start ← d.offsetAt e.range.start
  let stop ← d.offsetAt e.range.stop
  return ⟨start, stop, e.newText, index⟩

/-- The edits as splices, counted from `index`. -/
def splicesFrom (d : Document) : Nat → List Edit → Except OutOfRange (List Splice)
  | _, [] => .ok []
  | index, e :: rest => do
    let s ← d.splice index e
    let more ← d.splicesFrom (index + 1) rest
    return s :: more

/-- The edits of a batch as splices. -/
def splices (d : Document) (edits : List Edit) : Except OutOfRange (List Splice) :=
  d.splicesFrom 0 edits

end Document

/-- Why a batch cannot be applied. -/
inductive BatchError where
  | outOfRange (cause : OutOfRange)
  | overlap (cause : Overlap)
  deriving DecidableEq, BEq, Repr

/-- Refuse a batch in which two edits claim the same text. -/
def checkOverlaps (splices : List Splice) : Except BatchError Unit :=
  match Splice.overlap? splices with
  | some o => .error (.overlap o)
  | none => .ok ()

/-- The text with every edit made. A strict batch is refused if two edits overlap; otherwise the edits
are made from the last to the first whatever they share. -/
def applyEdits (text : List Char) (edits : List Edit) (strict : Bool := true) :
    Except BatchError (List Char) :=
  if edits.isEmpty then .ok text
  else do
    let splices ← (Document.mk text "").splices edits |>.mapError .outOfRange
    if strict then checkOverlaps splices
    return Splice.applyAll splices text

/-- What is told when a batch was applied; nothing about an empty one. -/
def appliedNotes (edits : List Edit) (before after : List Char) : List Note :=
  if edits.isEmpty then []
  else [⟨.debug, .batch,
    s!"[Edit] Applied {edits.length} edit(s): {before.length} -> {after.length} chars"⟩]

end Emend
