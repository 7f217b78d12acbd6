import Emend.Pattern.Basic

/-!
# Widths

How many characters a part of a pattern can match, at least and at most. A look behind needs a part
for which the two are the same.
-/

namespace Emend.Pattern

/-- The least and the greatest number of characters. -/
structure Width where
  least : Nat
  most : Nat
  deriving DecidableEq, BEq, Repr, Inhabited

namespace Width

/-- Counts stop here: more than any text has. -/
def limit : Nat := 0x10000000000000000

/-- One part after another. -/
def add (a b : Width) : Width := ⟨a.least + b.least, a.most + b.most⟩

/-- Either of two parts. -/
def either (a b : Width) : Width := ⟨min a.least b.least, max a.most b.most⟩

/-- Counts beyond the limit are the limit. -/
def cap (a : Width) : Width := ⟨min a.least limit, min a.most limit⟩

/-- A part over and over. -/
def times (a : Width) (least : Nat) (most : Option Nat) : Width :=
  ⟨a.least * least, match most with
    | some m => a.most * m
    | none => if a.most = 0 then 0 else limit⟩

end Width

/-- The widths of the groups that are closed. -/
abbrev GroupWidths := Array (Option Width)

mutual

/-- The width of one item. -/
def Item.width (groups : GroupWidths) : Item → Width
  | .char _ | .notChar _ | .any | .set .. => ⟨1, 1⟩
  | .anchor _ | .look .. => ⟨0, 0⟩
  | .branch alternatives => widthOfAny groups alternatives
  | .repeated _ least most body => (widthOfAll groups body).times least most
  | .group _ _ _ body => widthOfAll groups body
  | .atomic body => widthOfAll groups body
  | .backref g => (groups.getD g none).getD ⟨0, 0⟩
  | .conditional _ yes no => (widthOfAll groups yes).either (widthOfAll groups no)

/-- The width of items one after the other. -/
def widthOfAll (groups : GroupWidths) : List Item → Width
  | [] => ⟨0, 0⟩
  | i :: rest => ((i.width groups).add (widthOfAll groups rest)).cap

/-- The width of any of several alternatives. -/
def widthOfAny (groups : GroupWidths) : List (List Item) → Width
  | [] => ⟨0, 0⟩
  | [items] => widthOfAll groups items
  | items :: rest => (widthOfAll groups items).either (widthOfAny groups rest)

end

end Emend.Pattern
