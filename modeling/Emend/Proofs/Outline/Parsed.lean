import Emend.Outline.Walk
import Emend.Proofs.Outline.Offsets

/-!
# Trees of parsed texts

A parser gives a tree whose spans lie between the characters of the text, inside of each other and side by side
(`SyntaxTree.Parsed`, which can be decided). There a node that declares a name takes room (`Parsed.lt_of_nameIn`).
-/

namespace Emend

/-- The tree of a parsed text: the span of a node lies between characters of the text and in the span of its parent,
and siblings come one after the other. -/
inductive SyntaxTree.Parsed (text : List Char) : SyntaxTree → Prop
  | intro {t : SyntaxTree} (span : t.startByte ≤ t.stopByte) (starts : Source.IsBoundary text t.startByte)
    (stops : Source.IsBoundary text t.stopByte)
    (inside : ∀ c ∈ t.children, t.startByte ≤ c.startByte ∧ c.stopByte ≤ t.stopByte)
    (apart : t.children.Pairwise fun a b => a.stopByte ≤ b.startByte)
    (children : ∀ c ∈ t.children, Parsed text c) : Parsed text t

/-- The offset of the character that a byte of a text belongs to. -/
def Source.place (text : List Char) (byte : Nat) : Int := (ofText text).offsetOfByte byte

namespace SyntaxTree

open Source (place)

variable {text : List Char} {source : Source} {t c : SyntaxTree} {role : String}

theorem Parsed.inside (h : t.Parsed text) (hc : c ∈ t.children) :
    t.startByte ≤ c.startByte ∧ c.stopByte ≤ t.stopByte := by
  cases h with
  | intro span starts stops inside apart children => exact inside c hc

theorem Parsed.child (h : t.Parsed text) (hc : c ∈ t.children) : c.Parsed text := by
  cases h with
  | intro span starts stops inside apart children => exact children c hc

theorem Parsed.apart (h : t.Parsed text) : t.children.Pairwise fun a b => a.stopByte ≤ b.startByte := by
  cases h with
  | intro span starts stops inside apart children => exact apart

theorem Parsed.starts (h : t.Parsed text) : Source.IsBoundary text t.startByte := by
  cases h with
  | intro span starts stops inside apart children => exact starts

theorem Parsed.stops (h : t.Parsed text) : Source.IsBoundary text t.stopByte := by
  cases h with
  | intro span starts stops inside apart children => exact stops

/-- What holds of a parsed tree whenever it holds of its children holds of all of them. -/
@[elab_as_elim]
theorem Parsed.induction {motive : (t : SyntaxTree) → t.Parsed text → Prop}
    (node : ∀ (t : SyntaxTree) (h : t.Parsed text), (∀ c (hc : c ∈ t.children), motive c (h.child hc)) → motive t h)
    {t : SyntaxTree} (h : t.Parsed text) : motive t h := by
  induction h with
  | intro span starts stops inside apart children ih => exact node _ (.intro span starts stops inside apart children) ih

/-- Bytes in order have offsets in order. -/
theorem place_le {a b : Nat} (ha : Source.IsBoundary text a) (hb : Source.IsBoundary text b) (hab : a ≤ b) :
    place text a ≤ place text b :=
  Int.ofNat_le.mpr (Source.offsetOfByte_le ha hb hab)

theorem place_lt {a b : Nat} (ha : Source.IsBoundary text a) (hb : Source.IsBoundary text b) (hab : a < b) :
    place text a < place text b :=
  Int.ofNat_lt.mpr (Source.offsetOfByte_lt ha hb hab)

theorem Parsed.place_le (h : t.Parsed text) : place text t.startByte ≤ place text t.stopByte := by
  cases h with
  | intro span starts stops inside apart children => exact SyntaxTree.place_le starts stops span

theorem Parsed.place_inside (h : t.Parsed text) (hc : c ∈ t.children) :
    place text t.startByte ≤ place text c.startByte ∧ place text c.stopByte ≤ place text t.stopByte := by
  have hinside := h.inside hc
  have hchild := h.child hc
  exact ⟨SyntaxTree.place_le h.starts hchild.starts hinside.1,
    SyntaxTree.place_le hchild.stops h.stops hinside.2⟩

theorem mem_of_child? (h : t.child? role = some c) : c ∈ t.children := List.mem_of_find?_eq_some h

/-! ### Deciding -/

mutual

/-- Whether a tree is the tree of a parsed text. -/
def isParsed (text : List Char) : SyntaxTree → Bool
  | ⟨_, _, _, start, stop, children⟩ =>
    decide (start ≤ stop ∧ Source.IsBoundary text start ∧ Source.IsBoundary text stop ∧
      (∀ c ∈ children, start ≤ c.startByte ∧ c.stopByte ≤ stop) ∧
      children.Pairwise fun a b => a.stopByte ≤ b.startByte) && areParsed text children

/-- Whether all of several trees are. -/
def areParsed (text : List Char) : List SyntaxTree → Bool
  | [] => true
  | t :: rest => isParsed text t && areParsed text rest

end

mutual

theorem isParsed_iff : ∀ t : SyntaxTree, isParsed text t = true ↔ t.Parsed text
  | ⟨_, _, _, start, stop, children⟩ => by
    rw [isParsed, Bool.and_eq_true, decide_eq_true_iff, areParsed_iff children]
    -- The conditions on the node itself, and those on its children.
    constructor
    · rintro ⟨⟨span, starts, stops, inside, apart⟩, hchildren⟩
      exact .intro span starts stops inside apart hchildren
    · intro h
      cases h with
      | intro span starts stops inside apart hchildren =>
        exact ⟨⟨span, starts, stops, inside, apart⟩, hchildren⟩

theorem areParsed_iff : ∀ trees : List SyntaxTree, areParsed text trees = true ↔ ∀ t ∈ trees, t.Parsed text
  | [] => by simp [areParsed]
  | t :: rest => by
    rw [areParsed, Bool.and_eq_true, isParsed_iff t, areParsed_iff rest, List.forall_mem_cons]

end

instance (text : List Char) : DecidablePred (Parsed text) := fun t => decidable_of_iff _ (isParsed_iff t)

/-! ### Names take room -/

/-- A node whose text is not empty is not empty. -/
theorem lt_of_textIn (h : t.textIn source ≠ "") : t.startByte < t.stopByte := by
  by_contra hnot
  refine h ?_
  rw [textIn, Source.between, Nat.sub_eq_zero_of_le (Nat.le_of_not_lt hnot)]
  rfl

/-- A node with a child that is not empty is not empty. -/
theorem Parsed.lt_of_child? (h : t.Parsed text) (hc : t.child? role = some c) (hlt : c.startByte < c.stopByte) :
    t.startByte < t.stopByte := by
  have hinside := h.inside (mem_of_child? hc)
  omega

theorem Parsed.lt_of_declaratorName (h : t.Parsed text) (hname : t.declaratorName source ≠ "") :
    t.startByte < t.stopByte := by
  -- The name is searched for down the declarators, and the node that has it takes room.
  induction t using declaratorName.induct with
  | case1 t hkind =>
    rw [declaratorName, if_pos hkind] at hname
    exact lt_of_textIn hname
  | case2 t hkind c hc =>
    rw [declaratorName, if_neg hkind, hc] at hname
    exact h.lt_of_child? hc (lt_of_textIn hname)
  | case3 t hkind hnone c hc ih =>
    rw [declaratorName, if_neg hkind, hnone] at hname
    simp only at hname
    split at hname
    · rename_i d hd
      obtain rfl : c = d := Option.some.inj (hc.symm.trans hd)
      exact h.lt_of_child? hc (ih (h.child (mem_of_child? hc)) hname)
    · exact absurd rfl hname
  | case4 t hkind hnone hc =>
    rw [declaratorName, if_neg hkind, hnone] at hname
    simp only at hname
    split at hname
    · rename_i d hd
      simp [hc] at hd
    · exact absurd rfl hname

theorem Parsed.lt_of_nameIn (h : t.Parsed text) (hname : t.nameIn source ≠ "") : t.startByte < t.stopByte := by
  -- The name is the text of a child, directly or down the declarators, and that child takes room.
  unfold nameIn at hname
  split at hname
  · rename_i c hc
    exact h.lt_of_child? hc (lt_of_textIn hname)
  · split at hname
    · rename_i c hc
      exact h.lt_of_child? hc (lt_of_textIn hname)
    · split at hname
      · rename_i c hc
        exact h.lt_of_child? hc ((h.child (mem_of_child? hc)).lt_of_declaratorName hname)
      · exact absurd rfl hname

end SyntaxTree

end Emend
