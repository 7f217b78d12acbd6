import Mathlib
import Emend.Pattern.Compile
import Emend.Pattern.Escape

/-!
# Escaped texts are read as their characters

The reader takes the source that a text is escaped to for the characters of the text, one item for each
(`read_escaped`), whatever the characters are. With the options worked in, these items match the text where it
stands and nothing else (`exists_compile_escaped`).

Main statements:

* `escape_run`, `sequence_step`, `sequence_run`: the reader takes an escaped character for the character.
* `read_escaped`: and an escaped text for the text.
* `Spells.seq`, `exists_resolveAll`, `exists_compile_escaped`: what is compiled from it matches the text and nothing
  else.
-/

namespace Emend.Pattern

open Reading

/-! ## One token -/

theorem ne_backslash_of_not_isSpecial {c : Char} (h : isSpecial c = false) : c ≠ '\\' := by
  rintro rfl
  exact absurd h (by decide)

/-- Outside of the special characters, all stand for themselves. -/
theorem ordinary_of_not_isSpecial {c : Char} (h : isSpecial c = false) :
    isOrdinary c = true ∧ c ≠ '|' ∧ c ≠ ')' := by
  simp [isSpecial] at h
  simp [isOrdinary, h]

/-- No backslash stands alone, so the reader never stops at one. -/
theorem escaped_ne_backslash (text : List Char) : escaped text ≠ ['\\'] := by
  rcases text with _ | ⟨c, text⟩
  · simp
  · rw [escaped_cons]
    by_cases hc : isSpecial c
    · simp [hc]
    · have hne := ne_backslash_of_not_isSpecial (Bool.eq_false_iff.mpr hc)
      simp [hc, hne]

/-- The token that a character of an escaped text is. -/
def tokenOf (c : Char) : Token := if isSpecial c then .escaped c else .plain c

variable {s t : Scan} {c : Char} {text : List Char}

/-- The reader goes on from where a step has left it. -/
theorem run_bind_of_ok {α β : Type} {step : Reading α} {next : α → Reading β} {a : α}
    (h : step.run s = .ok (a, t)) : (step >>= next).run s = (next a).run t := by
  rw [StateT.run_bind, h]
  rfl

theorem peek_run (h : s.rest = escaped (c :: text)) : peek.run s = .ok (some (tokenOf c), s) := by
  rw [escaped_cons] at h
  by_cases hc : isSpecial c
  · simp [peek, tokenOf, hc, h]
    rfl
  · have hne := ne_backslash_of_not_isSpecial (Bool.eq_false_iff.mpr hc)
    simp [peek, tokenOf, hc, h, hne]
    rfl

theorem goTo_run (s : Scan) (text : List Char) :
    (goTo (escaped text)).run s = .ok ((), { s with rest := escaped text }) := by
  have hne : (escaped text == ['\\']) = false := beq_eq_false_iff_ne.mpr (escaped_ne_backslash text)
  simp [goTo, hne]
  rfl

theorem take_run (h : s.rest = escaped (c :: text)) :
    take.run s = .ok (some (tokenOf c), { s with rest := escaped text }) := by
  rw [escaped_cons] at h
  by_cases hc : isSpecial c
  · simp [take, tokenOf, hc, h, goTo_run]
  · have hne := ne_backslash_of_not_isSpecial (Bool.eq_false_iff.mpr hc)
    simp [take, tokenOf, hc, h, hne, goTo_run]

theorem discard_take_run (h : s.rest = escaped (c :: text)) :
    (discard take).run s = .ok ((), { s with rest := escaped text }) := by
  have hmap : discard take = (fun _ => ()) <$> take := rfl
  rw [hmap, StateT.run_map, take_run h]
  rfl

theorem tell_run (s : Scan) : tell.run s = .ok (s.length - s.rest.length, s) := rfl

/-- A special character behind a backslash is itself: none of them opens a class, an anchor or a number. -/
theorem escape_run (s : Scan) (h : isSpecial c = true) : (escape c).run s = .ok (.char c.toNat, s) := by
  have hmem := List.contains_iff_mem.mp h
  simp only [List.mem_cons, List.not_mem_nil, or_false] at hmem
  rcases hmem with rfl | rfl | rfl | rfl | rfl | rfl | rfl | rfl | rfl | rfl | rfl | rfl | rfl | rfl | rfl | rfl |
    rfl | rfl | rfl | rfl | rfl | rfl | rfl | rfl <;> rfl

/-! ## A whole text -/

/-- One character is read as one item, whether it has a backslash in front or not. -/
theorem sequence_step (fuel : Nat) (first : Bool) (acc : List Item) (h : s.rest = escaped (c :: text)) :
    (sequence (fuel + 1) false first acc).run s
      = (sequence fuel false first (.char c.toNat :: acc)).run { s with rest := escaped text } := by
  rw [sequence, run_bind_of_ok (peek_run h), tokenOf]
  by_cases hc : isSpecial c = true
  · simp only [if_pos hc]
    rw [run_bind_of_ok (tell_run s), run_bind_of_ok (discard_take_run h), run_bind_of_ok (escape_run _ hc)]
  · obtain ⟨hordinary, hbar, hparenthesis⟩ := ordinary_of_not_isSpecial (Bool.eq_false_iff.mpr hc)
    rw [if_neg hc]
    -- neither a bar nor a parenthesis ends the sequence here
    split
    · simp_all
    · simp_all
    · simp_all
    · rename_i htoken
      obtain rfl := Option.some.inj htoken
      rw [run_bind_of_ok (tell_run s), run_bind_of_ok (discard_take_run h)]
      simp [hordinary]

theorem sequence_run {fuel : Nat} {acc : List Item} (hfuel : text.length < fuel) (first : Bool)
    (h : s.rest = escaped text) :
    (sequence fuel false first acc).run s
      = .ok (unpack (acc.reverse ++ text.map (.char ·.toNat)), { s with rest := [] }) := by
  -- Induction on the text, the items read so far free: each character is read as one item.
  induction text generalizing fuel acc s with
  | nil =>
    rcases fuel with _ | fuel
    · simp at hfuel
    · have hrest : s.rest = [] := h
      have hpeek : peek.run s = .ok (none, s) := by
        simp [peek, hrest]
        rfl
      rw [sequence, run_bind_of_ok hpeek, List.map_nil, List.append_nil, ← hrest]
      rfl
  | cons c text ih =>
    rcases fuel with _ | fuel
    · simp at hfuel
    · rw [sequence_step fuel first acc h, ih (Nat.lt_of_succ_lt_succ hfuel) rfl]
      simp

theorem alternatives_run {fuel : Nat} (hfuel : text.length < fuel) (h : s.rest = escaped text) :
    (alternatives (fuel + 1) false true []).run s
      = .ok (text.map (.char ·.toNat), { s with rest := [] }) := by
  have hunpack : unpack (text.map (.char ·.toNat)) = text.map (.char ·.toNat) := by
    rw [unpack, List.flatMap_map]
    exact List.map_eq_flatMap.symm
  have hitems : (sequence fuel false true []).run s = .ok (text.map (.char ·.toNat), { s with rest := [] }) := by
    rw [sequence_run hfuel true h, List.reverse_nil, List.nil_append, hunpack]
  have haccept : (accept '|').run { s with rest := [] } = .ok (false, { s with rest := [] }) := rfl
  rw [alternatives, List.isEmpty_nil, Bool.and_true, run_bind_of_ok hitems, run_bind_of_ok haccept]
  rfl

theorem length_le_length_escaped (text : List Char) : text.length ≤ (escaped text).length := by
  induction text with
  | nil => exact Nat.le_refl 0
  | cons c text ih =>
    rw [escaped_cons, List.length_append, List.length_cons]
    split
    · simp only [List.length_cons, List.length_nil]
      omega
    · simp only [List.length_cons, List.length_nil]
      omega

/-- An escaped text is read as its characters. -/
theorem read_escaped (text : List Char) :
    read (escaped text) = .ok ⟨text.map (.char ·.toNat), {}, #[none]⟩ := by
  let start : Scan := { rest := escaped text, length := (escaped text).length }
  have hfuel : text.length < 4 * (escaped text).length + 7 := by
    have := length_le_length_escaped text
    omega
  -- A source without alternatives is read as one sequence, and nothing is left of it.
  have hall : (readAll (escaped text).length).run start
      = .ok (text.map (.char ·.toNat), { start with rest := [] }) := by
    have hget : (get : Reading Scan).run start = .ok (start, start) := rfl
    have hgoTo : (goTo start.rest).run start = .ok ((), start) := goTo_run start text
    rw [readAll, run_bind_of_ok hget, run_bind_of_ok hgoTo, run_bind_of_ok (alternatives_run hfuel rfl)]
    rfl
  rw [read, hall]
  rfl

/-! ## Matching the text -/

/-- The node matches a text where it stands, and nothing else. -/
def Node.Spells (node : Node) (text : List Char) : Prop :=
  ∀ (content : Array Char) (s : Cursor) (rest : Rest), node.run content s rest =
    if text <+: content.toList.drop s.pos then rest { s with pos := s.pos + text.length } else none

namespace Node

theorem spells_empty : empty.Spells [] := by
  intro content s rest
  rw [if_pos List.nil_prefix]
  rfl

theorem spells_one {accepts : Char → Bool} (c : Char) (h : ∀ d, accepts d = true ↔ d = c) :
    (one accepts).Spells [c] := by
  intro content s rest
  simp only [run]
  -- At the end of the text there is nothing to test, and elsewhere the next character decides.
  rcases hd : content[s.pos]? with _ | d
  · have hdrop : content.toList.drop s.pos = [] := by
      rw [List.drop_eq_nil_iff]
      simpa using hd
    simp [hdrop]
  · obtain ⟨hlt, hget⟩ := Array.getElem?_eq_some_iff.mp hd
    have hdrop : content.toList.drop s.pos = d :: content.toList.drop (s.pos + 1) := by
      rw [List.drop_eq_getElem_cons (by simpa using hlt), Array.getElem_toList, hget]
    by_cases hdc : d = c
    · subst hdc
      simp [hdrop, (h d).mpr rfl]
    · have hrefused : accepts d = false := Bool.eq_false_iff.mpr (mt (h d).mp hdc)
      simp [hdrop, hrefused, Ne.symm hdc]

/-- One text behind the other. -/
theorem Spells.seq {a b : Node} {s t : List Char} (ha : a.Spells s) (hb : b.Spells t) :
    (seq a b).Spells (s ++ t) := by
  intro content cursor rest
  simp only [run, ha content cursor]
  -- If the first text stands there, what follows it decides, else neither of the two does.
  by_cases hs : s <+: content.toList.drop cursor.pos
  · obtain ⟨more, hmore⟩ := hs
    have hdrop : content.toList.drop (cursor.pos + s.length) = more := by
      rw [← List.drop_drop, ← hmore, List.drop_left]
    rw [if_pos ⟨more, hmore⟩, hb, hdrop, ← hmore]
    simp only [List.prefix_append_right_inj, List.length_append, Nat.add_assoc]
  · have hst : ¬ s ++ t <+: content.toList.drop cursor.pos :=
      fun h => hs ((List.prefix_append s t).trans h)
    rw [if_neg hs, if_neg hst]

end Node

theorem letterTest_eq_true_iff (c d : Char) : letterTest {} c.toNat d = true ↔ d = c := by
  simp [letterTest, Char.toNat_inj]

/-- The characters of a text, with no options, make a node that spells it. -/
theorem exists_resolveAll (groups : GroupWidths) (text : List Char) :
    ∃ node, resolveAll groups {} (text.map (.char ·.toNat)) = .ok node ∧ node.Spells text := by
  -- Induction on the text. The last item stands alone and the others are put in sequence.
  induction text with
  | nil => exact ⟨.empty, by simp [resolveAll], Node.spells_empty⟩
  | cons c text ih =>
    have hone := Node.spells_one c (letterTest_eq_true_iff c)
    rcases text with _ | ⟨d, text⟩
    · exact ⟨_, by simp [resolveAll, Item.resolve], hone⟩
    · obtain ⟨node, hnode, hspells⟩ := ih
      refine ⟨.seq _ node, ?_, hone.seq hspells⟩
      rw [List.map_cons] at hnode
      rw [List.map_cons, List.map_cons, resolveAll, hnode]
      · rfl
      · simp

/-- Every escaped text can be searched for, and what is found is the text. -/
theorem exists_compile_escaped (text : List Char) :
    ∃ node, compile (escaped text) = .ok node ∧ node.Spells text := by
  obtain ⟨node, hnode, hspells⟩ := exists_resolveAll #[none] text
  refine ⟨node, ?_, hspells⟩
  rw [compile, read_escaped]
  exact hnode

end Emend.Pattern
