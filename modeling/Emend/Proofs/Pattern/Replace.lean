import Emend.Proofs.Pattern.Literal

/-!
# Matches replaced

A text with new texts in the place of some of its matches, which are numbered as they stand in the text
(`substituted`). Where all occurrences of a text get one new text, this is what replacing the text from left to right
gives, without any matches (`substituted_eq_replaceAll`).
-/

namespace Emend.Pattern

variable {node : Node} {old new content : List Char} {start a : Nat} {moving : Bool} {found : List (Nat × Cursor)}

/-- The text from the place `o` on, with the matches in it counted from `number`. A match that has a new text is given
up for it, and any other stays as it is. -/
def substituted (text : List Char) (newText : Int → Option (List Char)) : Nat → Nat → List (Nat × Nat) → List Char
  | o, _, [] => text.drop o
  | o, number, (a, b) :: rest =>
    (text.drop o).take (a - o) ++ (newText number).getD ((text.drop a).take (b - a))
      ++ substituted text newText b (number + 1) rest

/-- Only the new texts of matches that there are count. -/
theorem substituted_congr {text : List Char} {f g : Int → Option (List Char)} {o number : Nat}
    {spans : List (Nat × Nat)} (h : ∀ k : Nat, number ≤ k → k < number + spans.length → f k = g k) :
    substituted text f o number spans = substituted text g o number spans := by
  induction spans generalizing o number with
  | nil => rfl
  | cons x rest ih =>
    rw [List.length_cons] at h
    rw [substituted, substituted, h number (Nat.le_refl _) (by omega), ih fun k hk hk' => h k (by omega) (by omega)]

/-! ## Without matches -/

/-- The text with all occurrences of `old` replaced, the next `skip` characters left out. -/
def replaceFrom (old new : List Char) : Nat → List Char → List Char
  | _, [] => []
  | skip + 1, _ :: rest => replaceFrom old new skip rest
  | 0, c :: rest =>
    if old.isPrefixOf (c :: rest) then new ++ replaceFrom old new (old.length - 1) rest
    else c :: replaceFrom old new 0 rest

/-- The text with all occurrences of `old` replaced, from left to right. -/
def replaceAll (old new text : List Char) : List Char := replaceFrom old new 0 text

theorem replaceFrom_eq_drop (old new : List Char) (skip : Nat) (text : List Char) :
    replaceFrom old new skip text = replaceFrom old new 0 (text.drop skip) := by
  induction text generalizing skip with
  | nil => simp [replaceFrom]
  | cons c rest ih =>
    rcases skip with _ | skip
    · rfl
    · rw [replaceFrom, ih skip, List.drop_succ_cons]

/-- An occurrence is given up for the new text. -/
theorem replaceFrom_occurrence (new : List Char) (hne : old ≠ []) (h : old <+: content.drop a) :
    replaceFrom old new 0 (content.drop a) = new ++ replaceFrom old new 0 (content.drop (a + old.length)) := by
  obtain ⟨n, hlength⟩ := Nat.exists_eq_succ_of_ne_zero (mt List.length_eq_zero_iff.mp hne)
  rcases hrest : content.drop a with _ | ⟨c, rest⟩
  · rw [hrest] at h
    exact absurd (List.prefix_nil.mp h) hne
  · have hstands : old.isPrefixOf (c :: rest) = true := by
      rw [← hrest]
      exact (isPrefixOf_drop_iff old content a).mpr h
    have hbehind : content.drop (a + old.length) = rest.drop (old.length - 1) := by
      rw [← List.drop_drop, hrest, hlength, List.drop_succ_cons, Nat.succ_sub_one]
    rw [replaceFrom, if_pos hstands, replaceFrom_eq_drop, hbehind]

/-- Up to the next occurrence, the text is copied. -/
theorem replaceFrom_gap (new : List Char) (hstart : start ≤ a) (ha : a ≤ content.length)
    (h : ∀ b, start ≤ b → b < a → ¬ old <+: content.drop b) :
    replaceFrom old new 0 (content.drop start)
      = (content.drop start).take (a - start) ++ replaceFrom old new 0 (content.drop a) := by
  -- Induction on how far off the occurrence is: what stands before it is copied.
  induction hgap : a - start generalizing start with
  | zero =>
    obtain rfl : start = a := by omega
    rfl
  | succ gap ih =>
    have hlt : start < content.length := by omega
    have hrefused : old.isPrefixOf (content.drop start) = false := by
      rw [Bool.eq_false_iff, Ne, isPrefixOf_drop_iff]
      exact h start (Nat.le_refl _) (by omega)
    rw [List.drop_eq_getElem_cons hlt] at hrefused ⊢
    rw [replaceFrom, hrefused, if_neg Bool.false_ne_true, List.take_succ_cons, List.cons_append,
      ih (by omega) (fun b hb => h b (by omega)) (by omega)]

/-- With every match of a text replaced, the text is what replacing from left to right makes of it. -/
theorem Scans.replaceFrom_eq_substituted (hspells : node.Spells old) (hne : old ≠ [])
    (hscan : Scans node content.toArray start moving found) (hstart : start ≤ content.length)
    (new : List Char) (number : Nat) :
    replaceFrom old new 0 (content.drop start)
      = substituted content (fun _ => some new) start number (found.map spanOf) := by
  -- Induction on the scan: a gap, an occurrence, and so on; behind the last match everything is copied.
  induction hscan generalizing number with
  | @done start moving hsearch =>
    rw [hspells.search_eq hne hstart, Option.map_eq_none_iff] at hsearch
    have hgap := replaceFrom_gap new hstart (Nat.le_refl _) fun b hb _ => firstFrom_eq_none hne hsearch b hb
    rw [List.drop_length, replaceFrom, List.append_nil, List.take_of_length_le (by simp)] at hgap
    exact hgap
  | @next start a moving s rest hsearch more ih =>
    obtain ⟨hfirst, hend⟩ := hspells.search_eq_some hne hstart hsearch
    obtain ⟨hlater, hstands, hnone⟩ := firstFrom_eq_some hfirst
    have hfound := found_of_search (by simpa using hstart) hsearch
    have hinside : s.pos ≤ content.length := by simpa using hfound.inside
    have ha : a ≤ content.length := hfound.forward.trans hinside
    rw [replaceFrom_gap new hlater ha hnone, replaceFrom_occurrence new hne hstands, ← hend,
      ih hinside (number + 1), List.map_cons, spanOf, substituted, Option.getD_some, List.append_assoc]

/-- With one new text for all occurrences of a text, the text is replaced everywhere. -/
theorem substituted_eq_replaceAll {newText : Int → Option (List Char)} (hnode : (Needle.literal old).node = .ok node)
    (hne : old ≠ []) (hnew : ∀ k < (spans node content).length, newText (1 + k : Nat) = some new) :
    substituted content newText 0 1 (spans node content) = replaceAll old new content := by
  obtain ⟨other, hother, hspells⟩ := Needle.exists_node_literal old
  obtain rfl : node = other := Except.ok.inj (hnode.symm.trans hother)
  have hscan := scans_allMatches node content
  have hall := hscan.replaceFrom_eq_substituted hspells hne (Nat.zero_le _) new 1
  rw [replaceAll, ← List.drop_zero (l := content), hall, List.drop_zero]
  refine substituted_congr ?_
  intro k hk hk'
  obtain ⟨m, rfl⟩ := Nat.exists_eq_add_of_le hk
  exact hnew m (by omega)

end Emend.Pattern
