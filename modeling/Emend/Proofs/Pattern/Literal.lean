import Emend.Proofs.Attempt
import Emend.Proofs.Pattern.Escape
import Emend.Proofs.Pattern.Scan

/-!
# Searching for a text

A text that is not empty is found where plain search finds it: each occurrence is the first one that starts at the
end of the one before or behind it (`occurrenceFrom`). The way through a pattern and its matcher makes no difference
(`Needle.findNth_literal`).

Main statements:

* `firstFrom_eq_some`, `firstFrom_eq_none`: the first place of a text from a start on.
* `Node.Spells.search_eq`: searching for a node that spells the text.
* `findNth_eq_spans`, `findNth_literal`: the numbered occurrence of a pattern, and of a text.
-/

namespace Emend.Pattern

variable {node : Node} {text content : List Char} {start a : Nat} {moving : Bool} {found : List (Nat × Cursor)}

/-! ## Plain search -/

/-- The first place from `start` on where the text stands. -/
def firstFrom (text content : List Char) (start : Nat) : Option Nat :=
  (List.range' start (content.length + 1 - start)).find? fun a => text.isPrefixOf (content.drop a)

/-- The occurrence after `skip` others, from a place on. Each is searched for from the end of the one before. -/
def occurrenceFrom (text content : List Char) : Nat → Nat → Option (Nat × Nat)
  | 0, start => (firstFrom text content start).map fun a => (a, a + text.length)
  | skip + 1, start => (firstFrom text content start).bind fun a => occurrenceFrom text content skip (a + text.length)

theorem isPrefixOf_drop_iff (text content : List Char) (a : Nat) :
    text.isPrefixOf (content.drop a) = true ↔ text <+: content.drop a := List.isPrefixOf_iff_prefix

/-- The place that is found is the first one where the text stands. -/
theorem firstFrom_eq_some (h : firstFrom text content start = some a) :
    start ≤ a ∧ text <+: content.drop a ∧ ∀ b, start ≤ b → b < a → ¬ text <+: content.drop b := by
  obtain ⟨hstands, hmem, hnone⟩ := List.find?_range'_eq_some.mp h
  refine ⟨(List.mem_range'_1.mp hmem).1, (isPrefixOf_drop_iff text content a).mp hstands, ?_⟩
  intro b hb hlt hstandsb
  have hrefused := hnone b hb hlt
  rw [(isPrefixOf_drop_iff text content b).mpr hstandsb] at hrefused
  exact absurd hrefused (by simp)

/-- Where no place is found, the text stands at none. -/
theorem firstFrom_eq_none (hne : text ≠ []) (h : firstFrom text content start = none) :
    ∀ b, start ≤ b → ¬ text <+: content.drop b := by
  intro b hb hstands
  have hlength := hstands.length_le
  have hpos := List.length_pos_of_ne_nil hne
  rw [List.length_drop] at hlength
  have hrefused := List.find?_range'_eq_none.mp h b hb (by omega)
  rw [(isPrefixOf_drop_iff text content b).mpr hstands] at hrefused
  exact absurd hrefused (by simp)

/-! ## Search by a pattern -/

/-- Where the text stands, it is matched, and nothing else is. -/
theorem Node.Spells.matchAt_eq (h : node.Spells text) (hne : text ≠ []) (content : List Char) (start : Nat)
    (moving : Bool) : matchAt node content.toArray start moving
      = if text.isPrefixOf (content.drop start) then some ⟨start + text.length, []⟩ else none := by
  have hpos := List.length_pos_of_ne_nil hne
  -- a text with a character in it always moves on
  have hmoves : (start + text.length == start) = false := beq_eq_false_iff_ne.mpr (by omega)
  rw [matchAt, h]
  simp only [isPrefixOf_drop_iff, hmoves, Bool.and_false]
  rfl

theorem Node.Spells.searchFrom_eq (h : node.Spells text) (hne : text ≠ []) (content : List Char)
    (start room : Nat) (moving : Bool) : searchFrom node content.toArray start moving room
      = ((List.range' start (room + 1)).find? fun a => text.isPrefixOf (content.drop a)).map
          fun a => (a, ⟨a + text.length, []⟩) := by
  -- Induction on the room: both searches try the same places in the same order.
  induction room generalizing start moving with
  | zero =>
    rw [searchFrom, h.matchAt_eq hne, List.range'_one, List.find?_singleton]
    split <;> rfl
  | succ room ih =>
    rw [searchFrom, h.matchAt_eq hne, List.range'_succ, List.find?_cons]
    by_cases hstands : text.isPrefixOf (content.drop start)
    · simp [hstands]
    · simp only [hstands, Bool.false_eq_true, if_false]
      exact ih (start + 1) false

theorem Node.Spells.search_eq (h : node.Spells text) (hne : text ≠ []) (hstart : start ≤ content.length)
    (moving : Bool) : search node content.toArray start moving
      = (firstFrom text content start).map fun a => (a, ⟨a + text.length, []⟩) := by
  have hroom : content.length - start + 1 = content.length + 1 - start := by omega
  rw [search, h.searchFrom_eq hne, firstFrom, List.size_toArray, hroom]

/-- A match of the text ends as many characters behind its start as the text has. -/
theorem Node.Spells.search_eq_some {s : Cursor} (h : node.Spells text) (hne : text ≠ [])
    (hstart : start ≤ content.length) (hsearch : search node content.toArray start moving = some (a, s)) :
    firstFrom text content start = some a ∧ s.pos = a + text.length := by
  rw [h.search_eq hne hstart] at hsearch
  obtain ⟨b, hfirst, hsame⟩ := Option.map_eq_some_iff.mp hsearch
  obtain ⟨rfl, rfl⟩ := Prod.mk.inj hsame
  exact ⟨hfirst, rfl⟩

/-- The matches of a pattern for the text are its occurrences. -/
theorem Scans.getElem?_eq_occurrenceFrom (h : node.Spells text) (hne : text ≠ [])
    (hscan : Scans node content.toArray start moving found) (hstart : start ≤ content.length) (skip : Nat) :
    (found.map spanOf)[skip]? = occurrenceFrom text content skip start := by
  -- Induction on the scan, the number of the occurrence free: the matches are the occurrences, one by one.
  induction hscan generalizing skip with
  | done hsearch =>
    rw [h.search_eq hne hstart, Option.map_eq_none_iff] at hsearch
    cases skip with
    | zero => simp [occurrenceFrom, hsearch]
    | succ skip => simp [occurrenceFrom, hsearch]
  | @next start a moving s rest hsearch more ih =>
    obtain ⟨hfirst, hend⟩ := h.search_eq_some hne hstart hsearch
    have hinside := (found_of_search (by simpa using hstart) hsearch).inside
    rw [List.size_toArray] at hinside
    cases skip with
    | zero => simp [occurrenceFrom, hfirst, spanOf, hend]
    | succ skip =>
      rw [List.map_cons, List.getElem?_cons_succ, ih hinside skip, occurrenceFrom, hfirst, Option.bind_some, hend]

/-! ## Needles -/

namespace Needle

theorem node_of_compile {needle : Needle} (h : compile needle.source = .ok node) : needle.node = .ok node := by
  rw [Needle.node, h]
  rfl

/-- The occurrences of a needle are numbered as its matches are. -/
theorem findNth_eq_spans {needle : Needle} (hnode : needle.node = .ok node) (content : List Char) (n : Int) :
    needle.findNth content n = .ok (if n < 1 then none else (spans node content)[(n - 1).toNat]?) := by
  unfold Needle.findNth
  by_cases hn : n < 1
  · rw [if_pos hn, if_pos hn]
  · rw [if_neg hn, if_neg hn]
    refine Attempt.bind_eq_ok.mpr ⟨node, hnode, ?_⟩
    rw [Attempt.pure_eq_ok, Pattern.findNth_eq, if_neg hn]

/-- A text is always looked for by a node that spells it. -/
theorem exists_node_literal (text : List Char) : ∃ node, (literal text).node = .ok node ∧ node.Spells text := by
  obtain ⟨node, hcompile, hspells⟩ := exists_compile_escaped text
  exact ⟨node, node_of_compile hcompile, hspells⟩

/-- A text that is not empty is always searched for without a failure. The `n`-th occurrence is found where plain
search finds it, and none where there are fewer or `n` is below one. -/
theorem findNth_literal (hne : text ≠ []) (content : List Char) (n : Int) :
    (literal text).findNth content n
      = .ok (if n < 1 then none else occurrenceFrom text content (n - 1).toNat 0) := by
  obtain ⟨node, hnode, hspells⟩ := exists_node_literal text
  have hscan := scans_allMatches node content
  rw [findNth_eq_spans hnode, spans, hscan.getElem?_eq_occurrenceFrom hspells hne (Nat.zero_le _)]

/-- Signs that would mean something in a pattern are found as they stand, and occurrences do not overlap. -/
theorem findNth_literal_stars :
    ['*', '*'] ≠ [] ∧
    (literal ['*', '*']).findNth ['a', '*', '*', '*', '\n', '*', '*'] 2 = .ok (some (5, 7)) ∧
    (literal ['*', '*']).findNth ['a', '*', '*', '*', '\n', '*', '*'] 3 = .ok none := by
  refine ⟨by decide, ?_, ?_⟩
  · rw [findNth_literal (by decide), Except.ok.injEq]
    decide
  · rw [findNth_literal (by decide), Except.ok.injEq]
    decide

end Needle

end Emend.Pattern
