import Emend.Proofs.Text.Lines

/-!
# Carriage returns and line feeds

A text in which every line feed stands behind a carriage return is one in which every line but the last ends in a
carriage return (`feedsHaveReturns_iff`). Such texts can be put together, and cut wherever no pair is cut in
two.
-/

namespace Emend.Text

variable {s t l : List Char} {ls : List (List Char)}

/-- Every line feed stands behind a carriage return. -/
structure FeedsHaveReturns (s : List Char) : Prop where
  head : s.head? ≠ some '\n'
  pairs : s.IsChain fun a b => b = '\n' → a = '\r'

/-- Every carriage return stands before a line feed. -/
structure ReturnsHaveFeeds (s : List Char) : Prop where
  last : s.getLast? ≠ some '\r'
  pairs : s.IsChain fun a b => a = '\r' → b = '\n'

namespace FeedsHaveReturns

theorem of_not_mem (h : '\n' ∉ s) : FeedsHaveReturns s := by
  constructor
  · intro hhead
    exact h (List.mem_of_mem_head? hhead)
  · refine List.Pairwise.isChain (List.pairwise_of_forall_mem_list ?_)
    intro a _ b hb hfeed
    exact absurd (hfeed ▸ hb) h

theorem append (hs : FeedsHaveReturns s) (ht : FeedsHaveReturns t) : FeedsHaveReturns (s ++ t) := by
  constructor
  · rw [List.head?_append]
    rcases hhead : s.head? with _ | c
    · exact ht.head
    · have hc := hs.head
      rw [hhead] at hc
      exact hc
  · refine List.isChain_append.mpr ⟨hs.pairs, ht.pairs, ?_⟩
    intro a _ b hb hfeed
    exact absurd (hfeed ▸ hb) ht.head

/-- What stands before a line feed ends in a return, and what stands behind it is a text of this kind again. -/
theorem append_feed_iff :
    FeedsHaveReturns (s ++ '\n' :: t) ↔
      FeedsHaveReturns s ∧ s.getLast? = some '\r' ∧ FeedsHaveReturns t := by
  constructor
  · rintro ⟨hhead, hpairs⟩
    obtain ⟨hs, ht, hmeet⟩ := List.isChain_append.mp hpairs
    rcases List.eq_nil_or_concat s with rfl | ⟨front, c, rfl⟩
    · simp at hhead
    · have hc : c = '\r' := hmeet c (by simp) '\n' rfl rfl
      refine ⟨⟨?_, hs⟩, by simp [hc], ?_, ht.tail⟩
      · rw [List.head?_append_of_ne_nil _ (by simp)] at hhead
        exact hhead
      · intro hfeed
        -- two line feeds in a row would leave the second one without a return
        rcases t with _ | ⟨b, t⟩
        · simp at hfeed
        · have hb : b = '\n' := by simpa using hfeed
          have habsurd := (List.isChain_cons_cons.mp ht).1 hb
          exact absurd habsurd (by decide)
  · rintro ⟨hs, hlast, ht⟩
    constructor
    · rw [List.head?_append_of_ne_nil _ (by rintro rfl; simp at hlast)]
      exact hs.head
    · refine List.isChain_append.mpr ⟨hs.pairs, List.isChain_cons.mpr ⟨?_, ht.pairs⟩, ?_⟩
      · intro b hb hfeed
        exact absurd (hfeed ▸ hb) ht.head
      · intro a ha b _ _
        exact (Option.some.inj (hlast.symm.trans ha)).symm

/-- A text can be cut in two where it does not part a line feed from its return. -/
theorem right_of_append (h : FeedsHaveReturns (s ++ t))
    (hcut : s.getLast? = some '\r' → t.head? ≠ some '\n') : FeedsHaveReturns t := by
  refine ⟨?_, h.pairs.right_of_append⟩
  intro hhead
  obtain ⟨rest, rfl⟩ := List.head?_eq_some_iff.mp hhead
  exact hcut (append_feed_iff.mp h).2.1 rfl

theorem take (h : FeedsHaveReturns s) (n : Nat) : FeedsHaveReturns (s.take n) := by
  refine ⟨?_, h.pairs.take n⟩
  intro hhead
  rw [List.head?_take] at hhead
  split at hhead
  · simp at hhead
  · exact h.head hhead

end FeedsHaveReturns

/-! ## Line by line -/

/-- Joined lines have a return before each line feed exactly if every line but the last ends in one. -/
theorem feedsHaveReturns_unlines (hls : ∀ l ∈ ls, '\n' ∉ l) :
    FeedsHaveReturns (unlines ls) ↔ ∀ l ∈ ls.dropLast, l.getLast? = some '\r' := by
  induction ls with
  | nil => simpa [unlines] using FeedsHaveReturns.of_not_mem (s := []) (by simp)
  | cons l ls ih =>
    rw [List.forall_mem_cons] at hls
    have hl : FeedsHaveReturns l := .of_not_mem hls.1
    rcases ls with _ | ⟨m, ls⟩
    · simpa [unlines] using hl
    · rw [unlines_cons_cons, FeedsHaveReturns.append_feed_iff, ih hls.2,
        List.dropLast_cons_of_ne_nil (List.cons_ne_nil m ls), List.forall_mem_cons]
      exact and_iff_right hl

theorem feedsHaveReturns_iff :
    FeedsHaveReturns s ↔ ∀ l ∈ (lines s).dropLast, l.getLast? = some '\r' := by
  have h := feedsHaveReturns_unlines (not_mem_of_mem_lines s)
  rwa [unlines_lines] at h

/-- In a line, only the last character can be a return that stands before a line feed. -/
theorem ReturnsHaveFeeds.not_mem_dropLast (h : ReturnsHaveFeeds s) (hl : l ∈ lines s) :
    '\r' ∉ l.dropLast := by
  have hpairs := h.pairs.infix (infix_of_mem_lines hl)
  have hfree := not_mem_of_mem_lines s l hl
  clear hl
  -- Induction on the line: a return inside of it would have its feed inside of it too.
  induction l with
  | nil => simp
  | cons a l ih =>
    rcases l with _ | ⟨b, l⟩
    · simp
    · rw [List.mem_cons, not_or] at hfree
      obtain ⟨hab, hrest⟩ := List.isChain_cons_cons.mp hpairs
      rw [List.dropLast_cons_of_ne_nil (List.cons_ne_nil b l), List.mem_cons, not_or]
      refine ⟨?_, ih hrest hfree.2⟩
      intro hreturn
      have hb : b = '\n' := hab hreturn.symm
      exact hfree.2 (hb ▸ List.mem_cons_self)

end Emend.Text
