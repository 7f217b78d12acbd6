import Mathlib

/-!
# Looking up in lists of pairs

The first pair of a key is found whatever pairs of other keys are taken away (`lookup_filter_of_ne`) or put in
front (`lookup_cons_of_ne`).
-/

namespace Emend

variable {α β : Type} [BEq α] [LawfulBEq α] {entries : List (α × β)} {p q : α}

theorem lookup_cons_of_ne (value : β) (h : q ≠ p) :
    ((p, value) :: entries).lookup q = entries.lookup q := by
  have hq : (q == p) = false := beq_eq_false_iff_ne.mpr h
  rw [List.lookup_cons, hq]

theorem lookup_filter_of_ne (h : q ≠ p) :
    (entries.filter (·.1 != p)).lookup q = entries.lookup q := by
  induction entries with
  | nil => rfl
  | cons e rest ih =>
    obtain ⟨r, x⟩ := e
    by_cases hr : r = p
    · subst hr
      rw [lookup_cons_of_ne x h, List.filter_cons_of_neg (by simp), ih]
    · rw [List.filter_cons_of_pos (by simpa using hr), List.lookup_cons, List.lookup_cons, ih]

end Emend
