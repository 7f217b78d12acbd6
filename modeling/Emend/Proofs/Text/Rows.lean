import Mathlib
import Emend.Text.Lines

/-!
# The rows of a text on a display

No row has a break inside (`unbroken_of_mem`), the rows with their breaks are the text again (`flatten_full`), and what
stands up to a line feed has its rows for itself (`brokenLines_append_feed`).
-/

namespace Emend.Text

/-- No character of the text breaks a line. -/
def Unbroken (s : List Char) : Prop := ∀ c ∈ s, isLineBreak c = false

instance (s : List Char) : Decidable (Unbroken s) :=
  decidable_of_iff (s.all fun c => !isLineBreak c) (by simp [Unbroken])

theorem unbroken_nil : Unbroken [] := List.forall_mem_nil _

theorem unbroken_cons {c : Char} {s : List Char} : Unbroken (c :: s) ↔ isLineBreak c = false ∧ Unbroken s :=
  List.forall_mem_cons

theorem Unbroken.append {s t : List Char} (hs : Unbroken s) (ht : Unbroken t) : Unbroken (s ++ t) :=
  List.forall_mem_append.mpr ⟨hs, ht⟩

theorem Unbroken.forall_not {s : List Char} (hs : Unbroken s) : ∀ c ∈ s, (!isLineBreak c) = true := by
  intro c hc
  rw [hs c hc]
  rfl

theorem Unbroken.not_mem {c : Char} {s : List Char} (hs : Unbroken s) (hc : isLineBreak c = true) : c ∉ s := by
  intro hmem
  simp [hs c hmem] at hc

/-- The break at the end of a line: none, a carriage return with a line feed, or any other one alone. -/
def IsEnding (e : List Char) : Prop := e = [] ∨ e = ['\r', '\n'] ∨ ∃ c, isLineBreak c = true ∧ e = [c]

/-- A line up to its break. -/
theorem Unbroken.takeWhile_append {s e : List Char} (hs : Unbroken s) (he : IsEnding e) :
    (s ++ e).takeWhile (fun c => !isLineBreak c) = s := by
  have hend : e.takeWhile (fun c => !isLineBreak c) = [] := by
    rcases he with rfl | rfl | ⟨c, hc, rfl⟩
    · rfl
    · rfl
    · simp [hc]
  rw [List.takeWhile_append_of_pos hs.forall_not, hend, List.append_nil]

/-- What begins a text without a break in it begins the text up to its first break. -/
theorem Unbroken.prefix_takeWhile_iff {u s : List Char} (hu : Unbroken u) :
    u <+: s.takeWhile (fun c => !isLineBreak c) ↔ u <+: s := by
  constructor
  · intro h
    exact h.trans (List.takeWhile_prefix _)
  · rintro ⟨more, rfl⟩
    rw [List.takeWhile_append_of_pos hu.forall_not]
    exact List.prefix_append _ _

/-! ## One line after the other -/

theorem brokenLines_crlf (s : List Char) : brokenLines ('\r' :: '\n' :: s) = ⟨[], ['\r', '\n']⟩ :: brokenLines s := rfl

/-- A break that is no carriage return ends a line whatever follows. -/
theorem brokenLines_break {c : Char} (hc : isLineBreak c = true) (hreturn : c ≠ '\r') (s : List Char) :
    brokenLines (c :: s) = ⟨[], [c]⟩ :: brokenLines s := by
  rw [brokenLines.eq_3 c s (by rintro _ rfl _; exact hreturn rfl), if_pos hc]

theorem brokenLines_feed (s : List Char) : brokenLines ('\n' :: s) = ⟨[], ['\n']⟩ :: brokenLines s :=
  brokenLines_break (by decide) (by decide) s

/-- A carriage return that no line feed follows ends a line alone. -/
theorem brokenLines_return {s : List Char} (hs : ∀ t, s ≠ '\n' :: t) :
    brokenLines ('\r' :: s) = ⟨[], ['\r']⟩ :: brokenLines s := by
  rw [brokenLines.eq_3 '\r' s (by rintro t - rfl; exact hs t rfl), if_pos (by decide)]

/-- Any other character goes in front of the first line. -/
theorem brokenLines_cons {c : Char} (hc : isLineBreak c = false) (s : List Char) :
    brokenLines (c :: s) = BrokenLine.consFirst c (brokenLines s) := by
  have hreturn : ∀ t, c = '\r' → s = '\n' :: t → False := by
    rintro _ rfl _
    exact absurd hc (by decide)
  rw [brokenLines.eq_3 c s hreturn, hc]
  rfl

/-- A text without breaks goes in front of a line. -/
theorem brokenLines_append {s t : List Char} (hs : Unbroken s) {l : BrokenLine} {more : List BrokenLine}
    (ht : brokenLines t = l :: more) : brokenLines (s ++ t) = { l with body := s ++ l.body } :: more := by
  induction s with
  | nil => exact ht
  | cons c s ih =>
    rw [unbroken_cons] at hs
    rw [List.cons_append, brokenLines_cons hs.1, ih hs.2]
    rfl

/-- A text without breaks is one line, if it is not empty. -/
theorem brokenLines_of_unbroken {s : List Char} (hs : Unbroken s) (hne : s ≠ []) : brokenLines s = [⟨s, []⟩] := by
  obtain ⟨front, c, rfl⟩ := (List.eq_nil_or_concat' s).resolve_left hne
  have hc : isLineBreak c = false := hs c (by simp)
  have hlast : brokenLines [c] = [⟨[c], []⟩] := brokenLines_cons hc []
  exact brokenLines_append (fun d hd => hs d (List.mem_append_left _ hd)) hlast

/-! ## All lines -/

theorem full_consFirst (c : Char) (ls : List BrokenLine) :
    ((BrokenLine.consFirst c ls).map (·.full)).flatten = c :: (ls.map (·.full)).flatten := by
  rcases ls with _ | ⟨l, ls⟩
  · rfl
  · simp [BrokenLine.consFirst, BrokenLine.full]

/-- The lines with their breaks are the text. -/
theorem flatten_full (s : List Char) : ((brokenLines s).map (·.full)).flatten = s := by
  fun_induction brokenLines s with
  | case1 => rfl
  | case2 rest ih => rw [List.map_cons, List.flatten_cons, ih]; rfl
  | case3 c rest _ hc ih => rw [List.map_cons, List.flatten_cons, ih]; rfl
  | case4 c rest _ hc ih => rw [full_consFirst, ih]

/-- A line has no break but the one at its end. -/
theorem unbroken_of_mem {s : List Char} {l : BrokenLine} (h : l ∈ brokenLines s) :
    Unbroken l.body ∧ IsEnding l.ending := by
  -- The cases of cutting: no text, a break of two characters, one of one character, and a character of a row.
  fun_induction brokenLines s generalizing l with
  | case1 => simp at h
  | case2 rest ih =>
    rcases List.mem_cons.mp h with rfl | h
    · exact ⟨unbroken_nil, .inr (.inl rfl)⟩
    · exact ih h
  | case3 c rest _ hc ih =>
    rcases List.mem_cons.mp h with rfl | h
    · exact ⟨unbroken_nil, .inr (.inr ⟨c, hc, rfl⟩)⟩
    · exact ih h
  | case4 c rest _ hc ih =>
    rw [Bool.not_eq_true] at hc
    rcases hrest : brokenLines rest with _ | ⟨first, more⟩
    · rw [hrest, BrokenLine.consFirst, List.mem_singleton] at h
      subst h
      exact ⟨unbroken_cons.mpr ⟨hc, unbroken_nil⟩, .inl rfl⟩
    · rw [hrest] at h ih
      rcases List.mem_cons.mp h with rfl | h
      · have hfirst := ih List.mem_cons_self
        exact ⟨unbroken_cons.mpr ⟨hc, hfirst.1⟩, hfirst.2⟩
      · exact ih (List.mem_cons_of_mem _ h)

/-- What stands up to a line feed has its lines for itself. -/
theorem brokenLines_append_feed (s t : List Char) :
    brokenLines (s ++ '\n' :: t) = brokenLines (s ++ ['\n']) ++ brokenLines t := by
  fun_induction brokenLines s with
  | case1 => rw [List.nil_append, List.nil_append, brokenLines_feed, brokenLines_feed]; rfl
  | case2 rest ih => simp only [List.cons_append, brokenLines_crlf, ih]
  | case3 c rest hpair hc ih =>
    by_cases hreturn : c = '\r'
    · subst hreturn
      rcases rest with _ | ⟨d, rest⟩
      · -- the line feed belongs to the carriage return in front of it
        rfl
      · have hd : ∀ u v : List Char, d :: (rest ++ u) ≠ '\n' :: v := by
          rintro u v h
          obtain rfl := List.head_eq_of_cons_eq h
          exact hpair rest rfl rfl
        rw [List.cons_append, List.cons_append, List.cons_append, List.cons_append, brokenLines_return (hd _),
          brokenLines_return (hd _), ← List.cons_append, ← List.cons_append, ih]
        rfl
    · rw [List.cons_append, List.cons_append, brokenLines_break hc hreturn, brokenLines_break hc hreturn, ih,
        List.cons_append]
  | case4 c rest hpair hc ih =>
    rw [Bool.not_eq_true] at hc
    rw [List.cons_append, List.cons_append, brokenLines_cons hc, brokenLines_cons hc, ih]
    -- a line with the line feed is there to take the character
    rcases hrest : brokenLines (rest ++ ['\n']) with _ | ⟨first, more⟩
    · have hfull := flatten_full (rest ++ ['\n'])
      simp [hrest] at hfull
    · rfl

end Emend.Text
