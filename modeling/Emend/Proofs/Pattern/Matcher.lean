import Mathlib
import Emend.Pattern.Matcher

/-!
# Matches lie in the text

Whatever a node matches, what follows it goes on from a place that is not before the start of the node, and
inside of the text (`advances_run`). So a match does not end before it starts, and it ends inside of the text
(`le_of_matchAt`).

Main statements:

* `Advances.alone`, `le_of_sameText`: the nodes that match without going on from others.
* `advances_run`: every node advances, by induction over its structure.
* `le_of_matchAt`: a match does not end before it starts, and ends inside of the text.
-/

namespace Emend.Pattern

variable {text : Array Char} {rest : Rest} {s t u : Cursor} {step : Step}

/-! ## Going on -/

/-- The rest succeeded from a place at or behind a place, inside of the text. -/
def Reaches (text : Array Char) (rest : Rest) (s t : Cursor) : Prop :=
  ∃ u : Cursor, s.pos ≤ u.pos ∧ u.pos ≤ text.size ∧ rest u = some t

theorem Reaches.of_place (hplace : s.pos ≤ u.pos) (hu : u.pos ≤ text.size) (h : rest u = some t) :
    Reaches text rest s t := ⟨u, hplace, hu, h⟩

theorem Reaches.of_later (hplace : s.pos ≤ u.pos) (h : Reaches text rest u t) :
    Reaches text rest s t := by
  obtain ⟨v, huv, hv, hrest⟩ := h
  exact ⟨v, hplace.trans huv, hv, hrest⟩

/-- A step never goes back, and never leaves the text. -/
def Advances (text : Array Char) (step : Step) : Prop :=
  ∀ (s : Cursor) (rest : Rest) (t : Cursor), s.pos ≤ text.size → step s rest = some t →
    Reaches text rest s t

/-- By itself, a step ends at or behind its start. -/
theorem Advances.alone (hstep : Advances text step) (hs : s.pos ≤ text.size)
    (h : step s some = some t) : s.pos ≤ t.pos ∧ t.pos ≤ text.size := by
  obtain ⟨u, hplace, hu, hsame⟩ := hstep s some t hs h
  obtain rfl := Option.some.inj hsame
  exact ⟨hplace, hu⟩

/-! ## Repetitions of one character -/

theorem countWhile_le (text : Array Char) (accepts : Char → Bool) (limit pos : Nat) :
    countWhile text accepts limit pos ≤ limit := by
  -- on how many characters may still be counted, as the search goes on one character further
  induction limit generalizing pos with
  | zero => exact Nat.le_refl 0
  | succ limit ih =>
    unfold countWhile
    split
    · split
      · exact Nat.succ_le_succ (ih (pos + 1))
      · exact Nat.zero_le _
    · exact Nat.zero_le _

theorem reaches_of_longestFirst {least more : Nat} (hroom : s.pos + least + more ≤ text.size)
    (h : longestFirst s rest least more = some t) : Reaches text rest s t := by
  -- on how many characters more than the least are tried; `h` says which number was taken
  induction more with
  | zero => exact .of_place (Nat.le_add_right _ _) (by simpa using hroom) h
  | succ more ih =>
    rw [longestFirst, Option.orElse_eq_some] at h
    rcases h with hlong | ⟨-, hshort⟩
    · refine .of_place ?_ hroom hlong
      simp only
      omega
    · exact ih (by omega) hshort

theorem reaches_of_shortestFirst {least more : Nat} (hroom : s.pos + least + more ≤ text.size)
    (h : shortestFirst s rest least more = some t) : Reaches text rest s t := by
  -- the least number grows as fewer more are left, so that their sum stays in the text
  induction more generalizing least with
  | zero => exact .of_place (Nat.le_add_right _ _) (by simpa using hroom) h
  | succ more ih =>
    rw [shortestFirst, Option.orElse_eq_some] at h
    rcases h with hshort | ⟨-, hlong⟩
    · refine .of_place (Nat.le_add_right _ _) ?_ hshort
      simp only
      omega
    · exact ih (by omega) hlong

theorem advances_repeatOne (text : Array Char) (accepts : Char → Bool) (greed : Greed) (least : Nat)
    (most : Option Nat) : Advances text (repeatOne text accepts greed least most) := by
  intro s rest t hs h
  unfold repeatOne at h
  extract_lets room limit count at h
  have hlimit : limit ≤ room := by
    rcases most with _ | m
    · exact Nat.le_refl _
    · exact Nat.min_le_right m room
  -- the characters that are counted are in the text, and no number that is tried is greater
  have hcount : s.pos + count ≤ text.size := by
    have hle : count ≤ limit := countWhile_le text accepts limit s.pos
    omega
  split at h
  · simp at h
  · cases greed with
    | greedy => exact reaches_of_longestFirst (by omega) h
    | lazy => exact reaches_of_shortestFirst (by omega) h
    | possessive => exact .of_place (Nat.le_add_right _ _) hcount h

/-! ## Repetitions of a step -/

theorem reaches_of_repeatGreedy (hstep : Advances text step) {least : Nat} {most : Option Nat}
    {fuel count : Nat} {last : Option Nat} (hs : s.pos ≤ text.size)
    (h : repeatGreedy step least most rest fuel count last s = some t) : Reaches text rest s t := by
  induction fuel generalizing count last s with
  | zero => simp [repeatGreedy] at h
  | succ fuel ih =>
    -- one more round: the step advances, and the rounds after it do by induction
    have hagain : ∀ {last' : Option Nat},
        step s (repeatGreedy step least most rest fuel (count + 1) last') = some t →
          Reaches text rest s t := by
      intro last' h
      obtain ⟨u, hplace, hu, hrest⟩ := hstep s _ t hs h
      exact .of_later hplace (ih hu hrest)
    rw [repeatGreedy] at h
    split at h
    · exact hagain h
    -- enough rounds are made: another one is tried before what follows the node
    · split at h
      · rw [Option.orElse_eq_some] at h
        rcases h with hmore | ⟨-, hstop⟩
        · exact hagain hmore
        · exact .of_place (Nat.le_refl _) hs hstop
      · exact .of_place (Nat.le_refl _) hs h

theorem reaches_of_repeatLazy (hstep : Advances text step) {least : Nat} {most : Option Nat}
    {fuel count : Nat} {last : Option Nat} (hs : s.pos ≤ text.size)
    (h : repeatLazy step least most rest fuel count last s = some t) : Reaches text rest s t := by
  induction fuel generalizing count last s with
  | zero => simp [repeatLazy] at h
  | succ fuel ih =>
    -- one more round: the step advances, and the rounds after it do by induction
    have hagain : ∀ {last' : Option Nat},
        step s (repeatLazy step least most rest fuel (count + 1) last') = some t →
          Reaches text rest s t := by
      intro last' h
      obtain ⟨u, hplace, hu, hrest⟩ := hstep s _ t hs h
      exact .of_later hplace (ih hu hrest)
    rw [repeatLazy] at h
    split at h
    · exact hagain h
    -- enough rounds are made: what follows the node is tried before another one
    · rw [Option.orElse_eq_some] at h
      rcases h with hstop | ⟨-, hmore⟩
      · exact .of_place (Nat.le_refl _) hs hstop
      · split at hmore
        · exact hagain hmore
        · simp at hmore

theorem le_of_repeatAlone (hstep : Advances text step) {least : Nat} {most : Option Nat}
    {fuel count : Nat} {last : Option Nat} (hs : s.pos ≤ text.size)
    (h : repeatAlone step least most fuel count last s = some t) :
    s.pos ≤ t.pos ∧ t.pos ≤ text.size := by
  induction fuel generalizing count last s with
  | zero => simp [repeatAlone] at h
  | succ fuel ih =>
    -- the rounds are made without what follows the node, so each one ends by itself
    have hagain : ∀ {last' : Option Nat} {v : Cursor}, step s some = some v →
        repeatAlone step least most fuel (count + 1) last' v = some t →
          s.pos ≤ t.pos ∧ t.pos ≤ text.size := by
      intro last' v hv h
      obtain ⟨hplace, hin⟩ := hstep.alone hs hv
      obtain ⟨hfrom, hend⟩ := ih hin h
      exact ⟨hplace.trans hfrom, hend⟩
    rw [repeatAlone] at h
    split at h
    · rcases hv : step s some with _ | v
      · simp [hv] at h
      · rw [hv] at h
        exact hagain hv h
    · split at h
      · rcases hv : step s some with _ | v
        · rw [hv] at h
          obtain rfl := Option.some.inj h
          exact ⟨Nat.le_refl _, hs⟩
        · rw [hv] at h
          exact hagain hv h
      -- no round is left to make
      · obtain rfl := Option.some.inj h
        exact ⟨Nat.le_refl _, hs⟩

theorem advances_repeatStep (hstep : Advances text step) (greed : Greed) (least : Nat)
    (most : Option Nat) : Advances text (repeatStep text step greed least most) := by
  intro s rest t hs h
  unfold repeatStep at h
  cases greed with
  | greedy => exact reaches_of_repeatGreedy hstep hs h
  | lazy => exact reaches_of_repeatLazy hstep hs h
  -- the rounds are made first, and what follows starts where they end
  | possessive =>
    obtain ⟨u, hu, hrest⟩ := Option.bind_eq_some_iff.mp h
    obtain ⟨hplace, hin⟩ := le_of_repeatAlone hstep hs hu
    exact .of_place hplace hin hrest

/-! ## Nodes -/

/-- The text of a group that stands again ends inside of the text. -/
theorem le_of_sameText {fold : Char → Char} {start pos n : Nat} (hpos : pos ≤ text.size)
    (h : sameText text fold start pos n = true) : pos + n ≤ text.size := by
  -- on the number of characters that are compared
  induction n generalizing start pos with
  | zero => exact hpos
  | succ n ih =>
    unfold sameText at h
    rcases hb : text[pos]? with _ | b
    · rw [hb] at h
      split at h <;> simp_all
    · have hlt : pos < text.size := (Array.getElem?_eq_some_iff.mp hb).1
      rw [hb] at h
      split at h
      · have hnext : pos + 1 + n ≤ text.size := ih hlt (Bool.and_eq_true_iff.mp h).2
        omega
      · simp at h

/-- What follows a node goes on from a place that is not before the start of the node. -/
theorem advances_run (text : Array Char) (node : Node) : Advances text (node.run text) := by
  induction node with
  | empty =>
    intro s rest t hs h
    exact .of_place (Nat.le_refl _) hs h
  | one accepts =>
    intro s rest t hs h
    simp only [Node.run] at h
    rcases hc : text[s.pos]? with _ | c
    · simp [hc] at h
    · have hlt : s.pos < text.size := (Array.getElem?_eq_some_iff.mp hc).1
      simp only [hc] at h
      split at h
      · exact ⟨{ s with pos := s.pos + 1 }, Nat.le_succ _, hlt, h⟩
      · simp at h
  | place holds =>
    intro s rest t hs h
    simp only [Node.run] at h
    split at h
    · exact .of_place (Nat.le_refl _) hs h
    · simp at h
  | seq a b iha ihb =>
    intro s rest t hs h
    obtain ⟨u, hplace, hu, hrest⟩ := iha s _ t hs h
    exact .of_later hplace (ihb u rest t hu hrest)
  | alt a b iha ihb =>
    intro s rest t hs h
    simp only [Node.run, Option.orElse_eq_some] at h
    rcases h with hfirst | ⟨-, hsecond⟩
    · exact iha s rest t hs hfirst
    · exact ihb s rest t hs hsecond
  | repeated greed least most body ih =>
    -- a test of one character is repeated by counting
    by_cases hone : ∃ accepts, body = .one accepts
    · obtain ⟨accepts, rfl⟩ := hone
      exact advances_repeatOne text accepts greed least most
    · have hrun : (Node.repeated greed least most body).run text
          = repeatStep text (body.run text) greed least most :=
        Node.run.eq_7 text greed least most body fun accepts heq => hone ⟨accepts, heq⟩
      rw [hrun]
      exact advances_repeatStep ih greed least most
  | group i body ih =>
    intro s rest t hs h
    obtain ⟨u, hplace, hu, hrest⟩ := ih (s.mark (2 * i)) _ t hs h
    exact ⟨u.mark (2 * i + 1), hplace, hu, hrest⟩
  | atomic body ih =>
    intro s rest t hs h
    obtain ⟨u, hu, hrest⟩ := Option.bind_eq_some_iff.mp h
    obtain ⟨hplace, hin⟩ := ih.alone hs hu
    exact .of_place hplace hin hrest
  | look behind negated body ih =>
    -- whatever the body matches, the rest goes on from where it was
    intro s rest t hs h
    simp only [Node.run] at h
    split at h
    · split at h
      · exact .of_place (Nat.le_refl _) hs h
      · simp at h
    · split at h
      · rename_i u _
        exact ⟨{ u with pos := s.pos }, Nat.le_refl s.pos, hs, h⟩
      · exact .of_place (Nat.le_refl _) hs h
      · simp at h
  | backref g fold =>
    intro s rest t hs h
    simp only [Node.run] at h
    split at h
    · rename_i a b _
      split at h
      · rename_i hsame
        exact ⟨{ s with pos := s.pos + (b - a) }, Nat.le_add_right _ _, le_of_sameText hs hsame, h⟩
      · simp at h
    · simp at h
  | ifGroup g yes no ihyes ihno =>
    intro s rest t hs h
    simp only [Node.run] at h
    split at h
    · exact ihyes s rest t hs h
    · exact ihno s rest t hs h

/-- A match does not end before it starts, and it ends inside of the text. -/
theorem le_of_matchAt {node : Node} {start : Nat} {moving : Bool} (hstart : start ≤ text.size)
    (h : matchAt node text start moving = some s) : start ≤ s.pos ∧ s.pos ≤ text.size := by
  obtain ⟨u, hplace, hu, hrest⟩ := advances_run text node _ _ s hstart h
  simp only at hrest
  split at hrest
  · simp at hrest
  · obtain rfl := Option.some.inj hrest
    exact ⟨hplace, hu⟩

end Emend.Pattern
