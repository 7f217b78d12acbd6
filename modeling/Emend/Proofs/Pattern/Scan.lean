import Emend.Proofs.Pattern.Matcher

/-!
# The matches of a text, one after the other

The list of all matches ends only where no further match is found (`scans_allMatches`), and the `n`-th match is the
`n`-th of the list (`findNth_eq`). Of two matches, the second starts where the first ends or behind it, and no match
comes twice (`pairwise_spans`): where a match of nothing stands, only one that moves on can follow.

Main statements:

* `found_of_searchFrom`, `found_of_search`: what a search finds.
* `scans_matchesFrom`, `scans_allMatches`: the list of all matches.
* `findNth_eq`, `pairwise_spans`, `le_of_findNth`: the match with a number, and where it stands.
-/

namespace Emend.Pattern

variable {node : Node} {text : Array Char} {start a : Nat} {moving : Bool} {s : Cursor}
  {found : List (Nat × Cursor)}

/-! ## One match -/

/-- A match lies behind the place that the search starts from, and in the text. Where the search has to move, it
is not the match of nothing at its start. -/
structure Found (text : Array Char) (start : Nat) (moving : Bool) (a : Nat) (s : Cursor) : Prop where
  start_le : start ≤ a
  forward : a ≤ s.pos
  inside : s.pos ≤ text.size
  moves : moving = true → a = start → s.pos ≠ start

theorem found_of_matchAt (hstart : start ≤ text.size) (h : matchAt node text start moving = some s) :
    Found text start moving start s := by
  obtain ⟨hforward, hinside⟩ := le_of_matchAt hstart h
  refine ⟨Nat.le_refl start, hforward, hinside, ?_⟩
  intro hmoving _ hplace
  obtain ⟨u, -, -, hrest⟩ := advances_run text node _ _ s hstart h
  simp only at hrest
  split at hrest
  · simp at hrest
  · rename_i hallowed
    obtain rfl := Option.some.inj hrest
    simp [hmoving, hplace] at hallowed

theorem found_of_searchFrom {room : Nat} (hroom : start + room = text.size)
    (h : searchFrom node text start moving room = some (a, s)) : Found text start moving a s := by
  -- Induction on the room that is left: the match is here or further on.
  induction room generalizing start moving with
  | zero =>
    obtain ⟨u, hu, heq⟩ := Option.map_eq_some_iff.mp h
    obtain ⟨rfl, rfl⟩ := Prod.mk.inj heq
    exact found_of_matchAt (by omega) hu
  | succ room ih =>
    rw [searchFrom] at h
    split at h
    · rename_i u hu
      obtain ⟨rfl, rfl⟩ := Prod.mk.inj (Option.some.inj h)
      exact found_of_matchAt (by omega) hu
    · obtain ⟨hlater, hforward, hinside, -⟩ := ih (by omega) h
      refine ⟨by omega, hforward, hinside, ?_⟩
      intro _ hplace
      omega

theorem found_of_search (hstart : start ≤ text.size) (h : search node text start moving = some (a, s)) :
    Found text start moving a s :=
  found_of_searchFrom (Nat.add_sub_cancel' hstart) h

/-- What a search finds is a match at the place that it tells. -/
theorem exists_matchAt_of_searchFrom {room : Nat} (h : searchFrom node text start moving room = some (a, s)) :
    ∃ moved, matchAt node text a moved = some s := by
  -- The same induction; only the first place is asked for a match that moves on.
  induction room generalizing start moving with
  | zero =>
    obtain ⟨u, hu, heq⟩ := Option.map_eq_some_iff.mp h
    obtain ⟨rfl, rfl⟩ := Prod.mk.inj heq
    exact ⟨moving, hu⟩
  | succ room ih =>
    rw [searchFrom] at h
    split at h
    · rename_i u hu
      obtain ⟨rfl, rfl⟩ := Prod.mk.inj (Option.some.inj h)
      exact ⟨moving, hu⟩
    · exact ih h

/-! ## All matches -/

/-- The matches from a place on, up to the last one. Each is searched for from the end of the one before. -/
inductive Scans (node : Node) (text : Array Char) : Nat → Bool → List (Nat × Cursor) → Prop where
  | done {start : Nat} {moving : Bool} (h : search node text start moving = none) :
    Scans node text start moving []
  | next {start a : Nat} {moving : Bool} {s : Cursor} {rest : List (Nat × Cursor)}
    (h : search node text start moving = some (a, s)) (more : Scans node text s.pos (a == s.pos) rest) :
    Scans node text start moving ((a, s) :: rest)

/-- A bound on the number of matches from a place on: two for each place that is left, and one less where only a
match that moves counts. -/
def matchesLeft (text : Array Char) (start : Nat) (moving : Bool) : Nat :=
  2 * (text.size - start) + if moving then 1 else 2

/-- Behind a match, fewer matches are left. -/
theorem Found.matchesLeft_lt (h : Found text start moving a s) :
    matchesLeft text s.pos (a == s.pos) < matchesLeft text start moving := by
  obtain ⟨hstart, hforward, hinside, hmoves⟩ := h
  unfold matchesLeft
  rcases Nat.lt_or_ge start s.pos with hlater | hhere
  · -- the scan has moved, which is worth two matches
    split <;> split <;> omega
  · have ha : a = start := by omega
    have hs : s.pos = start := by omega
    cases moving with
    | true => exact absurd hs (hmoves rfl ha)
    | false => simp [ha, hs]

theorem scans_matchesFrom {fuel : Nat} (hstart : start ≤ text.size)
    (hfuel : matchesLeft text start moving ≤ fuel) :
    Scans node text start moving (matchesFrom node text fuel start moving) := by
  -- Induction on the fuel. Each match leaves fewer places to start from, so the fuel lasts.
  induction fuel generalizing start moving with
  | zero =>
    unfold matchesLeft at hfuel
    split at hfuel <;> omega
  | succ fuel ih =>
    rw [matchesFrom]
    rcases hsearch : search node text start moving with _ | ⟨a, s⟩
    · exact .done hsearch
    · have hfound := found_of_search hstart hsearch
      have hleft := hfound.matchesLeft_lt
      exact .next hsearch (ih hfound.inside (by omega))

/-- The list of all matches leaves none out. -/
theorem scans_allMatches (node : Node) (content : List Char) :
    Scans node content.toArray 0 false (allMatches node content) := by
  refine scans_matchesFrom (Nat.zero_le _) ?_
  simp [matchesLeft]

/-- Each of the matches that are listed is one. -/
theorem Scans.exists_matchAt (h : Scans node text start moving found) :
    ∀ m ∈ found, ∃ moved, matchAt node text m.1 moved = some m.2 := by
  induction h with
  | done => simp
  | next hsearch _ ih =>
    rw [List.forall_mem_cons]
    exact ⟨exists_matchAt_of_searchFrom hsearch, ih⟩

/-! ## Spans of matches -/

/-- The places between which a match lies. -/
def spanOf (m : Nat × Cursor) : Nat × Nat := (m.1, m.2.pos)

/-- The spans of all matches of a text. -/
def spans (node : Node) (content : List Char) : List (Nat × Nat) := (allMatches node content).map spanOf

theorem nthFrom_eq (node : Node) (text : Array Char) (fuel skip start : Nat) (moving : Bool) :
    nthFrom node text fuel skip start moving
      = (matchesFrom node text fuel start moving)[skip]?.map spanOf := by
  induction fuel generalizing skip start moving with
  | zero => rfl
  | succ fuel ih =>
    rw [nthFrom, matchesFrom]
    rcases search node text start moving with _ | ⟨a, s⟩
    · rfl
    · rcases skip with _ | skip
      · rfl
      · exact ih skip s.pos (a == s.pos)

/-- Matches are numbered as they are listed, from one on. -/
theorem findNth_eq (node : Node) (content : List Char) (n : Int) :
    findNth node content n = if n < 1 then none else (spans node content)[(n - 1).toNat]? := by
  rw [findNth, nthFrom_eq, spans, List.getElem?_map]
  rfl

/-- One span comes before another, which starts where the first ends or behind it. -/
def Precedes (x y : Nat × Nat) : Prop := x.2 ≤ y.1 ∧ x ≠ y

/-- A span from a place on, up to a bound. -/
structure LiesFrom (bound start : Nat) (x : Nat × Nat) : Prop where
  start_le : start ≤ x.1
  forward : x.1 ≤ x.2
  inside : x.2 ≤ bound

/-- All matches lie behind the place that the scan starts from, and in the text. -/
theorem Scans.liesFrom (h : Scans node text start moving found) (hstart : start ≤ text.size) :
    ∀ x ∈ found.map spanOf, LiesFrom text.size start x ∧ (moving = true → x ≠ (start, start)) := by
  induction h with
  | done => simp
  | next hsearch _ ih =>
    have hfound := found_of_search hstart hsearch
    rw [List.map_cons, List.forall_mem_cons]
    constructor
    · refine ⟨⟨hfound.start_le, hfound.forward, hfound.inside⟩, ?_⟩
      intro hmoving hsame
      obtain ⟨ha, hs⟩ := Prod.mk.inj hsame
      exact hfound.moves hmoving ha hs
    · intro x hx
      obtain ⟨⟨hlater, hforward, hinside⟩, hmoves⟩ := ih hfound.inside x hx
      have hbetween := hfound.start_le
      have hbehind := hfound.forward
      refine ⟨⟨by omega, hforward, hinside⟩, ?_⟩
      rintro hmoving rfl
      -- all that lies up to the span of nothing at the start is that span
      simp only at hlater hforward
      exact hfound.moves hmoving (by omega) (by omega)

/-- No match reaches into another one, they come from left to right, and none comes twice. -/
theorem Scans.pairwise_precedes (h : Scans node text start moving found) (hstart : start ≤ text.size) :
    (found.map spanOf).Pairwise Precedes := by
  induction h with
  | done => exact List.Pairwise.nil
  | @next start a moving s rest hsearch more ih =>
    have hfound := found_of_search hstart hsearch
    rw [List.map_cons, List.pairwise_cons]
    refine ⟨?_, ih hfound.inside⟩
    intro x hx
    obtain ⟨hlies, hmoves⟩ := more.liesFrom hfound.inside x hx
    refine ⟨hlies.start_le, ?_⟩
    rintro rfl
    -- a match that comes again ends where it starts, and the scan has to move on from there
    have hempty : a = s.pos := Nat.le_antisymm hfound.forward hlies.start_le
    exact hmoves (beq_iff_eq.mpr hempty) (Prod.ext hempty rfl)

/-! ## Matches of a whole text -/

theorem liesFrom_of_mem_spans {content : List Char} {x : Nat × Nat} (h : x ∈ spans node content) :
    LiesFrom content.length 0 x :=
  ((scans_allMatches node content).liesFrom (Nat.zero_le _) x h).1

theorem pairwise_spans (node : Node) (content : List Char) : (spans node content).Pairwise Precedes :=
  (scans_allMatches node content).pairwise_precedes (Nat.zero_le _)

/-- A match does not end before it starts, and it ends inside of the text. -/
theorem le_of_findNth {content : List Char} {n : Int} {b : Nat} (h : findNth node content n = some (a, b)) :
    a ≤ b ∧ b ≤ content.length := by
  rw [findNth_eq] at h
  split at h
  · simp at h
  · have hlies := liesFrom_of_mem_spans (List.mem_of_getElem? h)
    exact ⟨hlies.forward, hlies.inside⟩

end Emend.Pattern
