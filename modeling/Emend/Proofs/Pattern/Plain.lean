import Emend.Proofs.Pattern.Scan

/-!
# The texts of plain patterns

A plain pattern has no groups and no conditions on places: it tests characters, in sequence, in alternatives and over
and over. What it may match is a set of texts (`Node.Allows`), and whatever it matches is one of them, standing where
the match does (`takes_of_run`). Of a test that is repeated as often as possible, the match is as long as it can be
(`repeatOne_longest`).

Main statements:

* `eq_of_allows_ofText`, `forall_of_allows_one`: which texts a node allows.
* `takes_repeatOne`, `takesMany_of_repeatGreedy`: what a repetition takes.
* `takes_of_run`: what any plain node takes.
* `repeatOne_longest`: a repetition that takes as much as it can.
-/

namespace Emend.Pattern

/-- The place `n` characters further on. -/
def Cursor.advance (s : Cursor) (n : Nat) : Cursor := { s with pos := s.pos + n }

namespace Cursor

variable (s : Cursor)

@[simp] theorem advance_pos (n : Nat) : (s.advance n).pos = s.pos + n := rfl

@[simp] theorem advance_marks (n : Nat) : (s.advance n).marks = s.marks := rfl

@[simp] theorem mark_pos (i : Nat) : (s.mark i).pos = s.pos := rfl

theorem advance_advance (m n : Nat) : (s.advance m).advance n = s.advance (m + n) := by
  rw [advance, advance, advance, Nat.add_assoc]

/-- A mark is found again until it is set again. -/
@[simp] theorem lookup_mark (i j : Nat) :
    (s.mark i).marks.lookup j = if j = i then some s.pos else s.marks.lookup j := by
  rw [mark, List.lookup_cons]
  by_cases hij : j = i
  · simp [hij]
  · rw [if_neg hij, beq_false_of_ne hij]
    induction s.marks with
    | nil => rfl
    | cons m rest ih =>
      obtain ⟨k, place⟩ := m
      rw [List.filter_cons]
      by_cases hk : k = i
      · subst hk
        simpa [List.lookup_cons, beq_false_of_ne hij] using ih
      · by_cases hjk : j = k
        · simp [hk, hjk]
        · simpa [hk, List.lookup_cons, beq_false_of_ne hjk] using ih

end Cursor

/-! ## Plain patterns -/

namespace Node

/-- The pattern tests characters and nothing else, and repeats as often as possible. -/
def isPlain : Node → Bool
  | .empty => true
  | .one _ => true
  | .seq a b => a.isPlain && b.isPlain
  | .alt a b => a.isPlain && b.isPlain
  | .repeated .greedy _ _ body => body.isPlain
  | _ => false

/-- The texts that a plain pattern may match. -/
inductive Allows : Node → List Char → Prop where
  | empty : Allows .empty []
  | one {accepts : Char → Bool} {c : Char} (h : accepts c = true) : Allows (.one accepts) [c]
  | seq {a b : Node} {u v : List Char} (hu : Allows a u) (hv : Allows b v) : Allows (.seq a b) (u ++ v)
  | first {a b : Node} {w : List Char} (h : Allows a w) : Allows (.alt a b) w
  | second {a b : Node} {w : List Char} (h : Allows b w) : Allows (.alt a b) w
  | repeated {greed : Greed} {least : Nat} {most : Option Nat} {body : Node} {ws : List (List Char)}
    (h : ∀ w ∈ ws, Allows body w) (hleast : least ≤ ws.length)
    (hmost : ∀ m, most = some m → ws.length ≤ max least m) : Allows (.repeated greed least most body) ws.flatten

theorem isPlain_seq {a b : Node} (ha : a.isPlain = true) (hb : b.isPlain = true) : (seq a b).isPlain = true :=
  Bool.and_eq_true_iff.mpr ⟨ha, hb⟩

theorem isPlain_all {nodes : List Node} (h : ∀ n ∈ nodes, n.isPlain = true) : (all nodes).isPlain = true := by
  induction nodes with
  | nil => rfl
  | cons n rest ih =>
    rw [List.forall_mem_cons] at h
    exact isPlain_seq h.1 (ih h.2)

theorem isPlain_any {nodes : List Node} (h : ∀ n ∈ nodes, n.isPlain = true) : (any nodes).isPlain = true := by
  induction nodes with
  | nil => rfl
  | cons n rest ih =>
    rw [List.forall_mem_cons] at h
    rcases rest with _ | ⟨m, rest⟩
    · exact h.1
    · exact Bool.and_eq_true_iff.mpr ⟨h.1, ih h.2⟩

theorem isPlain_ofText (text : List Char) : (ofText text).isPlain = true := by
  refine isPlain_all ?_
  simp [isPlain]

/-- A text is matched by itself alone. -/
theorem eq_of_allows_ofText {text w : List Char} (h : (ofText text).Allows w) : w = text := by
  -- Induction on the text, one test of a character for each of its characters.
  induction text generalizing w with
  | nil =>
    cases h
    rfl
  | cons c rest ih =>
    replace h : (Node.seq (.one (· == c)) (ofText rest)).Allows w := h
    cases h with
    | seq hu hv =>
      cases hu with
      | one hc =>
        rw [ih hv, beq_iff_eq.mp hc]
        rfl

/-- Of several patterns one matches. -/
theorem allows_of_any {nodes : List Node} {w : List Char} (hne : nodes ≠ []) (h : (any nodes).Allows w) :
    ∃ n ∈ nodes, n.Allows w := by
  induction nodes with
  | nil => exact absurd rfl hne
  | cons n rest ih =>
    rcases rest with _ | ⟨m, rest⟩
    · exact ⟨n, List.mem_cons_self, h⟩
    · cases h with
      | first h => exact ⟨n, List.mem_cons_self, h⟩
      | second h =>
        obtain ⟨k, hk, hallows⟩ := ih (List.cons_ne_nil _ _) h
        exact ⟨k, List.mem_cons_of_mem n hk, hallows⟩

/-- A test that is repeated matches characters that pass it. -/
theorem forall_of_allows_one {accepts : Char → Bool} {greed : Greed} {least : Nat} {most : Option Nat}
    {w : List Char} (h : (Node.repeated greed least most (.one accepts)).Allows w) :
    least ≤ w.length ∧ ∀ c ∈ w, accepts c = true := by
  cases h with
  | @repeated _ _ _ _ ws hws hleast _ =>
    -- Each repetition takes one character, and that one passes the test.
    have hone : ∀ w ∈ ws, w.length = 1 ∧ ∀ c ∈ w, accepts c = true := by
      intro w hw
      cases hws w hw with
      | one hc => exact ⟨rfl, by simpa using hc⟩
    constructor
    · have hlength : ws.flatten.length = ws.length := by
        rw [List.length_flatten, List.map_congr_left fun w hw => (hone w hw).1]
        simp
      omega
    · intro c hc
      obtain ⟨w, hw, hcw⟩ := List.mem_flatten.mp hc
      exact (hone w hw).2 c hcw

end Node

/-! ## What stands in the text -/

variable {text : Array Char} {s t : Cursor} {rest : Rest} {step : Step}

/-- A text of a set stands where a step starts, and what follows goes on behind it. -/
def Takes (text : Array Char) (P : List Char → Prop) (rest : Rest) (s t : Cursor) : Prop :=
  ∃ w, P w ∧ w <+: text.toList.drop s.pos ∧ rest (s.advance w.length) = some t

/-- Two texts that stand one behind the other. -/
theorem prefix_drop_append {l u v : List Char} {n : Nat} (hu : u <+: l.drop n) (hv : v <+: l.drop (n + u.length)) :
    u ++ v <+: l.drop n := by
  obtain ⟨after, hafter⟩ := hu
  rw [← List.drop_drop, ← hafter, List.drop_left] at hv
  rw [← hafter]
  exact (List.prefix_append_right_inj u).mpr hv

/-- A character stands at its place. -/
theorem prefix_drop_of_getElem? {c : Char} {n : Nat} (h : text[n]? = some c) : [c] <+: text.toList.drop n := by
  rw [← Array.getElem?_toList] at h
  obtain ⟨hlt, hget⟩ := List.getElem?_eq_some_iff.mp h
  rw [List.drop_eq_getElem_cons hlt, hget]
  exact List.prefix_append [c] _

/-- The characters that a count of passing characters counts. -/
theorem forall_of_countWhile {accepts : Char → Bool} {limit pos n : Nat}
    (hn : n ≤ countWhile text accepts limit pos) :
    ∃ w : List Char, w.length = n ∧ (∀ c ∈ w, accepts c = true) ∧ w <+: text.toList.drop pos := by
  -- Induction on how many are taken: each of them is there and passes the test.
  induction n generalizing limit pos with
  | zero => exact ⟨[], rfl, by simp, List.nil_prefix⟩
  | succ n ih =>
    rcases limit with _ | limit
    · simp [countWhile] at hn
    · rw [countWhile] at hn
      rcases hc : text[pos]? with _ | c
      · simp [hc] at hn
      · simp only [hc] at hn
        split at hn
        · rename_i haccepts
          obtain ⟨w, hlength, hall, hstands⟩ := ih (Nat.le_of_succ_le_succ hn)
          refine ⟨c :: w, by simp [hlength], ?_, prefix_drop_append (prefix_drop_of_getElem? hc) hstands⟩
          rw [List.forall_mem_cons]
          exact ⟨haccepts, hall⟩
        · simp at hn

/-- Counting ends at a character that does not pass, or where the text ends. -/
theorem not_accepts_countWhile {accepts : Char → Bool} {pos : Nat} {c : Char}
    (hc : text[pos + countWhile text accepts (text.size - pos) pos]? = some c) : accepts c = false := by
  obtain ⟨room, hroom⟩ : ∃ room, room = text.size - pos := ⟨_, rfl⟩
  rw [← hroom] at hc
  -- Induction on what is left of the text: the counting stops at its end or at a character that fails.
  induction room generalizing pos with
  | zero =>
    have hlt := (Array.getElem?_eq_some_iff.mp hc).1
    simp only [countWhile] at hlt
    omega
  | succ room ih =>
    rw [countWhile] at hc
    rcases hfirst : text[pos]? with _ | first
    · simp [hfirst] at hc
    · simp only [hfirst] at hc
      split at hc
      · have hroom' : room = text.size - (pos + 1) := by omega
        refine ih ?_ hroom'
        rwa [Nat.add_assoc, Nat.add_comm 1]
      · rename_i hfails
        rw [Nat.add_zero, hfirst, Option.some.injEq] at hc
        simpa [hc] using hfails

/-! ## Repetitions -/

theorem exists_of_longestFirst {least more : Nat} (h : longestFirst s rest least more = some t) :
    ∃ n, n ≤ more ∧ rest (s.advance (least + n)) = some t := by
  induction more with
  | zero => exact ⟨0, Nat.le_refl 0, h⟩
  | succ more ih =>
    rw [longestFirst, Option.orElse_eq_some] at h
    rcases h with hlong | ⟨-, hshort⟩
    · refine ⟨more + 1, Nat.le_refl _, ?_⟩
      rwa [Cursor.advance, ← Nat.add_assoc]
    · obtain ⟨n, hn, hrest⟩ := ih hshort
      exact ⟨n, Nat.le_succ_of_le hn, hrest⟩

theorem takes_repeatOne {accepts : Char → Bool} {least : Nat} {most : Option Nat}
    (h : repeatOne text accepts .greedy least most s rest = some t) :
    Takes text (Node.repeated .greedy least most (.one accepts)).Allows rest s t := by
  unfold repeatOne at h
  extract_lets room limit count at h
  split at h
  · simp at h
  · rename_i henough
    -- The longest run is tried first and given back one by one, so some run between the two bounds was taken.
    obtain ⟨n, hn, hrest⟩ := exists_of_longestFirst h
    have hcount : count ≤ limit := countWhile_le text accepts limit s.pos
    have hcounted : least + n ≤ countWhile text accepts limit s.pos := by omega
    obtain ⟨w, hlength, hall, hstands⟩ := forall_of_countWhile hcounted
    have hsingle : (w.map fun c => [c]).flatten = w := by
      rw [← List.flatMap_def, List.flatMap_singleton']
    have hallows : (Node.repeated .greedy least most (.one accepts)).Allows (w.map fun c => [c]).flatten := by
      refine .repeated ?_ (by rw [List.length_map]; omega) ?_
      · intro u hu
        obtain ⟨c, hc, rfl⟩ := List.mem_map.mp hu
        exact .one (hall c hc)
      · rintro m rfl
        have hm : limit ≤ m := Nat.min_le_left m room
        rw [List.length_map]
        omega
    rw [hsingle] at hallows
    exact ⟨w, hallows, hstands, by rwa [hlength]⟩

/-- Texts of a set stand one behind the other where a repetition goes on that was made `count` times, as many as it
needs and no more than it may have, and what follows goes on behind them. -/
def TakesMany (text : Array Char) (P : List Char → Prop) (least : Nat) (most : Option Nat) (count : Nat) (rest : Rest)
    (s t : Cursor) : Prop :=
  ∃ ws : List (List Char), (∀ w ∈ ws, P w) ∧ least ≤ count + ws.length ∧
    (∀ m, most = some m → count + ws.length ≤ max least m) ∧
    ws.flatten <+: text.toList.drop s.pos ∧ rest (s.advance ws.flatten.length) = some t

theorem takesMany_of_repeatGreedy {P : List Char → Prop}
    (hstep : ∀ s rest t, step s rest = some t → Takes text P rest s t)
    {least : Nat} {most : Option Nat} {fuel count : Nat} {last : Option Nat}
    (hcount : ∀ m, most = some m → count ≤ max least m)
    (h : repeatGreedy step least most rest fuel count last s = some t) :
    TakesMany text P least most count rest s t := by
  -- Induction on the fuel, the number of repetitions so far free: either one more repetition or the rest.
  induction fuel generalizing count last s with
  | zero => simp [repeatGreedy] at h
  | succ fuel ih =>
    have hstop : least ≤ count → rest s = some t → TakesMany text P least most count rest s t :=
      fun hleast hrest => ⟨[], by simp, hleast, hcount, List.nil_prefix, hrest⟩
    have hagain : ∀ {last' : Option Nat}, (∀ m, most = some m → count + 1 ≤ max least m) →
        step s (repeatGreedy step least most rest fuel (count + 1) last') = some t →
          TakesMany text P least most count rest s t := by
      intro last' hroom h
      obtain ⟨w, hw, hstands, hmore⟩ := hstep s _ t h
      obtain ⟨ws, hws, hleast, hmost, hbehind, hrest⟩ := ih hroom hmore
      refine ⟨w :: ws, List.forall_mem_cons.mpr ⟨hw, hws⟩, ?_, ?_, prefix_drop_append hstands hbehind, ?_⟩
      · rw [List.length_cons]
        omega
      · intro m hm
        have hbound := hmost m hm
        rw [List.length_cons]
        omega
      · rw [List.flatten_cons, List.length_append, ← Cursor.advance_advance]
        exact hrest
    rw [repeatGreedy] at h
    split at h
    · rename_i hless
      exact hagain (fun m _ => by omega) h
    · rename_i henough
      split at h
      · rename_i hmay
        rcases (Option.orElse_eq_some _ _ _).mp h with hmore | ⟨-, hrest⟩
        · refine hagain ?_ hmore
          rintro m rfl
          have hlt : count < m := by simpa [mayRepeat] using (Bool.and_eq_true_iff.mp hmay).1
          omega
        · exact hstop (by omega) hrest
      · exact hstop (by omega) h

/-- A plain pattern matches one of its texts. -/
theorem takes_of_run {node : Node} (hplain : node.isPlain = true) (h : node.run text s rest = some t) :
    Takes text node.Allows rest s t := by
  induction node generalizing s rest t with
  | empty => exact ⟨[], .empty, List.nil_prefix, h⟩
  | one accepts =>
    simp only [Node.run] at h
    rcases hc : text[s.pos]? with _ | c
    · simp [hc] at h
    · simp only [hc] at h
      split at h
      · rename_i haccepts
        exact ⟨[c], .one haccepts, prefix_drop_of_getElem? hc, h⟩
      · simp at h
  | seq a b iha ihb =>
    obtain ⟨ha, hb⟩ := Bool.and_eq_true_iff.mp hplain
    obtain ⟨u, hu, hustands, hmore⟩ := iha ha h
    obtain ⟨v, hv, hvstands, hrest⟩ := ihb hb hmore
    refine ⟨u ++ v, .seq hu hv, prefix_drop_append hustands hvstands, ?_⟩
    rwa [List.length_append, ← Cursor.advance_advance]
  | alt a b iha ihb =>
    obtain ⟨ha, hb⟩ := Bool.and_eq_true_iff.mp hplain
    simp only [Node.run, Option.orElse_eq_some] at h
    rcases h with hfirst | ⟨-, hsecond⟩
    · obtain ⟨w, hw, hstands, hrest⟩ := iha ha hfirst
      exact ⟨w, .first hw, hstands, hrest⟩
    · obtain ⟨w, hw, hstands, hrest⟩ := ihb hb hsecond
      exact ⟨w, .second hw, hstands, hrest⟩
  | repeated greed least most body ih =>
    cases greed with
    | greedy =>
      -- a test of one character is repeated by counting
      by_cases hone : ∃ accepts, body = .one accepts
      · obtain ⟨accepts, rfl⟩ := hone
        exact takes_repeatOne h
      · have hrun : (Node.repeated .greedy least most body).run text
            = repeatStep text (body.run text) .greedy least most :=
          Node.run.eq_7 text .greedy least most body fun accepts heq => hone ⟨accepts, heq⟩
        rw [hrun, repeatStep] at h
        obtain ⟨ws, hws, hleast, hmost, hstands, hrest⟩ := takesMany_of_repeatGreedy
          (fun _ _ _ hbody => ih hplain hbody) (fun _ _ => Nat.zero_le _) h
        rw [Nat.zero_add] at hleast
        refine ⟨ws.flatten, .repeated hws hleast ?_, hstands, hrest⟩
        simpa using hmost
    | lazy => simp [Node.isPlain] at hplain
    | possessive => simp [Node.isPlain] at hplain
  | _ => simp [Node.isPlain] at hplain

/-- A test is repeated as often as it passes, where what follows always succeeds. -/
theorem repeatOne_longest {accepts : Char → Bool} (hrest : ∀ n, (rest (s.advance n)).isSome = true)
    (h : repeatOne text accepts .greedy 0 none s rest = some t) :
    ∃ w : List Char, (∀ c ∈ w, accepts c = true) ∧ w <+: text.toList.drop s.pos ∧
      (∀ c, text[s.pos + w.length]? = some c → accepts c = false) ∧ rest (s.advance w.length) = some t := by
  unfold repeatOne at h
  extract_lets room limit count at h
  rw [if_neg (Nat.not_lt_zero count), Nat.sub_zero] at h
  obtain ⟨w, hlength, hall, hstands⟩ := forall_of_countWhile (Nat.le_refl count)
  refine ⟨w, hall, hstands, ?_, ?_⟩
  · intro c hc
    rw [hlength] at hc
    exact not_accepts_countWhile hc
  · rw [hlength]
    clear_value count
    -- The rest goes through behind any run, so the longest run is the one that is kept.
    rcases count with _ | count
    · exact h
    · have hfirst := hrest (count + 1)
      obtain ⟨u, hu⟩ := Option.isSome_iff_exists.mp hfirst
      rw [longestFirst] at h
      rw [Cursor.advance, Nat.add_zero] at *
      rw [hu] at h ⊢
      simpa using h

end Emend.Pattern
