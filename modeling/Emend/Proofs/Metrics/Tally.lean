import Emend.Metrics.Statistics
import Emend.Proofs.Attempt
import Emend.Proofs.Number.Exact
import Emend.Proofs.Number.Quotient
import Mathlib.Data.List.Basic

/-!
# Counting values

A list of values is counted only if none of them is a list or an object (`simple_of_foldlM_tick`), and then it is: each
value has the number of values with its key, and stands where the first of them does (`foldlM_tick`). The counts add up
to the number of values (`sum_counted`), so that the shares are those among all of them (`shares_ints`).

Main statements:

* `bump_map`, `counted_concat`: one more value.
* `foldlM_tick`, `simple_of_foldlM_tick`: counting a list of values.
* `sum_counted`, `shares_ints`: the total and the shares.
-/

namespace Emend

deriving instance ReflBEq, LawfulBEq for Exact

deriving instance ReflBEq, LawfulBEq for Json.Key

namespace Json

/-- A value that is neither a list nor an object. -/
def simple : Json → Bool
  | .arr _ | .obj _ => false
  | _ => true

/-- Two values that are counted together. -/
def sameKey (v w : Json) : Bool := v.key.toOption == w.key.toOption

theorem exists_key_iff {v : Json} : (∃ k, v.key = .ok k) ↔ v.simple = true := by
  cases v <;> simp [key, simple]

theorem sameKey_eq {v w : Json} {k : Key} (h : w.key = .ok k) : v.sameKey w = (v.key.toOption == some k) := by
  rw [sameKey, h]
  rfl

theorem sameKey_iff {v w : Json} : v.sameKey w = true ↔ v.key.toOption = w.key.toOption := by
  rw [sameKey, beq_iff_eq]

theorem sameKey_comm (v w : Json) : v.sameKey w = w.sameKey v := Bool.beq_comm

theorem sameKey_congr {v w : Json} (h : v.sameKey w = true) (x : Json) : v.sameKey x = w.sameKey x := by
  rw [sameKey, sameKey_iff.mp h, sameKey]

/-- Whole numbers add up to a whole number. -/
theorem sum_ints (ns : List Int) : sum (ns.map .int) = .ok (.int ns.sum) := by
  have hfrom : ∀ m : Int, (ns.map Json.int).foldlM add (.int m) = .ok (.int (m + ns.sum)) := by
    induction ns with
    | nil => intro m; simp [pure, Except.pure]
    | cons n rest ih =>
      intro m
      have hadd : add (.int m) (.int n) = .ok (.int (m + n)) := rfl
      rw [List.map_cons, List.foldlM_cons, hadd]
      exact (ih (m + n)).trans (by rw [List.sum_cons, Int.add_assoc])
  rw [sum, hfrom, Int.zero_add]

theorem numberLt_ints (m n : Int) : numberLt (.int m) (.int n) = decide (m < n) := Exact.lt_ofInt m n

end Json

namespace Metrics

variable {vs : List Json} {v : Json} {k : Json.Key}

/-! ## Counts -/

/-- The values whose key is new, in their order. -/
def firsts (vs : List Json) : List Json :=
  vs.foldl (fun acc v => if acc.any (·.sameKey v) then acc else acc ++ [v]) []

/-- How many values are counted together with one. -/
def occurrences (vs : List Json) (v : Json) : Nat := vs.countP (·.sameKey v)

/-- Each value whose key is new, with the number of values that are counted with it. -/
def counted (vs : List Json) : List (Json × Nat) := (firsts vs).map fun v => (v, occurrences vs v)

/-- Counted values, the most frequent first; of equal counts the one that occurred first. -/
def ranked (vs : List Json) : List (Json × Nat) := (counted vs).mergeSort fun a b => decide (b.2 ≤ a.2)

theorem firsts_concat (vs : List Json) (v : Json) :
    firsts (vs ++ [v]) = if (firsts vs).any (·.sameKey v) then firsts vs else firsts vs ++ [v] := by
  simp [firsts]

theorem occurrences_concat (vs : List Json) (v w : Json) :
    occurrences (vs ++ [v]) w = occurrences vs w + if v.sameKey w then 1 else 0 := by
  simp [occurrences, List.countP_append, List.countP_singleton]

/-- No key is there twice. -/
theorem pairwise_firsts (vs : List Json) : (firsts vs).Pairwise fun v w => v.sameKey w = false := by
  -- Induction from the end: a value is added only if none before it has its key.
  induction vs using List.reverseRecOn with
  | nil => exact List.Pairwise.nil
  | append_singleton vs v ih =>
    rw [firsts_concat]
    split
    · exact ih
    · rename_i hnew
      rw [List.pairwise_append]
      refine ⟨ih, List.pairwise_singleton _ _, ?_⟩
      intro w hw x hx
      obtain rfl := List.mem_singleton.mp hx
      simpa using fun h => hnew (List.any_eq_true.mpr ⟨w, hw, h⟩)

/-- Every key is there once. -/
theorem any_firsts (vs : List Json) (v : Json) : (firsts vs).any (·.sameKey v) = vs.any (·.sameKey v) := by
  induction vs using List.reverseRecOn with
  | nil => rfl
  | append_singleton vs w ih =>
    rw [firsts_concat, List.any_append, ← ih]
    split
    · rename_i hold
      -- what has the key of the last value has that of an earlier one
      obtain ⟨x, hx, hsame⟩ := List.any_eq_true.mp hold
      have himp : w.sameKey v = true → (firsts vs).any (·.sameKey v) = true := by
        intro h
        exact List.any_eq_true.mpr ⟨x, hx, (Json.sameKey_congr hsame v).trans h⟩
      by_cases h : w.sameKey v = true
      · simp [himp h]
      · simp [h]
    · rw [List.any_append]

/-- Count one more value of a key. -/
def bump (k : Json.Key) (v : Json) : List (Json × Nat) → List (Json × Nat)
  | [] => [(v, 1)]
  | (w, n) :: rest => if w.key.toOption == some k then (w, n + 1) :: rest else (w, n) :: bump k v rest

theorem sum_bump (k : Json.Key) (v : Json) (c : List (Json × Nat)) :
    ((bump k v c).map (·.2)).sum = (c.map (·.2)).sum + 1 := by
  induction c with
  | nil => rfl
  | cons p rest ih =>
    rw [bump]
    split
    · simp only [List.map_cons, List.sum_cons]
      omega
    · simp only [List.map_cons, List.sum_cons, ih]
      omega

theorem bump_map (hk : v.key = .ok k) {ws : List Json} (hpairwise : ws.Pairwise fun v w => v.sameKey w = false)
    (f : Json → Nat) : bump k v (ws.map fun w => (w, f w)) =
      if ws.any (·.sameKey v) then ws.map fun w => (w, f w + if v.sameKey w then 1 else 0)
      else (ws.map fun w => (w, f w)) ++ [(v, 1)] := by
  induction ws with
  | nil => rfl
  | cons w rest ih =>
    rw [List.pairwise_cons] at hpairwise
    rw [List.map_cons, bump, ← Json.sameKey_eq hk, List.any_cons]
    by_cases hw : w.sameKey v = true
    · -- no later value has the key
      have hrest : ∀ x ∈ rest, v.sameKey x = false := by
        intro x hx
        rw [← Json.sameKey_congr hw]
        exact hpairwise.1 x hx
      have hv : v.sameKey w = true := (Json.sameKey_comm v w).trans hw
      rw [hw, if_pos rfl, Bool.true_or, if_pos rfl, List.map_cons, hv, if_pos rfl]
      congr 1
      refine List.map_congr_left fun x hx => ?_
      rw [hrest x hx]
      rfl
    · have hv : v.sameKey w = false := (Json.sameKey_comm v w).trans (Bool.eq_false_iff.mpr hw)
      rw [if_neg hw, ih hpairwise.2, Bool.eq_false_iff.mpr hw, Bool.false_or, List.map_cons, hv]
      split <;> rfl

/-- With one more value, its key is counted once more. -/
theorem counted_concat (hk : v.key = .ok k) (vs : List Json) : counted (vs ++ [v]) = bump k v (counted vs) := by
  rw [counted, counted, bump_map hk (pairwise_firsts vs), firsts_concat]
  -- A value with a known key counts up there, and one with a new key is added at the end with a count of one.
  split
  · exact List.map_congr_left fun w _ => by rw [occurrences_concat]
  · rename_i hnew
    rw [any_firsts] at hnew
    have hnone : ∀ w ∈ vs, w.sameKey v = false := by
      intro w hw
      simpa using fun h => hnew (List.any_eq_true.mpr ⟨w, hw, h⟩)
    have hold : ∀ w ∈ firsts vs, v.sameKey w = false := by
      intro w hw
      have hany : (firsts vs).any (·.sameKey w) = true := List.any_eq_true.mpr ⟨w, hw, Json.sameKey_iff.mpr rfl⟩
      rw [any_firsts] at hany
      obtain ⟨x, hx, hsame⟩ := List.any_eq_true.mp hany
      rw [Json.sameKey_comm, ← Json.sameKey_congr hsame]
      exact hnone x hx
    rw [List.map_append]
    congr 1
    · refine List.map_congr_left fun w hw => ?_
      rw [occurrences_concat, hold w hw]
      rfl
    · have hzero : occurrences vs v = 0 := List.countP_eq_zero.mpr fun w hw => by simp [hnone w hw]
      rw [List.map_singleton, occurrences_concat, hzero, Json.sameKey_iff.mpr rfl]
      rfl

/-- The counts add up to the number of values. -/
theorem sum_counted (h : ∀ v ∈ vs, v.simple = true) : ((counted vs).map (·.2)).sum = vs.length := by
  induction vs using List.reverseRecOn with
  | nil => rfl
  | append_singleton vs v ih =>
    obtain ⟨k, hk⟩ := Json.exists_key_iff.mpr (h v (by simp))
    rw [counted_concat hk, sum_bump, ih fun w hw => h w (by simp [hw])]
    simp

/-! ## Tallies -/

/-- The tally of counts. -/
def ints (c : List (Json × Nat)) : Tally := c.map fun (v, n) => (v, .int n)

theorem tick_ints (hk : v.key = .ok k) (c : List (Json × Nat)) : (ints c).tick v = .ok (ints (bump k v c)) := by
  obtain ⟨n, hn, hset⟩ : ∃ n : Nat, ((ints c).count k).getD (.int 0) = .int n ∧
      Tally.set k v (.int (n + 1)) (ints c) = ints (bump k v c) := by
    -- Induction on the entries. The key is looked for and set in one place, the first entry that has it.
    induction c with
    | nil => exact ⟨0, rfl, rfl⟩
    | cons p rest ih =>
      obtain ⟨w, m⟩ := p
      obtain ⟨n, hn, hset⟩ := ih
      by_cases hw : (w.key.toOption == some k) = true
      · refine ⟨m, ?_, ?_⟩
        · simp [Tally.count, ints, hw]
        · simp [Tally.set, ints, bump, hw]
      · refine ⟨n, ?_, ?_⟩
        · rw [← hn]
          simp [Tally.count, ints, hw]
        · rw [bump, if_neg hw]
          simpa [Tally.set, ints, hw] using hset
  have hadd : Json.add (.int n) (.int 1) = .ok (.int (n + 1)) := rfl
  rw [Tally.tick, hk]
  simp only [bind, Except.bind, hn, hadd, hset]
  rfl

/-- Values that are neither lists nor objects are counted. -/
theorem foldlM_tick (h : ∀ v ∈ vs, v.simple = true) : vs.foldlM Tally.tick [] = .ok (ints (counted vs)) := by
  induction vs using List.reverseRecOn with
  | nil => rfl
  | append_singleton vs v ih =>
    obtain ⟨k, hk⟩ := Json.exists_key_iff.mpr (h v (by simp))
    rw [List.foldlM_append, ih fun w hw => h w (by simp [hw]), counted_concat hk, ← tick_ints hk]
    simp only [List.foldlM_cons, List.foldlM_nil, bind, Except.bind, pure, Except.pure]
    rcases Tally.tick (ints (counted vs)) v with f | t <;> rfl

/-- What is counted is neither a list nor an object. -/
theorem simple_of_foldlM_tick {t t' : Tally} (h : vs.foldlM Tally.tick t = .ok t') : ∀ v ∈ vs, v.simple = true := by
  induction vs generalizing t with
  | nil => simp
  | cons v rest ih =>
    rw [List.foldlM_cons] at h
    obtain ⟨next, htick, hrest⟩ := Attempt.bind_eq_ok.mp h
    obtain ⟨k, hk, -⟩ := Attempt.bind_eq_ok.mp htick
    rw [List.forall_mem_cons]
    exact ⟨Json.exists_key_iff.mp ⟨k, hk⟩, ih hrest⟩

/-! ## Shares -/

theorem mostCommon_ints (c : List (Json × Nat)) :
    (ints c).mostCommon = ints (c.mergeSort fun a b => decide (b.2 ≤ a.2)) := by
  rw [Tally.mostCommon, ints, ints, List.map_mergeSort]
  rintro ⟨v, m⟩ - ⟨w, n⟩ -
  rw [Json.numberLt_ints, ← decide_not, decide_eq_decide]
  omega

/-- The share of each value among all, the most frequent first. -/
def shareList (vs : List Json) : List (Json × ℚ) := (ranked vs).map fun (v, n) => (v, (n / vs.length : ℚ))

/-- A share as a percentage. -/
def percent (q : ℚ) : Attempt Float := do return (← Json.nearest q) * 100.0

theorem shares_ints (h : ∀ v ∈ vs, v.simple = true) :
    (ints (counted vs)).shares = (shareList vs).mapM fun (v, q) => do return (v, ← percent q) := by
  have hints : (ints (counted vs)).map (·.2) = ((counted vs).map fun p => (p.2 : Int)).map .int := by
    simp [ints, Function.comp_def]
  have htotal : ((counted vs).map fun p => (p.2 : Int)).sum = vs.length := by
    rw [← sum_counted h, Nat.cast_list_sum, List.map_map]
    rfl
  have hsum : Json.sum ((ints (counted vs)).map (·.2)) = .ok (.int vs.length) := by
    rw [hints, Json.sum_ints, htotal]
  rw [Tally.shares, hsum, mostCommon_ints, ← ranked]
  -- Without values nothing is divided. Otherwise the total is the number of values, which is not zero.
  rcases Nat.eq_zero_or_pos vs.length with hzero | hpos
  · obtain rfl := List.eq_nil_of_length_eq_zero hzero
    simp [bind, Except.bind, Json.isTruthy, shareList, ranked, counted, firsts]
  · have htruthy : (Json.int vs.length).isTruthy = true := by
      simpa [Json.isTruthy] using hpos.ne'
    have hshare : ∀ n : Nat, Json.divide (.int n) (.int vs.length) = Json.nearest (n / vs.length : ℚ) := by
      intro n
      have hquotient := Json.quotient_eq_nearest n hpos
      rwa [Int.cast_natCast] at hquotient
    simp only [bind, Except.bind, htruthy, Bool.not_true, Bool.false_eq_true, if_false]
    rw [shareList, ints, List.mapM_map, List.mapM_map]
    refine congrArg (List.mapM · (ranked vs)) (funext fun p => ?_)
    simp only [Function.comp_apply, hshare, percent]
    rcases Json.nearest (p.2 / vs.length : ℚ) with f | x <;> rfl

end Metrics

end Emend
