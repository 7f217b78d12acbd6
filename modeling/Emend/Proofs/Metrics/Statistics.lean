import Emend.Proofs.Metrics.Tally
import Mathlib.Data.List.DropRight

/-!
# Statistics of a log

The statistics of entries that are well-formed and hold nothing but simple values are the exact ones, with every share
rounded (`statistics_eq`); one item that is a list or an object makes them fail. Of a log the last entries count
(`read_report`): lines that are no JSON are passed over, and other values are not. A count of zero leaves out nothing
(`read_report_zero`).

Main statements:

* `tally_eq_ok_iff`, `countable_iff`: when the items can be counted.
* `statistics_eq`, `statistics_eq_ok`, `countable_of_statistics`: what the statistics are, and that they need this.
* `read_report`: the report of a log.
-/

namespace Emend.Metrics

variable {es : List Json} {s : Statistics}

/-! ## Entries -/

/-- The fields of an object. -/
def fieldsOf : Json → List (String × Json)
  | .obj fields => fields
  | _ => []

/-- The number of edits of an entry. -/
def editsOf (fields : List (String × Json)) : Int :=
  match Json.lookup "edits" fields with
  | some (.int n) => n
  | _ => 0

/-- The items of a list in an entry. -/
def itemsOf (key : String) (fields : List (String × Json)) : List Json :=
  match Json.lookup key fields with
  | some (.arr items) => items
  | _ => []

/-- The batch of an entry was applied. -/
def succeeded (fields : List (String × Json)) : Bool := (value "success" (.bool false) fields).isTruthy

/-- The kinds of refusal that are told by entries. -/
def errorsOf (es : List (List (String × Json))) : List Json := (es.map (Json.get "error_type")).filter (·.isTruthy)

/-- A whole number. -/
def isWhole : Json → Bool
  | .int _ => true
  | _ => false

/-- A list. -/
def isList : Json → Bool
  | .arr _ => true
  | _ => false

/-- An object whose number of edits is a whole number, and whose actions and kinds of match are lists, as far as they
are there. -/
def wellFormed : Json → Bool
  | .obj fields => (Json.lookup "edits" fields).all isWhole && (Json.lookup "actions" fields).all isList &&
      (Json.lookup "match_types" fields).all isList
  | _ => false

/-- Neither an action nor a kind of match nor a kind of refusal is a list or an object. -/
def countable (v : Json) : Bool :=
  (itemsOf "actions" (fieldsOf v)).all (·.simple) && (itemsOf "match_types" (fieldsOf v)).all (·.simple) &&
    (errorsOf [fieldsOf v]).all (·.simple)

theorem eq_of_wellFormed {v : Json} (h : wellFormed v = true) : ∃ fields, v = .obj fields ∧
    value "edits" (.int 0) fields = .int (editsOf fields) ∧
    value "actions" (.arr []) fields = .arr (itemsOf "actions" fields) ∧
    value "match_types" (.arr []) fields = .arr (itemsOf "match_types" fields) := by
  cases v with
  | obj fields =>
    simp only [wellFormed, Bool.and_eq_true] at h
    obtain ⟨⟨hedits, hactions⟩, hkinds⟩ := h
    -- A field that is not there counts as its default, and one that is there is what the shape asks for.
    have hlist : ∀ key, (Json.lookup key fields).all isList = true →
        value key (.arr []) fields = .arr (itemsOf key fields) := by
      intro key hkey
      unfold value itemsOf
      generalize Json.lookup key fields = found at hkey
      rcases found with _ | v
      · rfl
      · cases v <;> first | rfl | simp [isList] at hkey
    refine ⟨fields, rfl, ?_, hlist _ hactions, hlist _ hkinds⟩
    unfold value editsOf
    generalize Json.lookup "edits" fields = found at hedits
    rcases found with _ | v
    · rfl
    · cases v <;> first | rfl | simp [isWhole] at hedits
  | _ => simp [wellFormed] at h

/-! ## Exact statistics -/

/-- Statistics before anything is rounded. -/
structure Report where
  batches : Nat
  edits : Int
  /-- The share of batches that were applied. -/
  success : ℚ
  average : ℚ
  actions : List (Json × ℚ)
  matchKinds : List (Json × ℚ)
  errors : List (Json × Nat)

/-- The exact statistics of entries. Shares among nothing are zero. -/
def report (es : List Json) : Report :=
  let entries := es.map fieldsOf
  { batches := es.length
    edits := (entries.map editsOf).sum
    success := entries.countP succeeded / es.length
    average := (entries.map editsOf).sum / es.length
    actions := shareList (entries.flatMap (itemsOf "actions"))
    matchKinds := shareList (entries.flatMap (itemsOf "match_types"))
    errors := ranked (errorsOf entries) }

/-- A list of shares as percentages. -/
def percentages (shares : List (Json × ℚ)) : Attempt (List (Json × Float)) :=
  shares.mapM fun (v, q) => do return (v, ← percent q)

/-- The statistics with every share rounded. -/
def Report.shown (r : Report) : Attempt Statistics := do
  let successRate ← percent r.success
  let average ← Json.nearest r.average
  let actions ← percentages r.actions
  let matchKinds ← percentages r.matchKinds
  return { batches := r.batches, edits := .int r.edits, successRate, average, actions, matchKinds,
           errors := ints r.errors }

theorem percent_zero : percent 0 = .ok 0.0 := by
  have hzero : Json.nearest 0 = .ok 0.0 := rfl
  have hproduct : (0.0 * 100.0 : Float) = 0.0 := by decide +kernel
  rw [percent, hzero]
  exact congrArg Except.ok hproduct

/-- Without entries, everything is zero. -/
theorem shown_nil : (report []).shown = .ok {} := by
  have hzero : Json.nearest 0 = .ok 0.0 := rfl
  simp [report, Report.shown, percent_zero, hzero, percentages, shareList, ranked, counted, firsts, errorsOf, ints, bind,
    Except.bind, pure, Except.pure]

/-! ## Statistics of entries -/

theorem mapM_fields_eq_ok_iff {entries : List (List (String × Json))} :
    es.mapM fields = .ok entries ↔ es = entries.map .obj := by
  -- Induction on the entries; the first one that is no object stops the reading.
  induction es generalizing entries with
  | nil => cases entries <;> simp [pure, Except.pure]
  | cons v rest ih =>
    rw [List.mapM_cons, Attempt.bind_eq_ok]
    constructor
    · rintro ⟨first, hfirst, h⟩
      obtain ⟨more, hmore, h⟩ := Attempt.bind_eq_ok.mp h
      obtain rfl := Attempt.pure_eq_ok.mp h
      obtain rfl := ih.mp hmore
      cases v <;> simp_all [fields]
    · intro h
      rcases entries with _ | ⟨first, more⟩
      · simp at h
      · obtain ⟨rfl, rfl⟩ := List.cons.inj h
        exact ⟨first, rfl, Attempt.bind_eq_ok.mpr ⟨more, ih.mpr rfl, rfl⟩⟩

/-- The lists of well-formed entries are counted one after the other. -/
theorem tally_eq_ok_iff {entries : List (List (String × Json))} {t t' : Tally × Tally}
    (hwell : ∀ fields ∈ entries, wellFormed (.obj fields) = true) : tally t entries = .ok t' ↔
      (entries.flatMap (itemsOf "actions")).foldlM Tally.tick t.1 = .ok t'.1 ∧
        (entries.flatMap (itemsOf "match_types")).foldlM Tally.tick t.2 = .ok t'.2 := by
  -- Induction on the entries, both tallies free: counting two lists one behind the other is counting them appended.
  induction entries generalizing t with
  | nil => simp [tally, pure, Except.pure, Prod.ext_iff]
  | cons fields rest ih =>
    rw [List.forall_mem_cons] at hwell
    obtain ⟨_, heq, -, hactions, hkinds⟩ := eq_of_wellFormed hwell.1
    obtain rfl := Json.obj.inj heq
    rw [tally, hactions, hkinds, List.flatMap_cons, List.flatMap_cons, List.foldlM_append, List.foldlM_append]
    simp only [Tally.update, Attempt.bind_eq_ok, ih hwell.2]
    constructor
    · rintro ⟨a, ha, b, hb, hrest⟩
      exact ⟨⟨a, ha, hrest.1⟩, b, hb, hrest.2⟩
    · rintro ⟨⟨a, ha, hrest⟩, b, hb, hrest'⟩
      exact ⟨a, ha, b, hb, hrest, hrest'⟩

theorem countable_iff : (∀ v ∈ es, countable v = true) ↔
    (∀ v ∈ (es.map fieldsOf).flatMap (itemsOf "actions"), v.simple = true) ∧
      (∀ v ∈ (es.map fieldsOf).flatMap (itemsOf "match_types"), v.simple = true) ∧
        ∀ v ∈ errorsOf (es.map fieldsOf), v.simple = true := by
  simp only [countable, errorsOf, Bool.and_eq_true, List.all_eq_true, List.mem_flatMap, List.mem_map, List.mem_filter,
    List.mem_singleton]
  -- The items of all entries are those of each entry, list by list.
  constructor
  · intro h
    refine ⟨?_, ?_, ?_⟩
    · rintro x ⟨_, ⟨v, hv, rfl⟩, hx⟩
      exact (h v hv).1.1 x hx
    · rintro x ⟨_, ⟨v, hv, rfl⟩, hx⟩
      exact (h v hv).1.2 x hx
    · rintro x ⟨⟨_, ⟨v, hv, rfl⟩, rfl⟩, hx⟩
      exact (h v hv).2 _ ⟨⟨_, rfl, rfl⟩, hx⟩
  · rintro ⟨hactions, hkinds, herrors⟩ v hv
    refine ⟨⟨fun x hx => hactions x ⟨_, ⟨v, hv, rfl⟩, hx⟩, fun x hx => hkinds x ⟨_, ⟨v, hv, rfl⟩, hx⟩⟩, ?_⟩
    rintro x ⟨⟨_, rfl, rfl⟩, hx⟩
    exact herrors _ ⟨⟨_, ⟨v, hv, rfl⟩, rfl⟩, hx⟩

/-- The entries of a well-formed log are the fields of its objects. -/
theorem map_obj_fieldsOf (hwell : ∀ v ∈ es, wellFormed v = true) : (es.map fieldsOf).map .obj = es := by
  rw [List.map_map]
  refine (List.map_congr_left fun v hv => ?_).trans (List.map_id es)
  obtain ⟨fields, rfl, -⟩ := eq_of_wellFormed (hwell v hv)
  rfl

theorem sum_edits (hwell : ∀ v ∈ es, wellFormed v = true) :
    Json.sum ((es.map fieldsOf).map (value "edits" (.int 0))) = .ok (.int ((es.map fieldsOf).map editsOf).sum) := by
  rw [← Json.sum_ints, List.map_map, List.map_map, List.map_map]
  refine congrArg Json.sum (List.map_congr_left fun v hv => ?_)
  obtain ⟨fields, rfl, hedits, -⟩ := eq_of_wellFormed (hwell v hv)
  exact hedits

/-- The statistics of well-formed entries are the exact ones, rounded, if all values that are counted are simple. -/
theorem statistics_eq (hwell : ∀ v ∈ es, wellFormed v = true) (hcount : ∀ v ∈ es, countable v = true) :
    statistics es = (report es).shown := by
  rcases Nat.eq_zero_or_pos es.length with hzero | hpos
  · obtain rfl := List.eq_nil_of_length_eq_zero hzero
    rw [shown_nil]
    rfl
  have hobj := map_obj_fieldsOf hwell
  have hfields : es.mapM fields = .ok (es.map fieldsOf) := mapM_fields_eq_ok_iff.mpr hobj.symm
  have hwell' : ∀ entry ∈ es.map fieldsOf, wellFormed (.obj entry) = true := by
    intro entry hentry
    obtain ⟨v, hv, rfl⟩ := List.mem_map.mp hentry
    obtain ⟨fields, rfl, -⟩ := eq_of_wellFormed (hwell v hv)
    exact hwell _ hv
  have hlength : (es.map fieldsOf).length = es.length := List.length_map _
  have hedits := sum_edits hwell
  obtain ⟨hactions, hkinds, herrors⟩ := countable_iff.mp hcount
  -- Nothing that is counted is a list or an object, so all three tallies are the exact ones.
  have htally : tally ([], []) (es.map fieldsOf) = .ok (ints (counted ((es.map fieldsOf).flatMap (itemsOf "actions"))),
      ints (counted ((es.map fieldsOf).flatMap (itemsOf "match_types")))) :=
    (tally_eq_ok_iff hwell').mpr ⟨foldlM_tick hactions, foldlM_tick hkinds⟩
  have hnamed : ((es.map fieldsOf).map (Json.get "error_type") |>.filter (·.isTruthy)).foldlM Tally.tick []
      = .ok (ints (counted (errorsOf (es.map fieldsOf)))) := foldlM_tick herrors
  have hempty : es.isEmpty = false := List.isEmpty_eq_false_iff.mpr (List.ne_nil_of_length_pos hpos)
  have hsuccess : Json.quotient
      ((es.map fieldsOf).filter fun e => (value "success" (.bool false) e).isTruthy).length es.length
      = Json.nearest ((es.map fieldsOf).countP succeeded / es.length) := by
    rw [← List.countP_eq_length_filter, ← Int.cast_natCast (R := ℚ) (List.countP _ _)]
    exact Json.quotient_eq_nearest _ hpos
  have haverage : Json.divide (.int ((es.map fieldsOf).map editsOf).sum) (.int es.length)
      = Json.nearest (((es.map fieldsOf).map editsOf).sum / es.length) := Json.quotient_eq_nearest _ hpos
  -- What is left is the rounding, which is the same on both sides: first the rate, then the average.
  unfold statistics
  rw [hempty, hfields]
  simp only [Bool.false_eq_true, if_false, bind, Except.bind, hedits, htally, hlength]
  rw [hnamed]
  simp only [hsuccess, haverage, mostCommon_ints, shares_ints hactions, shares_ints hkinds]
  simp only [report, Report.shown, percentages, percent]
  rcases Json.nearest ((es.map fieldsOf).countP succeeded / es.length) with f | x
  · rfl
  · rcases Json.nearest (((es.map fieldsOf).map editsOf).sum / es.length) with f | y <;> rfl

/-- Statistics are there for objects only, and count each of them. -/
theorem statistics_eq_ok (h : statistics es = .ok s) : s.batches = es.length ∧
    ∃ entries, es = entries.map .obj ∧ (∃ t, tally ([], []) entries = .ok t) ∧
      ∃ t, (errorsOf entries).foldlM Tally.tick [] = .ok t := by
  unfold statistics at h
  -- The statistics of no entries are answered at once. Otherwise every step of the computation went through.
  by_cases hempty : es.isEmpty = true
  · rw [if_pos hempty] at h
    obtain rfl := List.isEmpty_iff.mp hempty
    obtain rfl := Attempt.pure_eq_ok.mp h
    exact ⟨rfl, [], rfl, ⟨_, rfl⟩, _, rfl⟩
  · rw [if_neg hempty] at h
    obtain ⟨entries, hfields, h⟩ := Attempt.bind_eq_ok.mp h
    obtain ⟨_, -, h⟩ := Attempt.bind_eq_ok.mp h
    obtain ⟨t, htally, h⟩ := Attempt.bind_eq_ok.mp h
    obtain ⟨t', hnamed, h⟩ := Attempt.bind_eq_ok.mp h
    obtain ⟨_, -, h⟩ := Attempt.bind_eq_ok.mp h
    obtain ⟨_, -, h⟩ := Attempt.bind_eq_ok.mp h
    obtain ⟨_, -, h⟩ := Attempt.bind_eq_ok.mp h
    obtain ⟨_, -, h⟩ := Attempt.bind_eq_ok.mp h
    obtain rfl := Attempt.pure_eq_ok.mp h
    obtain rfl := mapM_fields_eq_ok_iff.mp hfields
    exact ⟨(List.length_map _).symm, entries, rfl, ⟨t, htally⟩, t', hnamed⟩

/-- If the statistics of well-formed entries are there, all values that are counted are simple. -/
theorem countable_of_statistics (hwell : ∀ v ∈ es, wellFormed v = true) (h : statistics es = .ok s) :
    ∀ v ∈ es, countable v = true := by
  obtain ⟨-, entries, rfl, ⟨t, htally⟩, t', hnamed⟩ := statistics_eq_ok h
  have hentries : (entries.map Json.obj).map fieldsOf = entries := by simp [Function.comp_def, fieldsOf]
  obtain ⟨hactions, hkinds⟩ := (tally_eq_ok_iff fun fields hf => hwell _ (List.mem_map_of_mem hf)).mp htally
  rw [countable_iff, hentries]
  exact ⟨simple_of_foldlM_tick hactions, simple_of_foldlM_tick hkinds, simple_of_foldlM_tick hnamed⟩

/-! ## Rounding -/

theorem exists_percent {q : ℚ} (h₀ : 0 ≤ q) (h₁ : q ≤ 1) : ∃ x, percent q = .ok x := by
  have hsmall : |q| < 2 ^ 1 := by
    rw [abs_of_nonneg h₀]
    linarith
  obtain ⟨x, hx⟩ := Json.exists_nearest (by decide) hsmall
  exact ⟨x * 100.0, by rw [percent, hx]; rfl⟩

theorem exists_percentages (vs : List Json) : ∃ shown, percentages (shareList vs) = .ok shown := by
  -- A share is at most one, and its percentage has a number.
  have hall : ∀ p ∈ shareList vs, ∃ x, percent p.2 = .ok x := by
    intro p hp
    obtain ⟨⟨v, n⟩, hranked, rfl⟩ := List.mem_map.mp hp
    have hcounted : (v, n) ∈ counted vs := List.mem_mergeSort.mp hranked
    obtain ⟨w, -, heq⟩ := List.mem_map.mp hcounted
    obtain ⟨rfl, rfl⟩ := Prod.mk.inj heq
    have hle : occurrences vs w ≤ vs.length := List.countP_le_length
    refine exists_percent (by positivity) (div_le_one_of_le₀ ?_ (by positivity))
    exact_mod_cast hle
  generalize shareList vs = shares at hall
  -- Induction on the shares: each has its percentage, so all of them have.
  induction shares with
  | nil => exact ⟨[], rfl⟩
  | cons p rest ih =>
    rw [List.forall_mem_cons] at hall
    obtain ⟨x, hx⟩ := hall.1
    obtain ⟨more, hmore⟩ := ih hall.2
    refine ⟨(p.1, x) :: more, ?_⟩
    rw [percentages] at hmore ⊢
    rw [List.mapM_cons, hmore]
    simp only [hx]
    rfl

/-- Exact statistics can be rounded if the average can. -/
theorem exists_shown {y : Float} (h : Json.nearest (report es).average = .ok y) :
    ∃ s, (report es).shown = .ok s := by
  have hle : (es.map fieldsOf).countP succeeded ≤ es.length := by
    simpa using List.countP_le_length (p := succeeded) (l := es.map fieldsOf)
  have hzero : 0 ≤ ((es.map fieldsOf).countP succeeded : ℚ) / es.length := by positivity
  have hone : ((es.map fieldsOf).countP succeeded : ℚ) / es.length ≤ 1 :=
    div_le_one_of_le₀ (by exact_mod_cast hle) (by positivity)
  obtain ⟨x, hx⟩ : ∃ x, percent (report es).success = .ok x := exists_percent hzero hone
  obtain ⟨actions, hactions⟩ : ∃ shown, percentages (report es).actions = .ok shown := exists_percentages _
  obtain ⟨kinds, hkinds⟩ : ∃ shown, percentages (report es).matchKinds = .ok shown := exists_percentages _
  rw [Report.shown, hx, h, hactions, hkinds]
  exact ⟨_, rfl⟩

/-! ## The last entries of a log -/

/-- The entries that count for the statistics of the last `n`. With a count of zero, nothing is left out. -/
def counting (n : Nat) (es : List Json) : List Json := if n = 0 then es else es.rtake n

theorem read_eq {d : Disk} {path text : List Char} (hfile : d.isFile path = true) (htext : d.readText path = .ok text)
    (n : Nat) : read d path n = statistics (counting n (entries text)) := by
  have hcounting : Text.sliceFrom (entries text) (-(n : Int)) = counting n (entries text) := by
    unfold Text.sliceFrom Text.clampBound counting
    by_cases hzero : n = 0
    · simp [hzero]
    · have hneg : -(n : Int) < 0 := by omega
      have hdrop : ((entries text).length + -(n : Int)).toNat = (entries text).length - n := by omega
      rw [if_pos hneg, if_neg hzero, hdrop, List.rtake]
  rw [read, hfile, htext, ← hcounting]
  rfl

theorem length_rtake {α : Type} (n : Nat) (l : List α) : (l.rtake n).length = min n l.length := by
  rw [List.rtake, List.length_drop]
  omega

/-- If the last items pass a test, they are the last of those that do. -/
theorem rtake_filter {α : Type} {p : α → Bool} {l : List α} {n : Nat} (h : ∀ a ∈ l.rtake n, p a = true) :
    (l.filter p).rtake n = l.rtake n := by
  have hsplit : l.rdrop n ++ l.rtake n = l := List.take_append_drop _ _
  have hkeep : (l.rtake n).filter p = l.rtake n := List.filter_eq_self.mpr h
  -- Either everything is taken, or the last `n` are what the filter leaves at the end.
  rcases Nat.lt_or_ge l.length n with hshort | hlong
  · have hall : l.rtake n = l := by
      rw [List.rtake, Nat.sub_eq_zero_of_le hshort.le, List.drop_zero]
    rw [hall] at hkeep ⊢
    rw [hkeep, hall]
  · have hlength : (l.rtake n).length = n := (length_rtake n l).trans (Nat.min_eq_left hlong)
    have hfilter : l.filter p = (l.rdrop n).filter p ++ l.rtake n := by
      conv_lhs => rw [← hsplit, List.filter_append, hkeep]
    rw [hfilter]
    generalize l.rtake n = last at hlength
    rw [List.rtake, List.length_append, hlength, Nat.add_sub_cancel, List.drop_left]

/-- Statistics of the last `n` entries of a log, which are `chosen`. They are there for objects only, and count every
one of them. If all of them are well-formed, they are there only if all values that are counted are simple, and then
they are the exact ones, rounded; nothing but an average that is too large for a floating-point number can keep them
from being there. Where `n` is not zero, such entries are the last `n` of those that are well-formed. -/
theorem read_report {d : Disk} {path text : List Char} (hfile : d.isFile path = true)
    (htext : d.readText path = .ok text) (n : Nat) {chosen : List Json}
    (hchosen : counting n (entries text) = chosen) :
    (∀ s, read d path n = .ok s → s.batches = chosen.length ∧ ∀ v ∈ chosen, ∃ fields, v = .obj fields) ∧
    ((∀ v ∈ chosen, wellFormed v = true) →
      (∀ s, read d path n = .ok s → ∀ v ∈ chosen, countable v = true) ∧
      ((∀ v ∈ chosen, countable v = true) → read d path n = (report chosen).shown ∧
        (|(report chosen).average| < 2 ^ 1023 → ∃ s, read d path n = .ok s)) ∧
      (n ≠ 0 → chosen = ((entries text).filter wellFormed).rtake n ∧
        chosen.length = min n ((entries text).countP wellFormed))) := by
  rw [read_eq hfile htext, hchosen]
  refine ⟨?_, fun hwell => ⟨?_, ?_, ?_⟩⟩
  · intro s hs
    obtain ⟨hbatches, entries, rfl, -⟩ := statistics_eq_ok hs
    refine ⟨hbatches, fun v hv => ?_⟩
    obtain ⟨fields, -, rfl⟩ := List.mem_map.mp hv
    exact ⟨fields, rfl⟩
  · exact fun s => countable_of_statistics hwell
  -- Well-formed entries with simple items have exact statistics, and a small average can be shown.
  · intro hcount
    have heq := statistics_eq hwell hcount
    refine ⟨heq, fun haverage => ?_⟩
    obtain ⟨y, hy⟩ := Json.exists_nearest (Nat.le_refl 1023) haverage
    rw [heq]
    exact exists_shown hy
  · intro hn
    rw [counting, if_neg hn] at hchosen
    subst hchosen
    have hlast := rtake_filter hwell
    refine ⟨hlast.symm, ?_⟩
    rw [← hlast, length_rtake, List.countP_eq_length_filter]

/-- A log with a line that is no JSON between two entries. -/
def damaged : List Char :=
  "\x7b\"edits\": 1, \"success\": true\x7d\n\x7b\n\x7b\"edits\": 2, \"actions\": [\"delete\", \"delete\"]\x7d".toList

/-- A log in a folder. -/
def logged (text : List Char) : Disk :=
  { entries := [(["p"], .folder), (["p", "log"], .file (Text.encode text))] }

/-- The last two entries of a damaged log are counted: how many edits and applied batches there are, and how often there
is which action. -/
theorem read_report_damaged :
    let d := logged damaged
    let chosen := counting 2 (entries damaged)
    d.isFile "/p/log".toList = true ∧ d.readText "/p/log".toList = .ok damaged ∧
      read d "/p/log".toList 2 = (report chosen).shown ∧ (∃ s, read d "/p/log".toList 2 = .ok s) ∧
      chosen.length = min 2 ((entries damaged).countP wellFormed) ∧ chosen.length = 2 ∧
      (report chosen).edits = 3 ∧ (report chosen).success = 1 / 2 ∧
      (report chosen).actions.map (·.2) = [1] := by
  intro d chosen
  have htext : d.readText "/p/log".toList = .ok damaged := Attempt.toOption_eq_some.mp (by decide +kernel)
  -- one evaluation reads the log once
  obtain ⟨hfile, hwell, hcount, haverage, hfacts⟩ : d.isFile "/p/log".toList = true ∧
      chosen.all wellFormed = true ∧ chosen.all countable = true ∧ (report chosen).average = 3 / 2 ∧
      chosen.length = 2 ∧ (report chosen).edits = 3 ∧ (report chosen).success = 1 / 2 ∧
      (report chosen).actions.map (·.2) = [1] := by decide +kernel
  obtain ⟨-, hread⟩ := read_report hfile htext 2 rfl
  obtain ⟨-, hshown, hlast⟩ := hread (List.all_eq_true.mp hwell)
  obtain ⟨heq, hbound⟩ := hshown (List.all_eq_true.mp hcount)
  have hsmall : |(report chosen).average| < 2 ^ 1023 := by
    have htwo : (2 : ℚ) ^ 1 ≤ 2 ^ 1023 := pow_le_pow_right₀ (by norm_num) (by decide)
    rw [haverage]
    refine lt_of_lt_of_le ?_ htwo
    norm_num
  exact ⟨hfile, htext, heq, hbound hsmall, (hlast (by decide)).2, hfacts⟩

/-- The last zero entries are all entries; and what is JSON but no entry is not passed over. -/
theorem read_report_zero :
    ((entries damaged).countP wellFormed = 2 ∧
      ((read (logged damaged) "/p/log".toList 0).map (·.batches)).toOption = some 2) ∧
    ((entries "[]".toList).countP wellFormed = 0 ∧
      read (logged "[]".toList) "/p/log".toList 5 = .error (.noAttribute "list" "get")) :=
  ⟨by decide +kernel, by decide +kernel, rfl⟩

end Emend.Metrics
