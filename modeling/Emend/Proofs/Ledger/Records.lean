import Mathlib
import Emend.Ledger.Basic

/-!
# The records of one file

What a ledger does to the change set of one file: recording puts changes behind those that are there,
dropping takes one out, and the sets of other files stay as they are. A ledger that `Tracks` a file is
described by the list of its pending changes alone.

Main statements:

* `nextIndex_spec`, `find_nextIndex`: the identifier of a new change is not in use.
* `Tracks.insert`, `Tracks.recordFrom`, `Tracks.record`: recording changes of the file.
* `Tracks.erase`, `Tracks.discard`: dropping one change and several of them.
* `Tracks.find_eq`: a pending change is found by its identifier.
-/

namespace Emend.Ledger

/-! ## Identifiers -/

theorem mem_ids_of_find {l : Ledger} {id : String} (h : (l.find id).isSome) : id ∈ l.ids := by
  obtain ⟨c, hc⟩ := Option.isSome_iff_exists.mp h
  obtain ⟨s, hs, hfind⟩ := List.exists_of_findSome?_eq_some hc
  have hid : c.id = id := by simpa using List.find?_some hfind
  exact List.mem_flatMap.mpr ⟨s, hs, List.mem_map.mpr ⟨c, List.mem_of_find?_eq_some hfind, hid⟩⟩

/-- A search that comes to a free identifier within its tries ends at the first one. -/
theorem freshFrom_eq (names : Nat → String) (l : Ledger) {tries index k : Nat} (hk : k < tries)
    (hfree : l.find (names (index + k)) = none) (hused : ∀ j < k, (l.find (names (index + j))).isSome) :
    freshFrom names l tries index = index + k := by
  -- each try that finds its identifier taken leaves one less, and the free one comes one step nearer
  induction tries generalizing index k with
  | zero => omega
  | succ tries ih =>
    rw [freshFrom]
    rcases k with _ | k
    · rw [Nat.add_zero] at hfree ⊢
      simp [hfree]
    · have hhere : (l.find (names index)).isSome := hused 0 (Nat.zero_lt_succ k)
      have hshift : ∀ j, index + 1 + j = index + (j + 1) := fun j => by omega
      rw [if_pos hhere, ih (Nat.lt_of_succ_lt_succ hk) (by rw [hshift]; exact hfree) fun j hj => by
        rw [hshift]
        exact hused (j + 1) (Nat.succ_lt_succ hj), hshift]

/-- The next identifier is the first that no pending change has, from the last one on that was given out. -/
theorem nextIndex_spec (names : Identifiers) (l : Ledger) : l.issued ≤ l.nextIndex names ∧
    l.find (names (l.nextIndex names)) = none ∧
      ∀ j, l.issued ≤ j → j < l.nextIndex names → (l.find (names j)).isSome := by
  -- some identifier within the tries is free, so there is a first one
  have hex : ∃ k, l.find (names (l.issued + k)) = none := by
    obtain ⟨k, -, hfree⟩ := names.free l.ids l.issued
    exact ⟨k, by simpa using fun hsome => hfree (mem_ids_of_find hsome)⟩
  have hfirst : ∀ j < Nat.find hex, (l.find (names (l.issued + j))).isSome := fun j hj =>
    Option.isSome_iff_ne_none.mpr (Nat.find_min hex hj)
  obtain ⟨k, hk, hfree⟩ := names.free l.ids l.issued
  have hle : Nat.find hex ≤ k := Nat.find_min' hex (by simpa using fun hsome => hfree (mem_ids_of_find hsome))
  have hindex : l.nextIndex names = l.issued + Nat.find hex :=
    freshFrom_eq names l (Nat.lt_of_le_of_lt hle hk) (Nat.find_spec hex) hfirst
  rw [hindex]
  refine ⟨Nat.le_add_right _ _, Nat.find_spec hex, ?_⟩
  intro j hj hlt
  obtain ⟨i, rfl⟩ := Nat.exists_eq_add_of_le hj
  exact hfirst i (by omega)

/-- No pending change has the identifier that the next change gets. -/
theorem find_nextIndex (l : Ledger) (names : Identifiers) : l.find (names (l.nextIndex names)) = none :=
  (nextIndex_spec names l).2.1

theorem le_nextIndex (l : Ledger) (names : Identifiers) : l.issued ≤ l.nextIndex names :=
  (nextIndex_spec names l).1

/-- Only one index is that of the first free identifier. -/
theorem nextIndex_eq {names : Identifiers} {l : Ledger} {k : Nat} (hle : l.issued ≤ k)
    (hfree : l.find (names k) = none) (hused : ∀ j, l.issued ≤ j → j < k → (l.find (names j)).isSome) :
    l.nextIndex names = k := by
  obtain ⟨hle', hfree', hused'⟩ := nextIndex_spec names l
  rcases Nat.lt_trichotomy (l.nextIndex names) k with hlt | heq | hlt
  · have hsome := hused _ hle' hlt
    simp [hfree'] at hsome
  · exact heq
  · have hsome := hused' k hle hlt
    simp [hfree] at hsome

/-- Identifiers that differ in their length. -/
def strokes : Identifiers :=
  .ofInjective (fun n => String.ofList (List.replicate n 'I')) fun h => by
    simpa using congrArg (fun s => s.toList.length) h

theorem strokes_injective : Function.Injective strokes.name := fun m n hmn => by
  have hlists := congrArg (fun s => s.toList.length) hmn
  simpa [strokes, Identifiers.ofInjective] using hlists

/-- Identifiers that each come twice. The second time is one try too early where the first is still taken. -/
def doubled : Identifiers where
  name := fun n => strokes (n / 2)
  tries := fun taken _ => 2 * taken.length + 3
  free := by
    intro taken index
    obtain ⟨k, hk, hfree⟩ := strokes.free taken ((index + 1) / 2)
    -- the free one comes at twice its place, which is at or behind the index
    refine ⟨2 * ((index + 1) / 2 + k) - index, ?_, ?_⟩
    · have hk' : k < taken.length + 1 := hk
      omega
    · have hplace : (index + (2 * ((index + 1) / 2 + k) - index)) / 2 = (index + 1) / 2 + k := by omega
      rw [hplace]
      exact hfree

/-! ## The set of one file -/

/-- Behind the sets of other files, the ledger holds the set of a file with the changes given; their
identifiers are known nowhere else. -/
structure Tracks (l : Ledger) (others : List ChangeSet) (path : String) (baseline : List Char)
    (changes : List PendingChange) : Prop where
  sets : l.sets = others ++ [⟨path, baseline, changes⟩]
  elsewhere : ∀ s ∈ others, s.path ≠ path
  unknown : ∀ c ∈ changes, ∀ s ∈ others, s.find c.id = none
  here : ∀ c ∈ changes, c.path = path
  distinct : (changes.map (·.id)).Nodup

variable {l : Ledger} {others : List ChangeSet} {path : String} {text : List Char}
  {changes : List PendingChange}

theorem Tracks.setOf (h : l.Tracks others path text changes) :
    l.setOf path = some ⟨path, text, changes⟩ := by
  have hnone : others.find? (·.path == path) = none := by
    rw [List.find?_eq_none]
    intro s hs
    simpa using h.elsewhere s hs
  rw [Ledger.setOf, h.sets, List.find?_append, hnone]
  simp

theorem Tracks.pending (h : l.Tracks others path text changes) : l.pending path = changes := by
  rw [Ledger.pending, h.setOf]
  rfl

theorem Tracks.baseline (h : l.Tracks others path text changes) : l.baseline path = some text := by
  rw [Ledger.baseline, h.setOf]
  rfl

/-- An identifier that the sets of other files do not know is looked up in the set of the file. -/
theorem Tracks.find_eq {id : String} (h : l.Tracks others path text changes)
    (hid : ∀ s ∈ others, s.find id = none) : l.find id = changes.find? (·.id == id) := by
  have hnone : others.findSome? (·.find id) = none := by
    rw [List.findSome?_eq_none_iff]
    exact hid
  rw [Ledger.find, h.sets, List.findSome?_append, hnone]
  simp [ChangeSet.find]

/-- A change is found by its identifier. -/
theorem Tracks.find {c : PendingChange} (h : l.Tracks others path text changes)
    (hc : c ∈ changes) : l.find c.id = some c := by
  rw [h.find_eq (h.unknown c hc), List.find?_eq_some_iff_append]
  obtain ⟨before, after, rfl⟩ := List.append_of_mem hc
  refine ⟨by simp, before, after, rfl, ?_⟩
  intro b hb
  have hnodup := h.distinct
  rw [List.map_append, List.nodup_append] at hnodup
  have hne := hnodup.2.2 b.id (List.mem_map_of_mem hb) c.id (by simp)
  simpa using hne

/-! ## Recording -/

theorem Tracks.openSet (h : l.Tracks others path text changes) (other : List Char) :
    l.openSet path other = l := by
  rw [Ledger.openSet, h.setOf]
  rfl

/-- The set of a file is opened behind those that are there. -/
theorem tracks_openSet (h : l.setOf path = none) (text : List Char) :
    (l.openSet path text).Tracks l.sets path text [] where
  sets := by simp [Ledger.openSet, h]
  elsewhere := by
    intro s hs
    have := List.find?_eq_none.mp h s hs
    simpa using this
  unknown := by simp
  here := by simp
  distinct := by simp

/-- A change with a new identifier comes behind the others. -/
theorem Tracks.insert {c : PendingChange} (issued : Nat) (h : l.Tracks others path text changes)
    (hnew : l.find c.id = none) (hpath : c.path = path) :
    (({ l with issued } : Ledger).insert c).Tracks others path text (changes ++ [c]) := by
  have hnone : ∀ s ∈ l.sets, s.find c.id = none := List.findSome?_eq_none_iff.mp hnew
  -- the sets of other files have other paths, so the change goes into none of them
  have hothers : others.map (fun s => if s.path == c.path then { s with changes := s.changes ++ [c] }
      else s) = others := by
    conv_rhs => rw [← List.map_id others]
    refine List.map_congr_left ?_
    intro s hs
    have := h.elsewhere s hs
    simp [hpath, this]
  refine ⟨?_, h.elsewhere, ?_, ?_, ?_⟩
  · rw [Ledger.insert, h.sets, List.map_append, hothers]
    simp [hpath]
  · intro d hd s hs
    rcases List.mem_append.mp hd with hd | hd
    · exact h.unknown d hd s hs
    · rw [List.mem_singleton.mp hd]
      exact hnone s (by rw [h.sets]; exact List.mem_append_left _ hs)
  · intro d hd
    rcases List.mem_append.mp hd with hd | hd
    · exact h.here d hd
    · rw [List.mem_singleton.mp hd, hpath]
  · -- a new identifier is none of those in the set
    have hother : changes.find? (·.id == c.id) = none := by
      have hset := hnone ⟨path, text, changes⟩ (by rw [h.sets]; simp)
      exact hset
    rw [List.map_append, List.nodup_append]
    refine ⟨h.distinct, by simp, ?_⟩
    intro id hid other hother' heq
    obtain ⟨d, hd, rfl⟩ := List.mem_map.mp hid
    have hc : other = c.id := by simpa using hother'
    have := List.find?_eq_none.mp hother d hd
    simp [heq, hc] at this

/-- What is recorded of a batch: the edits in their order, each with what the baseline has in its
range. -/
theorem recordFrom_edits (names : Identifiers) (path : String) (text : List Char)
    (description : String) (total number : Nat) (l : Ledger) (edits : List Edit) :
    (recordFrom names path text description total number l edits).1.map (·.edit) = edits ∧
      ∀ c ∈ (recordFrom names path text description total number l edits).1,
        c.replaced = baselineText text c.edit.range := by
  -- on the edits, with the ledger and the number of the next change as they are by then
  induction edits generalizing number l with
  | nil => simp [recordFrom]
  | cons e rest ih =>
    rw [recordFrom]
    obtain ⟨hedits, hreplaced⟩ := ih (number + 1) (({ l with
      issued := l.nextIndex names + 1 } : Ledger).insert {
        id := names (l.nextIndex names)
        path
        edit := e
        replaced := baselineText text e.range
        description := s!"{description} ({number}/{total})" })
    constructor
    · rw [List.map_cons, hedits]
    · rw [List.forall_mem_cons]
      exact ⟨rfl, hreplaced⟩

/-- The changes of a batch come behind those that are there. -/
theorem Tracks.recordFrom {names : Identifiers} (description : String)
    (total number : Nat) (edits : List Edit) (h : l.Tracks others path text changes) :
    (Ledger.recordFrom names path text description total number l edits).2.Tracks others path text
      (changes ++ (Ledger.recordFrom names path text description total number l edits).1) := by
  -- every change is put behind those before it, under an identifier that no other has
  induction edits generalizing number l changes with
  | nil => simpa [Ledger.recordFrom] using h
  | cons e rest ih =>
    rw [Ledger.recordFrom]
    have hnext := ih (number + 1) (h.insert (l.nextIndex names + 1) (c := {
        id := names (l.nextIndex names)
        path
        edit := e
        replaced := baselineText text e.range
        description := s!"{description} ({number}/{total})" }) (l.find_nextIndex names) rfl)
    rw [List.append_assoc, List.singleton_append] at hnext
    exact hnext

/-- The changes recorded for a file that is tracked. -/
theorem Tracks.record {names : Identifiers} (other : List Char)
    (edits : List Edit) (description : String) (h : l.Tracks others path text changes) :
    (l.record names path other edits description).2.Tracks others path text
        (changes ++ (l.record names path other edits description).1) ∧
      (l.record names path other edits description).1.map (·.edit) = edits ∧
        ∀ c ∈ (l.record names path other edits description).1,
          c.replaced = baselineText text c.edit.range := by
  -- the set is open already, so the text that is given is not used
  have hrecord : l.record names path other edits description
      = Ledger.recordFrom names path text description edits.length 1 l edits := by
    simp only [Ledger.record, h.openSet, h.baseline, Option.getD_some]
  rw [hrecord]
  exact ⟨h.recordFrom _ _ _ _, recordFrom_edits _ _ _ _ _ _ _ _⟩

/-- The changes recorded for a file that had no set. -/
theorem tracks_record {names : Identifiers} (text : List Char)
    (edits : List Edit) (description : String) (h : l.setOf path = none) :
    (l.record names path text edits description).2.Tracks l.sets path text
        (l.record names path text edits description).1 ∧
      (l.record names path text edits description).1.map (·.edit) = edits ∧
        ∀ c ∈ (l.record names path text edits description).1,
          c.replaced = baselineText text c.edit.range := by
  have hopen := tracks_openSet h text
  -- recording opens the set first; after that it is recording in a set that is open
  have hagain : l.record names path text edits description
      = (l.openSet path text).record names path text edits description := by
    rw [Ledger.record, Ledger.record, hopen.openSet]
  rw [hagain]
  exact hopen.record text edits description

/-! ## Dropping -/

theorem eraseFirst_append {id : String} {sets : List ChangeSet} (more : List ChangeSet)
    (h : ∀ s ∈ sets, s.find id = none) :
    eraseFirst id (sets ++ more) = sets ++ eraseFirst id more := by
  induction sets with
  | nil => rfl
  | cons s rest ih =>
    rw [List.forall_mem_cons] at h
    rw [List.cons_append, eraseFirst, h.1, ih h.2]
    rfl

/-- Dropping an identifier takes its change out of the set. -/
theorem Tracks.erase {id : String} (h : l.Tracks others path text changes)
    (hid : ∀ s ∈ others, s.find id = none) :
    (l.erase id).Tracks others path text (changes.filter (·.id != id)) := by
  have hsub : ∀ {c}, c ∈ changes.filter (·.id != id) → c ∈ changes :=
    fun hc => (List.mem_filter.mp hc).1
  refine ⟨?_, h.elsewhere, fun c hc => h.unknown c (hsub hc), fun c hc => h.here c (hsub hc), ?_⟩
  -- the identifier is in none of the other sets, so the search ends in the set of the file
  · rw [Ledger.erase, h.sets, eraseFirst_append _ hid]
    rcases hfind : (ChangeSet.mk path text changes).find id with _ | c
    · have hkeep : changes.filter (·.id != id) = changes := by
        rw [List.filter_eq_self]
        intro c hc
        have := List.find?_eq_none.mp hfind c hc
        simpa using this
      simp [eraseFirst, hfind, hkeep]
    · simp [eraseFirst, hfind, ChangeSet.erase]
  · exact h.distinct.sublist (List.filter_sublist.map _)

/-- The changes that have none of some identifiers. -/
def without (changes : List PendingChange) (ids : List String) : List PendingChange :=
  changes.filter fun c => !ids.contains c.id

theorem without_nil (changes : List PendingChange) : without changes [] = changes := by
  simp [without]

theorem without_cons (changes : List PendingChange) (id : String) (ids : List String) :
    without changes (id :: ids) = without (changes.filter (·.id != id)) ids := by
  rw [without, without, List.filter_filter]
  refine List.filter_congr ?_
  intro c _
  rw [List.contains_cons, Bool.not_or, Bool.and_comm]
  rfl

/-- Without the identifiers of all changes, none is left. -/
theorem without_all {changes order : List PendingChange} (h : ∀ c ∈ changes, c ∈ order) :
    without changes (order.map (·.id)) = [] := by
  rw [without, List.filter_eq_nil_iff]
  intro c hc
  simpa using ⟨c, h c hc, rfl⟩

/-- Without identifiers that no change has, all changes are left. -/
theorem without_eq_self {changes : List PendingChange} {ids : List String}
    (h : ∀ c ∈ changes, c.id ∉ ids) : without changes ids = changes := by
  rw [without, List.filter_eq_self]
  intro c hc
  simpa using h c hc

/-- Changes go from behind others by their identifiers. -/
theorem without_append_self {changes more : List PendingChange}
    (h : ∀ c ∈ changes, c.id ∉ more.map (·.id)) :
    without (changes ++ more) (more.map (·.id)) = changes := by
  have hmore : without more (more.map (·.id)) = [] := without_all fun c hc => hc
  have hkeep : without changes (more.map (·.id)) = changes := without_eq_self h
  rw [without, List.filter_append, ← without, ← without, hkeep, hmore, List.append_nil]

/-- What does not have an identifier is left without it. -/
theorem subset_filter_id {changes rest : List PendingChange} {id : String} (hsub : rest ⊆ changes)
    (hid : id ∉ rest.map (·.id)) : rest ⊆ changes.filter (·.id != id) := by
  intro c hc
  have hne : c.id ≠ id := fun heq => hid (heq ▸ List.mem_map_of_mem hc)
  exact List.mem_filter.mpr ⟨hsub hc, by simpa using hne⟩

/-- Changes are those that are taken out and those that are left. -/
theorem perm_append_without {changes order : List PendingChange}
    (hdistinct : (changes.map (·.id)).Nodup) (hsub : order ⊆ changes)
    (honce : (order.map (·.id)).Nodup) :
    changes.Perm (order ++ without changes (order.map (·.id))) := by
  -- identifiers tell the changes apart, so those with an identifier of the list are those in the list
  have hgone : (changes.filter fun c => (order.map (·.id)).contains c.id).Perm order := by
    refine (List.perm_ext_iff_of_nodup (hdistinct.of_map.filter _) honce.of_map).mpr ?_
    intro c
    rw [List.mem_filter, List.contains_iff_mem]
    constructor
    · rintro ⟨hc, hid⟩
      obtain ⟨d, hd, heq⟩ := List.mem_map.mp hid
      rwa [List.inj_on_of_nodup_map hdistinct hc (hsub hd) heq.symm]
    · intro hc
      exact ⟨hsub hc, List.mem_map_of_mem hc⟩
  have hsplit := List.filter_append_perm (fun c => (order.map (·.id)).contains c.id) changes
  exact hsplit.symm.trans (hgone.append_right _)

/-- Without the first identifiers, the changes behind them are left. -/
theorem without_take {changes : List PendingChange} (h : (changes.map (·.id)).Nodup) (k : Nat) :
    without changes ((changes.take k).map (·.id)) = changes.drop k := by
  rw [← List.take_append_drop k changes, List.map_append, List.nodup_append] at h
  conv_lhs => rw [without]; arg 2; rw [← List.take_append_drop k changes]
  rw [List.filter_append]
  have hfirst : (changes.take k).filter
      (fun c => !((changes.take k).map (·.id)).contains c.id) = [] :=
    without_all fun c hc => hc
  -- an identifier of the first changes is none of the last ones
  have hlast : (changes.drop k).filter
      (fun c => !((changes.take k).map (·.id)).contains c.id) = changes.drop k :=
    without_eq_self fun c hc hmem => h.2.2 c.id hmem c.id (List.mem_map_of_mem hc) rfl
  rw [hfirst, hlast, List.nil_append]

/-- Dropping some identifiers leaves the changes that have none of them. -/
theorem Tracks.discard (ids : List String) (h : l.Tracks others path text changes)
    (hid : ∀ id ∈ ids, ∀ s ∈ others, s.find id = none) :
    (l.discard ids).Tracks others path text (without changes ids) := by
  -- on the identifiers that are dropped, one after the other
  induction ids generalizing l changes with
  | nil =>
    rw [without_nil]
    exact h
  | cons id rest ih =>
    rw [List.forall_mem_cons] at hid
    rw [without_cons]
    exact ih (h.erase hid.1) hid.2

end Emend.Ledger
