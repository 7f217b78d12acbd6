import Emend.Proofs.Ledger.Records

/-!
# Sound ledgers

In a sound ledger every file has one set, no identifier occurs twice, and every change stands in the set of
its file with what the baseline of that set has in the range of its edit. Each operation keeps a ledger
sound, and is described by what it does to the set of each file (`setOf_record`, `Sound.setOf_discard`,
`setOf_clear`).

Main statements:

* `setOf_record`, `Sound.setOf_discard`, `setOf_clear`: what an operation does to the set of each file.
* `Sound.insert`, `Sound.recordFrom`, `Sound.shrink`, `Sound.discard`: and that it keeps the ledger sound.
* `Sound.find`, `Sound.eq_of_find`: a change is found in the set of its file and nowhere else.
-/

namespace Emend

namespace ChangeSet

variable {s : ChangeSet} {id : String}

theorem find_eq_none_iff : s.find id = none ↔ ∀ c ∈ s.changes, c.id ≠ id := by
  simp [find]

/-- A set that does not know an identifier is left alone. -/
theorem erase_eq_self (h : s.find id = none) : s.erase id = s := by
  have hkeep : s.changes.filter (·.id != id) = s.changes := by
    rw [List.filter_eq_self]
    intro c hc
    simpa using find_eq_none_iff.mp h c hc
  rw [erase, hkeep]

/-- The set with more changes, if it is the set of a file. -/
def extend (s : ChangeSet) (path : String) (more : List PendingChange) : ChangeSet :=
  if s.path = path then { s with changes := s.changes ++ more } else s

@[simp] theorem path_extend (s : ChangeSet) (path : String) (more : List PendingChange) :
    (s.extend path more).path = s.path := by
  unfold extend
  split <;> rfl

@[simp] theorem baseline_extend (s : ChangeSet) (path : String) (more : List PendingChange) :
    (s.extend path more).baseline = s.baseline := by
  unfold extend
  split <;> rfl

theorem extend_nil (s : ChangeSet) (path : String) : s.extend path [] = s := by
  unfold extend
  split
  · rw [List.append_nil]
  · rfl

theorem extend_extend (s : ChangeSet) (path : String) (more rest : List PendingChange) :
    (s.extend path more).extend path rest = s.extend path (more ++ rest) := by
  by_cases h : s.path = path
  · simp [extend, h]
  · simp [extend, h]

theorem changes_extend_of_eq {path : String} (h : s.path = path) (more : List PendingChange) :
    (s.extend path more).changes = s.changes ++ more := by
  simp [extend, h]

theorem extend_of_ne {path : String} (h : s.path ≠ path) (more : List PendingChange) :
    s.extend path more = s := by
  simp [extend, h]

end ChangeSet

namespace Ledger

variable {l : Ledger} {path other : String} {id : String} {s t : ChangeSet}

/-! ## The set of a file -/

theorem mem_of_setOf (h : l.setOf path = some s) : s ∈ l.sets ∧ s.path = path :=
  ⟨List.mem_of_find?_eq_some h, by simpa using List.find?_some h⟩

/-- What is done to every set alike is done to the set of a file. -/
theorem setOf_map {f : ChangeSet → ChangeSet} (hf : ∀ s, (f s).path = s.path) (l : Ledger)
    (path : String) : ({ l with sets := l.sets.map f } : Ledger).setOf path
      = (l.setOf path).map f := by
  have hsame : (fun s => (f s).path == path) = (fun s : ChangeSet => s.path == path) := by
    funext s
    rw [hf]
  simp [setOf, List.find?_map, hsame]

theorem setOf_openSet (l : Ledger) (path other : String) (text : List Char) :
    (l.openSet path text).setOf other
      = if path = other then some ((l.setOf path).getD ⟨path, text, []⟩) else l.setOf other := by
  rcases hset : l.setOf path with _ | s
  · have hopen : l.openSet path text = { l with sets := l.sets ++ [⟨path, text, []⟩] } := by
      simp [openSet, hset]
    rw [hopen, setOf, List.find?_append, ← setOf]
    by_cases h : path = other
    · subst h
      simp [hset]
    · simp [h]
  -- the set is open already
  · have hopen : l.openSet path text = l := by simp [openSet, hset]
    rw [hopen]
    by_cases h : path = other
    · subst h
      simp [hset]
    · simp [h]

theorem ids_openSet (l : Ledger) (path : String) (text : List Char) :
    (l.openSet path text).ids = l.ids := by
  unfold Ledger.openSet
  split
  · rfl
  · simp [Ledger.ids]

theorem insert_eq (l : Ledger) (c : PendingChange) :
    l.insert c = { l with sets := l.sets.map (·.extend c.path [c]) } := by
  unfold insert ChangeSet.extend
  simp only [beq_iff_eq]

/-- Recording puts the new changes of a file into its set. -/
theorem recordFrom_sets (names : Identifiers) (path : String) (text : List Char)
    (description : String) (total number : Nat) (l : Ledger) (edits : List Edit) :
    (recordFrom names path text description total number l edits).2.sets = l.sets.map
      (·.extend path (recordFrom names path text description total number l edits).1) := by
  -- one change after the other goes into the set of the file
  induction edits generalizing number l with
  | nil => simp [recordFrom, ChangeSet.extend_nil]
  | cons e rest ih =>
    rw [recordFrom]
    simp only [ih, insert_eq, List.map_map]
    refine List.map_congr_left ?_
    intro s _
    exact s.extend_extend path _ _

/-- The changes that recording adds to the set of a file. -/
theorem setOf_record (names : Identifiers) (l : Ledger) (path other : String) (text : List Char)
    (edits : List Edit) (description : String) :
    (l.record names path text edits description).2.setOf other = if path = other then
      some (((l.setOf path).getD ⟨path, text, []⟩).extend path
        (l.record names path text edits description).1) else l.setOf other := by
  rw [record]
  have hsets := recordFrom_sets names path (((l.openSet path text).baseline path).getD [])
    description edits.length 1 (l.openSet path text) edits
  have hmap := setOf_map (fun s => s.path_extend path (recordFrom names path
    (((l.openSet path text).baseline path).getD []) description edits.length 1
      (l.openSet path text) edits).1) (l.openSet path text) other
  rw [setOf, hsets]
  refine hmap.trans ?_
  rw [setOf_openSet]
  by_cases h : path = other
  · simp [h]
  -- a set of another file is not extended
  · simp only [h, if_false]
    rcases hset : l.setOf other with _ | s
    · rfl
    · have hne : s.path ≠ path := by
        rw [(mem_of_setOf hset).2]
        exact fun heq => h heq.symm
      simp [ChangeSet.extend_of_ne hne]

theorem setOf_clear (l : Ledger) (path other : String) :
    (l.clear path).setOf other = if path = other then none else l.setOf other := by
  rw [clear, setOf, List.find?_filter]
  by_cases h : path = other
  · subst h
    simp
  -- dropping sets of one path makes no difference to the search for another
  · have hsame : (fun s : ChangeSet => decide ((s.path != path) = true ∧ (s.path == other) = true))
        = (fun s : ChangeSet => s.path == other) := by
      funext s
      by_cases hs : s.path = other
      · simp [hs, Ne.symm h]
      · simp [hs]
    simp only [h, if_false, hsame]
    rfl

/-! ## Soundness -/

/-- Every file has one set, every change has an identifier of its own, and stands in the set of its file
with what the baseline has in its range. -/
structure Sound (l : Ledger) : Prop where
  paths : (l.sets.map (·.path)).Nodup
  ids : l.ids.Nodup
  here : ∀ s ∈ l.sets, ∀ c ∈ s.changes, c.path = s.path
  replaced : ∀ s ∈ l.sets, ∀ c ∈ s.changes, c.replaced = baselineText s.baseline c.edit.range

theorem sound_of_sets_nil (h : l.sets = []) : l.Sound where
  paths := by simp [h]
  ids := by simp [Ledger.ids, h]
  here := by simp [h]
  replaced := by simp [h]

theorem mem_ids : id ∈ l.ids ↔ ∃ s ∈ l.sets, ∃ c ∈ s.changes, c.id = id := by
  simp [ids]

theorem ids_nodup_iff : l.ids.Nodup ↔ (∀ s ∈ l.sets, (s.changes.map (·.id)).Nodup) ∧
    l.sets.Pairwise fun s t => (s.changes.map (·.id)).Disjoint (t.changes.map (·.id)) := by
  rw [ids, List.nodup_flatMap]

theorem find_eq_none_iff : l.find id = none ↔ id ∉ l.ids := by
  rw [find, List.findSome?_eq_none_iff, mem_ids]
  constructor
  · rintro h ⟨s, hs, c, hc, hid⟩
    exact ChangeSet.find_eq_none_iff.mp (h s hs) c hc hid
  · intro h s hs
    rw [ChangeSet.find_eq_none_iff]
    intro c hc hid
    exact h ⟨s, hs, c, hc, hid⟩

/-- Each set is the set of its file. -/
theorem Sound.setOf (h : l.Sound) (hs : s ∈ l.sets) : l.setOf s.path = some s := by
  rcases hfind : l.setOf s.path with _ | t
  · have := List.find?_eq_none.mp hfind s hs
    simp at this
  · obtain ⟨ht, hpath⟩ := mem_of_setOf hfind
    rw [List.inj_on_of_nodup_map h.paths ht hs hpath]

/-- Each change is found by its identifier in its set. -/
theorem Sound.find {c : PendingChange} (h : l.Sound) (hs : s ∈ l.sets) (hc : c ∈ s.changes) :
    s.find c.id = some c := by
  rcases hfind : s.find c.id with _ | d
  · exact absurd rfl (ChangeSet.find_eq_none_iff.mp hfind c hc)
  · have hd : d ∈ s.changes := List.mem_of_find?_eq_some hfind
    have hid : d.id = c.id := by simpa using List.find?_some hfind
    rw [List.inj_on_of_nodup_map ((ids_nodup_iff.mp h.ids).1 s hs) hd hc hid]

/-- No two sets know one identifier. -/
theorem Sound.eq_of_find (h : l.Sound) (hs : s ∈ l.sets) (ht : t ∈ l.sets)
    (hfind : (s.find id).isSome) (hfind' : (t.find id).isSome) : s = t := by
  obtain ⟨c, hc⟩ := Option.isSome_iff_exists.mp hfind
  obtain ⟨d, hd⟩ := Option.isSome_iff_exists.mp hfind'
  by_contra hne
  have hsymm : Std.Symm fun s t : ChangeSet =>
      (s.changes.map (·.id)).Disjoint (t.changes.map (·.id)) := ⟨fun _ _ h => h.symm⟩
  -- two sets share no identifier, so one that both know makes them one
  have hdisjoint := (ids_nodup_iff.mp h.ids).2.forall hs ht hne
  have hcid : c.id = id := by simpa using List.find?_some hc
  have hdid : d.id = id := by simpa using List.find?_some hd
  exact hdisjoint (List.mem_map.mpr ⟨c, List.mem_of_find?_eq_some hc, hcid⟩)
    (List.mem_map.mpr ⟨d, List.mem_of_find?_eq_some hd, hdid⟩)

/-! ## Opening and recording -/

theorem Sound.openSet (h : l.Sound) (path : String) (text : List Char) :
    (l.openSet path text).Sound := by
  rcases hset : l.setOf path with _ | s
  · have hopen : l.openSet path text = { l with sets := l.sets ++ [⟨path, text, []⟩] } := by
      simp [Ledger.openSet, hset]
    -- a new set is opened only where no set has this path
    have hnone : ∀ s ∈ l.sets, s.path ≠ path := by
      intro s hs
      simpa using List.find?_eq_none.mp hset s hs
    rw [hopen]
    refine ⟨?_, ?_, ?_, ?_⟩
    · simp only [List.map_append, List.map_cons, List.map_nil]
      rw [List.nodup_append]
      refine ⟨h.paths, List.nodup_singleton path, ?_⟩
      rintro p hp q hq rfl
      obtain ⟨s, hs, rfl⟩ := List.mem_map.mp hp
      exact hnone s hs (List.mem_singleton.mp hq)
    · simpa [Ledger.ids] using h.ids
    · simpa [or_imp, forall_and] using h.here
    · simpa [or_imp, forall_and] using h.replaced
  · have hopen : l.openSet path text = l := by simp [Ledger.openSet, hset]
    rw [hopen]
    exact h

/-- A change with a new identifier, and with the text that the baseline of its file has in its range, can
be put into the set of the file. -/
theorem Sound.insert {c : PendingChange} (h : l.Sound) (hnew : l.find c.id = none)
    (hreplaced : ∀ s ∈ l.sets, s.path = c.path →
      c.replaced = baselineText s.baseline c.edit.range) : (l.insert c).Sound := by
  -- what stands in a set afterwards stood there before, or is the change in the set of its file
  have hmem : ∀ {s : ChangeSet} {d}, d ∈ (s.extend c.path [c]).changes →
      d ∈ s.changes ∨ (d = c ∧ s.path = c.path) := by
    intro s d hd
    by_cases hs : s.path = c.path
    · rw [ChangeSet.changes_extend_of_eq hs, List.mem_append, List.mem_singleton] at hd
      exact hd.imp id fun heq => ⟨heq, hs⟩
    · rw [ChangeSet.extend_of_ne hs] at hd
      exact Or.inl hd
  rw [find_eq_none_iff, mem_ids] at hnew
  -- the identifier is new, so no set knows it
  have hunknown : ∀ s ∈ l.sets, c.id ∉ s.changes.map (·.id) := by
    rintro s hs hid
    obtain ⟨d, hd, heq⟩ := List.mem_map.mp hid
    exact hnew ⟨s, hs, d, hd, heq⟩
  rw [insert_eq]
  refine ⟨?_, ?_, ?_, ?_⟩
  · simpa [Function.comp_def] using h.paths
  · obtain ⟨hnodup, hdisjoint⟩ := ids_nodup_iff.mp h.ids
    rw [ids_nodup_iff]
    constructor
    · intro s' hs'
      obtain ⟨s, hs, rfl⟩ := List.mem_map.mp hs'
      by_cases hpath : s.path = c.path
      · rw [ChangeSet.changes_extend_of_eq hpath, List.map_append, List.nodup_append]
        refine ⟨hnodup s hs, List.nodup_singleton c.id, ?_⟩
        rintro id hid other hother rfl
        have hother' : id = c.id := List.mem_singleton.mp hother
        exact hunknown s hs (hother' ▸ hid)
      · rw [ChangeSet.extend_of_ne hpath]
        exact hnodup s hs
    · -- of two sets, only one can be the set of the file
      have hpaths : l.sets.Pairwise fun s t => s.path ≠ t.path := List.pairwise_map.mp h.paths
      rw [List.pairwise_map]
      refine (hdisjoint.and hpaths).imp_of_mem ?_
      rintro s t hs ht ⟨hst, hne⟩ id hid hid'
      obtain ⟨d, hd, rfl⟩ := List.mem_map.mp hid
      obtain ⟨e, he, heq⟩ := List.mem_map.mp hid'
      rcases hmem hd with hds | ⟨hdc, hspath⟩
      · rcases hmem he with het | ⟨hec, -⟩
        · exact hst (List.mem_map_of_mem hds) (List.mem_map.mpr ⟨e, het, heq⟩)
        · exact hunknown s hs (List.mem_map.mpr ⟨d, hds, by rw [← heq, hec]⟩)
      · rcases hmem he with het | ⟨-, htpath⟩
        · exact hunknown t ht (List.mem_map.mpr ⟨e, het, by rw [heq, hdc]⟩)
        · exact hne (hspath.trans htpath.symm)
  · intro s' hs' d hd
    obtain ⟨s, hs, rfl⟩ := List.mem_map.mp hs'
    rw [ChangeSet.path_extend]
    rcases hmem hd with hd | ⟨rfl, hpath⟩
    · exact h.here s hs d hd
    · exact hpath.symm
  · intro s' hs' d hd
    obtain ⟨s, hs, rfl⟩ := List.mem_map.mp hs'
    rw [ChangeSet.baseline_extend]
    rcases hmem hd with hd | ⟨rfl, hpath⟩
    · exact h.replaced s hs d hd
    · exact hreplaced s hs hpath

/-- The changes of a batch are new, and none of them has the identifier of another. -/
theorem Sound.recordFrom {names : Identifiers} {text : List Char}
    (description : String) (total number : Nat) (edits : List Edit) (h : l.Sound)
    (hbase : ∀ s ∈ l.sets, s.path = path → s.baseline = text) :
    (Ledger.recordFrom names path text description total number l edits).2.Sound ∧
      ∀ c ∈ (Ledger.recordFrom names path text description total number l edits).1,
        c.id ∉ l.ids := by
  induction edits generalizing number l with
  | nil => exact ⟨h, by simp [Ledger.recordFrom]⟩
  | cons e rest ih =>
    rw [Ledger.recordFrom]
    have hinsert : (({ l with issued := l.nextIndex names + 1 } : Ledger).insert {
        id := names (l.nextIndex names)
        path
        edit := e
        replaced := baselineText text e.range
        description := s!"{description} ({number}/{total})" }).Sound := by
      refine Sound.insert ⟨h.paths, h.ids, h.here, h.replaced⟩ (l.find_nextIndex names) ?_
      intro s hs hpath
      rw [hbase s hs hpath]
    -- the identifiers of the rest are new to a ledger that knows the first change already
    obtain ⟨hsound, hids⟩ := ih (number + 1) hinsert (by
      intro s' hs' hpath
      rw [insert_eq] at hs'
      obtain ⟨s, hs, rfl⟩ := List.mem_map.mp hs'
      rw [ChangeSet.path_extend] at hpath
      rw [ChangeSet.baseline_extend, hbase s hs hpath])
    refine ⟨hsound, ?_⟩
    rw [List.forall_mem_cons]
    refine ⟨find_eq_none_iff.mp (l.find_nextIndex names), ?_⟩
    intro c hc hid
    refine hids c hc ?_
    obtain ⟨s, hs, d, hd, heq⟩ := mem_ids.mp hid
    refine mem_ids.mpr ⟨_, by rw [insert_eq]; exact List.mem_map_of_mem hs, d, ?_, heq⟩
    unfold ChangeSet.extend
    split
    · exact List.mem_append_left _ hd
    · exact hd

theorem Sound.record {names : Identifiers} (h : l.Sound) (path : String)
    (text : List Char) (edits : List Edit) (description : String) :
    (l.record names path text edits description).2.Sound ∧
      ∀ c ∈ (l.record names path text edits description).1, c.id ∉ l.ids := by
  have hopen := h.openSet path text
  -- the changes get what the baseline of the open set has, whatever text was given
  have hbase : ∀ s ∈ (l.openSet path text).sets, s.path = path →
      s.baseline = ((l.openSet path text).baseline path).getD [] := by
    rintro s hs rfl
    rw [Ledger.baseline, hopen.setOf hs]
    rfl
  obtain ⟨hsound, hmore⟩ := hopen.recordFrom description edits.length 1 edits hbase
  rw [ids_openSet] at hmore
  exact ⟨hsound, hmore⟩

/-! ## Dropping -/

/-- A ledger stays sound where sets lose changes, or whole sets go. -/
theorem Sound.shrink {sets : List ChangeSet} {f : ChangeSet → ChangeSet} (h : l.Sound)
    (hsets : sets.Sublist l.sets) (hpath : ∀ s, (f s).path = s.path)
    (hbaseline : ∀ s, (f s).baseline = s.baseline)
    (hchanges : ∀ s, (f s).changes.Sublist s.changes) :
    ({ l with sets := sets.map f } : Ledger).Sound where
  paths := by
    simp only [List.map_map, Function.comp_def, hpath]
    exact h.paths.sublist (hsets.map _)
  ids := by
    obtain ⟨hnodup, hdisjoint⟩ := ids_nodup_iff.mp h.ids
    rw [ids_nodup_iff]
    constructor
    · intro s' hs'
      obtain ⟨s, hs, rfl⟩ := List.mem_map.mp hs'
      exact (hnodup s (hsets.subset hs)).sublist ((hchanges s).map _)
    · rw [List.pairwise_map]
      refine (hdisjoint.sublist hsets).imp ?_
      intro s t hst id hid hid'
      -- what is left in two sets was in them before
      exact hst (((hchanges s).map _).subset hid) (((hchanges t).map _).subset hid')
  here := by
    intro s' hs' c hc
    obtain ⟨s, hs, rfl⟩ := List.mem_map.mp hs'
    rw [hpath]
    exact h.here s (hsets.subset hs) c ((hchanges s).subset hc)
  replaced := by
    intro s' hs' c hc
    obtain ⟨s, hs, rfl⟩ := List.mem_map.mp hs'
    rw [hbaseline]
    exact h.replaced s (hsets.subset hs) c ((hchanges s).subset hc)

/-- Where no two sets know an identifier, dropping it from the first that does drops it everywhere. -/
theorem eraseFirst_eq_map {sets : List ChangeSet}
    (h : sets.Pairwise fun s t => (s.changes.map (·.id)).Disjoint (t.changes.map (·.id)))
    (id : String) : eraseFirst id sets = sets.map (·.erase id) := by
  induction sets with
  | nil => rfl
  | cons s rest ih =>
    rw [List.pairwise_cons] at h
    rw [eraseFirst, List.map_cons]
    rcases hfind : s.find id with _ | c
    · simp [ChangeSet.erase_eq_self hfind, ih h.2]
    · -- the identifier is known here, so to none of the sets behind
      have hrest : rest.map (·.erase id) = rest := by
        conv_rhs => rw [← List.map_id rest]
        refine List.map_congr_left ?_
        intro t ht
        apply ChangeSet.erase_eq_self
        rw [ChangeSet.find_eq_none_iff]
        intro d hd hid
        have hcid : c.id = id := by simpa using List.find?_some hfind
        exact h.1 t ht (List.mem_map.mpr ⟨c, List.mem_of_find?_eq_some hfind, hcid⟩)
          (List.mem_map.mpr ⟨d, hd, hid⟩)
      simp [hrest]

theorem Sound.erase_eq (h : l.Sound) (id : String) :
    l.erase id = { l with sets := l.sets.map (·.erase id) } := by
  rw [Ledger.erase, eraseFirst_eq_map (ids_nodup_iff.mp h.ids).2]

theorem Sound.erase (h : l.Sound) (id : String) : (l.erase id).Sound := by
  rw [h.erase_eq]
  exact h.shrink (List.Sublist.refl _) (fun _ => rfl) (fun _ => rfl) fun _ => List.filter_sublist

theorem Sound.setOf_erase (h : l.Sound) (id path : String) :
    (l.erase id).setOf path = (l.setOf path).map (·.erase id) := by
  rw [h.erase_eq]
  exact setOf_map (f := (·.erase id)) (fun _ => rfl) l path

theorem Sound.discard (h : l.Sound) (ids : List String) : (l.discard ids).Sound := by
  induction ids generalizing l with
  | nil => exact h
  | cons id rest ih => exact ih (h.erase id)

/-- Discarding takes the changes of some identifiers out of every set. -/
theorem Sound.sets_discard (h : l.Sound) (ids : List String) :
    (l.discard ids).sets = l.sets.map fun s => { s with changes := without s.changes ids } := by
  induction ids generalizing l with
  | nil => simp [Ledger.discard, without_nil]
  | cons id rest ih =>
    have hrest := ih (h.erase id)
    rw [h.erase_eq, List.map_map] at hrest
    rw [Ledger.discard, List.foldl_cons, ← Ledger.discard, h.erase_eq, hrest]
    refine List.map_congr_left fun s _ => ?_
    simp [ChangeSet.erase, without_cons]

theorem Sound.setOf_discard (h : l.Sound) (ids : List String) (path : String) :
    (l.discard ids).setOf path
      = (l.setOf path).map fun s => { s with changes := without s.changes ids } := by
  rw [Ledger.setOf, h.sets_discard]
  exact setOf_map (f := fun s => { s with changes := without s.changes ids }) (fun _ => rfl) l path

theorem Sound.clear (h : l.Sound) (path : String) : (l.clear path).Sound := by
  have hshrink := h.shrink (f := id) (List.filter_sublist (p := (·.path != path)))
    (fun _ => rfl) (fun _ => rfl) fun _ => List.Sublist.refl _
  rwa [List.map_id] at hshrink

/-! ## Files with a change set -/

/-- No other file has a change set than these. -/
def Within (seen : String → Prop) (l : Ledger) : Prop := ∀ path, (l.setOf path).isSome → seen path

variable {seen : String → Prop}

theorem within_of_sets_nil (h : l.sets = []) : l.Within seen := by
  intro path hset
  simp [setOf, h] at hset

theorem Within.record (h : l.Within seen) (hpath : seen path) (names : Identifiers) (text : List Char)
    (edits : List Edit) (description : String) : (l.record names path text edits description).2.Within seen := by
  intro other hset
  rw [setOf_record] at hset
  split at hset
  · rename_i heq
    exact heq ▸ hpath
  · exact h other hset

theorem Within.erase (h : l.Within seen) (hsound : l.Sound) (id : String) : (l.erase id).Within seen := by
  intro other hset
  rw [hsound.setOf_erase, Option.isSome_map] at hset
  exact h other hset

theorem Within.discard (h : l.Within seen) (hsound : l.Sound) (ids : List String) :
    (l.discard ids).Within seen := by
  intro other hset
  rw [hsound.setOf_discard, Option.isSome_map] at hset
  exact h other hset

theorem Within.clear (h : l.Within seen) (path : String) : (l.clear path).Within seen := by
  intro other hset
  rw [setOf_clear] at hset
  split at hset
  · simp at hset
  · exact h other hset

/-- A change that is found is one of a file that has a change set. -/
theorem Within.find {c : PendingChange} (h : l.Within seen) (hsound : l.Sound) (hfind : l.find id = some c) :
    seen c.path := by
  obtain ⟨s, hs, hc⟩ := List.exists_of_findSome?_eq_some hfind
  refine h c.path ?_
  rw [hsound.here s hs c (List.mem_of_find?_eq_some hc), hsound.setOf hs]
  rfl

/-! ## Identifiers that are given out -/

theorem mem_ids_of_insert {c : PendingChange} (h : id ∈ (l.insert c).ids) :
    id ∈ l.ids ∨ id = c.id := by
  rw [insert_eq, mem_ids] at h
  obtain ⟨s', hs', d, hd, rfl⟩ := h
  obtain ⟨s, hs, rfl⟩ := List.mem_map.mp hs'
  by_cases hpath : s.path = c.path
  · rw [ChangeSet.changes_extend_of_eq hpath, List.mem_append, List.mem_singleton] at hd
    rcases hd with hd | rfl
    · exact Or.inl (mem_ids.mpr ⟨s, hs, d, hd, rfl⟩)
    · exact Or.inr rfl
  -- another set has the changes that it had
  · rw [ChangeSet.extend_of_ne hpath] at hd
    exact Or.inl (mem_ids.mpr ⟨s, hs, d, hd, rfl⟩)

/-- New changes get identifiers that were not given out before. -/
theorem ids_recordFrom (names : Identifiers) (path : String) (text : List Char)
    (description : String) (total number : Nat) (l : Ledger) (edits : List Edit) :
    l.issued ≤ (recordFrom names path text description total number l edits).2.issued ∧
      ∀ id ∈ (recordFrom names path text description total number l edits).2.ids,
        id ∈ l.ids ∨ ∃ k, l.issued ≤ k ∧
          k < (recordFrom names path text description total number l edits).2.issued ∧
          id = names k := by
  induction edits generalizing number l with
  | nil => exact ⟨Nat.le_refl l.issued, fun id hid => Or.inl hid⟩
  | cons e rest ih =>
    have hnext : l.issued ≤ l.nextIndex names := l.le_nextIndex names
    obtain ⟨hissued, hids⟩ := ih (number + 1) (({ l with
      issued := l.nextIndex names + 1 } : Ledger).insert {
        id := names (l.nextIndex names)
        path
        edit := e
        replaced := baselineText text e.range
        description := s!"{description} ({number}/{total})" })
    -- the first change takes the next identifier, and the rest is recorded behind it
    rw [recordFrom]
    refine ⟨(hnext.trans (Nat.le_succ _)).trans hissued, ?_⟩
    intro id hid
    rcases hids id hid with hid | ⟨k, hk, hlt, heq⟩
    · rcases mem_ids_of_insert hid with hid | heq
      · exact Or.inl hid
      · exact Or.inr ⟨l.nextIndex names, hnext, hissued, heq⟩
    · exact Or.inr ⟨k, (hnext.trans (Nat.le_succ _)).trans hk, hlt, heq⟩

theorem issued_openSet (l : Ledger) (path : String) (text : List Char) :
    (l.openSet path text).issued = l.issued := by
  unfold openSet
  split <;> rfl

theorem ids_record (names : Identifiers) (l : Ledger) (path : String) (text : List Char)
    (edits : List Edit) (description : String) :
    l.issued ≤ (l.record names path text edits description).2.issued ∧
      ∀ id ∈ (l.record names path text edits description).2.ids,
        id ∈ l.ids ∨ ∃ k, l.issued ≤ k ∧
          k < (l.record names path text edits description).2.issued ∧ id = names k := by
  have h := ids_recordFrom names path (((l.openSet path text).baseline path).getD []) description
    edits.length 1 (l.openSet path text) edits
  rw [issued_openSet, ids_openSet] at h
  exact h

end Ledger

end Emend
