import Emend.Proofs.Ledger.Sound

/-!
# A spare change set

A change set without changes does nothing until its file is edited again. Of two ledgers, the first may hold one
such set more than the second, and may have asked for more identifiers. If the second one then takes its identifiers
from the place where the first one is, both record, drop and clear alike (`Spare.record_other`, `Spare.erase`,
`Spare.clear`). The spare set is used up when the second ledger opens a set of its own for the same text
(`Spare.record_spare`).

Main statements:

* `Spare.sound`, `Spare.baseline`: what the ledger with the spare set has in common with the other one.
* `Spare.record_other`, `Spare.record_spare`: recording in another file, and in the spare set.
* `Spare.erase`, `Spare.clear`: dropping and clearing.
* `Sound.spare_of_record`: where a spare set comes from.
-/

namespace Emend.Ledger

variable {l a b : Ledger} {names : Identifiers} {gap : Nat} {spare : Option ChangeSet} {path id : String}
  {text : List Char} {s x : ChangeSet} {c : PendingChange}

/-! ## Looking into a sound ledger -/

theorem Sound.setOf_eq_some_iff (h : l.Sound) : l.setOf path = some s ↔ s ∈ l.sets ∧ s.path = path := by
  constructor
  · exact mem_of_setOf
  · rintro ⟨hs, rfl⟩
    exact h.setOf hs

theorem Sound.find_eq_some_iff (h : l.Sound) : l.find id = some c ↔ ∃ s ∈ l.sets, c ∈ s.changes ∧ c.id = id := by
  constructor
  · intro hfind
    obtain ⟨s, hs, hc⟩ := List.exists_of_findSome?_eq_some hfind
    exact ⟨s, hs, List.mem_of_find?_eq_some hc, by simpa using List.find?_some hc⟩
  · rintro ⟨s, hs, hc, rfl⟩
    rcases hfind : l.find c.id with _ | d
    · exact absurd (mem_ids.mpr ⟨s, hs, c, hc, rfl⟩) (find_eq_none_iff.mp hfind)
    · -- what is found has the same identifier, so it stands in the same set
      obtain ⟨t, ht, hd⟩ := List.exists_of_findSome?_eq_some hfind
      obtain rfl := h.eq_of_find hs ht (by rw [h.find hs hc]; rfl) (by rw [hd]; rfl)
      rw [← hd, h.find hs hc]

theorem isSome_find_iff : (l.find id).isSome = true ↔ id ∈ l.ids := by
  rw [← not_iff_not, ← find_eq_none_iff, Option.not_isSome_iff_eq_none]

/-! ## Two ledgers -/

/-- The first ledger holds a set without changes besides the sets of the second, or just these sets, and has asked
for more identifiers. -/
structure Spare (gap : Nat) (spare : Option ChangeSet) (a b : Ledger) : Prop where
  sets : a.sets.Perm (spare.toList ++ b.sets)
  empty : ∀ x ∈ spare, x.changes = []
  issued : a.issued = b.issued + gap

theorem Spare.refl (l : Ledger) : Spare 0 none l l := ⟨List.Perm.refl _, by simp, rfl⟩

theorem Spare.mem_sets (h : Spare gap spare a b) : s ∈ a.sets ↔ s ∈ spare ∨ s ∈ b.sets := by
  rw [h.sets.mem_iff, List.mem_append, Option.mem_toList, Option.mem_def]

theorem Spare.ids (h : Spare gap spare a b) : a.ids.Perm b.ids := by
  have hnone : spare.toList.flatMap (fun s => s.changes.map (·.id)) = [] := by
    rcases spare with _ | x
    · rfl
    · simp [h.empty x rfl]
  have hids := h.sets.flatMap_right fun s => s.changes.map (·.id)
  rwa [List.flatMap_append, hnone, List.nil_append] at hids

theorem Spare.isSome_find (h : Spare gap spare a b) (id : String) : (a.find id).isSome = (b.find id).isSome := by
  rw [Bool.eq_iff_iff, isSome_find_iff, isSome_find_iff, h.ids.mem_iff]

/-- The second ledger is sound with the first. -/
theorem Spare.sound (h : Spare gap spare a b) (ha : a.Sound) : b.Sound where
  paths := by
    have hpaths := (h.sets.map (·.path)).nodup_iff.mp ha.paths
    rw [List.map_append] at hpaths
    exact hpaths.of_append_right
  ids := h.ids.nodup_iff.mp ha.ids
  here := fun s hs => ha.here s (h.mem_sets.mpr (.inr hs))
  replaced := fun s hs => ha.replaced s (h.mem_sets.mpr (.inr hs))

/-! ## What is seen of a spare set -/

theorem Spare.find (h : Spare gap spare a b) (ha : a.Sound) (id : String) : a.find id = b.find id := by
  refine Option.ext fun c => ?_
  rw [ha.find_eq_some_iff, (h.sound ha).find_eq_some_iff]
  constructor
  · rintro ⟨s, hs, hc, hid⟩
    rcases h.mem_sets.mp hs with hs | hs
    · simp [h.empty s hs] at hc
    · exact ⟨s, hs, hc, hid⟩
  · rintro ⟨s, hs, hc, hid⟩
    exact ⟨s, h.mem_sets.mpr (.inr hs), hc, hid⟩

/-- Any other file has one set in both ledgers. -/
theorem Spare.setOf_other (h : Spare gap spare a b) (ha : a.Sound) (hother : ∀ x ∈ spare, x.path ≠ path) :
    a.setOf path = b.setOf path := by
  refine Option.ext fun s => ?_
  rw [ha.setOf_eq_some_iff, (h.sound ha).setOf_eq_some_iff, h.mem_sets]
  constructor
  · rintro ⟨hs | hs, hpath⟩
    · exact absurd hpath (hother s hs)
    · exact ⟨hs, hpath⟩
  · rintro ⟨hs, hpath⟩
    exact ⟨.inr hs, hpath⟩

/-- The file of the spare set has this set in the first ledger, and none in the second. -/
theorem Spare.setOf_spare (h : Spare gap (some x) a b) (ha : a.Sound) :
    a.setOf x.path = some x ∧ b.setOf x.path = none := by
  refine ⟨ha.setOf (h.mem_sets.mpr (.inl rfl)), ?_⟩
  rw [setOf, List.find?_eq_none]
  intro s hs
  have hpaths := (h.sets.map (·.path)).nodup_iff.mp ha.paths
  rw [Option.toList_some, List.singleton_append, List.map_cons, List.nodup_cons] at hpaths
  simpa using fun heq => hpaths.1 (List.mem_map.mpr ⟨s, hs, heq⟩)

theorem Spare.pending (h : Spare gap spare a b) (ha : a.Sound) (path : String) : a.pending path = b.pending path := by
  by_cases hother : ∀ x ∈ spare, x.path ≠ path
  · rw [Ledger.pending, h.setOf_other ha hother, Ledger.pending]
  · push Not at hother
    obtain ⟨x, rfl, rfl⟩ := hother
    obtain ⟨hhere, hnone⟩ := h.setOf_spare ha
    rw [Ledger.pending, Ledger.pending, hhere, hnone]
    exact h.empty x rfl

/-- A spare set shows in the baseline of its file, and nowhere else. -/
theorem Spare.baseline (h : Spare gap spare a b) (ha : a.Sound) (path : String) :
    a.baseline path = b.baseline path ∨
      ∃ x ∈ spare, x.path = path ∧ b.setOf path = none ∧ a.baseline path = some x.baseline := by
  by_cases hother : ∀ x ∈ spare, x.path ≠ path
  · rw [Ledger.baseline, h.setOf_other ha hother]
    exact .inl rfl
  · push Not at hother
    obtain ⟨x, rfl, rfl⟩ := hother
    obtain ⟨hhere, hnone⟩ := h.setOf_spare ha
    exact .inr ⟨x, rfl, rfl, hnone, by rw [Ledger.baseline, hhere]; rfl⟩

/-! ## Recording -/

/-- Both ledgers find the same identifier next. -/
theorem Spare.nextIndex (h : Spare gap spare a b) : a.nextIndex names = b.nextIndex (names.later gap) + gap := by
  obtain ⟨hle, hfree, hused⟩ := nextIndex_spec (names.later gap) b
  -- the search in the one ledger is the search in the other, moved by the gap
  refine nextIndex_eq ?_ ?_ ?_
  · rw [h.issued]
    exact Nat.add_le_add_right hle gap
  · rw [← Option.not_isSome_iff_eq_none, h.isSome_find, Option.not_isSome_iff_eq_none]
    exact hfree
  · intro j hj hlt
    rw [h.issued] at hj
    obtain ⟨i, rfl⟩ := Nat.exists_eq_add_of_le' (Nat.le_of_add_left_le hj)
    rw [h.isSome_find]
    exact hused i (Nat.le_of_add_le_add_right hj) (Nat.lt_of_add_lt_add_right hlt)

/-- A change is put into the sets of both ledgers, if it is no change of the spare one. -/
theorem Spare.insert (h : Spare gap spare a b) (hother : ∀ x ∈ spare, x.path ≠ c.path) (n : Nat) :
    Spare gap spare (({ a with issued := n + gap } : Ledger).insert c) (({ b with issued := n } : Ledger).insert c) where
  sets := by
    -- the spare set is of another file, so the change does not go there
    have hspare : spare.toList.map (·.extend c.path [c]) = spare.toList := by
      rcases spare with _ | x
      · rfl
      · simp [ChangeSet.extend_of_ne (hother x rfl)]
    have hsets := h.sets.map (·.extend c.path [c])
    rw [List.map_append, hspare] at hsets
    rw [insert_eq, insert_eq]
    exact hsets
  empty := h.empty
  issued := rfl

theorem Spare.recordFrom (h : Spare gap spare a b) (hother : ∀ x ∈ spare, x.path ≠ path) (text : List Char)
    (description : String) (total number : Nat) (edits : List Edit) :
    (Ledger.recordFrom names path text description total number a edits).1
        = (Ledger.recordFrom (names.later gap) path text description total number b edits).1 ∧
      Spare gap spare (Ledger.recordFrom names path text description total number a edits).2
        (Ledger.recordFrom (names.later gap) path text description total number b edits).2 := by
  induction edits generalizing a b number with
  | nil => exact ⟨rfl, h⟩
  | cons e rest ih =>
    -- both give the same identifier out next, so the same change is put into both
    have hname : (names.later gap) (b.nextIndex (names.later gap)) = names (a.nextIndex names) := by
      rw [h.nextIndex]
      rfl
    have hissued : a.nextIndex names + 1 = b.nextIndex (names.later gap) + 1 + gap := by
      rw [h.nextIndex, Nat.add_right_comm]
    obtain ⟨hmore, hspare⟩ := ih (h.insert (c := {
      id := names (a.nextIndex names)
      path
      edit := e
      replaced := baselineText text e.range
      description := s!"{description} ({number}/{total})" }) hother (b.nextIndex (names.later gap) + 1)) (number + 1)
    simp only [Ledger.recordFrom, hname, hissued, hmore, true_and]
    exact hspare

/-- The set of any other file is opened in both ledgers, or in none. -/
theorem Spare.openSet_other (h : Spare gap spare a b) (ha : a.Sound) (hother : ∀ x ∈ spare, x.path ≠ path)
    (text : List Char) : Spare gap spare (a.openSet path text) (b.openSet path text) := by
  have hset := h.setOf_other ha hother
  unfold openSet
  rw [hset]
  split
  · exact h
  · have hsets := h.sets.append_right [⟨path, text, []⟩]
    rw [List.append_assoc] at hsets
    exact ⟨hsets, h.empty, h.issued⟩

/-- The set of the file of the spare one is open in the first ledger. If it is opened for the same text in the
second, no set is left to spare. -/
theorem Spare.openSet_spare (h : Spare gap (some x) a b) (ha : a.Sound) (text : List Char) :
    Spare gap none (a.openSet x.path text) (b.openSet x.path x.baseline) := by
  obtain ⟨hhere, hnone⟩ := h.setOf_spare ha
  -- a set that is opened has no changes, like the spare one
  have hx : (⟨x.path, x.baseline, []⟩ : ChangeSet) = x := by rw [← h.empty x rfl]
  simp only [openSet, hhere, hnone, Option.isSome_some, Option.isSome_none, if_true, Bool.false_eq_true, if_false]
  refine ⟨?_, by simp, h.issued⟩
  rw [hx]
  exact h.sets.trans List.perm_append_comm

/-- Edits of any other file are recorded alike. -/
theorem Spare.record_other (h : Spare gap spare a b) (ha : a.Sound) (hother : ∀ x ∈ spare, x.path ≠ path)
    (names : Identifiers) (text : List Char) (edits : List Edit) (description : String) :
    (a.record names path text edits description).1 = (b.record (names.later gap) path text edits description).1 ∧
      Spare gap spare (a.record names path text edits description).2
        (b.record (names.later gap) path text edits description).2 := by
  have hopen := h.openSet_other ha hother text
  have hbaseline : (a.openSet path text).baseline path = (b.openSet path text).baseline path := by
    rw [Ledger.baseline, hopen.setOf_other (ha.openSet path text) hother, Ledger.baseline]
  rw [record, record, hbaseline]
  exact hopen.recordFrom hother _ _ _ _ _

/-- So are edits of the file of the spare set, if its text is the baseline of this set. -/
theorem Spare.record_spare (h : Spare gap (some x) a b) (ha : a.Sound) (names : Identifiers) (text : List Char)
    (edits : List Edit) (description : String) :
    (a.record names x.path text edits description).1
        = (b.record (names.later gap) x.path x.baseline edits description).1 ∧
      Spare gap none (a.record names x.path text edits description).2
        (b.record (names.later gap) x.path x.baseline edits description).2 := by
  have hopen := h.openSet_spare ha text
  -- the spare set takes the changes in one ledger, a new one with the same baseline in the other
  have hbaseline : (a.openSet x.path text).baseline x.path = (b.openSet x.path x.baseline).baseline x.path := by
    rw [Ledger.baseline, hopen.setOf_other (ha.openSet x.path text) (by simp), Ledger.baseline]
  rw [record, record, hbaseline]
  exact hopen.recordFrom (by simp) _ _ _ _ _

/-! ## Dropping -/

theorem Spare.erase (h : Spare gap spare a b) (ha : a.Sound) (id : String) :
    Spare gap spare (a.erase id) (b.erase id) := by
  -- the spare set has no changes that could be dropped
  have hspare : spare.toList.map (·.erase id) = spare.toList := by
    rcases spare with _ | x
    · rfl
    · have hnone : x.find id = none := ChangeSet.find_eq_none_iff.mpr (by simp [h.empty x rfl])
      simp [ChangeSet.erase_eq_self hnone]
  have hsets := h.sets.map (·.erase id)
  rw [List.map_append, hspare] at hsets
  rw [ha.erase_eq, (h.sound ha).erase_eq]
  exact ⟨hsets, h.empty, h.issued⟩

theorem Spare.discard (h : Spare gap spare a b) (ha : a.Sound) (ids : List String) :
    Spare gap spare (a.discard ids) (b.discard ids) := by
  induction ids generalizing a b with
  | nil => exact h
  | cons id rest ih => exact ih (h.erase ha id) (ha.erase id)

/-- Once its file is cleared, the spare set is gone. -/
theorem Spare.clear (h : Spare gap spare a b) (path : String) :
    Spare gap (spare.filter (·.path != path)) (a.clear path) (b.clear path) where
  sets := by
    have hsets := h.sets.filter (·.path != path)
    -- clearing drops the spare set where it is of the file, and keeps it otherwise
    have hspare : spare.toList.filter (·.path != path) = (spare.filter (·.path != path)).toList := by
      rcases spare with _ | x
      · rfl
      · by_cases hx : x.path = path <;> simp [Option.filter, hx]
    rwa [List.filter_append, hspare] at hsets
  empty := fun x hx => h.empty x (Option.filter_eq_some_iff.mp hx).1
  issued := h.issued

/-! ## Recording and dropping again -/

theorem issued_discard (l : Ledger) (ids : List String) : (l.discard ids).issued = l.issued := by
  induction ids generalizing l with
  | nil => rfl
  | cons id rest ih => exact ih (l.erase id)

/-- Changes that are recorded and dropped again leave the sets as they are once that of the file is open. -/
theorem Sound.sets_discard_record (h : l.Sound) (path : String) (text : List Char)
    (edits : List Edit) (description : String) :
    ((l.record names path text edits description).2.discard
      ((l.record names path text edits description).1.map (·.id))).sets = (l.openSet path text).sets := by
  obtain ⟨hsound, hfresh⟩ := h.record path text edits description
  have hsets : (l.record names path text edits description).2.sets
      = (l.openSet path text).sets.map (·.extend path (l.record names path text edits description).1) :=
    recordFrom_sets _ _ _ _ _ _ _ _
  rw [hsound.sets_discard, hsets, List.map_map]
  conv_rhs => rw [← List.map_id (l.openSet path text).sets]
  refine List.map_congr_left fun s hs => ?_
  -- an identifier of a change that was there is none of the new ones
  have hkeep : ∀ c ∈ s.changes, c.id ∉ (l.record names path text edits description).1.map (·.id) := by
    intro c hc hid
    obtain ⟨d, hd, heq⟩ := List.mem_map.mp hid
    refine hfresh d hd ?_
    rw [heq, ← ids_openSet l path text]
    exact mem_ids.mpr ⟨s, hs, c, hc, rfl⟩
  by_cases hpath : s.path = path
  · subst hpath
    simp [ChangeSet.extend, without_append_self hkeep]
  · simp [ChangeSet.extend_of_ne hpath, without_eq_self hkeep]

/-- So they leave a spare set, if one was opened for them. -/
theorem Sound.spare_of_record (h : l.Sound) (path : String) (text : List Char)
    (edits : List Edit) (description : String) :
    ∃ gap, Spare gap (if (l.setOf path).isSome then none else some ⟨path, text, []⟩)
      ((l.record names path text edits description).2.discard
        ((l.record names path text edits description).1.map (·.id))) l := by
  have hissued := (ids_record names l path text edits description).1
  refine ⟨(l.record names path text edits description).2.issued - l.issued, ?_, ?_, ?_⟩
  -- recording and dropping leaves nothing but the set that was opened
  · rw [h.sets_discard_record, Ledger.openSet]
    split
    · exact List.Perm.refl _
    · exact List.perm_append_comm
  · split <;> simp
  · rw [issued_discard, Nat.add_sub_cancel' hissued]

end Emend.Ledger
