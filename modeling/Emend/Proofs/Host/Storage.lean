import Emend.Host.Storage
import Emend.Proofs.Disk

/-!
# What the replacing of a file leaves alone

A file is replaced through a second one, whose name is that of the first with a suffix. Whatever goes wrong on the way,
no other entry of the disk is touched than the two under these names and what a link under the second one leads to
(`replaceDuring_frame`). Without such a link the file has either all of the new bytes, and the second one is gone
(`state_of_replaced`), or its old ones (`entry_of_not_replaced`); and nothing at all has happened where nothing but the
disk itself stood in the way (`replace_of_error`).

All of this is read off the three ways in which the replacing of a file can end, `Replacing`.

Main statements:

* `stage_cases`, `replacing`: the ways in which opening the second file, and then the replacing, can end.
* `replaceDuring_frame`: no other entry is touched.
* `state_of_replaced`, `entry_of_not_replaced`: all of the new bytes or the old ones.
* `replace_cases`, `replace_of_error`: the replacing when only the disk itself stands in the way.
* `readText_replace`, `openAt_of_replaced`: what is found after it.
-/

namespace Emend.Disk

variable {o : Outage} {d d' : Disk} {path file : List Char} {bytes : List UInt8} {p q target : Place}

/-- Something is beside a file only where the file itself can be. -/
theorem spot_of_staging (habsolute : Path.isAbsolute path = true)
    (h : d.spot (Path.normalize path ++ stagingSuffix) = .ok p) : ∃ q, d.spot (Path.normalize path) = .ok q ∧ q ≠ p := by
  exact spot_append (by decide) (by decide) (Path.ne_nil_of_isAbsolute (Path.isAbsolute_normalize habsolute)) h

/-! ## How it can end -/

/-- The disk as it is, or without what stands under a name. -/
def Left (d : Disk) (name : List Char) (d' : Disk) : Prop :=
  d' = d ∨ ∃ p, d.spot name = .ok p ∧ d' = d.erase p

/-- What can come of the replacing of a file: whether it was replaced, and the disk. -/
inductive Replacing (d : Disk) (file : List Char) (bytes : List UInt8) : Attempt Unit × Disk → Prop
  /-- Nothing was put down beside the file. -/
  | refused {d' : Disk} {f : Failure} (left : Left d (file ++ stagingSuffix) d') : Replacing d file bytes (.error f, d')
  /-- Something was put down beside the file, and did not take its place. -/
  | stopped {d' : Disk} {f : Failure} {beside : Place} {written : List UInt8}
      (opened : d.locate (file ++ stagingSuffix) = .ok beside) (ends : d.Ends beside)
      (left : Left (d.put beside (.file written)) (file ++ stagingSuffix) d') : Replacing d file bytes (.error f, d')
  /-- What was put down beside the file has its name. -/
  | moved {d' : Disk} {beside : Place} (opened : d.locate (file ++ stagingSuffix) = .ok beside) (ends : d.Ends beside)
      (renamed : (d.put beside (.file bytes)).rename (file ++ stagingSuffix) file = .ok d') :
      Replacing d file bytes (.ok (), d')

/-- New bytes are not put down, or put down beside the file in part or as a whole, or have taken its place. -/
theorem stage_cases (o : Outage) (d : Disk) (file : List Char) (bytes : List UInt8) :
    (∃ f, d.stage o file bytes = (.error f, d)) ∨
    ∃ beside, d.locate (file ++ stagingSuffix) = .ok beside ∧ d.Ends beside ∧
      ((∃ f written, d.stage o file bytes = (.error f, d.put beside (.file written))) ∨
        ∃ d', (d.put beside (.file bytes)).rename (file ++ stagingSuffix) file = .ok d' ∧
          d.stage o file bytes = (.ok (), d')) := by
  unfold stage
  rcases o.create with _ | reason
  · rcases hopen : d.openAt (file ++ stagingSuffix) with f | ⟨beside, old⟩
    · exact Or.inl ⟨f, rfl⟩
    · obtain ⟨-, hbeside, hends⟩ := openAt_eq_ok hopen
      refine Or.inr ⟨beside, hbeside, hends, ?_⟩
      -- the file beside it is there, and what goes wrong next decides what is in it
      simp only
      split
      · exact Or.inl ⟨_, [], rfl⟩
      · rcases o.write with _ | ⟨count, reason⟩
        · rcases o.move with _ | reason
          · rcases (d.put beside (.file bytes)).rename (file ++ stagingSuffix) file with f | d'
            · exact Or.inl ⟨f, bytes, rfl⟩
            · exact Or.inr ⟨d', rfl, rfl⟩
          · exact Or.inl ⟨_, bytes, rfl⟩
        · exact Or.inl ⟨_, bytes.take count, rfl⟩
  · exact Or.inl ⟨_, rfl⟩

/-- However the replacing of a file ends, it ends in one of these ways. -/
theorem replacing (habsolute : Path.isAbsolute path = true) (o : Outage) (d : Disk) (bytes : List UInt8) :
    Replacing d (Path.normalize path) bytes (d.replaceDuring o path bytes) := by
  unfold replaceDuring
  rw [Path.join_of_isAbsolute _ habsolute]
  -- from here on only the name that is staged counts, not where it came from
  generalize Path.normalize path = file
  -- taking the staged file away either works or changes nothing
  have hleft : ∀ (d' : Disk) (cleaned : Bool),
      Left d' (file ++ stagingSuffix) (if cleaned then d'.clear (file ++ stagingSuffix) else d') := by
    intro d' cleaned
    rcases cleaned with _ | _
    · exact Or.inl rfl
    · rw [if_pos rfl, clear]
      rcases hunlink : d'.unlink (file ++ stagingSuffix) with f | d''
      · exact Or.inl rfl
      · exact Or.inr (unlink_eq_ok hunlink)
  rcases stage_cases o d file bytes with
    ⟨f, hstage⟩ | ⟨beside, hbeside, hends, ⟨f, written, hstage⟩ | ⟨d', hrename, hstage⟩⟩
  · simp only [hstage]
    exact .refused (hleft d _)
  · simp only [hstage]
    exact .stopped hbeside hends (hleft _ _)
  · simp only [hstage]
    exact .moved hbeside hends hrename

/-! ## What is left alone -/

/-- What is put down beside a file leaves all names where they are. -/
theorem spot_put_beside {beside : Place} (hends : d.Ends beside) (bytes : List UInt8) :
    (d.put beside (.file bytes)).spot path = .ok p ↔ d.spot path = .ok p :=
  (trace_of_sameWays (sameWays_put hends bytes)).symm

theorem Left.entry {name : List Char} (h : Left d name d') (hq : d.spot name ≠ .ok q) : d'.entry q = d.entry q := by
  rcases h with rfl | ⟨p, hp, rfl⟩
  · rfl
  · refine entry_erase_of_ne d ?_
    rintro rfl
    exact hq hp

section Unlinked

variable (hunlinked : d.Unlinked (Path.normalize path ++ stagingSuffix))

include hunlinked

/-- A file that was replaced has the new bytes, and nothing is left beside it. -/
theorem state_of_replaced (habsolute : Path.isAbsolute path = true)
    (h : (d.replaceDuring o path bytes).1 = .ok ()) : ∃ target beside, d.spot (Path.normalize path) = .ok target ∧
      d.spot (Path.normalize path ++ stagingSuffix) = .ok beside ∧ d.Ends beside ∧ target ≠ beside ∧
      d.entry target ≠ some .folder ∧
      (d.replaceDuring o path bytes).2 = ((d.put beside (.file bytes)).erase beside).put target (.file bytes) := by
  have hend := replacing habsolute o d bytes
  have hapart : ∀ p, d.spot (Path.normalize path ++ stagingSuffix) = .ok p →
      ∃ q, d.spot (Path.normalize path) = .ok q ∧ q ≠ p := fun p => spot_of_staging habsolute
  generalize Path.normalize path = file at hunlinked hend hapart
  generalize d.replaceDuring o path bytes = r at h hend
  cases hend with
  | refused left => cases h
  | stopped opened ends left => cases h
  | @moved d' beside opened ends renamed =>
    obtain ⟨p, target, entry, hp, htarget, hentry, hfolder, rfl⟩ := rename_eq_ok renamed
    rw [spot_put_beside ends] at hp htarget
    -- without a link there, what was opened is what is renamed
    obtain rfl : beside = p := by
      rw [hunlinked.locate_eq, hp] at opened
      exact (Except.ok.inj opened).symm
    obtain ⟨target', htarget', hne⟩ := hapart beside hp
    obtain rfl : target' = target := Except.ok.inj (htarget'.symm.trans htarget)
    rw [entry_put d _ ends.ne_nil] at hentry
    rw [entry_put_of_ne d _ hne] at hfolder
    obtain rfl := Option.some.inj hentry
    exact ⟨target', beside, htarget, hp, ends, hne, hfolder, rfl⟩

/-- What cannot be opened beside a file cannot be taken away there either. -/
theorem replace_of_openAt_error {f : Failure} (habsolute : Path.isAbsolute path = true)
    (hopen : d.openAt (Path.normalize path ++ stagingSuffix) = .error f) : d.replace path bytes = (.error f, d) := by
  have hclear : d.clear (Path.normalize path ++ stagingSuffix) = d := by
    unfold clear
    rcases hunlink : d.unlink (Path.normalize path ++ stagingSuffix) with g | d'
    · rfl
    · obtain ⟨⟨p, found⟩, hnamed, hfound⟩ := Attempt.bind_eq_ok.mp hunlink
      obtain ⟨hnull, hspot, hentry⟩ := named_eq_ok.mp hnamed
      have hlocate := hunlinked.locate_eq.trans hspot
      rcases found with _ | (old | _ | link)
      · simp [ofProblem] at hfound
      · -- a file that has this name could have been opened
        simp [openAt, hnull, hlocate, hentry, ofProblem, bind, Except.bind, pure, Except.pure] at hopen
      · simp [ofProblem] at hfound
      · exact absurd hentry (hunlinked p link hspot)
  unfold replace replaceDuring stage
  rw [Path.join_of_isAbsolute _ habsolute]
  simp [hopen, hclear]

/-- What can be opened beside a file takes its place, unless that is the place of a folder. -/
theorem replace_of_openAt {beside : Place} {old : Option (List UInt8)} (habsolute : Path.isAbsolute path = true)
    (hopen : d.openAt (Path.normalize path ++ stagingSuffix) = .ok (beside, old))
    (htarget : d.spot (Path.normalize path) = .ok target) (hfolder : d.entry target ≠ some .folder) :
    (d.replace path bytes).1 = .ok () := by
  obtain ⟨hnull, hbeside, hends⟩ := openAt_eq_ok hopen
  rw [hunlinked.locate_eq] at hbeside
  have hne : target ≠ beside := by
    obtain ⟨q, hq, hne⟩ := spot_of_staging habsolute hbeside
    rwa [Except.ok.inj (htarget.symm.trans hq)]
  -- what was opened is a file after the writing, and it can be renamed
  have hnamed : (d.put beside (.file bytes)).named (Path.normalize path ++ stagingSuffix)
      = .ok (beside, some (.file bytes)) :=
    named_eq_ok.mpr ⟨hnull, (spot_put_beside hends _).mpr hbeside, entry_put d _ hends.ne_nil⟩
  have hrename := rename_file hnamed (fun hmem => hnull (List.mem_append_left _ hmem))
    ((spot_put_beside hends bytes).mpr htarget) (by rwa [entry_put_of_ne d _ hne])
  unfold replace replaceDuring stage
  rw [Path.join_of_isAbsolute _ habsolute]
  simp [hopen, hrename]

/-- Where nothing but the disk stood in the way of replacing what is no folder, nothing has happened. -/
theorem replace_of_error (habsolute : Path.isAbsolute path = true)
    (hfolder : ∀ target, d.spot (Path.normalize path) = .ok target → d.entry target ≠ some .folder)
    (h : (d.replace path bytes).1 ≠ .ok ()) : (d.replace path bytes).2 = d := by
  rcases hopen : d.openAt (Path.normalize path ++ stagingSuffix) with f | ⟨beside, old⟩
  · rw [replace_of_openAt_error hunlinked habsolute hopen]
  · obtain ⟨-, hbeside, -⟩ := openAt_eq_ok hopen
    rw [hunlinked.locate_eq] at hbeside
    obtain ⟨target, htarget, -⟩ := spot_of_staging habsolute hbeside
    exact absurd (replace_of_openAt hunlinked habsolute hopen htarget (hfolder target htarget)) h

end Unlinked

/-! ## Reading back -/

/-- What is read through a path is what is replaced through it: no link on the way takes two points behind it to
another folder, none stands in place of the file, and none beside it. -/
structure Direct (d : Disk) (path : List Char) : Prop where
  target : ∀ p, d.locate path = .ok p → d.spot (Path.normalize path) = .ok p
  beside : d.Unlinked (Path.normalize path ++ stagingSuffix)

/-- One file was there and is there, the other is not; so the ways are the same. -/
theorem sameWays_of_replaced {beside : Place} (htarget : d.Ends target) (hbeside : d.Ends beside)
    (bytes : List UInt8) :
    SameWays d (((d.put beside (.file bytes)).erase beside).put target (.file bytes)) := by
  refine sameWays_of_ends rfl fun q => ?_
  by_cases hq : q = target
  · rw [hq]
    exact Or.inr ⟨htarget, ends_of_file (entry_put _ _ htarget.ne_nil)⟩
  -- the staged file ends where nothing was or a file was, and is gone again
  · by_cases hq' : q = beside
    · refine Or.inr ⟨hq' ▸ hbeside, ends_of_none ?_⟩
      rw [entry_put_of_ne _ _ hq, hq', entry_erase _ hbeside.ne_nil]
    · refine Or.inl ?_
      rw [entry_put_of_ne _ _ hq, entry_erase_of_ne _ hq', entry_put_of_ne _ _ hq']

/-- A file that is there is replaced exactly if something can be opened beside it. -/
theorem replace_cases (hdirect : d.Direct path) (habsolute : Path.isAbsolute path = true)
    (hfile : d.isFile path = true) (bytes : List UInt8) :
    (∃ f, d.openAt (Path.normalize path ++ stagingSuffix) = .error f ∧ d.replace path bytes = (.error f, d)) ∨
    ∃ target beside old, d.locate path = .ok target ∧
      d.openAt (Path.normalize path ++ stagingSuffix) = .ok (beside, old) ∧ d.Ends target ∧ d.Ends beside ∧
      d.replace path bytes = (.ok (), ((d.put beside (.file bytes)).erase beside).put target (.file bytes)) := by
  rcases hopen : d.openAt (Path.normalize path ++ stagingSuffix) with f | ⟨beside, old⟩
  · exact Or.inl ⟨f, rfl, replace_of_openAt_error hdirect.beside habsolute hopen⟩
  · obtain ⟨-, p, content, hlocate, hentry⟩ := isFile_iff.mp hfile
    have hmade : (d.replace path bytes).1 = .ok () :=
      replace_of_openAt hdirect.beside habsolute hopen (hdirect.target p hlocate) (by simp [hentry])
    obtain ⟨target, q, htarget, hq, hends, -, -, hstate⟩ := state_of_replaced hdirect.beside habsolute hmade
    obtain rfl : target = p := Except.ok.inj (htarget.symm.trans (hdirect.target p hlocate))
    -- the place that was opened is the one that is renamed, as no link stands there
    obtain rfl : beside = q := by
      obtain ⟨-, hbeside, -⟩ := openAt_eq_ok hopen
      rw [hdirect.beside.locate_eq, hq] at hbeside
      exact (Except.ok.inj hbeside).symm
    exact Or.inr ⟨target, beside, old, hlocate, rfl, ends_of_file hentry, hends, Prod.ext hmade hstate⟩

section Replaced

variable (hdirect : d.Direct path) (habsolute : Path.isAbsolute path = true) (hfile : d.isFile path = true)

include hdirect habsolute hfile

/-- Where a file was replaced, it stands with its new bytes in its old place, and nothing is left beside it. -/
theorem exists_of_replaced (h : (d.replace path bytes).1 = .ok ()) : ∃ target beside old,
    d.locate path = .ok target ∧ d.openAt (Path.normalize path ++ stagingSuffix) = .ok (beside, old) ∧
      d.Ends target ∧ d.Ends beside ∧
      (d.replace path bytes).2 = ((d.put beside (.file bytes)).erase beside).put target (.file bytes) := by
  rcases replace_cases hdirect habsolute hfile bytes with
    ⟨f, -, hrefused⟩ | ⟨target, beside, old, hlocate, hopen, htarget, hbeside, hmade⟩
  · rw [hrefused] at h
    cases h
  · exact ⟨target, beside, old, hlocate, hopen, htarget, hbeside, congrArg Prod.snd hmade⟩

/-- So it is where the ways led before. -/
theorem sameWays_replaced (h : (d.replace path bytes).1 = .ok ()) : SameWays d (d.replace path bytes).2 := by
  obtain ⟨target, beside, old, -, -, htarget, hbeside, hstate⟩ := exists_of_replaced hdirect habsolute hfile h
  rw [hstate]
  exact sameWays_of_replaced htarget hbeside bytes

/-- The text that a file is replaced with is read back. -/
theorem readText_replace {text : List Char} (h : (d.replace path (Text.encode text)).1 = .ok ()) :
    (d.replace path (Text.encode text)).2.isFile path = true ∧
      (d.replace path (Text.encode text)).2.readText path = .ok text := by
  obtain ⟨hnull, -⟩ := isFile_iff.mp hfile
  have hways := sameWays_replaced hdirect habsolute hfile h
  obtain ⟨target, beside, old, hlocate, -, htarget, -, hstate⟩ := exists_of_replaced hdirect habsolute hfile h
  have hlocate' := (trace_of_sameWays hways).mp hlocate
  have hnew : (d.replace path (Text.encode text)).2.entry target = some (.file (Text.encode text)) := by
    rw [hstate]
    exact entry_put _ _ htarget.ne_nil
  refine ⟨isFile_iff.mpr ⟨hnull, target, _, hlocate', hnew⟩, ?_⟩
  simp [readText, read_eq_ok hnull hlocate' hnew, Text.decode?_encode, bind, Except.bind, pure, Except.pure]

/-- What could be opened beside a file can be opened again once the file has been replaced. -/
theorem openAt_of_replaced {beside : Place} {old : Option (List UInt8)}
    (hopen : d.openAt (Path.normalize path ++ stagingSuffix) = .ok (beside, old))
    (h : (d.replace path bytes).1 = .ok ()) : ∃ old,
      (d.replace path bytes).2.openAt (Path.normalize path ++ stagingSuffix) = .ok (beside, old) := by
  have hways := sameWays_replaced hdirect habsolute hfile h
  obtain ⟨hnull, hbeside, hends⟩ := openAt_eq_ok hopen
  exact openAt_of_ends hnull ((trace_of_sameWays hways).mp hbeside) ((hways.ends beside).mp hends)

end Replaced

end Emend.Disk
