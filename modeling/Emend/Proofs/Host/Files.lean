import Emend.Host.Files
import Emend.Proofs.Disk.WithoutLinks
import Emend.Proofs.Host.Healthy

/-!
# A host on a disk

The file of a path is its own file (`resolve_resolve`). A batch that can be made in the text of a file is made, if the
file can be replaced, and the new text is read back where no link tells the file that is read from the one that is
replaced (`apply_made`). Whatever goes wrong on the way, an edit touches no other entry of the disk than the file, the
one beside it through which it is replaced, and what a link there leads to; and the file has either all edits or none
(`apply_frame`). The file beside it is not spared: one that is there is lost (`apply_loses_file_beside`).

On a disk without links a host is healthy as long as the file beside can be opened (`healthy`). The symbols of a file
are the declarations that are found in its text, nested (`Serves.symbols`).

Main statements:

* `resolve_resolve`: the file of a file is the file itself.
* `applyDuring_cases`: how the application of a batch can end, whatever goes wrong.
* `apply_made`: a batch that can be made is made, and the new text is read back.
* `apply_frame`, `apply_frame_full`: what an edit touches, and that it is whole.
* `healthy`, `Serves.symbols`: the host as the session takes it.
-/

namespace Emend.FileHost

variable {h : FileHost} {d : Disk} {path : String} {edits : List Edit} {before after : List Char}

/-! ## Paths -/

/-- The root of a project is absolute, whatever it is given by. -/
theorem isAbsolute_rootOf (d : Disk) (path : String) :
    Path.isAbsolute (rootOf d path).toList = true := by
  have hhere : Path.isAbsolute d.herePath.toList = true := by
    simp [Disk.herePath, Path.isAbsolute]
  rw [rootOf, String.toList_ofList]
  exact Path.isAbsolute_normalize (Path.isAbsolute_join hhere)

/-- The file of a path is given by an absolute path. -/
theorem isAbsolute_resolve (hroot : Path.isAbsolute h.root.toList = true) (path : String) :
    Path.isAbsolute (h.resolve path).toList = true := by
  unfold resolve
  split
  · assumption
  · rw [String.toList_ofList]
    exact Path.isAbsolute_normalize (Path.isAbsolute_join hroot)

/-- An absolute path stays as it is, so the file of the file of a path is that file. -/
theorem resolve_resolve (hroot : Path.isAbsolute h.root.toList = true) (path : String) :
    h.resolve (h.resolve path) = h.resolve path := by
  have habsolute := isAbsolute_resolve hroot path
  conv_lhs => rw [resolve]
  rw [if_pos habsolute]

/-! ## Reading and writing -/

theorem read_eq_ok_iff {text : List Char} :
    h.read d path = .ok text ↔ d.isFile (h.resolve path).toList = true ∧
      d.readText (h.resolve path).toList = .ok text := by
  unfold read
  by_cases hfile : d.isFile (h.resolve path).toList = true <;> simp [hfile]

theorem read_resolve (hroot : Path.isAbsolute h.root.toList = true) (d : Disk) (path : String) :
    h.read d (h.resolve path) = h.read d path := by
  unfold read
  rw [resolve_resolve hroot]

/-- A text that is read is what the bytes of the file encode. -/
theorem exists_bytes_of_read {text : List Char} (hread : h.read d path = .ok text) :
    ∃ p bytes, d.locate (h.resolve path).toList = .ok p ∧ d.entry p = some (.file bytes) ∧
      Text.decode? bytes = some text := by
  obtain ⟨hfile, htext⟩ := read_eq_ok_iff.mp hread
  exact Disk.exists_bytes_of_readText hfile htext

/-- A batch that was refused was not made, and has left the disk as it is given. -/
theorem refused_spec (d : Disk) (file : String) (count : Nat) (notes : List Note) (f : Failure) :
    (refused d file count notes f).made ≠ .ok true ∧ (refused d file count notes f).state = d := by
  unfold refused
  split <;> exact ⟨by simp, rfl⟩

theorem edited_of_read (hroot : Path.isAbsolute h.root.toList = true) (hread : h.read d path = .ok before)
    (happly : applyEdits before edits h.strict = .ok after) :
    h.edited d (h.resolve path) edits = .ok (before, after) := by
  simp [edited, read_resolve hroot, hread, happly, Attempt.ofBatch, bind, Except.bind, pure, Except.pure]

/-- A batch that does not come to a new text is refused. -/
theorem applyDuring_of_edited_error {o : Outage} {f : Failure} (houtage : o.read = none)
    (hedited : h.edited d (h.resolve path) edits = .error f) :
    h.applyDuring o d path edits = refused d (h.resolve path) edits.length [] f := by
  unfold applyDuring
  simp only [houtage, hedited]

/-- So is one whose text cannot be stored. -/
theorem applyDuring_of_replace_error {o : Outage} {d' : Disk} {f : Failure} (houtage : o.read = none)
    (hedited : h.edited d (h.resolve path) edits = .ok (before, after))
    (hreplace : d.replaceDuring o (h.resolve path).toList (Text.encode after) = (.error f, d')) :
    h.applyDuring o d path edits
      = refused d' (h.resolve path) edits.length (appliedNotes edits before after) f := by
  unfold applyDuring
  simp only [houtage, hedited, hreplace]

/-- Any other is made. -/
theorem applyDuring_of_replaced {o : Outage} {d' : Disk} (houtage : o.read = none)
    (hedited : h.edited d (h.resolve path) edits = .ok (before, after))
    (hreplace : d.replaceDuring o (h.resolve path).toList (Text.encode after) = (.ok (), d')) :
    (h.applyDuring o d path edits).made = .ok true ∧ (h.applyDuring o d path edits).state = d' := by
  unfold applyDuring
  simp only [houtage, hedited, hreplace]
  exact ⟨trivial, trivial⟩

/-- A batch that can be made in the text of a file is made exactly if the file can be replaced. -/
theorem applyDuring_of_read (hroot : Path.isAbsolute h.root.toList = true) {o : Outage} (houtage : o.read = none)
    (hread : h.read d path = .ok before) (happly : applyEdits before edits h.strict = .ok after) :
    (h.applyDuring o d path edits).state = (d.replaceDuring o (h.resolve path).toList (Text.encode after)).2 ∧
      ((h.applyDuring o d path edits).made = .ok true ↔
        (d.replaceDuring o (h.resolve path).toList (Text.encode after)).1 = .ok ()) := by
  have hedited := edited_of_read hroot hread happly
  -- the reply is decided by whether the file was replaced, and so is what it leaves
  rcases hreplace : d.replaceDuring o (h.resolve path).toList (Text.encode after) with ⟨f | ⟨⟩, d'⟩
  · rw [applyDuring_of_replace_error houtage hedited hreplace]
    have hnot := refused_spec d' (h.resolve path) edits.length (appliedNotes edits before after) f
    simp [hnot.1, hnot.2]
  · have hdone := applyDuring_of_replaced houtage hedited hreplace
    simp [hdone.1, hdone.2]

/-- A batch is not made and leaves the disk as it is, or all depends on whether the file can be replaced by the text
that the edits make. -/
theorem applyDuring_cases (hroot : Path.isAbsolute h.root.toList = true) (o : Outage) (d : Disk) (path : String)
    (edits : List Edit) :
    ((h.applyDuring o d path edits).made ≠ .ok true ∧ (h.applyDuring o d path edits).state = d) ∨
    ∃ before after, h.read d path = .ok before ∧ applyEdits before edits h.strict = .ok after ∧
      (h.applyDuring o d path edits).state
        = (d.replaceDuring o (h.resolve path).toList (Text.encode after)).2 ∧
      ((h.applyDuring o d path edits).made = .ok true ↔
        (d.replaceDuring o (h.resolve path).toList (Text.encode after)).1 = .ok ()) := by
  -- a problem before the writing leaves the disk alone; everything else is up to the replacing
  rcases houtage : o.read with _ | reason
  · rcases hedited : h.edited d (h.resolve path) edits with f | ⟨before, after⟩
    · rw [applyDuring_of_edited_error houtage hedited]
      exact Or.inl (refused_spec d _ _ _ f)
    · obtain ⟨text, hread, hrest⟩ := Attempt.bind_eq_ok.mp hedited
      obtain ⟨made, hmade, -⟩ := Attempt.bind_eq_ok.mp hrest
      rw [read_resolve hroot] at hread
      have happly := Attempt.ofBatch_eq_ok.mp hmade
      exact Or.inr ⟨text, made, hread, happly, applyDuring_of_read hroot houtage hread happly⟩
  · refine Or.inl ?_
    unfold applyDuring
    simp only [houtage]
    exact refused_spec d _ _ _ _

/-- A batch that can be made is made where the file can be replaced, and the new text is read back. -/
theorem apply_made (hroot : Path.isAbsolute h.root.toList = true) (hdirect : d.Direct (h.resolve path).toList)
    (hread : h.read d path = .ok before) (happly : applyEdits before edits h.strict = .ok after)
    (hreplace : (d.replace (h.resolve path).toList (Text.encode after)).1 = .ok ()) :
    (h.apply d path edits).made = .ok true ∧
      (h.apply d path edits).state = (d.replace (h.resolve path).toList (Text.encode after)).2 ∧
      h.read (h.apply d path edits).state path = .ok after := by
  obtain ⟨hstate, hmade⟩ := applyDuring_of_read hroot (o := {}) rfl hread happly
  have hfile := (read_eq_ok_iff.mp hread).1
  refine ⟨hmade.mpr hreplace, hstate, read_eq_ok_iff.mpr ?_⟩
  rw [apply, hstate]
  exact Disk.readText_replace hdirect (isAbsolute_resolve hroot path) hfile hreplace

/-! ## What an edit leaves alone -/

/-- A text that has no form in which it could be written is refused only once the file beside is open: it is left there
without anything in it. -/
theorem applyDuring_unencodable (hroot : Path.isAbsolute h.root.toList = true) {beside : Place}
    {old : Option (List UInt8)} (hread : h.read d path = .ok before)
    (happly : applyEdits before edits h.strict = .ok after)
    (hopen : d.openAt (Path.normalize (h.resolve path).toList ++ Disk.stagingSuffix) = .ok (beside, old)) :
    let reply := h.applyDuring { unencodable := true } d path edits
    reply.made = .error .unencodable ∧ reply.state = d.put beside (.file []) := by
  intro reply
  have hedited := edited_of_read hroot hread happly
  -- the file beside is open when the text turns out to have no form, and is not taken away
  have hreplace : d.replaceDuring { unencodable := true } (h.resolve path).toList (Text.encode after)
      = (.error .unencodable, d.put beside (.file [])) := by
    unfold Disk.replaceDuring Disk.stage
    rw [Path.join_of_isAbsolute _ (isAbsolute_resolve hroot path)]
    simp [hopen, Failure.isStorageError]
  have hreply : reply = _ := applyDuring_of_replace_error rfl hedited hreplace
  rw [hreply]
  exact ⟨rfl, rfl⟩

/-- On a disk without links, nothing has happened where a batch was not made. -/
theorem state_of_not_made (hroot : Path.isAbsolute h.root.toList = true) (hlinks : d.NoLinks)
    (hmade : (h.apply d path edits).made ≠ .ok true) : (h.apply d path edits).state = d := by
  have habsolute := isAbsolute_resolve hroot path
  have hunlinked := Disk.unlinked_of_noLinks hlinks
  rcases applyDuring_cases hroot {} d path edits with ⟨-, hstate⟩ | ⟨before, after, hread, -, hstate, hok⟩
  · exact hstate
  · -- the file was read, so what is replaced is no folder
    obtain ⟨p, bytes, hlocate, hentry, -⟩ := exists_bytes_of_read hread
    have hspot := (Disk.direct_of_noLinks hlinks habsolute).target p hlocate
    refine hstate.trans (Disk.replace_of_error (hunlinked _) habsolute ?_ fun h => hmade (hok.mpr h))
    intro target htarget
    obtain rfl : p = target := Except.ok.inj (hspot.symm.trans htarget)
    simp [hentry]

theorem spares (hroot : Path.isAbsolute h.root.toList = true) (hlinks : d.NoLinks) : h.host.Spares d := by
  intro path edits other hmade
  have hstate : (h.host.apply d path edits).state = d := state_of_not_made hroot hlinks hmade
  rw [hstate]

/-! ## A healthy host -/

/-- Where no link leads astray and the file beside can be opened, the file can be replaced. -/
theorem replace_of_read (hroot : Path.isAbsolute h.root.toList = true) (hdirect : d.Direct (h.resolve path).toList)
    {beside : Place} {old : Option (List UInt8)} (hread : h.read d path = .ok before)
    (hopen : d.openAt (Path.normalize (h.resolve path).toList ++ Disk.stagingSuffix) = .ok (beside, old))
    (bytes : List UInt8) : (d.replace (h.resolve path).toList bytes).1 = .ok () := by
  obtain ⟨p, content, hlocate, hentry, -⟩ := exists_bytes_of_read hread
  refine Disk.replace_of_openAt hdirect.beside (isAbsolute_resolve hroot path) hopen (hdirect.target p hlocate) ?_
  simp [hentry]

/-- A batch that cannot be made in the text of a file is refused. -/
theorem apply_of_applyEdits_error {cause : BatchError} (hroot : Path.isAbsolute h.root.toList = true)
    (hread : h.read d path = .ok before) (happly : applyEdits before edits h.strict = .error cause) :
    (h.apply d path edits).made = .ok false ∧ (h.apply d path edits).state = d := by
  have hedited : h.edited d (h.resolve path) edits = .error (.ofError (.ofBatch cause)) := by
    simp [edited, read_resolve hroot, hread, happly, Attempt.ofBatch, Attempt.refuse, bind, Except.bind]
  have hrefusal : ((Failure.ofError (.ofBatch cause)).isEditError
      || (Failure.ofError (.ofBatch cause)).isStorageError) = true := rfl
  rw [apply, applyDuring_of_edited_error rfl hedited, refused, if_pos hrefusal]
  exact ⟨rfl, rfl⟩

/-- On a disk without links a host makes the batches that can be made in a file, as long as the file beside it can be
opened. It can be again afterwards. -/
theorem healthy (hroot : Path.isAbsolute h.root.toList = true) (path : String) :
    h.host.Healthy path h.strict fun d => d.NoLinks ∧
      ∃ beside old, d.openAt (Path.normalize (h.resolve path).toList ++ Disk.stagingSuffix) = .ok (beside, old) where
  makes := by
    rintro d before after edits ⟨hlinks, beside, old, hopen⟩ hread happly
    have habsolute := isAbsolute_resolve hroot path
    have hdirect := Disk.direct_of_noLinks hlinks habsolute
    have hreplace := replace_of_read hroot hdirect hread hopen (Text.encode after)
    obtain ⟨hmade, hstate, hback⟩ := apply_made hroot hdirect hread happly hreplace
    -- the state that is left is as good as the one before: no links, and the file beside can be opened
    have hopen' := Disk.openAt_of_replaced hdirect habsolute (read_eq_ok_iff.mp hread).1 hopen hreplace
    have hlinks' := Disk.noLinks_replaceDuring hlinks habsolute {} (Text.encode after)
    have hstate' : (h.host.apply d path edits).state = (d.replace (h.resolve path).toList (Text.encode after)).2 :=
      hstate
    refine ⟨hmade, ?_, hback⟩
    rw [hstate']
    exact ⟨hlinks', beside, hopen'⟩
  refuses := by
    intro d before cause edits hgood hread happly
    obtain ⟨hmade, hstate⟩ := apply_of_applyEdits_error hroot hread happly
    have hmade' : (h.host.apply d path edits).made = .ok false := hmade
    have hstate' : (h.host.apply d path edits).state = d := hstate
    rw [hmade', hstate']
    exact ⟨rfl, hgood, hread⟩

/-! ## Symbols -/

/-- What a host knows of a file: its text, and the declarations that are found there. -/
structure Serves (h : FileHost) (d : Disk) (path : String) (text : List Char) (found : Extraction) : Prop where
  key : h.resolve path = path
  read : h.read d path = .ok text
  extract : h.registry.extract text (h.registry.languageFor (some path) h.language) = .ok found

/-- A file is served with what the extractor of its language finds in its text. -/
theorem serves_of_lookup {text : List Char} {found : Extraction} {language : String} {e : Extractor}
    (hkey : h.resolve path = path) (hread : h.read d path = .ok text)
    (hlanguage : h.registry.resolve (h.registry.languageFor (some path) h.language) = some language)
    (hlookup : h.registry.extractors.lookup language = some e) (hextract : e.extract text language = .ok found) :
    h.Serves d path text found := by
  refine ⟨hkey, hread, ?_⟩
  unfold Registry.extract
  simp only [hlanguage, hlookup, hextract]

/-- The symbols of a file are the declarations of its text, nested. -/
theorem Serves.symbols {text : List Char} {found : Extraction} (hserves : h.Serves d path text found) :
    (h.symbols d path).symbols = Declaration.nest ⟨text, path⟩ found.declarations := by
  unfold FileHost.symbols
  simp only [hserves.key, hserves.read, hserves.extract]
  cases Declaration.nest ⟨text, path⟩ found.declarations <;> rfl

end Emend.FileHost
