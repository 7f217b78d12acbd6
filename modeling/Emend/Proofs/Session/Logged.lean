import Emend.Command.Run
import Emend.Proofs.Disk.Apart
import Emend.Proofs.Host.Files
import Emend.Proofs.Session.Alike

/-!
# Sessions that log

A command logs every batch in a folder of the project. By files outside of this folder nobody can tell how much has been
logged: what is read, edited and found there is the same (`FileHost.apply_of_agree`), and logging changes nothing but the
folder (`Metrics.exists_of_record`). So a session of a command answers alike on disks that differ in the log only
(`blind_sessionOf`).

Main statements:

* `apply_of_agree`, `same_of_not_made`: the host on two disks that agree outside of the folder.
* `exists_of_record`, `kept_of_apply`: logging changes the folder only.
* `blind_sessionOf`: a session of a command is blind to the log.
-/

namespace Emend

namespace FileHost

variable {h : FileHost} {a b d : Disk} {F : Place} {path : String}

/-- The file of a path, and the one beside it through which it is replaced, keep out of a folder. -/
structure KeepsOut (h : FileHost) (F : Place) (path : String) : Prop where
  file : Disk.KeepsOut F (h.resolve path).toList
  beside : Disk.KeepsOut F (Path.normalize (h.resolve path).toList ++ Disk.stagingSuffix)

instance (h : FileHost) (F : Place) (path : String) : Decidable (h.KeepsOut F path) :=
  decidable_of_iff (Disk.KeepsOut F (h.resolve path).toList ∧
    Disk.KeepsOut F (Path.normalize (h.resolve path).toList ++ Disk.stagingSuffix))
    ⟨fun h => ⟨h.1, h.2⟩, fun h => ⟨h.1, h.2⟩⟩

theorem read_of_agree (hroot : Path.isAbsolute h.root.toList = true) (hlinks : a.NoLinks) (hagree : a.Agree F b)
    (hout : h.KeepsOut F path) : h.read a path = h.read b path := by
  have habsolute := isAbsolute_resolve hroot path
  have hfile := Disk.isFile_of_agree hlinks hagree habsolute hout.file
  have htext := Disk.readText_of_agree hlinks hagree habsolute hout.file
  unfold read
  simp only [hfile, htext]

theorem symbols_of_agree (hroot : Path.isAbsolute h.root.toList = true) (hlinks : a.NoLinks) (hagree : a.Agree F b)
    (hout : h.KeepsOut F path) : h.symbols a path = h.symbols b path := by
  have hread := read_of_agree hroot hlinks hagree hout
  rw [← read_resolve hroot a, ← read_resolve hroot b] at hread
  unfold symbols
  simp only [hread]

/-- What stops a batch on one disk stops it on the other, and what it does is the same. -/
theorem apply_of_agree (hroot : Path.isAbsolute h.root.toList = true) (hlinks : a.NoLinks) (hlinks' : b.NoLinks)
    (hagree : a.Agree F b) (hout : h.KeepsOut F path) (edits : List Edit) :
    (h.apply a path edits).made = (h.apply b path edits).made ∧
      (h.apply a path edits).state.Agree F (h.apply b path edits).state := by
  have habsolute := isAbsolute_resolve hroot path
  have hread := read_of_agree hroot hlinks hagree hout
  have hedits : h.edited a (h.resolve path) edits = h.edited b (h.resolve path) edits := by
    unfold edited
    rw [read_resolve hroot, read_resolve hroot, hread]
  -- a refusal is told by its reason alone
  have hrefused : ∀ {a b : Disk} (notes : List Note) (f : Failure), a.Agree F b →
      (refused a (h.resolve path) edits.length notes f).made = (refused b (h.resolve path) edits.length notes f).made ∧
        (refused a (h.resolve path) edits.length notes f).state.Agree F
          (refused b (h.resolve path) edits.length notes f).state := by
    intro a b notes f hagree
    unfold refused
    split <;> exact ⟨rfl, hagree⟩
  unfold apply
  rcases hedited : h.edited b (h.resolve path) edits with f | ⟨before, after⟩
  · rw [applyDuring_of_edited_error rfl (hedits.trans hedited), applyDuring_of_edited_error rfl hedited]
    exact hrefused [] f hagree
  · obtain ⟨text, htext, -⟩ := Attempt.bind_eq_ok.mp (hedits.trans hedited)
    rw [read_resolve hroot] at htext
    obtain ⟨hmade, hstate⟩ := Disk.replace_of_agree hlinks hlinks' hagree habsolute hout.file hout.beside
      (read_eq_ok_iff.mp htext).1 (Text.encode after)
    rcases ha : a.replace (h.resolve path).toList (Text.encode after) with ⟨f | ⟨⟩, a'⟩ <;>
      rcases hb : b.replace (h.resolve path).toList (Text.encode after) with ⟨g | ⟨⟩, b'⟩ <;>
      rw [ha, hb] at hmade hstate
    · obtain rfl : f = g := Except.error.inj hmade
      rw [applyDuring_of_replace_error rfl (hedits.trans hedited) ha, applyDuring_of_replace_error rfl hedited hb]
      exact hrefused _ f hstate
    · cases hmade
    · cases hmade
    · obtain ⟨hdone, hleft⟩ := applyDuring_of_replaced rfl (hedits.trans hedited) ha
      obtain ⟨hdone', hleft'⟩ := applyDuring_of_replaced rfl hedited hb
      rw [hdone, hdone', hleft, hleft']
      exact ⟨rfl, hstate⟩

/-- Editing a file on a disk without links leaves folders where they are, and makes no links. -/
theorem sameWays_apply (hroot : Path.isAbsolute h.root.toList = true) (hlinks : d.NoLinks) (path : String)
    (edits : List Edit) : Disk.SameWays d (h.apply d path edits).state := by
  have habsolute := isAbsolute_resolve hroot path
  -- what is made replaces a file by a file, what is not made changes nothing
  by_cases hmade : (h.apply d path edits).made = .ok true
  · rcases applyDuring_cases hroot {} d path edits with ⟨hnot, -⟩ | ⟨before, after, hread, -, hstate, hok⟩
    · exact absurd hmade hnot
    · have hreplaced : (d.replace (h.resolve path).toList (Text.encode after)).1 = .ok () := hok.mp hmade
      have hleft : (h.apply d path edits).state = (d.replace (h.resolve path).toList (Text.encode after)).2 := hstate
      rw [hleft]
      exact Disk.sameWays_replaced (Disk.direct_of_noLinks hlinks habsolute) habsolute (read_eq_ok_iff.mp hread).1
        hreplaced
  · rw [state_of_not_made hroot hlinks hmade]
    exact .refl d

end FileHost

/-! ## The log -/

/-- The place of the folder of the log, which is right in the folder of the project. -/
def Settings.logPlace (s : Settings) : Place := Path.walk s.projectRoot.toList ++ [s.metricsDir]

/-- The log lies in a folder of its own, right in the folder of the project. -/
structure Settings.LogsInside (s : Settings) : Prop where
  absolute : Path.isAbsolute s.projectRoot.toList = true
  trimmed : s.projectRoot.toList.getLast? ≠ some '/'
  plain : Path.Plain s.metricsDir.toList
  single : '/' ∉ s.metricsDir.toList
  clean : Char.ofNat 0 ∉ s.projectRoot.toList ∧ Char.ofNat 0 ∉ s.metricsDir.toList
  outside : Disk.KeepsOut s.logPlace s.projectRoot.toList

namespace Metrics

variable {settings : Settings} {d : Disk} (h : settings.LogsInside)

/-- The path of the folder of the log. -/
def folderPath (s : Settings) : List Char := s.projectRoot.toList ++ '/' :: s.metricsDir.toList

include h

theorem walk_folderPath : Path.walk (folderPath settings) = settings.logPlace := by
  rw [folderPath, Path.walk_behind h.single, Path.enter_plain _ h.plain, String.ofList_toList, Settings.logPlace]

theorem isAbsolute_folderPath : Path.isAbsolute (folderPath settings) = true :=
  Path.isAbsolute_append h.absolute _

theorem path_eq (d : Disk) : path d settings.projectRoot settings.metricsDir
    = folderPath settings ++ '/' :: fileName.toList := by
  have hroot : settings.projectRoot.isEmpty = false := by
    have hne : settings.projectRoot ≠ "" := fun heq => Path.ne_nil_of_isAbsolute h.absolute (by rw [heq]; rfl)
    simpa using hne
  have hdir : settings.metricsDir.isEmpty = false := by
    have hne : settings.metricsDir ≠ "" := fun heq => h.plain.nonempty (by rw [heq]; rfl)
    simpa using hne
  -- the folder ends in a name, so the file in it stands behind one more slash
  have hlast := Path.getLast_behind h.single settings.projectRoot.toList h.plain.nonempty
  have hfile : '/' ∉ fileName.toList := by decide
  unfold path
  simp only [hroot, hdir, Bool.false_eq_true, if_false]
  rw [Path.join_behind h.single (Path.ne_nil_of_isAbsolute h.absolute) h.trimmed, Path.join_behind hfile (by simp) hlast]
  rfl

theorem getLast_folderPath : (folderPath settings).getLast? ≠ some '/' :=
  Path.getLast_behind h.single settings.projectRoot.toList h.plain.nonempty

theorem not_mem_folderPath : Char.ofNat 0 ∉ folderPath settings := by
  have hslash : Char.ofNat 0 ≠ '/' := by decide
  simp [folderPath, h.clean.1, h.clean.2, hslash]

/-- Making the folder of the log is no failure, and it is all that is made. -/
theorem makeFolders_folderPath (hlinks : d.NoLinks) (hfolder : d.isFolder settings.projectRoot.toList = true)
    (depth : Nat) : (∀ f, (d.makeFolders (depth + 1) (folderPath settings)).1 = .error f → f.isStorageError = true) ∧
      d.Agree settings.logPlace (d.makeFolders (depth + 1) (folderPath settings)).2 ∧
      (d.makeFolders (depth + 1) (folderPath settings)).2.NoLinks := by
  have hlast := getLast_folderPath h
  -- the folder of the log is right in the folder of the project, and this is there
  have hparent : Disk.parentPath (folderPath settings) = settings.projectRoot.toList := by
    rw [Disk.parentPath, if_neg fun heq => hlast (by simpa using heq)]
    exact Path.directoryName_behind h.single (Path.ne_nil_of_isAbsolute h.absolute) h.trimmed
  have hname : Disk.endsInName (folderPath settings) = true := by
    rw [Disk.endsInName, if_neg fun heq => hlast (by simpa using heq), folderPath, Path.baseName_behind h.single]
    simpa using h.plain.notHere
  obtain ⟨hstate, hstorage⟩ := Disk.makeFolders_cases (not_mem_folderPath h) hparent hfolder hname depth
  refine ⟨hstorage, ?_⟩
  rcases hstate with hsame | ⟨p, hspot, hmade⟩
  · rw [hsame]
    exact ⟨fun _ _ => rfl, hlinks⟩
  · -- without links the folder is put right into its place
    rw [← Disk.locate_eq_spot hlinks] at hspot
    have hp := Disk.locate_eq hlinks (isAbsolute_folderPath h) hspot
    rw [walk_folderPath h] at hp
    rw [hmade]
    exact ⟨Disk.agree_put (hp ▸ List.prefix_refl _) d _, Disk.noLinks_put hlinks p (by simp)⟩

/-- A line is put into the log, or the disk refuses. -/
theorem append_line (hlinks : d.NoLinks) (bytes : List UInt8) :
    (∃ d', d.append (folderPath settings ++ '/' :: fileName.toList) bytes = .ok d' ∧
        d.Agree settings.logPlace d' ∧ d'.NoLinks) ∨
      ∃ f, d.append (folderPath settings ++ '/' :: fileName.toList) bytes = .error f ∧ f.isStorageError = true := by
  have hfile : '/' ∉ fileName.toList := by decide
  have hplain : Path.Plain fileName.toList := ⟨by decide, by decide, by decide⟩
  -- neither the folder nor the name of the log has a character that paths cannot have
  have hnull : Char.ofNat 0 ∉ folderPath settings ++ '/' :: fileName.toList := by
    have hslash : Char.ofNat 0 ≠ '/' := by decide
    have hname : Char.ofNat 0 ∉ fileName.toList := by decide
    simp [not_mem_folderPath h, hslash, hname]
  have habsolute : Path.isAbsolute (folderPath settings ++ '/' :: fileName.toList) = true :=
    Path.isAbsolute_append (isAbsolute_folderPath h) _
  rcases Disk.append_cases hnull d bytes with ⟨p, content, hlocate, hmade⟩ | hrefused
  · have hp := Disk.locate_eq hlinks habsolute hlocate
    rw [Path.walk_behind hfile, walk_folderPath h, Path.enter_plain _ hplain] at hp
    exact Or.inl ⟨_, hmade, Disk.agree_put (hp ▸ List.prefix_append _ _) d _, Disk.noLinks_put hlinks p (by simp)⟩
  · exact Or.inr hrefused

/-- A line is put into the log or refused by storage, and outside of the folder of the log nothing changes. -/
theorem append_log (hlinks : d.NoLinks) (hfolder : d.isFolder settings.projectRoot.toList = true) (text : List Char) :
    let result := append d (folderPath settings ++ '/' :: fileName.toList) text
    result.2.NoLinks ∧ d.Agree settings.logPlace result.2 ∧ ∀ f, result.1 = .error f → f.isStorageError = true := by
  intro result
  have hdirectory : Path.directoryName (folderPath settings ++ '/' :: fileName.toList) = folderPath settings :=
    Path.directoryName_behind (by decide) (by simp [folderPath]) (getLast_folderPath h)
  obtain ⟨hstorage, hagree, hlinks'⟩ :=
    makeFolders_folderPath h hlinks hfolder (folderPath settings ++ '/' :: fileName.toList).length
  have hresult : result = append d (folderPath settings ++ '/' :: fileName.toList) text := rfl
  unfold append at hresult
  rw [hdirectory] at hresult
  rcases hmade : d.makeFolders ((folderPath settings ++ '/' :: fileName.toList).length + 1) (folderPath settings) with
    ⟨f | ⟨⟩, d₁⟩
  · -- the folder could not be made
    rw [hmade] at hstorage hagree hlinks'
    simp only [hmade] at hresult
    rw [hresult]
    exact ⟨hlinks', hagree, fun g hg => hstorage g hg⟩
  · rw [hmade] at hagree hlinks'
    rcases append_line h hlinks' (Text.encode text) with ⟨d₂, hadded, hagree₂, hlinks₂⟩ | ⟨f, hadded, hrefused⟩
    · simp only [hmade, hadded] at hresult
      rw [hresult]
      exact ⟨hlinks₂, hagree.trans hagree₂, by simp⟩
    · -- the folder stays, even if the line does not get there
      simp only [hmade, hadded] at hresult
      rw [hresult]
      refine ⟨hlinks', hagree, ?_⟩
      intro g hg
      rwa [← Except.error.inj hg]

/-- Logging is no failure, and it changes nothing outside of the folder of the log. -/
theorem exists_of_record (hlinks : d.NoLinks) (hfolder : d.isFolder settings.projectRoot.toList = true) (time : String)
    (fields : List (String × Json)) : ∃ d',
      (record time settings.projectRoot settings.metricsDir d fields).1 = .ok d' ∧
        d.Agree settings.logPlace d' ∧ d'.NoLinks := by
  obtain ⟨hnone, hsame, herror⟩ := append_log h hlinks hfolder (line time fields)
  refine ⟨(append d (folderPath settings ++ '/' :: fileName.toList) (line time fields)).2, ?_, hsame, hnone⟩
  unfold record
  rw [path_eq h]
  rcases happend : append d (folderPath settings ++ '/' :: fileName.toList) (line time fields) with ⟨f | ⟨⟩, d'⟩
  · -- what storage refuses is told and does no other harm
    rw [happend] at herror
    simp only [herror f rfl, if_true]
  · rfl

end Metrics

/-! ## Sessions that log -/

namespace Session

variable {h : FileHost} {s : Session Disk}

/-- What is looked at besides the log: files that keep out of its folder, on disks without links that have the folder of
the project, and of which nobody sees what is in the folder of the log. -/
def besidesLog (h : FileHost) (settings : Settings) : View Disk where
  seen := h.KeepsOut settings.logPlace
  same a b := (a.NoLinks ∧ a.isFolder settings.projectRoot.toList = true) ∧
    (b.NoLinks ∧ b.isFolder settings.projectRoot.toList = true) ∧ a.Agree settings.logPlace b

/-- Edits make no links, and leave the folder of the project where it is. -/
theorem kept_of_apply (hroot : Path.isAbsolute h.root.toList = true) {a : Disk} {projectRoot : String}
    (ha : a.NoLinks ∧ a.isFolder projectRoot.toList = true) (path : String) (edits : List Edit) :
    (h.apply a path edits).state.NoLinks ∧ (h.apply a path edits).state.isFolder projectRoot.toList = true := by
  have hways := FileHost.sameWays_apply hroot ha.1 path edits
  exact ⟨fun q target hlink => ha.1 q target ((hways.link q target).mpr hlink), Disk.isFolder_of_sameWays hways ha.2⟩

/-- A session that edits the files of a disk, and logs there, answers alike on disks that differ in the log only. -/
theorem blind_besidesLog (hhost : s.host = h.host) (hroot : Path.isAbsolute h.root.toList = true) {time : String}
    (hlog : s.log = Metrics.record time s.settings.projectRoot s.settings.metricsDir) (hinside : s.settings.LogsInside) :
    s.Blind (besidesLog h s.settings) := by
  have hread : s.host.read = h.read := congrArg Host.read hhost
  have hsymbols : s.host.symbols = h.symbols := congrArg Host.symbols hhost
  have happly : s.host.apply = h.apply := congrArg Host.apply hhost
  have hsave : s.host.save = fun _ _ => true := congrArg Host.save hhost
  constructor
  · rintro a b ⟨ha, hb, hagree⟩
    exact ⟨hb, ha, hagree.symm⟩
  · rintro a b c ⟨ha, -, hagree⟩ ⟨-, hc, hagree'⟩
    exact ⟨ha, hc, hagree.trans hagree'⟩
  · rintro a b path ⟨ha, -, hagree⟩ hseen
    rw [hread]
    exact FileHost.read_of_agree hroot ha.1 hagree hseen
  · rintro a b path ⟨ha, -, hagree⟩ hseen
    rw [hsymbols]
    exact FileHost.symbols_of_agree hroot ha.1 hagree hseen
  · intro a b path _ _
    rw [hsave]
  · rintro a b path ⟨ha, hb, hagree⟩ hseen edits
    rw [happly]
    exact (FileHost.apply_of_agree hroot ha.1 hb.1 hagree hseen edits).1
  · rintro a b path ⟨ha, hb, hagree⟩ hseen edits
    rw [happly]
    exact ⟨kept_of_apply hroot ha path edits, kept_of_apply hroot hb path edits,
      (FileHost.apply_of_agree hroot ha.1 hb.1 hagree hseen edits).2⟩
  -- writing the log, which changes the disk in the folder of the log alone
  · rintro - a ⟨ha, -, -⟩ entry
    obtain ⟨a', hrecord, hagree, hlinks⟩ := Metrics.exists_of_record hinside ha.1 ha.2 time entry
    rw [← hlog] at hrecord
    refine ⟨a', hrecord, ha, ⟨hlinks, ?_⟩, hagree⟩
    rw [← Disk.isFolder_of_agree ha.1 hagree hinside.absolute hinside.outside]
    exact ha.2

/-- A batch that is not made leaves the disk as it was. -/
theorem same_of_not_made (hroot : Path.isAbsolute h.root.toList = true) {settings : Settings} {d : Disk}
    {path : String} {edits : List Edit} (hd : (besidesLog h settings).same d d)
    (hmade : (h.apply d path edits).made ≠ .ok true) :
    (besidesLog h settings).same (h.apply d path edits).state d := by
  rw [FileHost.state_of_not_made hroot hd.1.1 hmade]
  exact hd

/-- Taking a file or a folder away, in which the folder of the project is not, leaves disks alike that are. -/
theorem same_erase {settings : Settings} {a b : Disk} {p : Place}
    (habsolute : Path.isAbsolute settings.projectRoot.toList = true)
    (hout : Disk.KeepsOut p settings.projectRoot.toList) (hsame : (besidesLog h settings).same a b) :
    (besidesLog h settings).same (a.erase p) (b.erase p) := by
  -- the path of the project folder does not pass what is taken away
  have hleft : ∀ {d : Disk}, d.NoLinks ∧ d.isFolder settings.projectRoot.toList = true →
      (d.erase p).NoLinks ∧ (d.erase p).isFolder settings.projectRoot.toList = true := by
    rintro d ⟨hlinks, hfolder⟩
    refine ⟨Disk.noLinks_erase hlinks p, ?_⟩
    rw [← Disk.isFolder_of_agree hlinks (Disk.agree_erase (List.prefix_refl p) d) habsolute hout]
    exact hfolder
  obtain ⟨ha, hb, hagree⟩ := hsame
  exact ⟨hleft ha, hleft hb, hagree.erase p⟩

/-- The host of a command's session. -/
def commandHost (around : Command.Surroundings) (d : Disk) (settings : Settings) : FileHost where
  root := FileHost.rootOf d settings.projectRoot
  strict := settings.rejectOverlaps
  language := settings.defaultLanguage
  registry := around.registry

/-- The session of a command, which logs unless it is told not to, answers alike on such disks. -/
theorem blind_sessionOf (around : Command.Surroundings) (d : Disk) {settings : Settings} (h : settings.LogsInside) :
    (Command.sessionOf around d settings).Blind (besidesLog (commandHost around d settings) settings) := by
  have hroot : Path.isAbsolute (commandHost around d settings).root.toList = true :=
    FileHost.isAbsolute_rootOf d settings.projectRoot
  have hhost : (Command.sessionOf around d settings).host = (commandHost around d settings).host := by
    simp only [Command.sessionOf, commandHost]
  have hlog : (Command.sessionOf around d settings).log
      = Metrics.record around.time settings.projectRoot settings.metricsDir := by
    simp only [Command.sessionOf]
  exact blind_besidesLog hhost hroot hlog h

end Session

end Emend
