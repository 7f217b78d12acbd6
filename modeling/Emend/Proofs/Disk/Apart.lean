import Emend.Proofs.Disk.WithoutLinks

/-!
# Disks that differ inside of a folder

Two disks without links that agree outside of a folder cannot be told apart by a path that keeps out of it: the path
leads to one place on both (`locate_of_agree`), and what is there is the same (`openAt_of_agree`,
`readText_of_agree`). Replacing a file by such a path succeeds on both or on neither, and they agree afterwards
(`replace_of_agree`).

Main statements:

* `Agree.put`, `Agree.erase`: changes that keep two disks in agreement.
* `followNames_of_agree`, `locate_of_agree`: paths that keep out of the folder.
* `replace_of_agree`: replacing a file outside of it.
-/

namespace Emend

namespace Path

/-- The places that an absolute path passes, and the one that it leads to. -/
def visited (p : List Char) : List (List String) := (components p).scanl enter []

theorem walk_mem_visited (p : List Char) : walk p ∈ visited p := by
  have hlast : ∀ (parts : List (List Char)) (start : List String), parts.foldl enter start ∈ parts.scanl enter start := by
    intro parts
    induction parts with
    | nil => simp
    | cons part rest ih =>
      intro start
      rw [List.scanl_cons]
      exact List.mem_cons_of_mem _ (ih _)
  exact hlast (components p) []

end Path

namespace Disk

open Text

variable {a b d : Disk} {F p : Place} {path : List Char} {bytes : List UInt8}

/-- The disks have the same entries outside of a folder. -/
def Agree (F : Place) (a b : Disk) : Prop := ∀ q, ¬ F <+: q → a.entry q = b.entry q

theorem Agree.symm (h : Agree F a b) : Agree F b a := fun q hq => (h q hq).symm

theorem Agree.trans {c : Disk} (h : Agree F a b) (h' : Agree F b c) : Agree F a c :=
  fun q hq => (h q hq).trans (h' q hq)

theorem Agree.put (h : Agree F a b) (p : Place) (e : Entry) : Agree F (a.put p e) (b.put p e) := by
  intro q hq
  by_cases hroot : q = []
  · rw [hroot, entry_nil, entry_nil]
  · by_cases heq : q = p
    · subst heq
      rw [entry_put a e hroot, entry_put b e hroot]
    · rw [entry_put_of_ne a e heq, entry_put_of_ne b e heq, h q hq]

theorem Agree.erase (h : Agree F a b) (p : Place) : Agree F (a.erase p) (b.erase p) := by
  intro q hq
  by_cases hroot : q = []
  · rw [hroot, entry_nil, entry_nil]
  · by_cases heq : q = p
    · subst heq
      rw [entry_erase a hroot, entry_erase b hroot]
    · rw [entry_erase_of_ne a heq, entry_erase_of_ne b heq, h q hq]

/-- What is put into the folder is not seen outside of it. -/
theorem agree_put (hp : F <+: p) (d : Disk) (e : Entry) : Agree F d (d.put p e) := by
  intro q hq
  refine (entry_put_of_ne d e ?_).symm
  rintro rfl
  exact hq hp

/-- What is taken out of the folder is not missed outside of it. -/
theorem agree_erase (hp : F <+: p) (d : Disk) : Agree F d (d.erase p) := by
  intro q hq
  refine (entry_erase_of_ne d ?_).symm
  rintro rfl
  exact hq hp

/-! ## Following -/

/-- A path keeps out of a folder: it passes no place in there. -/
def KeepsOut (F : Place) (path : List Char) : Prop := ∀ q ∈ Path.visited path, ¬ F <+: q

instance (F : Place) (path : List Char) : Decidable (KeepsOut F path) :=
  inferInstanceAs (Decidable (∀ q ∈ Path.visited path, ¬ F <+: q))

section Names

variable {jump jump' : Place → List (List Char) → Except FileProblem Place} {last : Bool} {start : Place}
  {parts : List (List Char)}

theorem followNames_of_agree (hlinks : a.NoLinks) (h : Agree F a b)
    (hout : ∀ q ∈ parts.scanl Path.enter start, ¬ F <+: q) :
    a.followNames jump last start parts = b.followNames jump' last start parts := by
  -- Induction on the components, the place free. At every place on the way the disks have one entry, and that entry
  -- is no link on the first, so it is none on the second.
  induction parts generalizing start with
  | nil => rfl
  | cons part rest ih =>
    rw [List.scanl_cons, List.forall_mem_cons] at hout
    by_cases hplain : Path.Plain part
    · rw [Path.enter_plain start hplain] at hout
      have hhere : ¬ F <+: start ++ [String.ofList part] := by
        refine hout.2 _ ?_
        rcases rest with _ | ⟨next, rest⟩ <;> simp
      rw [followNames_plain hplain, followNames_plain hplain, ← h _ hhere]
      split
      · rfl
      · rcases hentry : a.entry (start ++ [String.ofList part]) with _ | (bytes | _ | target)
        · rfl
        · rfl
        · exact ih hout.2
        · exact absurd hentry (hlinks _ target)
    · rw [followNames_skip hplain, followNames_skip hplain]
      exact ih hout.2

end Names

/-- A path that keeps out of the folder leads to one place on both. -/
theorem locate_of_agree (hlinks : a.NoLinks) (h : Agree F a b) (habsolute : Path.isAbsolute path = true)
    (hout : KeepsOut F path) : a.locate path = b.locate path := by
  have hfollow : a.follow true linkLimit [] (Path.components path) = b.follow true linkLimit [] (Path.components path) :=
    followNames_of_agree hlinks h hout
  unfold locate trace
  simp only [habsolute, if_true, hfollow]

/-- What it leads to is outside. -/
theorem not_inside_of_locate (hlinks : d.NoLinks) (habsolute : Path.isAbsolute path = true) (hout : KeepsOut F path)
    (hlocate : d.locate path = .ok p) : ¬ F <+: p := by
  rw [locate_eq hlinks habsolute hlocate]
  exact hout _ (Path.walk_mem_visited path)

/-! ## Looking -/

section Looking

variable (hlinks : a.NoLinks) (h : Agree F a b) (habsolute : Path.isAbsolute path = true) (hout : KeepsOut F path)

include hlinks h habsolute hout

theorem entryAt_of_agree : a.entryAt path = b.entryAt path := by
  unfold entryAt
  rw [← locate_of_agree hlinks h habsolute hout]
  split
  · rfl
  · rcases hlocate : a.locate path with problem | p
    · rfl
    · exact h p (not_inside_of_locate hlinks habsolute hout hlocate)

theorem isFile_of_agree : a.isFile path = b.isFile path := by
  unfold isFile
  rw [entryAt_of_agree hlinks h habsolute hout]

theorem isFolder_of_agree : a.isFolder path = b.isFolder path := by
  unfold isFolder
  rw [entryAt_of_agree hlinks h habsolute hout]

theorem openAt_of_agree : a.openAt path = b.openAt path := by
  unfold openAt
  rw [← locate_of_agree hlinks h habsolute hout]
  rcases hlocate : a.locate path with problem | p
  · rfl
  · simp only [ofProblem, bind, Except.bind, h p (not_inside_of_locate hlinks habsolute hout hlocate)]

theorem readText_of_agree : a.readText path = b.readText path := by
  unfold readText read
  rw [openAt_of_agree hlinks h habsolute hout]

end Looking

/-! ## Replacing -/

/-- A file that keeps out of the folder, with the one beside it, is replaced on both disks or on neither. -/
theorem replace_of_agree (hlinks : a.NoLinks) (hlinks' : b.NoLinks) (h : Agree F a b)
    (habsolute : Path.isAbsolute path = true) (hout : KeepsOut F path)
    (hbeside : KeepsOut F (Path.normalize path ++ stagingSuffix)) (hfile : a.isFile path = true) (bytes : List UInt8) :
    (a.replace path bytes).1 = (b.replace path bytes).1 ∧ Agree F (a.replace path bytes).2 (b.replace path bytes).2 := by
  have hfile' : b.isFile path = true := by rwa [← isFile_of_agree hlinks h habsolute hout]
  have hstaging := Path.isAbsolute_append (Path.isAbsolute_normalize habsolute) stagingSuffix
  have hopens := openAt_of_agree hlinks h hstaging hbeside
  have hlocates := locate_of_agree hlinks h habsolute hout
  -- Opening the staging file decides on both disks how the replacing ends, and it goes the same way on both.
  rcases replace_cases (direct_of_noLinks hlinks habsolute) habsolute hfile bytes with
    ⟨f, hopen, ha⟩ | ⟨target, beside, old, hlocate, hopen, -, -, ha⟩
  · rcases replace_cases (direct_of_noLinks hlinks' habsolute) habsolute hfile' bytes with
      ⟨g, hopen', hb⟩ | ⟨target, beside, old, -, hopen', -, -, -⟩
    · obtain rfl : f = g := by simpa [hopen, hopen'] using hopens
      rw [ha, hb]
      exact ⟨rfl, h⟩
    · simp [hopen, hopen'] at hopens
  · rcases replace_cases (direct_of_noLinks hlinks' habsolute) habsolute hfile' bytes with
      ⟨g, hopen', -⟩ | ⟨target', beside', old', hlocate', hopen', -, -, hb⟩
    · simp [hopen, hopen'] at hopens
    · obtain ⟨rfl, rfl⟩ : beside = beside' ∧ old = old' := by simpa [hopen, hopen'] using hopens
      obtain rfl : target = target' := by simpa [hlocate, hlocate'] using hlocates
      rw [ha, hb]
      exact ⟨rfl, ((h.put beside _).erase beside).put target _⟩

end Disk

end Emend
