import Emend.Disk
import Emend.Proofs.Attempt
import Emend.Proofs.Lookup
import Emend.Proofs.Path
import Emend.Proofs.Text.Utf8

/-!
# Following paths

What a path leads to is decided by the folders and the links on the way. So it stays where it was as long as
these do (`trace_of_sameWays`), whatever becomes of the files. A link under the last name is the only thing that
tells what a path names from what it leads to (`spot_or_locate`). A name with a suffix is beside the name without it,
under whatever links the folder is reached (`spot_append`).

Main statements:

* `followNames_of_sameWays`, `trace_of_sameWays`: the ways through two disks with the same folders and links.
* `followNames_last`, `spot_or_locate`: with the last link followed and without.
* `followNames_concat`, `spot_append`: one last name for another.
* `openAt_eq_ok`, `isFile_iff`, `read_eq_ok`, `named_eq_ok`: what the operations on files find.
-/

namespace Emend.Disk

open Text

variable {d d' : Disk} {path : List Char}

/-! ## Entries -/

theorem entry_put {p : Place} (d : Disk) (e : Entry) (h : p ≠ []) : (d.put p e).entry p = some e := by
  have hsome : p.isEmpty = false := by simpa using h
  simp [entry, put, hsome]

theorem entry_erase_of_ne {p q : Place} (d : Disk) (h : q ≠ p) :
    (d.erase p).entry q = d.entry q := by
  rw [entry, entry, erase]
  simp only [lookup_filter_of_ne h]

theorem entry_erase {p : Place} (d : Disk) (h : p ≠ []) : (d.erase p).entry p = none := by
  have hsome : p.isEmpty = false := by simpa using h
  have hnone : (d.entries.filter (·.1 != p)).lookup p = none := by
    rw [List.lookup_eq_none_iff]
    intro e he
    have hne : e.1 ≠ p := by simpa using (List.mem_filter.mp he).2
    simpa using Ne.symm hne
  rw [entry, erase, hsome, if_neg Bool.false_ne_true]
  exact hnone

theorem entry_put_of_ne {p q : Place} (d : Disk) (e : Entry) (h : q ≠ p) :
    (d.put p e).entry q = d.entry q := by
  rw [entry, entry, put]
  simp only [lookup_cons_of_ne e h, lookup_filter_of_ne h]

theorem entry_nil (d : Disk) : d.entry [] = some .folder := rfl

/-! ## Lengths -/

@[simp] theorem byteLength_nil : byteLength [] = 0 := rfl

@[simp] theorem byteLength_cons (c : Char) (s : List Char) :
    byteLength (c :: s) = Text.byteWidth c + byteLength s := rfl

@[simp] theorem byteLength_append (s t : List Char) :
    byteLength (s ++ t) = byteLength s + byteLength t := by
  induction s with
  | nil => simp
  | cons c s ih => simp only [List.cons_append, byteLength_cons, ih, Nat.add_assoc]

/-! ## One name after the other -/

section Names

variable {jump jump' : Place → List (List Char) → Except FileProblem Place} {last : Bool} {start p : Place}
  {part : List Char} {parts rest : List (List Char)}

/-- A component that names nothing is taken without a look at the disk. -/
theorem followNames_skip (h : ¬ Path.Plain part) : d.followNames jump last start (part :: rest)
    = d.followNames jump last (Path.enter start part) rest := by
  rw [followNames, Path.enter]
  split
  · rfl
  · rename_i hskip
    have hne : part ≠ [] ∧ part ≠ ['.'] := by simpa using hskip
    -- a part that is no name and is not passed over can only be two points
    have hup : part = ['.', '.'] := by
      by_contra hup
      exact h ⟨hne.1, hne.2, hup⟩
    rw [if_pos (by simpa using hup), if_pos (by simpa using hup)]

/-- A name is short enough, and what it names decides how the others are followed. -/
theorem followNames_plain (h : Path.Plain part) : d.followNames jump last start (part :: rest)
    = if nameLimit < byteLength part then .error .nameTooLong
      else match d.entry (start ++ [String.ofList part]) with
        | some .folder => d.followNames jump last (start ++ [String.ofList part]) rest
        | some (.link target) =>
          if rest.isEmpty && !last then .ok (start ++ [String.ofList part])
          else jump (if Path.isAbsolute target then [] else start) (Path.components target ++ rest)
        | some (.file _) => if rest.isEmpty then .ok (start ++ [String.ofList part]) else .error .notDirectory
        | none => if rest.isEmpty then .ok (start ++ [String.ofList part]) else .error .noSuchFile := by
  have hskip : ¬ (part.isEmpty || part == ['.']) = true := by simp [h.nonempty, h.notHere]
  have hup : ¬ (part == ['.', '.']) = true := by simp [h.notUp]
  exact (if_neg hskip).trans (if_neg hup)

/-- What a name names does not tell how to go on: it is a file, or nothing. -/
def Ends (d : Disk) (p : Place) : Prop := d.entry p ≠ some .folder ∧ ∀ target, d.entry p ≠ some (.link target)

theorem ends_of_none (h : d.entry p = none) : d.Ends p := by simp [Ends, h]

theorem ends_of_file {bytes : List UInt8} (h : d.entry p = some (.file bytes)) : d.Ends p := by simp [Ends, h]

theorem ends_iff : d.Ends p ↔ d.entry p = none ∨ ∃ bytes, d.entry p = some (.file bytes) := by
  rcases hentry : d.entry p with _ | (bytes | _ | target) <;> simp [Ends, hentry]

/-- The ways that a name can be followed where it leads anywhere. -/
theorem followNames_plain_eq_ok (h : Path.Plain part) :
    d.followNames jump last start (part :: rest) = .ok p ↔ byteLength part ≤ nameLimit ∧
      ((d.entry (start ++ [String.ofList part]) = some .folder ∧
          d.followNames jump last (start ++ [String.ofList part]) rest = .ok p) ∨
        (∃ target, d.entry (start ++ [String.ofList part]) = some (.link target) ∧
          if rest = [] ∧ last = false then start ++ [String.ofList part] = p
          else jump (if Path.isAbsolute target then [] else start) (Path.components target ++ rest) = .ok p) ∨
        (d.Ends (start ++ [String.ofList part]) ∧ rest = [] ∧ start ++ [String.ofList part] = p)) := by
  rw [followNames_plain h, ← Nat.not_lt]
  by_cases hlong : nameLimit < byteLength part
  · simp [hlong]
  -- what stands under the name decides, and for all but a folder also whether names are left
  rcases hentry : d.entry (start ++ [String.ofList part]) with _ | (bytes | _ | target)
  · rcases rest with _ | ⟨next, rest⟩ <;> simp [Ends, hentry, hlong]
  · rcases rest with _ | ⟨next, rest⟩ <;> simp [Ends, hentry, hlong]
  · simp [Ends, hentry, hlong]
  · rcases rest with _ | ⟨next, rest⟩ <;> rcases last with _ | _ <;> simp [Ends, hentry, hlong]

/-! ## The same folders and links -/

/-- Folders are folders on both disks, links are the same links, and relative paths start from one folder. -/
structure SameWays (d d' : Disk) : Prop where
  folder : ∀ q, d.entry q = some .folder ↔ d'.entry q = some .folder
  link : ∀ q target, d.entry q = some (.link target) ↔ d'.entry q = some (.link target)
  here : d.here = d'.here

theorem SameWays.refl (d : Disk) : SameWays d d := ⟨fun _ => Iff.rfl, fun _ _ => Iff.rfl, rfl⟩

theorem SameWays.ends (h : SameWays d d') (q : Place) : d.Ends q ↔ d'.Ends q := by
  simp only [Ends, ne_eq, h.folder, h.link]

theorem Ends.ne_nil (h : d.Ends p) : p ≠ [] := by
  rintro rfl
  exact h.1 d.entry_nil

/-- Disks that differ in what is no folder and no link on either have the same ways. -/
theorem sameWays_of_ends (hhere : d.here = d'.here) (h : ∀ q, d'.entry q = d.entry q ∨ (d.Ends q ∧ d'.Ends q)) :
    SameWays d d' := by
  refine ⟨?_, ?_, hhere⟩
  · intro q
    rcases h q with heq | ⟨hends, hends'⟩
    · rw [heq]
    · exact iff_of_false hends.1 hends'.1
  · intro q target
    rcases h q with heq | ⟨hends, hends'⟩
    · rw [heq]
    · exact iff_of_false (hends.2 target) (hends'.2 target)

theorem sameWays_put (h : d.Ends p) (bytes : List UInt8) : SameWays d (d.put p (.file bytes)) := by
  refine sameWays_of_ends rfl fun q => ?_
  by_cases hq : q = p
  · subst hq
    exact Or.inr ⟨h, ends_of_file (entry_put d _ h.ne_nil)⟩
  · exact Or.inl (entry_put_of_ne d _ hq)

theorem followNames_of_sameWays (hways : SameWays d d')
    (hjump : ∀ start parts p, jump start parts = .ok p ↔ jump' start parts = .ok p) :
    d.followNames jump last start parts = .ok p ↔ d'.followNames jump' last start parts = .ok p := by
  -- on the names that are left; each disk jumps on its own, and `hjump` says that they agree there
  induction parts generalizing start with
  | nil => exact Iff.rfl
  | cons part rest ih =>
    by_cases hplain : Path.Plain part
    · rw [followNames_plain_eq_ok hplain, followNames_plain_eq_ok hplain]
      simp only [ih, hways.folder, hways.link, hways.ends, hjump]
    · rw [followNames_skip hplain, followNames_skip hplain]
      exact ih

/-! ## The last name -/

/-- Whether the last link is followed makes no difference, unless a link is named. -/
theorem followNames_last (hjump : ∀ start parts, jump' start parts = jump start parts ∨
      ∃ p target, jump start parts = .ok p ∧ d.entry p = some (.link target)) :
    d.followNames jump' true start parts = d.followNames jump false start parts ∨
      ∃ p target, d.followNames jump false start parts = .ok p ∧ d.entry p = some (.link target) := by
  -- the two differ in nothing before the last name, so the case is decided at the link that is met
  induction parts generalizing start with
  | nil => exact Or.inl rfl
  | cons part rest ih =>
    by_cases hplain : Path.Plain part
    · rw [followNames_plain hplain, followNames_plain hplain]
      split
      · exact Or.inl rfl
      · rcases hentry : d.entry (start ++ [String.ofList part]) with _ | (bytes | _ | target)
        · exact Or.inl rfl
        · exact Or.inl rfl
        · exact ih
        · rcases rest with _ | ⟨next, rest⟩
          -- the link stands under the last name: here one of them follows it, the other does not
          · exact Or.inr ⟨_, target, rfl, hentry⟩
          · exact hjump _ _
    · rw [followNames_skip hplain, followNames_skip hplain]
      exact ih

/-- A last name is passed over, whatever it names. -/
theorem followNames_one : d.followNames jump false start [part] = .ok p ↔
    Path.enter start part = p ∧ (Path.Plain part → byteLength part ≤ nameLimit) := by
  by_cases hplain : Path.Plain part
  · rw [followNames_plain_eq_ok hplain, Path.enter_plain start hplain]
    rcases hentry : d.entry (start ++ [String.ofList part]) with _ | (bytes | _ | target) <;>
      simp [Ends, hentry, hplain, followNames, and_comm]
  · rw [followNames_skip hplain]
    simp [followNames, hplain]

/-- Names with one more at their end lead into the folder that this one is looked up in. So do they with another last
name, if it is no longer. -/
theorem followNames_concat {a : List Char} (ha : Path.Plain a)
    (hjump : ∀ start parts p, jump start (parts ++ [a]) = .ok p → ∃ around, p = around ++ [String.ofList a] ∧
      ∀ b, byteLength b ≤ byteLength a → jump start (parts ++ [b]) = .ok (Path.enter around b))
    (h : d.followNames jump false start (parts ++ [a]) = .ok p) : ∃ around, p = around ++ [String.ofList a] ∧
      ∀ b, byteLength b ≤ byteLength a →
        d.followNames jump false start (parts ++ [b]) = .ok (Path.enter around b) := by
  -- on the names before the last one, which lead on in the same way whatever comes after them
  induction parts generalizing start with
  | nil =>
    obtain ⟨hp, hshort⟩ := followNames_one.mp h
    rw [Path.enter_plain start ha] at hp
    exact ⟨start, hp.symm, fun b hb => followNames_one.mpr ⟨rfl, fun _ => Nat.le_trans hb (hshort ha)⟩⟩
  | cons part rest ih =>
    by_cases hplain : Path.Plain part
    · rw [List.cons_append, followNames_plain_eq_ok hplain] at h
      obtain ⟨hshort, ⟨hfolder, hrest⟩ | ⟨target, hlink, hrest⟩ | ⟨-, hnil, -⟩⟩ := h
      · obtain ⟨around, hp, hother⟩ := ih hrest
        refine ⟨around, hp, fun b hb => ?_⟩
        exact (followNames_plain_eq_ok hplain).mpr ⟨hshort, Or.inl ⟨hfolder, hother b hb⟩⟩
      · -- a link on the way puts its own names before those that are left
        rw [if_neg (by simp), ← List.append_assoc] at hrest
        obtain ⟨around, hp, hother⟩ := hjump _ _ _ hrest
        refine ⟨around, hp, fun b hb => ?_⟩
        have hnext := hother b hb
        rw [List.append_assoc] at hnext
        exact (followNames_plain_eq_ok hplain).mpr
          ⟨hshort, Or.inr (Or.inl ⟨target, hlink, by rwa [if_neg (by simp)]⟩)⟩
      · simp at hnil
    · rw [List.cons_append, followNames_skip hplain] at h
      obtain ⟨around, hp, hother⟩ := ih h
      refine ⟨around, hp, fun b hb => ?_⟩
      rw [List.cons_append, followNames_skip hplain]
      exact hother b hb

end Names

/-! ## Through links -/

section Links

variable {last : Bool} {start p : Place} {parts : List (List Char)}

theorem follow_of_sameWays (hways : SameWays d d') (links : Nat) :
    d.follow last links start parts = .ok p ↔ d'.follow last links start parts = .ok p := by
  induction links generalizing start parts p with
  | zero => exact followNames_of_sameWays hways fun _ _ _ => Iff.rfl
  | succ links ih => exact followNames_of_sameWays hways fun _ _ _ => ih

theorem follow_last (d : Disk) (links : Nat) (start : Place) (parts : List (List Char)) :
    d.follow true links start parts = d.follow false links start parts ∨
      ∃ p target, d.follow false links start parts = .ok p ∧ d.entry p = some (.link target) := by
  induction links generalizing start parts with
  | zero => exact followNames_last fun _ _ => Or.inl rfl
  | succ links ih => exact followNames_last ih

theorem follow_concat {a : List Char} {links : Nat} (ha : Path.Plain a)
    (h : d.follow false links start (parts ++ [a]) = .ok p) : ∃ around, p = around ++ [String.ofList a] ∧
      ∀ b, byteLength b ≤ byteLength a →
        d.follow false links start (parts ++ [b]) = .ok (Path.enter around b) := by
  induction links generalizing start parts p with
  | zero =>
    refine followNames_concat ha ?_ h
    intro start parts p hjump
    simp at hjump
  | succ links ih => exact followNames_concat ha (fun _ _ _ => ih) h

end Links

/-! ## Paths -/

section Paths

variable {last : Bool} {p : Place} {t : List Char}

theorem trace_eq_ok : d.trace last path = .ok p ↔ path ≠ [] ∧ byteLength path ≤ pathLimit ∧
    d.follow last linkLimit (if Path.isAbsolute path then [] else d.here) (Path.components path) = .ok p := by
  unfold trace
  rw [← Nat.not_lt]
  by_cases hempty : path = []
  · simp [hempty]
  · by_cases hlong : pathLimit < byteLength path <;> simp [hempty, hlong]

/-- A path leads where it led as long as folders and links stay what they are. -/
theorem trace_of_sameWays (hways : SameWays d d') : d.trace last path = .ok p ↔ d'.trace last path = .ok p := by
  rw [trace_eq_ok, trace_eq_ok, follow_of_sameWays hways, hways.here]

/-- What a path leads to is what it names, unless it names a link. -/
theorem spot_or_locate (d : Disk) (path : List Char) : d.locate path = d.spot path ∨
    ∃ p target, d.spot path = .ok p ∧ d.entry p = some (.link target) := by
  unfold locate spot trace
  split
  · exact Or.inl rfl
  · split
    · exact Or.inl rfl
    · exact follow_last _ _ _ _

/-- Text without a slash at the end of a path is text at the end of its last component. -/
theorem components_append (ht : '/' ∉ t) (s : List Char) :
    ∃ init name, Path.components s = init ++ [name] ∧ Path.components (s ++ t) = init ++ [name ++ t] := by
  induction s with
  | nil => exact ⟨[], [], rfl, by simpa [Path.components] using pieces_of_not_mem ht⟩
  | cons c s ih =>
    obtain ⟨init, name, hs, hst⟩ := ih
    rw [Path.components] at hs hst
    simp only [Path.components, List.cons_append, pieces, hs, hst]
    -- a slash starts a new name in front, any other character belongs to the first one
    by_cases hc : c = '/'
    · exact ⟨[] :: init, name, by simp [hc], by simp [hc]⟩
    · rcases init with _ | ⟨first, init⟩
      · exact ⟨[], c :: name, by simp [hc], by simp [hc]⟩
      · exact ⟨(c :: first) :: init, name, by simp [hc], by simp [hc]⟩

/-- Where a name with something behind it is anywhere, the name without it is beside. -/
theorem spot_append (ht : '/' ∉ t) (hlong : 2 < t.length) (hpath : path ≠ [])
    (h : d.spot (path ++ t) = .ok p) : ∃ q, d.spot path = .ok q ∧ q ≠ p := by
  obtain ⟨init, name, hs, hst⟩ := components_append ht path
  have habsolute : Path.isAbsolute (path ++ t) = Path.isAbsolute path := by
    obtain ⟨c, rest, rfl⟩ := List.exists_cons_of_ne_nil hpath
    rfl
  -- the suffix alone is longer than two points, so the name with it is a name of its own
  have hplain : Path.Plain (name ++ t) := by
    have hlength : 2 < (name ++ t).length := by
      rw [List.length_append]
      omega
    refine ⟨?_, ?_, ?_⟩ <;> intro heq <;> simp [heq] at hlength
  rw [spot, trace_eq_ok, habsolute, hst] at h
  obtain ⟨-, hlength, hfollow⟩ := h
  -- both paths lead into one folder, and there to names of different length
  obtain ⟨around, rfl, hother⟩ := follow_concat hplain hfollow
  rw [byteLength_append] at hlength
  refine ⟨Path.enter around name, ?_, ?_⟩
  · rw [spot, trace_eq_ok, hs]
    exact ⟨hpath, by omega, hother name (by rw [byteLength_append]; omega)⟩
  · exact Path.enter_ne_longer around name (List.ne_nil_of_length_pos (by omega))

/-- No link stands under a name. -/
def Unlinked (d : Disk) (path : List Char) : Prop :=
  ∀ p target, d.spot path = .ok p → d.entry p ≠ some (.link target)

/-- A path that names no link leads to what it names. -/
theorem Unlinked.locate_eq (h : d.Unlinked path) : d.locate path = d.spot path := by
  rcases spot_or_locate d path with heq | ⟨p, target, hspot, hlink⟩
  · exact heq
  · exact absurd hlink (h p target hspot)

end Paths

/-! ## Files -/

section Files

variable {p : Place}

/-- A file that is there. -/
theorem isFile_iff : d.isFile path = true ↔
    Char.ofNat 0 ∉ path ∧ ∃ p bytes, d.locate path = .ok p ∧ d.entry p = some (.file bytes) := by
  unfold isFile entryAt
  by_cases hnull : Char.ofNat 0 ∈ path
  · simp [hnull]
  · rcases hlocate : d.locate path with problem | p
    · simp [hnull]
    · rcases hentry : d.entry p with _ | (bytes | _ | target) <;> simp [hnull, hentry]

/-- A folder stays one where the ways are the same. -/
theorem isFolder_of_sameWays (hways : SameWays d d') (h : d.isFolder path = true) : d'.isFolder path = true := by
  have hentry : d.entryAt path = some .folder := by simpa [isFolder] using h
  unfold isFolder entryAt at *
  split at hentry
  · cases hentry
  · rename_i hnull
    rcases hlocate : d.locate path with problem | p
    · rw [hlocate] at hentry
      cases hentry
    · rw [hlocate] at hentry
      have hlocate' : d'.locate path = .ok p := (trace_of_sameWays hways).mp hlocate
      have hfolder : d'.entry p = some .folder := (hways.folder p).mp hentry
      rw [if_neg hnull, hlocate']
      simp [hfolder]

/-- What is opened is a file that the path leads to, or is to be one. -/
theorem openAt_eq_ok {old : Option (List UInt8)} (h : d.openAt path = .ok (p, old)) :
    Char.ofNat 0 ∉ path ∧ d.locate path = .ok p ∧ d.Ends p := by
  unfold openAt at h
  by_cases hnull : Char.ofNat 0 ∈ path
  · simp [hnull, throw, throwThe, MonadExceptOf.throw, bind, Except.bind] at h
  · rcases hlocate : d.locate path with problem | q
    · simp [hnull, hlocate, ofProblem, bind, Except.bind] at h
    -- a folder or a link in the place is a problem; these cases are closed by the evaluation of `h`
    · rcases hentry : d.entry q with _ | (bytes | _ | target) <;>
        simp [hnull, hlocate, hentry, ofProblem, bind, Except.bind, pure, Except.pure] at h
      · rw [← h.1]
        exact ⟨hnull, rfl, ends_of_none hentry⟩
      · rw [← h.1]
        exact ⟨hnull, rfl, ends_of_file hentry⟩

/-- What is a file, or nothing, can be opened. -/
theorem openAt_of_ends (hnull : Char.ofNat 0 ∉ path) (hlocate : d.locate path = .ok p) (hends : d.Ends p) :
    ∃ old, d.openAt path = .ok (p, old) := by
  unfold openAt
  rcases ends_iff.mp hends with hentry | ⟨bytes, hentry⟩
  · exact ⟨none, by simp [hnull, hlocate, hentry, ofProblem, bind, Except.bind, pure, Except.pure]⟩
  · exact ⟨some bytes, by simp [hnull, hlocate, hentry, ofProblem, bind, Except.bind, pure, Except.pure]⟩

/-- The bytes of a file that is there. -/
theorem read_eq_ok {bytes : List UInt8} (hnull : Char.ofNat 0 ∉ path) (hlocate : d.locate path = .ok p)
    (hentry : d.entry p = some (.file bytes)) : d.read path = .ok bytes := by
  unfold read openAt
  simp [hnull, hlocate, hentry, ofProblem, bind, Except.bind, pure, Except.pure]

/-- The text of a file that is there is what its bytes encode. -/
theorem exists_bytes_of_readText {text : List Char} (hfile : d.isFile path = true)
    (h : d.readText path = .ok text) : ∃ p bytes, d.locate path = .ok p ∧
      d.entry p = some (.file bytes) ∧ Text.decode? bytes = some text := by
  obtain ⟨hnull, p, bytes, hlocate, hentry⟩ := isFile_iff.mp hfile
  refine ⟨p, bytes, hlocate, hentry, ?_⟩
  rw [readText, read_eq_ok hnull hlocate hentry] at h
  rcases hdecode : Text.decode? bytes with _ | chars
  · simp [hdecode, throw, throwThe, MonadExceptOf.throw, bind, Except.bind] at h
  · simpa [hdecode, bind, Except.bind, pure, Except.pure] using h

/-- The entry under a name. -/
theorem named_eq_ok {e : Option Entry} : d.named path = .ok (p, e) ↔
    Char.ofNat 0 ∉ path ∧ d.spot path = .ok p ∧ d.entry p = e := by
  unfold named
  by_cases hnull : Char.ofNat 0 ∈ path
  · simp [hnull, throw, throwThe, MonadExceptOf.throw, bind, Except.bind]
  · rcases hspot : d.spot path with problem | q
    · simp [hnull, ofProblem, bind, Except.bind]
    · simp only [List.contains_eq_mem, hnull, decide_false, Bool.false_eq_true, if_false, ofProblem, bind,
        Except.bind, pure, Except.pure, Except.ok.injEq, Prod.mk.injEq, not_false_eq_true, true_and]
      constructor
      · rintro ⟨rfl, rfl⟩
        exact ⟨rfl, rfl⟩
      · rintro ⟨rfl, rfl⟩
        exact ⟨rfl, rfl⟩

/-- A name is taken away where it stands. -/
theorem unlink_eq_ok (h : d.unlink path = .ok d') : ∃ p, d.spot path = .ok p ∧ d' = d.erase p := by
  obtain ⟨⟨p, found⟩, hnamed, h⟩ := Attempt.bind_eq_ok.mp h
  refine ⟨p, (named_eq_ok.mp hnamed).2.1, ?_⟩
  rcases found with _ | (bytes | _ | target)
  · simp [ofProblem] at h
  · exact (Attempt.pure_eq_ok.mp h).symm
  · simp [ofProblem] at h
  · exact (Attempt.pure_eq_ok.mp h).symm

/-- What is given another name was there, and is there under this name. -/
theorem rename_eq_ok {source target : List Char} (h : d.rename source target = .ok d') :
    ∃ p q entry, d.spot source = .ok p ∧ d.spot target = .ok q ∧ d.entry p = some entry ∧
      d.entry q ≠ some .folder ∧ d' = (d.erase p).put q entry := by
  obtain ⟨⟨p, moved⟩, hsource, h⟩ := Attempt.bind_eq_ok.mp h
  obtain ⟨⟨q, lost⟩, htarget, h⟩ := Attempt.bind_eq_ok.mp h
  obtain ⟨-, hp, hmoved⟩ := named_eq_ok.mp hsource
  obtain ⟨-, hq, hlost⟩ := named_eq_ok.mp htarget
  -- the check for a folder in the way is the same for a file and for a link that is renamed
  have hplaced : ∀ entry, (if lost == some .folder then throw (betweenNames .isDirectory source target)
      else pure ((d.erase p).put q entry) : Attempt Disk) = .ok d' →
        lost ≠ some .folder ∧ d' = (d.erase p).put q entry := by
    intro entry h
    by_cases hfolder : lost = some .folder
    · rw [if_pos (by simpa using hfolder)] at h
      simp [throw, throwThe, MonadExceptOf.throw] at h
    · rw [if_neg (by simpa using hfolder)] at h
      exact ⟨hfolder, (Attempt.pure_eq_ok.mp h).symm⟩
  rcases moved with _ | (bytes | _ | link)
  · simp [throw, throwThe, MonadExceptOf.throw] at h
  · obtain ⟨hfolder, hd⟩ := hplaced (.file bytes) h
    exact ⟨p, q, .file bytes, hp, hq, hmoved, hlost ▸ hfolder, hd⟩
  · simp [throw, throwThe, MonadExceptOf.throw] at h
  · obtain ⟨hfolder, hd⟩ := hplaced (.link link) h
    exact ⟨p, q, .link link, hp, hq, hmoved, hlost ▸ hfolder, hd⟩

/-- A file is given another name, unless a folder has it. -/
theorem rename_file {source target : List Char} {q : Place} {bytes : List UInt8}
    (hsource : d.named source = .ok (p, some (.file bytes))) (hnull : Char.ofNat 0 ∉ target)
    (htarget : d.spot target = .ok q) (hfolder : d.entry q ≠ some .folder) :
    d.rename source target = .ok ((d.erase p).put q (.file bytes)) := by
  have hnamed : d.named target = .ok (q, d.entry q) := named_eq_ok.mpr ⟨hnull, htarget, rfl⟩
  simp [rename, hsource, hnamed, hfolder, bind, Except.bind, pure, Except.pure]

/-! ## What the disk refuses -/

theorem isStorageError_of_ofProblem {α : Type} {r : Except FileProblem α} {f : Failure}
    (h : ofProblem path r = .error f) : f.isStorageError = true := by
  rcases r with problem | a
  · obtain rfl := Except.error.inj h
    rfl
  · simp [ofProblem] at h

/-- A file is not opened for a reason that the disk has, unless its path is none. -/
theorem isStorageError_of_openAt {f : Failure} (hnull : Char.ofNat 0 ∉ path) (h : d.openAt path = .error f) :
    f.isStorageError = true := by
  unfold openAt at h
  simp only [List.contains_eq_mem, hnull, decide_false, Bool.false_eq_true, if_false] at h
  rcases Attempt.bind_eq_error.mp h with hlocate | ⟨p, -, hentry⟩
  · exact isStorageError_of_ofProblem hlocate
  · split at hentry
    · cases hentry
    · cases hentry
    · exact isStorageError_of_ofProblem hentry

/-- Bytes are added to a file that the path leads to, or the disk refuses. -/
theorem append_cases (hnull : Char.ofNat 0 ∉ path) (d : Disk) (bytes : List UInt8) :
    (∃ p content, d.locate path = .ok p ∧ d.append path bytes = .ok (d.put p (.file content))) ∨
      ∃ f, d.append path bytes = .error f ∧ f.isStorageError = true := by
  rcases hopen : d.openAt path with f | ⟨p, old⟩
  · exact Or.inr ⟨f, by simp [append, hopen, bind, Except.bind], isStorageError_of_openAt hnull hopen⟩
  · exact Or.inl ⟨p, old.getD [] ++ bytes, (openAt_eq_ok hopen).2.1,
      by simp [append, hopen, bind, Except.bind, pure, Except.pure]⟩

/-- A folder is made under its name, or the disk refuses. -/
theorem makeFolder_cases (hnull : Char.ofNat 0 ∉ path) (d : Disk) :
    (∃ p, d.spot path = .ok p ∧ d.makeFolder path = .ok (d.put p .folder)) ∨
      ∃ f, d.makeFolder path = .error f ∧ f.isStorageError = true := by
  rcases hspot : d.spot path with problem | p
  · have hnamed : d.named path = .error (.file problem (String.ofList path)) := by
      simp [named, hnull, hspot, ofProblem, bind, Except.bind]
    exact Or.inr ⟨.file problem (String.ofList path), by simp [makeFolder, hnamed, bind, Except.bind], rfl⟩
  · have hnamed : d.named path = .ok (p, d.entry p) := named_eq_ok.mpr ⟨hnull, hspot, rfl⟩
    rcases hentry : d.entry p with _ | e
    · rw [hentry] at hnamed
      exact Or.inl ⟨p, rfl, by simp [makeFolder, hnamed, bind, Except.bind, pure, Except.pure]⟩
    · rw [hentry] at hnamed
      exact Or.inr ⟨.file .exists (String.ofList path), by simp [makeFolder, hnamed, ofProblem, bind, Except.bind], rfl⟩

/-- In a folder that is there, a folder that is missing is made, or the disk refuses. -/
theorem makeFolders_cases {parent : List Char} (hnull : Char.ofNat 0 ∉ path) (hparent : parentPath path = parent)
    (hfolder : d.isFolder parent = true) (hname : endsInName path = true) (depth : Nat) :
    ((d.makeFolders (depth + 1) path).2 = d ∨
        ∃ p, d.spot path = .ok p ∧ (d.makeFolders (depth + 1) path).2 = d.put p .folder) ∧
      ∀ f, (d.makeFolders (depth + 1) path).1 = .error f → f.isStorageError = true := by
  have hthere : (d.entryAt parent).isSome = true := by
    have hentry : d.entryAt parent = some .folder := by simpa [isFolder] using hfolder
    rw [hentry]
    rfl
  -- the folder around is there, so the recursion ends after one step
  unfold makeFolders
  simp only [hparent, hthere, hname, Bool.or_true, if_true, Bool.not_true, Bool.false_and, Bool.false_eq_true, if_false]
  rcases makeFolder_cases hnull d with ⟨p, hspot, hmade⟩ | ⟨f, hmade, hstorage⟩
  · simp only [hmade]
    exact ⟨Or.inr ⟨p, hspot, rfl⟩, by simp⟩
  -- nothing is made; the problem is passed over where the folder was there before
  · simp only [hmade]
    refine ⟨Or.inl trivial, ?_⟩
    intro g hg
    split at hg
    · cases hg
    · rwa [← Except.error.inj hg]

end Files

end Emend.Disk
