import Emend.Proofs.Host.Storage

/-!
# Disks without links

Without links a path leads where its components do (`followNames_eq`), so its normalized form leads to the same place
(`locate_normalize`), and a file is read where it is replaced (`direct_of_noLinks`). Replacing a file makes no links
(`noLinks_replaceDuring`).

Main statements:

* `followNames_cons_iff`, `followNames_eq`: the way through a disk without links, name by name.
* `lies_of_followNames`, `followNames_of_lies`: a place can be reached if it lies among folders.
* `locate_normalize`, `direct_of_noLinks`: normalized paths, and files read where they are replaced.
* `noLinks_replaceDuring`: replacing a file makes no links.
-/

namespace Emend.Disk

open Text

variable {d d' : Disk} {path : List Char}

/-- There are no links. -/
def NoLinks (d : Disk) : Prop := ∀ q target, d.entry q ≠ some (.link target)

/-- A disk has no links if none of its entries is one. -/
theorem noLinks_of_entries (h : (d.entries.all fun e => match e.2 with | .link _ => false | _ => true) = true) :
    d.NoLinks := by
  intro q target hentry
  unfold entry at hentry
  split at hentry
  · simp at hentry
  · obtain ⟨before, after, hentries, -⟩ := List.lookup_eq_some_iff.mp hentry
    have hlink := List.all_eq_true.mp h (q, .link target) (by simp [hentries])
    simp at hlink

/-! ## Lengths -/

/-- The bytes of parts, each with a slash. -/
def byteLengths (parts : List (List Char)) : Nat := (parts.map fun part => byteLength part + 1).sum

theorem byteLength_intercalate {parts : List (List Char)} (h : parts ≠ []) :
    byteLength (List.intercalate ['/'] parts) + 1 = byteLengths parts := by
  have hslash : byteLength ['/'] = 1 := by decide
  induction parts with
  | nil => exact absurd rfl h
  | cons first rest ih =>
    rcases rest with _ | ⟨second, rest⟩
    · simp [List.intercalate, byteLengths]
    · have hrest := ih (List.cons_ne_nil _ _)
      rw [List.intercalate_cons_cons, byteLength_append, byteLength_append, hslash, Nat.add_assoc,
        hrest]
      rfl

/-- Components that are worked in get no longer. -/
theorem byteLengths_foldl_addComponent (acc parts : List (List Char)) :
    byteLengths (parts.foldl (Path.addComponent true) acc) ≤ byteLengths acc + byteLengths parts := by
  -- Induction on the components, the stack free: a step adds at most the component that it looks at.
  induction parts generalizing acc with
  | nil => simp [byteLengths]
  | cons part rest ih =>
    have hstep : byteLengths (Path.addComponent true acc part) ≤ byteLengths acc + (byteLength part + 1) := by
      unfold Path.addComponent
      split
      · omega
      · split
        · simp only [byteLengths, List.map_cons, List.sum_cons]
          omega
        · rcases acc with _ | ⟨last, before⟩
          · simp [byteLengths]
          · simp only
            split <;> simp only [byteLengths, List.map_cons, List.sum_cons] <;> omega
    have hrest := ih (Path.addComponent true acc part)
    simp only [List.foldl_cons, byteLengths, List.map_cons, List.sum_cons] at hstep hrest ⊢
    omega

/-- An absolute path does not get longer where it is normalized. -/
theorem byteLength_normalize_le (h : Path.isAbsolute path = true) :
    byteLength (Path.normalize path) ≤ byteLength path := by
  obtain ⟨rest, hrest, hnames⟩ := Path.exists_rest h
  rw [Path.normalize_eq h, ← hnames]
  conv_rhs => rw [hrest]
  rw [byteLength_append, byteLength_append]
  -- A path is its components and a separator between any two, so it is enough that the names kept are no longer.
  have hpieces : Text.pieces '/' rest ≠ [] := Text.pieces_ne_nil rest
  have hcomponents := byteLength_intercalate hpieces
  rw [Text.intercalate_pieces] at hcomponents
  have hfold := byteLengths_foldl_addComponent [] (Path.components rest)
  have hreverse : byteLengths (Path.names rest)
      = byteLengths ((Path.components rest).foldl (Path.addComponent true) []) := by
    simp [Path.names, byteLengths, List.map_reverse, List.sum_reverse]
  rcases hempty : Path.names rest with _ | ⟨first, more⟩
  · simp [List.intercalate]
  · have hjoined := byteLength_intercalate (List.cons_ne_nil first more)
    rw [← hempty] at hjoined ⊢
    simp only [Path.components, byteLengths, List.map_nil, List.sum_nil] at hcomponents hfold hreverse hjoined ⊢
    omega

/-! ## Following -/

section Names

variable {jump : Place → List (List Char) → Except FileProblem Place} {last : Bool} {start p : Place}
  {part : List Char} {parts rest : List (List Char)}

/-- A name has to be short enough, and to name a folder where it is not the last one. -/
theorem followNames_cons_iff (hlinks : d.NoLinks) : d.followNames jump last start (part :: rest) = .ok p ↔
    d.followNames jump last (Path.enter start part) rest = .ok p ∧
      (Path.Plain part → byteLength part ≤ nameLimit ∧
        (rest ≠ [] → d.entry (Path.enter start part) = some .folder)) := by
  -- A plain name is looked up and may be missing or too long; the others move without looking.
  by_cases hplain : Path.Plain part
  · rw [followNames_plain_eq_ok hplain, Path.enter_plain start hplain]
    have hnone : ¬ ∃ target, d.entry (start ++ [String.ofList part]) = some (.link target) := by
      rintro ⟨target, hlink⟩
      exact hlinks _ target hlink
    rcases rest with _ | ⟨next, rest⟩
    · rcases hentry : d.entry (start ++ [String.ofList part]) with _ | (bytes | _ | target) <;>
        simp_all [Ends, followNames, and_comm]
    · rcases hentry : d.entry (start ++ [String.ofList part]) with _ | (bytes | _ | target) <;>
        simp_all [Ends, and_comm]
  · rw [followNames_skip hplain]
    simp [hplain]

/-- Where names lead is known from the names. -/
theorem followNames_eq (hlinks : d.NoLinks) (h : d.followNames jump last start parts = .ok p) :
    p = parts.foldl Path.enter start := by
  induction parts generalizing start with
  | nil => exact (Except.ok.inj h).symm
  | cons part rest ih => exact ih ((followNames_cons_iff hlinks).mp h).1

/-! ## Folders around a place -/

/-- Everything around a place is a folder, and its names are short enough. -/
structure Lies (d : Disk) (p : Place) : Prop where
  folders : ∀ q, q <+: p → q ≠ p → d.entry q = some .folder
  short : ∀ name ∈ p, byteLength name.toList ≤ nameLimit

theorem lies_nil (d : Disk) : d.Lies [] where
  folders := by
    intro q hq hne
    exact absurd (List.prefix_nil.mp hq) hne
  short := by simp

theorem lies_concat {p : Place} {name : String} : d.Lies (p ++ [name]) ↔
    d.Lies p ∧ d.entry p = some .folder ∧ byteLength name.toList ≤ nameLimit := by
  -- The folders above a place are those above its parent, and the parent.
  constructor
  · rintro ⟨hfolders, hshort⟩
    have hp := hfolders p (List.prefix_append p [name]) (by simp)
    refine ⟨⟨?_, fun n hn => hshort n (List.mem_append_left _ hn)⟩, hp, hshort name (by simp)⟩
    intro q hq hne
    refine hfolders q (hq.trans (List.prefix_append p [name])) ?_
    rintro rfl
    have hlength := hq.length_le
    simp at hlength
  · rintro ⟨⟨hfolders, hshort⟩, hp, hname⟩
    refine ⟨?_, ?_⟩
    · intro q hq hne
      rcases List.prefix_concat_iff.mp hq with heq | hq
      · exact absurd (by simpa using heq) hne
      · by_cases heq : q = p
        · rw [heq, hp]
        · exact hfolders q hq heq
    · intro n hn
      rcases List.mem_append.mp hn with hn | hn
      · exact hshort n hn
      · rw [List.mem_singleton.mp hn]
        exact hname

/-- Where names lead lies among folders, if they start there. -/
theorem lies_of_followNames (hlinks : d.NoLinks) (hstart : d.Lies start)
    (hfolder : parts ≠ [] → d.entry start = some .folder) (h : d.followNames jump last start parts = .ok p) :
    d.Lies p := by
  -- Induction on the components, the place reached so far free; it lies among folders all the way.
  induction parts generalizing start with
  | nil =>
    obtain rfl : start = p := Except.ok.inj h
    exact hstart
  | cons part rest ih =>
    obtain ⟨hrest, hplain⟩ := (followNames_cons_iff hlinks).mp h
    have hthere := hfolder (List.cons_ne_nil part rest)
    by_cases hskip : (part.isEmpty || part == ['.']) = true
    · have henter : Path.enter start part = start := if_pos hskip
      rw [henter] at hrest
      exact ih hstart (fun _ => hthere) hrest
    · by_cases hup : part = ['.', '.']
      · -- above a place that lies among folders is one that does, or the root again
        subst hup
        have henter : Path.enter start ['.', '.'] = start.dropLast := rfl
        rw [henter] at hrest
        rcases List.eq_nil_or_concat start with rfl | ⟨before, name, rfl⟩
        · exact ih hstart (fun _ => hthere) hrest
        · rw [List.concat_eq_append] at hstart hrest
          rw [List.dropLast_concat] at hrest
          obtain ⟨hbefore, hentry, -⟩ := lies_concat.mp hstart
          exact ih hbefore (fun _ => hentry) hrest
      · have hne : part ≠ [] ∧ part ≠ ['.'] := by simpa using hskip
        have hpart : Path.Plain part := ⟨hne.1, hne.2, hup⟩
        obtain ⟨hshort, hnext⟩ := hplain hpart
        rw [Path.enter_plain start hpart] at hrest hnext
        refine ih (lies_concat.mpr ⟨hstart, hthere, ?_⟩) hnext hrest
        rwa [String.toList_ofList]

/-- Names lead to what they name where it lies among folders. -/
theorem followNames_of_lies (hlinks : d.NoLinks) (hplain : ∀ part ∈ parts, Path.Plain part)
    (h : d.Lies (start ++ parts.map String.ofList)) :
    d.followNames jump last start parts = .ok (start ++ parts.map String.ofList) := by
  -- Induction on the names: the folder for the next step is there because the end lies among folders.
  induction parts generalizing start with
  | nil => simp [followNames]
  | cons part rest ih =>
    rw [List.forall_mem_cons] at hplain
    have hsplit : start ++ (part :: rest).map String.ofList
        = (start ++ [String.ofList part]) ++ rest.map String.ofList := by simp
    rw [hsplit] at h ⊢
    rw [followNames_cons_iff hlinks, Path.enter_plain start hplain.1]
    refine ⟨ih hplain.2 h, ?_⟩
    intro _
    have hname := h.short (String.ofList part) (by simp)
    rw [String.toList_ofList] at hname
    refine ⟨hname, ?_⟩
    intro hne
    refine h.folders _ (List.prefix_append _ _) ?_
    simpa using hne

end Names

/-! ## Paths -/

section Paths

variable {p : Place}

theorem unlinked_of_noLinks (hlinks : d.NoLinks) (path : List Char) : d.Unlinked path := fun q target _ => hlinks q target

/-- Without links a path leads to what it names. -/
theorem locate_eq_spot (hlinks : d.NoLinks) (path : List Char) : d.locate path = d.spot path :=
  (unlinked_of_noLinks hlinks path).locate_eq

/-- An absolute path that leads anywhere leads where its components do. -/
theorem locate_eq (hlinks : d.NoLinks) (habsolute : Path.isAbsolute path = true) (h : d.locate path = .ok p) :
    p = Path.walk path := by
  rw [locate, trace_eq_ok, if_pos habsolute] at h
  exact followNames_eq hlinks h.2.2

/-- A path that leads anywhere leads there in its normalized form. -/
theorem locate_normalize (hlinks : d.NoLinks) (habsolute : Path.isAbsolute path = true)
    (h : d.locate path = .ok p) : d.locate (Path.normalize path) = .ok p := by
  have hwalk := locate_eq hlinks habsolute h
  have hnormal := Path.isAbsolute_normalize habsolute
  rw [locate, trace_eq_ok, if_pos habsolute] at h
  obtain ⟨-, hlength, hfollow⟩ := h
  have hlies : d.Lies p := lies_of_followNames hlinks (lies_nil d) (fun _ => rfl) hfollow
  have hnonempty : Path.normalize path ≠ [] := by
    obtain ⟨rest, hrest⟩ := Path.exists_eq_slash_cons hnormal
    simp [hrest]
  rw [locate, trace_eq_ok, if_pos hnormal]
  refine ⟨hnonempty, Nat.le_trans (byteLength_normalize_le habsolute) hlength, ?_⟩
  -- the slashes in front are followed to the root, and the names from there
  have hslash : ∀ s : List Char, d.follow true linkLimit [] (Path.components ('/' :: s))
      = d.follow true linkLimit [] (Path.components s) := fun s => rfl
  have hnames : d.follow true linkLimit [] (Path.components (List.intercalate ['/'] (Path.names path))) = .ok p := by
    have hplain := Path.plain_names path
    rw [hwalk, ← Path.map_names] at hlies ⊢
    rcases hempty : Path.names path with _ | ⟨first, more⟩
    · rfl
    · rw [Path.components, ← hempty, pieces_intercalate (by simp [hempty]) fun n hn => (hplain n hn).2]
      exact followNames_of_lies hlinks (fun n hn => (hplain n hn).1) hlies
  rw [Path.normalize_eq habsolute]
  rcases Path.rootSlashes_cases habsolute with hone | htwo
  · rw [hone]
    exact (hslash _).trans hnames
  · rw [htwo]
    exact (hslash _).trans ((hslash _).trans hnames)

/-- Without links a file is read where it is replaced. -/
theorem direct_of_noLinks (hlinks : d.NoLinks) (habsolute : Path.isAbsolute path = true) : d.Direct path where
  target := by
    intro p h
    rw [← locate_eq_spot hlinks]
    exact locate_normalize hlinks habsolute h
  beside := unlinked_of_noLinks hlinks _

end Paths

/-! ## Replacing -/

theorem noLinks_put {e : Entry} (hlinks : d.NoLinks) (p : Place) (he : ∀ target, e ≠ .link target) :
    (d.put p e).NoLinks := by
  intro q target h
  by_cases hq : q = p
  · subst hq
    by_cases hroot : q = []
    · rw [hroot, entry_nil] at h
      simp at h
    · rw [entry_put d _ hroot] at h
      exact he target (Option.some.inj h)
  · rw [entry_put_of_ne d _ hq] at h
    exact hlinks q target h

theorem noLinks_erase (hlinks : d.NoLinks) (p : Place) : (d.erase p).NoLinks := by
  intro q target h
  by_cases hq : q = p
  · subst hq
    by_cases hroot : q = []
    · rw [hroot, entry_nil] at h
      simp at h
    · rw [entry_erase d hroot] at h
      simp at h
  · rw [entry_erase_of_ne d hq] at h
    exact hlinks q target h

/-- Replacing a file makes no links. -/
theorem noLinks_replaceDuring (hlinks : d.NoLinks) (habsolute : Path.isAbsolute path = true) (o : Outage)
    (bytes : List UInt8) : (d.replaceDuring o path bytes).2.NoLinks := by
  have hleft : ∀ {d d' : Disk} {name : List Char}, d.NoLinks → Left d name d' → d'.NoLinks := by
    rintro d d' name hlinks (rfl | ⟨p, -, rfl⟩)
    · exact hlinks
    · exact noLinks_erase hlinks p
  have hend := replacing habsolute o d bytes
  generalize d.replaceDuring o path bytes = r at hend
  -- However the replacing ended, what was put is a file, and what was moved was an entry of a disk without links.
  cases hend with
  | refused left => exact hleft hlinks left
  | stopped opened ends left => exact hleft (noLinks_put hlinks _ (by simp)) left
  | @moved d' beside opened ends renamed =>
    obtain ⟨p, q, entry, -, -, hentry, -, rfl⟩ := rename_eq_ok renamed
    have hput : (d.put beside (.file bytes)).NoLinks := noLinks_put hlinks beside (by simp)
    refine noLinks_put (noLinks_erase hput p) q ?_
    rintro target rfl
    exact hput p target hentry

end Emend.Disk
