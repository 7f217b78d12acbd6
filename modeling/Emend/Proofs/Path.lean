import Emend.Path
import Emend.Proofs.Text.Lines

/-!
# Normalized paths

An absolute path stays absolute (`isAbsolute_normalize`), and it leads where its normalized form leads
(`walk_normalize`): both end in the same names. Normalizing it again changes nothing (`normalize_normalize`). A name
behind a slash is looked up in the folder that stands in front of it (`directoryName_behind`, `walk_behind`).

Main statements:

* `normalize_eq`, `addComponent_spec`: a normalized path is its slashes and its names.
* `walk_intercalate`, `walk_normalize`: the names that are left lead where all components lead.
* `normalize_normalize`, `isAbsolute_normalize`: what normalizing keeps.
* `directoryName_behind`, `walk_behind`, `join_behind`: a name behind a slash.
-/

namespace Emend.Path

open Text

/-! ## Walking -/

/-- A component that names something. -/
structure Plain (part : List Char) : Prop where
  nonempty : part ≠ []
  notHere : part ≠ ['.']
  notUp : part ≠ ['.', '.']

/-- Where a component leads from a folder given by its names: two points go up, a name goes down. -/
def enter (start : List String) (part : List Char) : List String :=
  if part.isEmpty || part == ['.'] then start
  else if part == ['.', '.'] then start.dropLast
  else start ++ [String.ofList part]

/-- Where an absolute path leads. -/
def walk (p : List Char) : List String := (components p).foldl enter []

theorem enter_nil (start : List String) : enter start [] = start := rfl

theorem enter_plain {part : List Char} (start : List String) (h : Plain part) :
    enter start part = start ++ [String.ofList part] := by
  have h₀ := h.nonempty
  have h₁ := h.notHere
  have h₂ := h.notUp
  simp [enter, h₀, h₁, h₂]

/-- A longer name leads somewhere else. -/
theorem enter_ne_longer (start : List String) (part : List Char) {t : List Char} (ht : t ≠ []) :
    enter start part ≠ start ++ [String.ofList (part ++ t)] := by
  intro heq
  by_cases h : Plain part
  · rw [enter_plain start h] at heq
    have hname := String.ofList_injective (List.singleton_inj.mp (List.append_cancel_left heq))
    exact ht (List.self_eq_append_right.mp hname)
  · -- what is not a name does not go down
    have hlength := congrArg List.length heq
    have hle : (enter start part).length ≤ start.length := by
      unfold enter
      split
      · exact Nat.le_refl _
      · rename_i hskip
        have hne : part ≠ [] ∧ part ≠ ['.'] := by simpa using hskip
        have hup : part = ['.', '.'] := by
          by_contra hup
          exact h ⟨hne.1, hne.2, hup⟩
        simp [hup]
    rw [List.length_append, List.length_singleton] at hlength
    omega

/-- Names lead to what they name. -/
theorem foldl_enter_plain {parts : List (List Char)} (start : List String)
    (h : ∀ part ∈ parts, Plain part) :
    parts.foldl enter start = start ++ parts.map String.ofList := by
  induction parts generalizing start with
  | nil => simp
  | cons part rest ih =>
    rw [List.forall_mem_cons] at h
    rw [List.foldl_cons, enter_plain start h.1, ih _ h.2, List.map_cons, List.append_assoc]
    rfl

/-! ## Normalizing -/

/-- Working a component into names is walking it, and leaves names. -/
theorem addComponent_spec {acc : List (List Char)} (part : List Char)
    (hacc : ∀ name ∈ acc, Plain name) :
    (∀ name ∈ addComponent true acc part, Plain name) ∧
      (addComponent true acc part).reverse.map String.ofList
        = enter (acc.reverse.map String.ofList) part := by
  unfold addComponent enter
  by_cases hskip : (part.isEmpty || part == ['.']) = true
  · rw [if_pos hskip, if_pos hskip]
    exact ⟨hacc, rfl⟩
  rw [if_neg hskip, if_neg hskip]
  have hne : part ≠ [] ∧ part ≠ ['.'] := by simpa using hskip
  by_cases hup : part = ['.', '.']
  · subst hup
    -- above the root there is nothing to go up to, and a name before is not two points itself
    rcases acc with _ | ⟨last, before⟩
    · simp
    · rw [List.forall_mem_cons] at hacc
      have hlast := hacc.1.notUp
      simpa [hlast] using hacc.2
  · have hplain : Plain part := ⟨hne.1, hne.2, hup⟩
    simp only [bne_iff_ne, ne_eq, hup, not_false_eq_true, if_true, beq_iff_eq, if_false]
    rw [List.forall_mem_cons]
    exact ⟨⟨hplain, hacc⟩, by simp⟩

theorem foldl_addComponent_spec {acc : List (List Char)} (parts : List (List Char))
    (hacc : ∀ name ∈ acc, Plain name) :
    (∀ name ∈ parts.foldl (addComponent true) acc, Plain name) ∧
      (parts.foldl (addComponent true) acc).reverse.map String.ofList
        = parts.foldl enter (acc.reverse.map String.ofList) := by
  -- on the components, with the names collected so far as the accumulator
  induction parts generalizing acc with
  | nil => exact ⟨hacc, rfl⟩
  | cons part rest ih =>
    obtain ⟨hplain, hsame⟩ := addComponent_spec part hacc
    rw [List.foldl_cons, List.foldl_cons, ← hsame]
    exact ih hplain

theorem addComponent_subset {acc : List (List Char)} {part name : List Char}
    (h : name ∈ addComponent true acc part) : name = part ∨ name ∈ acc := by
  unfold addComponent at h
  split at h
  · exact Or.inr h
  · split at h
    · exact List.mem_cons.mp h
    -- two points take the last name away, or stand for themselves where there is none
    · rcases acc with _ | ⟨last, before⟩
      · simp at h
      · simp only at h
        split at h
        · exact List.mem_cons.mp h
        · exact Or.inr (List.mem_cons_of_mem last h)

theorem foldl_addComponent_subset {acc : List (List Char)} {parts : List (List Char)}
    {name : List Char} (h : name ∈ parts.foldl (addComponent true) acc) :
    name ∈ parts ∨ name ∈ acc := by
  induction parts generalizing acc with
  | nil => exact Or.inr h
  | cons part rest ih =>
    rcases ih h with hin | hin
    · exact Or.inl (List.mem_cons_of_mem part hin)
    · rcases addComponent_subset hin with rfl | hin
      · exact Or.inl List.mem_cons_self
      · exact Or.inr hin

/-- The names that an absolute path is normalized to. -/
def names (p : List Char) : List (List Char) := ((components p).foldl (addComponent true) []).reverse

theorem plain_names (p : List Char) : ∀ name ∈ names p, Plain name ∧ '/' ∉ name := by
  intro name h
  rw [names, List.mem_reverse] at h
  refine ⟨(foldl_addComponent_spec (components p) (by simp)).1 name h, ?_⟩
  rcases foldl_addComponent_subset h with hin | hin
  · exact not_mem_of_mem_pieces hin
  · simp at hin

theorem map_names (p : List Char) : (names p).map String.ofList = walk p :=
  (foldl_addComponent_spec (components p) (by simp)).2

/-- An absolute path begins with a slash. -/
theorem exists_eq_slash_cons {p : List Char} (h : isAbsolute p = true) : ∃ rest, p = '/' :: rest := by
  rcases p with _ | ⟨c, rest⟩
  · simp [isAbsolute] at h
  · exact ⟨rest, by simpa [isAbsolute] using h⟩

theorem ne_nil_of_isAbsolute {p : List Char} (h : isAbsolute p = true) : p ≠ [] := by
  rintro rfl
  simp [isAbsolute] at h

/-- What is added to an absolute path leaves it absolute. -/
theorem isAbsolute_append {p : List Char} (h : isAbsolute p = true) (s : List Char) : isAbsolute (p ++ s) = true := by
  obtain ⟨rest, rfl⟩ := exists_eq_slash_cons h
  rfl

/-- One slash is kept in front of an absolute path, or two. -/
theorem rootSlashes_cases {p : List Char} (h : isAbsolute p = true) :
    rootSlashes p = ['/'] ∨ rootSlashes p = ['/', '/'] := by
  obtain ⟨rest, rfl⟩ := exists_eq_slash_cons h
  unfold rootSlashes
  split
  · rename_i hnone
    simp at hnone
  · exact Or.inr rfl
  · exact Or.inl rfl

/-- An absolute path is normalized to its slashes in front and names with slashes between them. -/
theorem normalize_eq {p : List Char} (h : isAbsolute p = true) :
    normalize p = rootSlashes p ++ List.intercalate ['/'] (names p) := by
  have hsome : (rootSlashes p).isEmpty = false := by
    rcases rootSlashes_cases h with h | h <;> rw [h] <;> rfl
  unfold normalize
  simp only [hsome, Bool.not_false]
  rw [if_neg, names]
  rcases rootSlashes_cases h with h | h <;> simp [h]

/-- A normalized absolute path is absolute. -/
theorem isAbsolute_normalize {p : List Char} (h : isAbsolute p = true) :
    isAbsolute (normalize p) = true := by
  rw [normalize_eq h]
  rcases rootSlashes_cases h with h | h <;> rw [h] <;> rfl

/-- The slashes in front make no difference to where a path leads. -/
theorem walk_rootSlashes {p : List Char} (h : isAbsolute p = true) (s : List Char) :
    walk (rootSlashes p ++ s) = walk s := by
  have hslash : ∀ s : List Char, walk ('/' :: s) = walk s := by
    intro s
    simp [walk, components, Text.pieces, enter_nil]
  rcases rootSlashes_cases h with h | h <;> rw [h]
  · exact hslash s
  · rw [List.cons_append, hslash]
    exact hslash s

/-- Names with slashes between them lead to what they name. -/
theorem walk_intercalate {parts : List (List Char)} (h : ∀ n ∈ parts, Plain n ∧ '/' ∉ n) :
    walk (List.intercalate ['/'] parts) = parts.map String.ofList := by
  -- without names there are no pieces to be put together, and one empty piece is read
  rcases parts with _ | ⟨first, rest⟩
  · rfl
  · rw [walk, components, pieces_intercalate (List.cons_ne_nil first rest) fun n hn => (h n hn).2,
      foldl_enter_plain [] fun n hn => (h n hn).1, List.nil_append]

/-- An absolute path leads where its normalized form leads. -/
theorem walk_normalize {p : List Char} (h : isAbsolute p = true) : walk (normalize p) = walk p := by
  rw [normalize_eq h, walk_rootSlashes h, walk_intercalate (plain_names p), map_names]

/-- No slash follows the slashes in front of a normalized path. -/
theorem rootSlashes_normalize {p : List Char} (h : isAbsolute p = true) :
    rootSlashes (normalize p) = rootSlashes p := by
  -- what follows the slashes in front begins with a name, so it adds none to them
  have hrest : (List.intercalate ['/'] (names p)).head? ≠ some '/' := by
    rcases hnames : names p with _ | ⟨first, more⟩
    · simp [List.intercalate]
    · obtain ⟨hplain, hslash⟩ := plain_names p first (by simp [hnames])
      obtain ⟨c, rest, rfl⟩ := List.exists_cons_of_ne_nil hplain.nonempty
      have hc : c ≠ '/' := fun heq => hslash (by simp [heq])
      rcases more with _ | ⟨second, more⟩ <;> simpa [List.intercalate] using hc
  rw [normalize_eq h]
  generalize List.intercalate ['/'] (names p) = rest at hrest
  have hfront : (rootSlashes p ++ rest).takeWhile (· == '/') = rootSlashes p := by
    rcases rest with _ | ⟨c, rest⟩
    · rcases rootSlashes_cases h with heq | heq <;> simp [heq]
    · have hc : c ≠ '/' := fun heq => hrest (by simp [heq])
      rcases rootSlashes_cases h with heq | heq <;> simp [heq, hc]
  rw [rootSlashes, hfront]
  rcases rootSlashes_cases h with heq | heq <;> simp [heq]

theorem names_normalize {p : List Char} (h : isAbsolute p = true) : names (normalize p) = names p := by
  have hmap : (names (normalize p)).map String.ofList = (names p).map String.ofList := by
    rw [map_names, map_names, walk_normalize h]
  exact List.map_injective_iff.mpr (fun _ _ heq => String.ofList_injective heq) hmap

/-- Normalizing a normalized absolute path changes nothing. -/
theorem normalize_normalize {p : List Char} (h : isAbsolute p = true) :
    normalize (normalize p) = normalize p := by
  rw [normalize_eq (isAbsolute_normalize h), rootSlashes_normalize h, names_normalize h, ← normalize_eq h]

theorem names_slash (s : List Char) : names ('/' :: s) = names s := by
  simp [names, components, Text.pieces, addComponent]

/-- An absolute path is its slashes in front, as they are kept, and a rest with the same names. -/
theorem exists_rest {p : List Char} (h : isAbsolute p = true) :
    ∃ rest, p = rootSlashes p ++ rest ∧ names rest = names p := by
  obtain ⟨rest, rfl⟩ := exists_eq_slash_cons h
  rcases rootSlashes_cases h with hone | htwo
  · exact ⟨rest, by rw [hone]; rfl, (names_slash rest).symm⟩
  · -- two slashes are kept where two stand in front
    obtain ⟨more, rfl⟩ : ∃ more, rest = '/' :: more := by
      rcases rest with _ | ⟨c, more⟩
      · exact absurd htwo (by decide)
      · by_cases hc : c = '/'
        · exact ⟨more, by rw [hc]⟩
        · simp [rootSlashes, hc] at htwo
    exact ⟨more, by rw [htwo]; rfl, by rw [names_slash, names_slash]⟩

/-- A path behind an absolute directory is absolute. -/
theorem isAbsolute_join {directory p : List Char} (h : isAbsolute directory = true) :
    isAbsolute (join directory p) = true := by
  rcases directory with _ | ⟨c, rest⟩
  · simp [isAbsolute] at h
  · unfold join
    split
    · assumption
    · split
      · exact h
      · exact h

/-- An absolute path stands by itself. -/
theorem join_of_isAbsolute (directory : List Char) {p : List Char} (h : isAbsolute p = true) :
    join directory p = p := if_pos h

/-! ## A name behind a slash -/

section Behind

variable {name : List Char} (hname : '/' ∉ name)

include hname

theorem baseName_behind (directory : List Char) : baseName (directory ++ '/' :: name) = name := by
  have hall : ∀ c ∈ name.reverse, (c != '/') = true := by
    intro c hc
    simpa using fun heq : c = '/' => hname (heq ▸ List.mem_reverse.mp hc)
  have htake : (directory ++ '/' :: name).reverse.takeWhile (· != '/') = name.reverse := by
    rw [List.reverse_append, List.reverse_cons, List.append_assoc, List.takeWhile_append_of_pos hall]
    simp
  rw [baseName, htake, List.reverse_reverse]

/-- The folder of a name is what stands in front of the slash, if this is no slash itself. -/
theorem directoryName_behind {directory : List Char} (hne : directory ≠ []) (hlast : directory.getLast? ≠ some '/') :
    directoryName (directory ++ '/' :: name) = directory := by
  obtain ⟨before, c, rfl⟩ := List.eq_nil_or_concat directory |>.resolve_left hne
  rw [List.concat_eq_append] at hlast ⊢
  have hc : c ≠ '/' := by simpa using hlast
  -- all but the last name, with the slash that is in front of it
  have htake : (before ++ [c] ++ '/' :: name).take ((before ++ [c] ++ '/' :: name).length - name.length)
      = before ++ [c] ++ ['/'] := by
    have hlength : (before ++ [c] ++ '/' :: name).length - name.length = (before ++ [c] ++ ['/']).length := by
      simp
      omega
    have hsplit : before ++ [c] ++ '/' :: name = before ++ [c] ++ ['/'] ++ name := by simp
    rw [hlength, hsplit, List.take_left]
  unfold directoryName
  rw [baseName_behind hname]
  simp only [htake]
  simp [hc]

/-- A name behind a slash leads into the folder that stands in front. -/
theorem walk_behind (directory : List Char) : walk (directory ++ '/' :: name) = enter (walk directory) name := by
  -- splitting at slashes puts the name behind the pieces of what stands in front
  have hpieces : ∀ s : List Char, pieces '/' (s ++ '/' :: name) = pieces '/' s ++ [name] := by
    intro s
    induction s with
    | nil => simp [pieces, pieces_of_not_mem hname]
    | cons c rest ih =>
      have hne : pieces '/' rest ≠ [] := pieces_ne_nil rest
      obtain ⟨first, more, hrest⟩ := List.exists_cons_of_ne_nil hne
      rw [List.cons_append, pieces, pieces, ih, hrest]
      split <;> simp
  rw [walk, components, hpieces, List.foldl_append]
  rfl

/-- A name goes behind a folder with a slash between them. -/
theorem join_behind {directory : List Char} (hne : directory ≠ []) (hlast : directory.getLast? ≠ some '/') :
    join directory name = directory ++ '/' :: name := by
  have hrelative : isAbsolute name = false := by
    rcases name with _ | ⟨c, rest⟩
    · rfl
    · have hc : c ≠ '/' := fun heq => hname (by rw [heq]; exact List.mem_cons_self)
      simpa [isAbsolute] using hc
  rw [join, hrelative]
  simp [hne, hlast]

theorem getLast_behind (directory : List Char) (hne : name ≠ []) :
    (directory ++ '/' :: name).getLast? ≠ some '/' := by
  obtain ⟨before, c, rfl⟩ := List.eq_nil_or_concat name |>.resolve_left hne
  rw [List.concat_eq_append] at hname ⊢
  have hc : c ≠ '/' := fun heq => hname (by simp [heq])
  rw [← List.cons_append, ← List.append_assoc, List.getLast?_concat]
  simpa using hc

end Behind

end Emend.Path
