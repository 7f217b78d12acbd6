import Emend.Outline.Registry
import Emend.Proofs.Lookup

/-!
# Which extractor is used

Registrations overwrite one another, by language and by extension, so that what is looked up is what was registered
last (`lookup_after`, `detect_after`). A path therefore leads to the latest extractor for the language of its
extension, whether it is looked up by the path or by that language (`extract_dispatch`), except where the path itself
spells a language that is registered (`path_spells_language`).

Main statements:

* `lookup_after`, `detect_after`: what is looked up after a row of registrations.
* `resolve_eq`: how a language or a path is resolved.
* `extract_dispatch`: which extractor a path leads to.
-/

namespace Emend.Registry

variable {parse : Parser} {later es : List Extractor} {language path : String}

/-! ## What is used -/

/-- The language that a tag spells: letter case does not count, and an alias stands for its language. -/
def spelled (tag : String) : String := (aliases.lookup (Text.lower tag)).getD (Text.lower tag)

/-- The extractor that is used for a tag or a path, if there is any. -/
def used (r : Registry) (tagOrPath : Option String) : Option Extractor :=
  (r.resolve tagOrPath).bind fun language => r.extractors.lookup language

/-- The latest extractor of a language. -/
def latest (es : List Extractor) (language : String) : Option Extractor :=
  es.reverse.find? (·.languages.contains language)

/-- The latest extractor of a file extension in lower case. One without languages takes no extension over. -/
def latestFor (es : List Extractor) (extension : String) : Option Extractor :=
  es.reverse.find? fun e => !e.languages.isEmpty && (e.extensions.map Text.lower).contains extension

/-- The registry after registrations on top of what is known from the start. -/
def after (parse : Parser) (later : List Extractor) : Registry := later.foldl register (builtIn parse)

/-- The extractors of a registry in the order in which they were registered. -/
def registered (parse : Parser) (later : List Extractor) : List Extractor :=
  Grammar.builtIn.map (·.extractor parse) ++ later

theorem after_eq (parse : Parser) (later : List Extractor) :
    after parse later = (registered parse later).foldl register {} := by
  rw [after, registered, List.foldl_append, List.foldl_map]
  rfl

/-! ## One registration -/

theorem lookup_set {α : Type} (key other : String) (value : α) (entries : List (String × α)) :
    (set key value entries).lookup other = if other = key then some value else entries.lookup other := by
  unfold set
  split
  · rename_i h
    rw [h, List.lookup_cons, beq_self_eq_true]
  · rename_i h
    rw [lookup_cons_of_ne value h, lookup_filter_of_ne h]

/-- Every key of several that are set has the value. -/
theorem lookup_foldl_set {α : Type} (f : String → String) (value : α) (keys : List String)
    (entries : List (String × α)) (other : String) :
    (keys.foldl (fun acc key => set (f key) value acc) entries).lookup other
      = if (keys.map f).contains other then some value else entries.lookup other := by
  -- Induction on the keys, the table free: a key that is set is found with the value, others as before.
  induction keys generalizing entries with
  | nil => simp
  | cons key rest ih =>
    rw [List.foldl_cons, ih, lookup_set, List.map_cons, List.contains_cons]
    by_cases hother : other = f key
    · simp [hother]
    · simp [hother]

theorem lookup_register (r : Registry) (e : Extractor) (language : String) :
    (r.register e).extractors.lookup language
      = if e.languages.contains language then some e else r.extractors.lookup language := by
  have hset := lookup_foldl_set id e e.languages r.extractors language
  rwa [List.map_id] at hset

theorem languages_register (r : Registry) (e : Extractor) (extension : String) :
    (r.register e).languages.lookup extension
      = if !e.languages.isEmpty && (e.extensions.map Text.lower).contains extension then e.languages.head?
        else r.languages.lookup extension := by
  unfold register
  -- An extractor without languages registers no extension.
  rcases e.languages with _ | ⟨first, rest⟩
  · simp
  · simpa using lookup_foldl_set Text.lower first e.extensions r.languages extension

/-! ## Any registrations -/

/-- What was registered last for a language is found. -/
theorem lookup_foldl_register (es : List Extractor) (language : String) :
    (es.foldl register {}).extractors.lookup language = latest es language := by
  -- Induction from the end, since the latest registration decides.
  induction es using List.reverseRecOn with
  | nil => rfl
  | append_singleton es e ih =>
    rw [List.foldl_concat, lookup_register, ih, latest, latest, List.reverse_concat, List.find?_cons]
    cases e.languages.contains language <;> rfl

/-- The language of an extension is the first one of the extractor that was registered last for it. -/
theorem languages_foldl_register (es : List Extractor) (extension : String) :
    (es.foldl register {}).languages.lookup extension
      = (latestFor es extension).bind (·.languages.head?) := by
  induction es using List.reverseRecOn with
  | nil => rfl
  | append_singleton es e ih =>
    rw [List.foldl_concat, languages_register, ih, latestFor, latestFor, List.reverse_concat, List.find?_cons]
    cases !e.languages.isEmpty && (e.extensions.map Text.lower).contains extension <;> rfl

theorem lookup_after (parse : Parser) (later : List Extractor) (language : String) :
    (after parse later).extractors.lookup language = latest (registered parse later) language := by
  rw [after_eq, lookup_foldl_register]

theorem detect_after (parse : Parser) (later : List Extractor) (path : String) :
    (after parse later).detect path
      = (latestFor (registered parse later) (Text.lower (String.ofList (Path.extension path.toList)))).bind
        (·.languages.head?) := by
  rw [detect, after_eq, languages_foldl_register]

/-- There is an extractor for every language that an extension stands for. -/
theorem isSome_latest_of_detect (h : (after parse later).detect path = some language) :
    (latest (registered parse later) language).isSome = true := by
  rw [detect_after] at h
  obtain ⟨e, he, hfirst⟩ := Option.bind_eq_some_iff.mp h
  have hmem := List.mem_of_find?_eq_some he
  rw [latest, List.find?_isSome]
  exact ⟨e, hmem, by simpa using List.mem_of_head? hfirst⟩

/-- An alias stands for a language that is known from the start. -/
theorem isSome_latest_of_alias {tag : String} (h : aliases.lookup tag = some language) :
    (latest (registered parse later) language).isSome = true := by
  -- An alias stands for the name of a grammar that is built in, and those are registered from the start.
  have hknown : ∀ entry ∈ aliases, ∃ g ∈ Grammar.builtIn, g.name = entry.2 := by
    have hall : ∀ entry ∈ aliases, (Grammar.builtIn.map (·.name)).contains entry.2 = true := by decide
    intro entry hentry
    simpa using hall entry hentry
  obtain ⟨before, rest, hsplit, -⟩ := List.lookup_eq_some_iff.mp h
  obtain ⟨g, hg, rfl⟩ := hknown (tag, language) (by simp [hsplit])
  rw [latest, List.find?_isSome]
  refine ⟨g.extractor parse, ?_, by simp [Grammar.extractor]⟩
  rw [List.mem_reverse, registered]
  exact List.mem_append_left _ (List.mem_map_of_mem hg)

/-! ## Looking up -/

/-- A text is looked up as a tag first, and as a path where no language of this tag is registered. -/
theorem resolve_eq (r : Registry) {tagOrPath : String} (h : tagOrPath ≠ "") :
    r.resolve (some tagOrPath) = if (r.extractors.lookup (spelled tagOrPath)).isSome then some (spelled tagOrPath)
      else r.detect tagOrPath := by
  have hsome : tagOrPath.isEmpty = false := by simpa using h
  unfold resolve spelled
  dsimp only
  rw [hsome]
  rfl

/-- What is looked up in two ways with one outcome is extracted in the same way. -/
theorem extract_of_resolve {r : Registry} {a b : Option String} (ha : r.resolve a = some language)
    (hb : r.resolve b = some language) (text : List Char) : r.extract text a = r.extract text b := by
  simp only [extract, ha, hb]

/-- A path whose extension is registered leads to the latest extractor of the language that the whole path spells, if
there is one, and otherwise to the latest one of the language of its extension. Looked up by the language of its
extension, if that is in lower case, it leads to the latest extractor of what this language spells, which is the
language itself unless it is an alias. So both ways lead to the latest extractor of the language, if that is no alias
and the path spells no other registered language. -/
theorem extract_dispatch (parse : Parser) (later : List Extractor) (text : List Char) (otherwise : Option String)
    (hpath : path ≠ "") (hdetect : (after parse later).detect path = some language) :
    let r := after parse later
    let newest := latest (registered parse later)
    (newest language).isSome = true ∧
    r.used (some path) = newest (if (newest (spelled path)).isSome then spelled path else language) ∧
    (language ≠ "" → Text.lower language = language →
      r.used (r.languageFor (some path) otherwise) = newest (spelled language) ∧
      (aliases.lookup language = none → newest (spelled path) = none ∨ spelled path = language →
        r.used (some path) = newest language ∧ r.used (r.languageFor (some path) otherwise) = newest language ∧
        r.extract text (some path) = r.extract text (r.languageFor (some path) otherwise))) := by
  intro r newest
  have hlookup : ∀ l, r.extractors.lookup l = newest l := lookup_after parse later
  have hsome : (newest language).isSome = true := isSome_latest_of_detect hdetect
  -- A path is tried as a language first, and only then by its extension.
  have hbypath : r.resolve (some path)
      = some (if (newest (spelled path)).isSome then spelled path else language) := by
    rw [resolve_eq r hpath, hlookup, hdetect]
    split <;> rfl
  have husedpath : r.used (some path) = newest (if (newest (spelled path)).isSome then spelled path else language) := by
    rw [used, hbypath]
    exact hlookup _
  refine ⟨hsome, husedpath, ?_⟩
  intro hne hlower
  have hspelled : (newest (spelled language)).isSome = true := by
    unfold spelled
    rw [hlower]
    rcases halias : aliases.lookup language with _ | target
    · exact hsome
    · exact isSome_latest_of_alias halias
  have hlanguage : r.languageFor (some path) otherwise = some language := by
    have hpath' : path.isEmpty = false := by simpa using hpath
    have hne' : language.isEmpty = false := by simpa using hne
    simp only [languageFor, hpath', hdetect, hne', Bool.false_eq_true, if_false, r]
  have hbylanguage : r.resolve (some language) = some (spelled language) := by
    rw [resolve_eq r hne, hlookup, if_pos hspelled]
  have husedlanguage : r.used (r.languageFor (some path) otherwise) = newest (spelled language) := by
    rw [hlanguage, used, hbylanguage]
    exact hlookup _
  refine ⟨husedlanguage, ?_⟩
  intro hnone hother
  -- Without an alias and without a language spelled like the path, both ways lead to the language of the extension.
  have hself : spelled language = language := by
    rw [spelled, hlower, hnone]
    rfl
  have hchoice : (if (newest (spelled path)).isSome then spelled path else language) = language := by
    rcases hother with hother | hother
    · rw [hother]
      rfl
    · rw [hother, ite_self]
  rw [hchoice] at husedpath hbypath
  rw [hself] at husedlanguage hbylanguage
  refine ⟨husedpath, husedlanguage, ?_⟩
  rw [hlanguage]
  exact extract_of_resolve hbypath hbylanguage text

/-- An extractor that finds one declaration in any text. -/
def finder (languages extensions : List String) (name : String) : Extractor where
  languages
  extensions
  extract := fun _ _ => .ok ⟨[⟨"function", name, 0, 0, 1, 0, 0, none, none⟩], []⟩

/-- Two extractors for one language, where the later one has no extension of its own. -/
theorem extract_dispatch_later :
    let parse : Parser := fun _ _ => .error .undecodable
    let later := [finder ["toy"] [".TOY"] "first", finder ["toy"] [] "second"]
    let r := after parse later
    "game.Toy" ≠ "" ∧ r.detect "game.Toy" = some "toy" ∧ "toy" ≠ "" ∧ Text.lower "toy" = "toy" ∧
      r.used (some "game.Toy") = some (finder ["toy"] [] "second") ∧
      r.used (r.languageFor (some "game.Toy") none) = some (finder ["toy"] [] "second") := by
  intro parse later r
  have hdetect : r.detect "game.Toy" = some "toy" := by decide +kernel
  have hlower : Text.lower "toy" = "toy" := by decide +kernel
  obtain ⟨-, -, hlanguage⟩ := extract_dispatch parse later [] none (by decide) hdetect
  obtain ⟨-, hagree⟩ := hlanguage (by decide) hlower
  have hnone : latest (registered parse later) (spelled "game.Toy") = none := by
    rw [← Option.isNone_iff_eq_none]
    decide +kernel
  have hnewest : latest (registered parse later) "toy" = some (finder ["toy"] [] "second") := rfl
  obtain ⟨hbypath, hbylanguage, -⟩ := hagree (by decide) (Or.inl hnone)
  exact ⟨by decide, hdetect, by decide, hlower, hbypath.trans hnewest, hbylanguage.trans hnewest⟩

/-- A path that spells a registered language is taken for that language, whatever its extension stands for. -/
theorem path_spells_language :
    let parse : Parser := fun _ _ => .error .undecodable
    let r := after parse [finder ["toy"] [".toy"] "first", finder ["game.toy"] [] "second"]
    r.detect "game.toy" = some "toy" ∧ r.languageFor (some "game.toy") none = some "toy" ∧
      (r.extract [] (some "game.toy")).toOption.map (·.declarations.map (·.name)) = some ["second"] ∧
      (r.extract [] (some "toy")).toOption.map (·.declarations.map (·.name)) = some ["first"] := by
  decide +kernel

end Emend.Registry
