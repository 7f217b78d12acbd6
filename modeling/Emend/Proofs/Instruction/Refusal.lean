import Emend.Proofs.Instruction.Grammar

/-!
# Requests that are not read

A value that is no request is refused as one: the refusal says what is malformed, and where the list of
instructions is there, it names the first bad one with its place in the list (`Request.Told`). There is one
exception. An action is looked up among the words for actions, and neither a list nor an object can be looked up,
so an instruction that asks for such an action fails in another way, and no place is told
(`Request.ofJson_told_iff`).

Main statements:

* `ofJson_of_not_plainAction`: the actions that cannot be looked up.
* `told_of_bare`, `firstBad_of_ofJson`: what a refusal tells.
* `ofJson_told_iff`: which values are told what is wrong with them.
-/

namespace Emend

namespace Wire

variable {v : Json} {items items' : List Json} {k k' : Nat} {item item' : Json}

theorem IsEnvelope.unique (h : IsEnvelope v items) (h' : IsEnvelope v items') : items = items' := by
  obtain ⟨fields, rfl, -, hitems⟩ := h
  obtain ⟨fields', hfields, -, hitems'⟩ := h'
  obtain rfl := Json.obj.inj hfields
  rw [hitems, Option.some.injEq, Json.arr.injEq] at hitems'
  exact hitems'

/-- An item that is no instruction does not stand before the first one. -/
theorem FirstBad.le (h : FirstBad items k item) (h' : FirstBad items k' item') : k ≤ k' := by
  by_contra hlt
  have hmem : item' ∈ items.take k := by
    refine List.mem_of_getElem? (i := k') ?_
    rw [List.getElem?_take_of_lt (by omega)]
    exact h'.place
  exact h'.bad (h.before item' hmem)

theorem FirstBad.unique (h : FirstBad items k item) (h' : FirstBad items k' item') :
    k = k' ∧ item = item' := by
  have hk : k = k' := Nat.le_antisymm (h.le h') (h'.le h)
  subst hk
  have hplace := h'.place
  rw [h.place, Option.some.injEq] at hplace
  exact ⟨rfl, hplace⟩

/-- An action in which nothing can be looked up is no unknown action: it stops the reading. -/
theorem ofJson_of_not_plainAction (h : ¬ PlainAction v) :
    ∃ kind, Instruction.ofJson v = .error (.unhashable kind) := by
  simp only [PlainAction, not_forall] at h
  obtain ⟨fields, value, rfl, hset, hplain⟩ := h
  have hget : Json.get "action_type" fields = value := by
    rw [Json.get, hset, Option.getD_some]
  refine ⟨value.kindName, ?_⟩
  rw [Instruction.ofJson, hget]
  cases value with
  | arr items => rfl
  | obj entries => rfl
  | _ => simp at hplain

end Wire

namespace Request

open Wire

variable {v : Json} {f : Failure} {items : List Json}

/-- The failure tells what is wrong with a value that is no request: it is the refusal of a malformed request, and
it names the first bad instruction, with its place, exactly if there is a list of instructions. -/
inductive Told (v : Json) : Failure → Prop
  | envelope {e : EditError} (malformed : e.IsMalformed) (bare : ∀ items, ¬ IsEnvelope v items) :
    Told v (.edit e none)
  | instruction {e : EditError} {items : List Json} {k : Nat} {item : Json} (malformed : e.IsMalformed)
    (envelope : IsEnvelope v items) (first : FirstBad items k item) :
    Told v (.edit e (some ⟨k, .raw item⟩))

/-- What is told is the refusal of a request. -/
theorem Told.isEditError (h : Told v f) : f.isEditError = true := by
  cases h with
  | envelope malformed bare => rfl
  | instruction malformed envelope first => rfl

theorem told_of_refuse {cause : EditError} (h : (Attempt.refuse cause : Attempt Request) = .error f)
    (hcause : cause.IsMalformed) (hbare : ∀ items, ¬ IsEnvelope v items) : Told v f := by
  obtain rfl := Attempt.refuse_eq_error.mp h
  exact .envelope hcause hbare

/-- Without a file or without a list, no instruction is at fault. -/
theorem told_of_bare (hbare : ∀ items, ¬ IsEnvelope v items) (h : ofJson v = .error f) : Told v f := by
  cases v with
  | obj fields =>
    simp only [ofJson] at h
    split at h
    · exact told_of_refuse h trivial hbare
    · exact told_of_refuse h trivial hbare
    · rename_i items hpath hitems
      exact absurd (isEnvelope_iff.mpr ⟨fields, rfl, hpath, hitems⟩) (hbare items)
    · exact told_of_refuse h trivial hbare
  | _ => exact told_of_refuse h trivial hbare

/-- With a list of instructions, the request fails as the first bad one of them does. -/
theorem firstBad_of_ofJson (henvelope : IsEnvelope v items) (h : ofJson v = .error f) :
    ∃ k item g, FirstBad items k item ∧ Instruction.ofJson item = .error g ∧
      f = g.blame k (.raw item) := by
  obtain ⟨fields, rfl, hpath, hitems⟩ := isEnvelope_iff.mp henvelope
  rw [ofJson_of_list hpath hitems] at h
  rcases hread : instructionsFrom 0 items with g | instructions
  · rw [hread] at h
    obtain rfl := Except.error.inj h
    obtain ⟨k, item, g, hfirst, hg, hblame⟩ := firstBad_of_instructionsFrom hread
    -- items are counted from zero
    rw [Nat.zero_add] at hblame
    exact ⟨k, item, g, hfirst, hg, hblame⟩
  · rw [hread] at h
    simp [Except.map] at h

/-- Of a request that is read, every item is an instruction. -/
theorem isInstruction_of_ofJson {r : Request} (henvelope : IsEnvelope v items) (h : ofJson v = .ok r) :
    ∀ item ∈ items, IsInstruction item := by
  obtain ⟨fields, rfl, hpath, hitems⟩ := isEnvelope_iff.mp henvelope
  rw [ofJson_of_list hpath hitems] at h
  obtain ⟨instructions, hread, -⟩ := Attempt.map_eq_ok.mp h
  exact exists_instructionsFrom_iff.mp ⟨instructions, hread⟩

theorem told_of_plainAction {k : Nat} {item : Json} {g : Failure} (henvelope : IsEnvelope v items)
    (hfirst : FirstBad items k item) (hplain : PlainAction item) (hg : Instruction.ofJson item = .error g) :
    Told v (g.blame k (.raw item)) := by
  obtain ⟨e, rfl, hmalformed⟩ := saysMalformed_of_ofJson hplain hg
  exact .instruction hmalformed henvelope hfirst

/-- A value is read, or what is wrong with it is told, or the reading stops at an action in which nothing can be
looked up. The last comes about exactly if the first bad instruction asks for such an action. -/
theorem ofJson_told_iff (v : Json) :
    ((∃ r, ofJson v = .ok r) ∨ (∃ f, ofJson v = .error f ∧ Told v f) ∨
      ∃ kind, ofJson v = .error (.unhashable kind)) ∧
    ((∀ f, ofJson v = .error f → Told v f) ↔
      ∀ items k item, IsEnvelope v items → FirstBad items k item → PlainAction item) := by
  constructor
  · rcases h : ofJson v with f | r
    · right
      by_cases henvelope : ∃ items, IsEnvelope v items
      · obtain ⟨items, henvelope⟩ := henvelope
        obtain ⟨k, item, g, hfirst, hg, rfl⟩ := firstBad_of_ofJson henvelope h
        by_cases hplain : PlainAction item
        · exact .inl ⟨_, rfl, told_of_plainAction henvelope hfirst hplain hg⟩
        · obtain ⟨kind, hkind⟩ := ofJson_of_not_plainAction hplain
          rw [hkind] at hg
          obtain rfl := Except.error.inj hg
          exact .inr ⟨kind, rfl⟩
      · exact .inl ⟨f, rfl, told_of_bare (not_exists.mp henvelope) h⟩
    · exact .inl ⟨r, rfl⟩
  · constructor
    · intro htold items k item henvelope hfirst
      by_contra hplain
      obtain ⟨kind, hkind⟩ := ofJson_of_not_plainAction hplain
      rcases h : ofJson v with f | r
      · have hf := htold f h
        obtain ⟨k', item', g, hfirst', hg, rfl⟩ := firstBad_of_ofJson henvelope h
        obtain ⟨rfl, rfl⟩ := hfirst.unique hfirst'
        -- the failure of the action is no refusal, and blaming an instruction for it changes nothing
        rw [hkind] at hg
        obtain rfl := Except.error.inj hg
        exact absurd hf.isEditError (by simp [Failure.blame, Failure.isEditError])
      · -- a request that is read has no bad instruction
        have hgood := isInstruction_of_ofJson henvelope h
        exact hfirst.bad (hgood item (List.mem_of_getElem? hfirst.place))
    · intro hplain f h
      by_cases henvelope : ∃ items, IsEnvelope v items
      · obtain ⟨items, henvelope⟩ := henvelope
        obtain ⟨k, item, g, hfirst, hg, rfl⟩ := firstBad_of_ofJson henvelope h
        exact told_of_plainAction henvelope hfirst (hplain items k item henvelope hfirst) hg
      · exact told_of_bare (not_exists.mp henvelope) h

/-- The list where the kind of a match is asked for is an unknown kind, and the instruction is told. What the next
instruction asks for is not looked at. -/
theorem ofJson_told_iff_match :
    let unmatched : Json := .obj [("action_type", .str "delete"), ("match_type", .arr [])]
    let unhashed : Json := .obj [("action_type", .obj []), ("match_type", .str "whole_file")]
    let items := [unmatched, unhashed]
    let v : Json := .obj [("filePath", .str "a.txt"), ("edits", .arr items)]
    IsEnvelope v items ∧ FirstBad items 0 unmatched ∧ PlainAction unmatched ∧ ¬ PlainAction unhashed ∧
      (∀ f, ofJson v = .error f → Told v f) ∧
      ofJson v = .error (.edit (.request (.unknownMatch (.arr []))) (some ⟨0, .raw unmatched⟩)) := by
  intro unmatched unhashed items v
  have henvelope : IsEnvelope v items := isEnvelope_iff.mpr ⟨_, rfl, rfl, rfl⟩
  have hplain : PlainAction unmatched := plainAction_of_str rfl
  have hunhashed : ¬ PlainAction unhashed := by
    intro hplain
    exact (hplain _ _ rfl rfl).2 [] rfl
  have hread : ofJson v
      = .error (.edit (.request (.unknownMatch (.arr []))) (some ⟨0, .raw unmatched⟩)) := by cbv
  have hbad : ¬ IsInstruction unmatched := by
    rw [isInstruction_iff]
    rintro ⟨i, hi⟩
    have hrefused : Instruction.ofJson unmatched
        = .error (.ofError (.request (.unknownMatch (.arr [])))) := by cbv
    rw [hrefused] at hi
    simp at hi
  have hfirst : FirstBad items 0 unmatched := ⟨rfl, hbad, by simp⟩
  refine ⟨henvelope, hfirst, hplain, hunhashed, (ofJson_told_iff v).2.mpr ?_, hread⟩
  intro items' k item henvelope' hfirst'
  obtain rfl := henvelope.unique henvelope'
  obtain ⟨-, rfl⟩ := hfirst.unique hfirst'
  exact hplain

/-- A list where the action is asked for: the failure is no refusal, and no instruction is told. -/
theorem ofJson_escapes :
    let v : Json := .obj [("filePath", .str "a.txt"), ("edits", .arr [
      .obj [("action_type", .arr []), ("match_type", .str "whole_file"), ("newText", .str "")]])]
    ofJson v = .error (.unhashable "list") ∧ (Failure.unhashable "list").isEditError = false ∧
      ¬ ∀ f, ofJson v = .error f → Told v f := by
  intro v
  have hread : ofJson v = .error (.unhashable "list") := by cbv
  refine ⟨hread, rfl, ?_⟩
  intro htold
  exact absurd (htold _ hread).isEditError (by simp [Failure.isEditError])

end Request

end Emend
