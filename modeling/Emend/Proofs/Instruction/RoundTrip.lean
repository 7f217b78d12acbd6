import Emend.Proofs.Instruction.Reading

/-!
# Requests that are written

How a match, an instruction and a request are written says all that is in them (`writtenIn_toFields`,
`exists_writtenIn_toJson`), so the valid ones are read back as they were. Since only valid requests are read at all,
a request that was read and written once is not changed by being read and written again
(`Request.ofJson_toJson_of_ofJson`).
-/

namespace Emend

theorem Json.ofOption_eq (o : Option String) : Json.ofOption o = (o.map Json.str).getD .null := by
  cases o <;> rfl

namespace Match

variable {fields : Wire.Fields}

@[simp]
theorem lookup_optionalField {key k : String} {value : Option Json} :
    Json.lookup key (optionalField k value) = if k = key then value else none := by
  rcases value with _ | v
  · simp [optionalField]
  · simp [optionalField]

/-- The fields that are written say what the match says, whatever other keys stand around them. -/
theorem writtenIn_toFields (m : Match) (word : Json) {more : Wire.Fields}
    (hmore : ∀ key, key ≠ "newText" → Json.lookup key more = none) :
    m.WrittenIn (("action_type", word) :: m.toFields ++ more) := by
  -- Constructor by constructor: every field is looked up in the list that it was written to.
  cases m with
  | lines first last => simp [WrittenIn, toFields, Json.get]
  | line number => simp [WrittenIn, toFields, Json.get]
  | pattern source n => simp [WrittenIn, toFields, Json.get, Wire.Counted]
  | literal text n => simp [WrittenIn, toFields, Json.get, Wire.Counted]
  | wholeFile => trivial
  | symbol name kind parentName parentKind n =>
    simp [WrittenIn, toFields, Json.get, Wire.Counted, Json.ofOption_eq, hmore]
  | declaration kind name depth parent n =>
    simp [WrittenIn, toFields, Json.get, Wire.Counted, Json.ofOption_eq, hmore]

/-- The new text of an instruction is no value of its match. -/
theorem lookup_newText_toFields (m : Match) : Json.lookup "newText" m.toFields = none := by
  cases m <;> simp [toFields]

end Match

/-! ## Instructions -/

namespace Instruction

variable {i : Instruction}

theorem exists_writtenIn_toJson (i : Instruction) :
    ∃ fields, i.toJson = .obj fields ∧ i.WrittenIn fields := by
  refine ⟨_, rfl, ?_⟩
  constructor
  · simp [Json.get]
  · simp [Json.get, Match.toFields]
  · -- behind the match there is the new text at most
    refine i.target.writtenIn_toFields _ ?_
    intro key hkey
    split
    · rfl
    · simp [hkey.symm]
  · intro hkept
    simp [Json.get, i.target.lookup_newText_toFields, hkept]

end Instruction

/-! ## Requests -/

namespace Request

variable {r : Request}

theorem exists_writtenIn_toJson (r : Request) :
    ∃ fields, r.toJson = .obj fields ∧ r.WrittenIn fields := by
  refine ⟨_, rfl, ?_⟩
  constructor
  · simp [Json.get]
  · simp [Json.get]
  · refine ⟨r.instructions.map (·.toJson), by simp [Json.get], ?_⟩
    rw [List.forall₂_map_left_iff, List.forall₂_same]
    exact fun i _ => i.exists_writtenIn_toJson

/-- Exactly the valid requests are read back from how they are written. -/
theorem ofJson_toJson_eq_ok_iff : ofJson r.toJson = .ok r ↔ r.Valid := by
  rw [ofJson_eq_ok_iff]
  exact and_iff_right r.exists_writtenIn_toJson

/-- The form in which a request is written once it has been read. -/
def normalForm (v : Json) : Attempt Json := (ofJson v).map toJson

/-- Whatever is read is valid, and the same is read again from how it is written: what was written once is its
own normal form. -/
theorem ofJson_toJson_of_ofJson (v : Json) :
    (∀ r, ofJson v = .ok r → r.Valid ∧ ofJson r.toJson = .ok r) ∧
    (∀ r : Request, r.Valid → ofJson r.toJson = .ok r) ∧
    (normalForm v >>= normalForm) = normalForm v := by
  have hread : ∀ r, ofJson v = .ok r → r.Valid := fun r h => (ofJson_eq_ok_iff.mp h).2
  refine ⟨?_, fun r => ofJson_toJson_eq_ok_iff.mpr, ?_⟩
  · intro r h
    exact ⟨hread r h, ofJson_toJson_eq_ok_iff.mpr (hread r h)⟩
  · rcases h : ofJson v with f | r
    · simp [normalForm, h, Except.map, bind, Except.bind]
    · -- the second reading gives the request of the first one
      have hagain := ofJson_toJson_eq_ok_iff.mpr (hread r h)
      simp [normalForm, h, hagain, Except.map, bind, Except.bind]

/-- The path and the comment are no texts, an occurrence is not given, an optional text is empty and another one
null, and there is a new text for what is deleted. -/
theorem ofJson_toJson_of_ofJson_loose :
    let v : Json := .obj [
      ("edits", .arr [
        .obj [("newText", .str "x"), ("action_type", .str "insert-after"), ("match_type", .str "symbol"),
          ("name", .str "f"), ("kind", .str ""), ("parentName", .null)],
        .obj [("action_type", .str "delete"), ("match_type", .str "ast"), ("nodeType", .str "class"),
          ("name", .str "C"), ("depth", .int 0), ("occurrence", .int 2), ("newText", .int 5)]]),
      ("filePath", .int 7), ("shortComment", .arr [.bool true, .null])]
    let r : Request := {
      filePath := "7"
      instructions := [
        ⟨.insertAfter, .symbol "f" (some "") none none 1, "x".toList⟩,
        ⟨.delete, .declaration "class" "C" (some 0) none 2, []⟩]
      comment := "[True, None]" }
    ofJson v = .ok r ∧ r.Valid ∧ ofJson r.toJson = .ok r ∧
      (normalForm v >>= normalForm) = .ok r.toJson := by
  intro v r
  have hread : ofJson v = .ok r := by cbv
  obtain ⟨hback, -, htwice⟩ := ofJson_toJson_of_ofJson v
  refine ⟨hread, (hback r hread).1, (hback r hread).2, ?_⟩
  rw [htwice, normalForm, hread]
  rfl

end Request

end Emend
