import Emend.Text.Case

/-!
# Case of plain letters

On texts of plain letters, those below 128, case conversion goes letter by letter. A text that is written with a
capital is the same word as before (`sameWord_capitalize`).
-/

namespace Emend.Text

/-- The text has plain letters only. -/
def IsPlain (cs : List Char) : Prop := ∀ c ∈ cs, c.toNat < 128

theorem isPlain_cons {c : Char} {cs : List Char} : IsPlain (c :: cs) ↔ c.toNat < 128 ∧ IsPlain cs :=
  List.forall_mem_cons

/-- What holds of every number below 128 as a letter holds of every plain letter. -/
theorem of_forall_ofNat {p : Char → Prop} (h : ∀ n < 128, p (Char.ofNat n)) {c : Char} (hc : c.toNat < 128) :
    p c := by
  have hof := h c.toNat hc
  rwa [Char.ofNat_toNat] at hof

theorem toNat_toLower_lt {c : Char} (hc : c.toNat < 128) : c.toLower.toNat < 128 :=
  of_forall_ofNat (p := fun c => c.toLower.toNat < 128) (by decide) hc

theorem toNat_toUpper_lt {c : Char} (hc : c.toNat < 128) : c.toUpper.toNat < 128 :=
  of_forall_ofNat (p := fun c => c.toUpper.toNat < 128) (by decide) hc

theorem toLower_toLower {c : Char} (hc : c.toNat < 128) : c.toLower.toLower = c.toLower :=
  of_forall_ofNat (p := fun c => c.toLower.toLower = c.toLower) (by decide) hc

theorem toLower_toUpper {c : Char} (hc : c.toNat < 128) : c.toUpper.toLower = c.toLower :=
  of_forall_ofNat (p := fun c => c.toUpper.toLower = c.toLower) (by decide) hc

theorem lowerBetween_of_lt {c : Char} (hc : c.toNat < 128) (before after : List Char) :
    lowerBetween before c after = [c.toLower] := by
  have hsigma : (c == 'Σ') = false := by
    rw [beq_eq_false_iff_ne]
    rintro rfl
    exact absurd hc (by decide)
  rw [lowerBetween, hsigma, lowerChar, if_pos hc]
  rfl

/-- Plain letters are converted one by one, whatever stands before them. -/
theorem lowerAfter_eq_map {cs : List Char} (h : IsPlain cs) (before : List Char) :
    lowerAfter before cs = cs.map Char.toLower := by
  induction cs generalizing before with
  | nil => rfl
  | cons c rest ih =>
    rw [isPlain_cons] at h
    rw [lowerAfter, lowerBetween_of_lt h.1, ih h.2, List.map_cons]
    rfl

theorem lower_eq_map {s : String} (h : IsPlain s.toList) : lower s = String.ofList (s.toList.map Char.toLower) := by
  rw [lower, lowerAfter_eq_map h]

theorem toList_capitalize {s : String} {c : Char} {rest : List Char} (hs : s.toList = c :: rest)
    (h : IsPlain (c :: rest)) : (capitalize s).toList = c.toUpper :: rest.map Char.toLower := by
  rw [isPlain_cons] at h
  rw [capitalize, hs]
  simp only [titleChar, if_pos h.1, lowerAfter_eq_map h.2, String.toList_ofList, List.singleton_append]

/-- A capital at the head is lost in lower case. -/
theorem lower_capitalize {s : String} (h : IsPlain s.toList) : lower (capitalize s) = lower s := by
  -- Only the first letter was written large, and it comes back small.
  rcases hs : s.toList with _ | ⟨c, rest⟩
  · have hempty : s = "" := String.toList_eq_nil_iff.mp hs
    rw [hempty]
    rfl
  · rw [hs] at h
    have hplain := h
    rw [isPlain_cons] at h
    have hcapital : IsPlain (capitalize s).toList := by
      rw [toList_capitalize hs hplain, isPlain_cons]
      refine ⟨toNat_toUpper_lt h.1, ?_⟩
      intro b hb
      obtain ⟨a, ha, rfl⟩ := List.mem_map.mp hb
      exact toNat_toLower_lt (h.2 a ha)
    have hrest : rest.map (Char.toLower ∘ Char.toLower) = rest.map Char.toLower :=
      List.map_congr_left fun a ha => toLower_toLower (h.2 a ha)
    rw [lower_eq_map hcapital, toList_capitalize hs hplain, lower_eq_map (by rwa [hs]), hs, List.map_cons,
      List.map_map, List.map_cons, toLower_toUpper h.1, hrest]

/-- A text of plain letters that is written with a capital is the same word. -/
theorem sameWord_capitalize {s : String} (h : IsPlain s.toList) (t : String) :
    sameWord (capitalize s) t = sameWord s t := by
  rw [sameWord, sameWord, lower_capitalize h]

end Emend.Text
