import Emend.Failure
import Mathlib

/-!
# Attempts that succeed and attempts that fail

What is known of the parts of an attempt once the whole of it has succeeded, and where a failure of the whole
comes from. A failure that is a refusal is told from one that comes from outside of the request
(`Failure.isEditError`). A list of attempts succeeds item by item (`each_eq_ok_iff`), or fails with the first item
that fails (`exists_first_of_each_eq_error`).

Main statements:

* `bind_eq_ok`, `bind_eq_error`: what the two parts of an attempt did.
* `each_eq_ok_iff`, `exists_first_of_each_eq_error`: a list of attempts, item by item.
-/

namespace Emend

/-- Every item of a list can be related to something exactly if all can be at once. -/
theorem exists_forall₂_iff {α β : Type} {R : α → β → Prop} {items : List α} :
    (∃ images, List.Forall₂ R items images) ↔ ∀ a ∈ items, ∃ b, R a b := by
  -- the images are chosen item by item
  induction items with
  | nil => simp
  | cons a rest ih =>
    rw [List.forall_mem_cons, ← ih]
    constructor
    · rintro ⟨images, h⟩
      obtain ⟨b, more, hb, hmore, -⟩ := List.forall₂_cons_left_iff.mp h
      exact ⟨⟨b, hb⟩, ⟨more, hmore⟩⟩
    · rintro ⟨⟨b, hb⟩, ⟨more, hmore⟩⟩
      exact ⟨b :: more, .cons hb hmore⟩

namespace Attempt

variable {ε α β : Type} {a : α} {b : β}

/-- One step after the other succeeds if both do, whatever is told of a step that fails. -/
theorem bind_eq_ok {x : Except ε α} {f : α → Except ε β} :
    (x >>= f) = .ok b ↔ ∃ a, x = .ok a ∧ f a = .ok b := by
  rcases x with e | a
  · simp [bind, Except.bind]
  · simp [bind, Except.bind]

theorem map_eq_ok {x : Except ε α} {f : α → β} : x.map f = .ok b ↔ ∃ a, x = .ok a ∧ f a = b := by
  rcases x with e | a <;> simp [Except.map]

theorem mapError_eq_ok {x : Attempt α} {f : Failure → Failure} :
    x.mapError f = .ok a ↔ x = .ok a := by
  rcases x with e | a <;> simp [Except.mapError]

theorem toOption_eq_some {x : Except ε α} : x.toOption = some a ↔ x = .ok a := by
  rcases x with e | a <;> simp [Except.toOption]

theorem pure_eq_ok {c : α} : (pure a : Except ε α) = .ok c ↔ a = c := by
  simp [pure, Except.pure]

theorem refuse_ne_ok {e : EditError} : (refuse e : Attempt α) ≠ .ok a := by
  simp [refuse]

theorem ofRange_eq_ok {x : Except OutOfRange α} : ofRange x = .ok a ↔ x = .ok a := by
  rcases x with e | a <;> simp [ofRange, refuse]

theorem ofOrder_eq_ok {x : Except Inverted α} : ofOrder x = .ok a ↔ x = .ok a := by
  rcases x with e | a <;> simp [ofOrder]

theorem ofBatch_eq_ok {x : Except BatchError α} : ofBatch x = .ok a ↔ x = .ok a := by
  rcases x with e | a <;> simp [ofBatch, refuse]

/-! ## Failures -/

variable {x : Attempt α} {e : Failure}

/-- One attempt after the other fails if the first does, or the second. -/
theorem bind_eq_error {f : α → Attempt β} :
    (x >>= f) = .error e ↔ x = .error e ∨ ∃ a, x = .ok a ∧ f a = .error e := by
  rcases x with e' | a
  · simp [bind, Except.bind]
  · simp [bind, Except.bind]

theorem mapError_eq_error {ε : Type} {y : Except ε α} {f : ε → Failure} :
    y.mapError f = .error e ↔ ∃ e', y = .error e' ∧ f e' = e := by
  rcases y with e' | a <;> simp [Except.mapError]

theorem refuse_eq_error {cause : EditError} :
    (refuse cause : Attempt α) = .error e ↔ Failure.ofError cause = e := by
  simp [refuse]

theorem isEditError_of_refuse {cause : EditError} (h : (refuse cause : Attempt α) = .error e) :
    e.isEditError = true := by
  rw [← refuse_eq_error.mp h]
  rfl

theorem isEditError_of_ofRange {y : Except OutOfRange α} (h : ofRange y = .error e) :
    e.isEditError = true := by
  rcases y with cause | a
  · exact isEditError_of_refuse h
  · simp [ofRange] at h

/-! ## Lists -/

/-- Steps that all succeed, one for each item of a list. -/
theorem mapM_eq_ok {f : α → Except ε β} {g : α → β} {items : List α} (h : ∀ a ∈ items, f a = .ok (g a)) :
    items.mapM f = .ok (items.map g) := by
  induction items with
  | nil => rfl
  | cons a rest ih =>
    rw [List.forall_mem_cons] at h
    rw [List.mapM_cons, h.1, ih h.2]
    rfl

/-- An attempt for each item of a list, counted from `index`. What is told of a failure depends on the item. -/
def each (attempt : α → Attempt β) (tell : Nat → α → Failure → Failure) (index : Nat) :
    List α → Attempt (List β)
  | [] => .ok []
  | a :: rest => do
    let b ← (attempt a).mapError (tell index a)
    let more ← each attempt tell (index + 1) rest
    return b :: more

variable {attempt : α → Attempt β} {tell : Nat → α → Failure → Failure} {index : Nat} {items : List α}

/-- All items succeed together exactly with the results that they have one by one. -/
theorem each_eq_ok_iff {results : List β} :
    each attempt tell index items = .ok results ↔
      List.Forall₂ (fun a b => attempt a = .ok b) items results := by
  -- on the items, at any index from which they are counted
  induction items generalizing index results with
  | nil => simp [each, eq_comm]
  | cons a rest ih =>
    rw [List.forall₂_cons_left_iff]
    constructor
    · intro h
      obtain ⟨b, hb, h⟩ := bind_eq_ok.mp h
      obtain ⟨more, hmore, h⟩ := bind_eq_ok.mp h
      exact ⟨b, more, mapError_eq_ok.mp hb, ih.mp hmore, (pure_eq_ok.mp h).symm⟩
    · rintro ⟨b, more, hb, hmore, rfl⟩
      exact bind_eq_ok.mpr ⟨b, mapError_eq_ok.mpr hb, bind_eq_ok.mpr ⟨more, ih.mpr hmore, rfl⟩⟩

/-- The items fail with the first of them that fails. -/
theorem exists_first_of_each_eq_error (h : each attempt tell index items = .error e) :
    ∃ k a g, items[k]? = some a ∧ attempt a = .error g ∧
      (∀ a' ∈ items.take k, ∃ b, attempt a' = .ok b) ∧ e = tell (index + k) a g := by
  induction items generalizing index with
  | nil => simp [each] at h
  | cons a rest ih =>
    -- the first item fails, or one of the others does and the first one succeeded
    rcases bind_eq_error.mp h with h | ⟨b, hb, h⟩
    · obtain ⟨g, hg, rfl⟩ := mapError_eq_error.mp h
      exact ⟨0, a, g, rfl, hg, by simp, rfl⟩
    · rcases bind_eq_error.mp h with h | ⟨more, -, h⟩
      · obtain ⟨k, a', g, hplace, hg, hbefore, rfl⟩ := ih h
        refine ⟨k + 1, a', g, hplace, hg, ?_, by rw [Nat.add_right_comm]; rfl⟩
        rw [List.take_succ_cons, List.forall_mem_cons]
        exact ⟨⟨b, mapError_eq_ok.mp hb⟩, hbefore⟩
      · simp [pure, Except.pure] at h

end Attempt

end Emend
