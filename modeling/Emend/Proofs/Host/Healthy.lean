import Emend.Host.Memory
import Emend.Proofs.Edit.Batch
import Emend.Proofs.Lookup

/-!
# Healthy hosts

A host is healthy for a file as long as it makes every batch that can be made in the file's text, and
leaves the text alone otherwise. Rejecting a change through such a host is making one edit in the text.
It spares the texts if a batch that it does not make leaves all of them as they are.
-/

namespace Emend

variable {σ : Type}

/-- A batch was not made: the host says so, or gives up for a reason that it is allowed to have. -/
def NotMade : Attempt Bool → Prop
  | .ok made => made = false
  | .error f => (f.isEditError || f.isStorageError) = true

/-- In the states that are `good`, a host makes exactly the batches that can be made in the text of a file,
and no other state follows. -/
structure Host.Healthy (h : Host σ) (path : String) (strict : Bool) (good : σ → Prop) : Prop where
  makes : ∀ {files : σ} {text after : List Char} {edits : List Edit}, good files →
    h.read files path = .ok text → applyEdits text edits strict = .ok after →
      (h.apply files path edits).made = .ok true ∧ good (h.apply files path edits).state ∧
        h.read (h.apply files path edits).state path = .ok after
  refuses : ∀ {files : σ} {text : List Char} {cause : BatchError} {edits : List Edit}, good files →
    h.read files path = .ok text → applyEdits text edits strict = .error cause →
      NotMade (h.apply files path edits).made ∧ good (h.apply files path edits).state ∧
        h.read (h.apply files path edits).state path = .ok text

/-- A batch that a host does not make leaves every text as it is. -/
def Host.Spares (h : Host σ) (files : σ) : Prop :=
  ∀ (path : String) (edits : List Edit) (other : String), (h.apply files path edits).made ≠ .ok true →
    h.read (h.apply files path edits).state other = h.read files other

/-! ## Texts in memory -/

namespace Memory

theorem read_eq_ok_iff {m : Memory} {path : String} {text : List Char} :
    m.read path = .ok text ↔ m.text? path = some text := by
  unfold read
  rcases m.text? path with _ | found <;> simp

/-- The text that was set is read back. -/
theorem read_set (m : Memory) (path : String) (text : List Char) :
    (m.set path text).read path = .ok text := by
  rw [read_eq_ok_iff, text?, set, List.lookup_cons, beq_self_eq_true]

/-- A batch that is not made in memory leaves everything as it is, in every mode. -/
theorem spares (strict : Bool) (symbols : String → List Symbol) (m : Memory) :
    (host strict symbols).Spares m := by
  intro path edits other
  unfold host apply
  dsimp only
  split
  · exact fun _ => rfl
  · exact fun _ => rfl
  · split
    · exact fun hmade => absurd rfl hmade
    · exact fun _ => rfl

/-- Texts in memory are edited as they should be, if the mode is. -/
theorem healthy (symbols : String → List Symbol) (path : String) (strict : Bool) :
    (host strict symbols).Healthy path strict fun m => m.mode = .healthy where
  makes := by
    intro m text after edits hgood hread happly
    have hedited : m.edited strict path edits = .ok after := by
      have hread' : m.read path = .ok text := hread
      -- A batch that can be made in the text is made in memory, and one that cannot leaves the memory alone.
      simp [edited, hread', happly, Attempt.ofBatch, bind, Except.bind]
    have hreply : (host strict symbols).apply m path edits = ⟨.ok true, m.set path after, []⟩ := by
      simp [host, apply, hgood, hedited]
    rw [hreply]
    exact ⟨rfl, hgood, m.read_set path after⟩
  refuses := by
    intro m text cause edits hgood hread happly
    have hedited : m.edited strict path edits = Attempt.refuse (.ofBatch cause) := by
      have hread' : m.read path = .ok text := hread
      simp [edited, hread', happly, Attempt.ofBatch, bind, Except.bind]
    have hreply : (host strict symbols).apply m path edits
        = ⟨Attempt.refuse (.ofBatch cause), m, []⟩ := by
      simp [host, apply, hgood, hedited, Attempt.refuse]
    rw [hreply]
    exact ⟨rfl, hgood, hread⟩

end Memory

end Emend
