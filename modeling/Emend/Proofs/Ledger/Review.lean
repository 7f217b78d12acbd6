import Emend.Proofs.Edit.Undo
import Emend.Proofs.Host.Healthy
import Emend.Proofs.Ledger.Records
import Emend.Proofs.Sort
import Emend.Session

/-!
# Reviewing the changes of a file

Approving a change drops its record. Rejecting it makes an edit in the live text, and which edit that
is depends on the original text alone. So a run of rejections through a healthy host is a run of edits
(`Holds.rejectRun`). If the changes of a batch are rejected from the first one on, each of them goes and
no other is touched (`rejectRun_ascending`).

Main statements:

* `inverse_eq_undo`: the edit that rejects a change is the undoing one.
* `Holds.approve`, `Holds.reject_taken`, `Holds.reject_refused`: one decision.
* `Holds.rejectRun`: a run of rejections.
* `rejectRun_ascending`: the changes of a batch, rejected from the first one on.
-/

namespace Emend

variable {σ : Type}

namespace PendingChange

/-- The inverse of a change that has what the original text has in its range. -/
theorem inverse_eq_undo {c : PendingChange} {original : List Char}
    (h : c.replaced = baselineText original c.edit.range) : c.inverse = c.edit.undo original := by
  rw [inverse, Edit.undo, h]

/-- The order of changes by the ranges of their edits. -/
def rangeLe (a b : PendingChange) : Bool := Edit.rangeLe a.edit b.edit

theorem map_edit_mergeSort (changes : List PendingChange) :
    (changes.mergeSort rangeLe).map (·.edit) = (changes.map (·.edit)).mergeSort Edit.rangeLe :=
  List.map_mergeSort fun _ _ _ _ => rfl

/-- What is left of the changes once the first ones in the order of their ranges are gone. -/
theorem mergeSort_without {changes : List PendingChange} (h : (changes.map (·.id)).Nodup) (k : Nat) :
    (Ledger.without changes (((changes.mergeSort rangeLe).take k).map (·.id))).mergeSort rangeLe
      = (changes.mergeSort rangeLe).drop k := by
  have hsorted : ((changes.mergeSort rangeLe).map (·.id)).Nodup :=
    ((List.mergeSort_perm changes rangeLe).map _).nodup_iff.mpr h
  rw [← Ledger.without_take hsorted k, Ledger.without, Ledger.without, Sort.filter_mergeSort]
  · exact fun a b c => Edit.rangeLe_trans a.edit b.edit c.edit
  · exact fun a b => Edit.rangeLe_total a.edit b.edit

end PendingChange

namespace Workspace

variable {h : Host σ} {w : Workspace σ} {path : String} {strict : Bool} {good : σ → Prop}
  {others : List ChangeSet} {original text : List Char} {changes : List PendingChange}

/-- The host is in a good state and has a file with the text given; the ledger has the changes given for
it, and they were recorded against the original text. -/
structure Holds (w : Workspace σ) (h : Host σ) (good : σ → Prop) (others : List ChangeSet)
    (path : String) (original text : List Char) (changes : List PendingChange) : Prop where
  good : good w.files
  read : h.read w.files path = .ok text
  tracks : w.ledger.Tracks others path original changes
  replaced : ∀ c ∈ changes, c.replaced = baselineText original c.edit.range

/-! ## Recording -/

/-- The first batch of a file opens its set: the original text is the text of the file. -/
theorem record_first {names : Identifiers} (edits : List Edit)
    (description : String) (hgood : good w.files) (hread : h.read w.files path = .ok text)
    (hset : w.ledger.setOf path = none) :
    ∃ more w', w.record h names path edits description = (.ok more, w') ∧
      w'.Holds h good w.ledger.sets path text text more ∧ more.map (·.edit) = edits := by
  obtain ⟨htracks, hedits, hreplaced⟩ := Ledger.tracks_record text edits description hset
  have hcaptured : (w.ledger.setOf path).isSome = false := by rw [hset]; rfl
  unfold record
  simp only [hcaptured, Bool.false_eq_true, if_false, baselineOf, hread]
  exact ⟨_, _, rfl, ⟨hgood, hread, htracks, hreplaced⟩, hedits⟩

/-- A later batch is recorded against the same original text. -/
theorem Holds.record {names : Identifiers} (edits : List Edit)
    (description : String) (hw : w.Holds h good others path original text changes) :
    ∃ more w', w.record h names path edits description = (.ok more, w') ∧
      w'.Holds h good others path original text (changes ++ more) ∧ more.map (·.edit) = edits := by
  obtain ⟨htracks, hedits, hreplaced⟩ := hw.tracks.record [] edits description
  -- the set of the file is open, so no text is asked for
  have hcaptured : (w.ledger.setOf path).isSome = true := by rw [hw.tracks.setOf]; rfl
  unfold Workspace.record
  simp only [hcaptured, if_true]
  refine ⟨_, _, rfl, ⟨hw.good, hw.read, htracks, ?_⟩, hedits⟩
  intro c hc
  rcases List.mem_append.mp hc with hc | hc
  · exact hw.replaced c hc
  · exact hreplaced c hc

/-! ## Approving one change -/

/-- A change that is kept leaves the text alone. -/
theorem Holds.approve {c : PendingChange}
    (hw : w.Holds h good others path original text changes) (hc : c ∈ changes) :
    ∃ w', w.approve c.id = (true, w') ∧
      w'.Holds h good others path original text (changes.filter (·.id != c.id)) := by
  unfold Workspace.approve
  rw [hw.tracks.find hc]
  refine ⟨_, rfl, hw.good, hw.read, hw.tracks.erase (hw.tracks.unknown c hc), ?_⟩
  intro d hd
  exact hw.replaced d (List.mem_filter.mp hd).1

/-! ## Rejecting one change -/

theorem Holds.inverse_eq {c : PendingChange}
    (hw : w.Holds h good others path original text changes) (hc : c ∈ changes) (strict : Bool) :
    applyEdits text [c.inverse] strict = applyEdits text [c.edit.undo original] := by
  rw [PendingChange.inverse_eq_undo (hw.replaced c hc), applyEdits_singleton_strict]

/-- The record of a change goes where its inverse can be made. -/
theorem Holds.reject_taken {c : PendingChange} {after : List Char}
    (hh : h.Healthy path strict good) (hw : w.Holds h good others path original text changes)
    (hc : c ∈ changes) (happly : applyEdits text [c.edit.undo original] = .ok after) :
    ∃ w', w.reject h c.id = (.ok true, w') ∧
      w'.Holds h good others path original after (changes.filter (·.id != c.id)) := by
  -- the edit that undoes the change is made by the text that was recorded with it
  rw [← hw.inverse_eq hc strict] at happly
  obtain ⟨hmade, hgood, hread⟩ := hh.makes hw.good hw.read happly
  unfold reject
  simp only [hw.tracks.find hc, hw.tracks.here c hc, hmade]
  refine ⟨_, rfl, hgood, hread, hw.tracks.erase (hw.tracks.unknown c hc), ?_⟩
  intro d hd
  exact hw.replaced d (List.mem_filter.mp hd).1

/-- Where the inverse cannot be made, everything stays. -/
theorem Holds.reject_refused {c : PendingChange} {cause : BatchError}
    (hh : h.Healthy path strict good) (hw : w.Holds h good others path original text changes)
    (hc : c ∈ changes) (happly : applyEdits text [c.edit.undo original] = .error cause) :
    ∃ w', w.reject h c.id = (.ok false, w') ∧
      w'.Holds h good others path original text changes := by
  rw [← hw.inverse_eq hc strict] at happly
  obtain ⟨hmade, hgood, hread⟩ := hh.refuses hw.good hw.read happly
  unfold reject
  simp only [hw.tracks.find hc, hw.tracks.here c hc]
  -- the host may refuse by its answer or by a failure that is taken for a refusal
  rcases hreply : (h.apply w.files path [c.inverse]).made with f | made
  · rw [hreply] at hmade
    have hallowed : (f.isEditError || f.isStorageError) = true := hmade
    simp only [hallowed, if_true]
    exact ⟨_, rfl, hgood, hread, hw.tracks, hw.replaced⟩
  · rw [hreply] at hmade
    have hfalse : made = false := hmade
    subst hfalse
    exact ⟨_, rfl, hgood, hread, hw.tracks, hw.replaced⟩

/-- A change whose edit was the last that was made is taken back: its range gets what the original text has
there. -/
theorem Holds.reject_last {c : PendingChange} {live : List Char} (hh : h.Healthy path strict good)
    (hw : w.Holds h good others path original text changes) (hc : c ∈ changes)
    (hmade : applyEdits live [c.edit] strict = .ok text) :
    ∃ w' after, w.reject h c.id = (.ok true, w') ∧
      w'.Holds h good others path original after (changes.filter (·.id != c.id)) ∧
      applyEdits live [⟨c.edit.range, baselineText original c.edit.range⟩] = .ok after := by
  have hcov := covers_of_applyEdits hmade c.edit List.mem_cons_self
  -- undoing an edit is making another one in its range on the text before it
  have hremake := applyEdits_remake (baselineText original c.edit.range) hmade
  have hafter := applyEdits_singleton
    (e := ⟨c.edit.range, baselineText original c.edit.range⟩) true hcov
  obtain ⟨w', hreject, hw'⟩ := hw.reject_taken hh hc (hremake.trans hafter)
  exact ⟨w', _, hreject, hw', hafter⟩

/-! ## Rejecting one change after the other -/

/-- Reject changes one at a time. Each attempt is answered, whatever became of those before. -/
def rejectRun (h : Host σ) (w : Workspace σ) : List String → List (Attempt Bool) × Workspace σ
  | [] => ([], w)
  | id :: rest =>
    let (answer, w) := w.reject h id
    let (answers, w) := rejectRun h w rest
    (answer :: answers, w)

/-- A run of rejections of pending changes answers each with yes exactly if all of the inverse edits can be
made in the text that the earlier ones left, and then the text is what they make of it. -/
theorem Holds.rejectRun {order : List PendingChange} (hh : h.Healthy path strict good)
    (hw : w.Holds h good others path original text changes) (hsub : order ⊆ changes)
    (hdistinct : (order.map (·.id)).Nodup) :
    ∃ (answers : List Bool) (w' : Workspace σ),
      Workspace.rejectRun h w (order.map (·.id)) = (answers.map .ok, w') ∧
      Session.rejectEach h w order = (.ok (answers.count true), w') ∧
      answers.length = order.length ∧
      ((∀ answer ∈ answers, answer = true) →
        ∃ after, Edit.undoEach original text (order.map (·.edit)) = .ok after) ∧
      ∀ after, Edit.undoEach original text (order.map (·.edit)) = .ok after →
        (∀ answer ∈ answers, answer = true) ∧
          w'.Holds h good others path original after
            (Ledger.without changes (order.map (·.id))) := by
  -- on the changes that are still to be rejected, over whatever text is there by then
  induction order generalizing w text changes with
  | nil =>
    refine ⟨[], w, rfl, rfl, rfl, fun _ => ⟨text, rfl⟩, ?_⟩
    intro after hundo
    obtain rfl : text = after := Except.ok.inj hundo
    rw [List.map_nil, Ledger.without_nil]
    exact ⟨by simp, hw⟩
  | cons c rest ih =>
    have hc : c ∈ changes := hsub List.mem_cons_self
    have hrest : rest ⊆ changes := List.subset_of_cons_subset hsub
    rw [List.map_cons, List.nodup_cons] at hdistinct
    rcases happly : applyEdits text [c.edit.undo original] with cause | after
    · -- the first change stays, and the run goes on without it
      obtain ⟨w₁, hreject, hw₁⟩ := hw.reject_refused hh hc happly
      obtain ⟨answers, w', hrun, heach, hlen, -, -⟩ := ih hw₁ hrest hdistinct.2
      refine ⟨false :: answers, w', ?_, ?_, ?_, ?_, ?_⟩
      · simp [Workspace.rejectRun, hreject, hrun]
      · simp [Session.rejectEach, hreject, heach, Except.map]
      · rw [List.length_cons, List.length_cons, hlen]
      · intro hall
        exact absurd (hall false List.mem_cons_self) Bool.false_ne_true
      · intro last hundo
        rw [List.map_cons, Edit.undoEach_cons, happly] at hundo
        simp [Except.bind] at hundo
    · -- the first change goes, and the others are still there
      obtain ⟨w₁, hreject, hw₁⟩ := hw.reject_taken hh hc happly
      have hrest₁ := Ledger.subset_filter_id hrest hdistinct.1
      obtain ⟨answers, w', hrun, heach, hlen, hall, hafter⟩ := ih hw₁ hrest₁ hdistinct.2
      have hcons : ∀ last, Edit.undoEach original text ((c :: rest).map (·.edit)) = .ok last ↔
          Edit.undoEach original after (rest.map (·.edit)) = .ok last := by
        intro last
        rw [List.map_cons, Edit.undoEach_cons, happly]
        exact Iff.rfl
      refine ⟨true :: answers, w', ?_, ?_, ?_, ?_, ?_⟩
      · simp [Workspace.rejectRun, hreject, hrun]
      · simp [Session.rejectEach, hreject, heach, Except.map]
      · rw [List.length_cons, List.length_cons, hlen]
      · intro hyes
        rw [List.forall_mem_cons] at hyes
        obtain ⟨last, hlast⟩ := hall hyes.2
        exact ⟨last, (hcons last).mpr hlast⟩
      · intro last hundo
        obtain ⟨hyes, hholds⟩ := hafter last ((hcons last).mp hundo)
        rw [List.map_cons, Ledger.without_cons]
        refine ⟨?_, hholds⟩
        rw [List.forall_mem_cons]
        exact ⟨rfl, hyes⟩

/-! ## A whole batch -/

/-- The host makes a batch in a file. -/
theorem Holds.make {edits : List Edit} {after : List Char} (hh : h.Healthy path strict good)
    (hw : w.Holds h good others path original text changes)
    (happly : applyEdits text edits strict = .ok after) :
    (h.apply w.files path edits).made = .ok true ∧
      ({ w with files := (h.apply w.files path edits).state } : Workspace σ).Holds h good others path
        original after changes := by
  obtain ⟨hmade, hgood, hread⟩ := hh.makes hw.good hw.read happly
  exact ⟨hmade, hgood, hread, hw.tracks, hw.replaced⟩

/-- The changes of a clear batch can be rejected from the first one on: each of them is taken back, and the
text is always the original text with the edits made that are still pending. -/
theorem rejectRun_ascending {names : Identifiers} {edits : List Edit} {splices : List Splice}
    (description : String) (hh : h.Healthy path strict good)
    (hgood : good w.files) (hread : h.read w.files path = .ok text)
    (hset : w.ledger.setOf path = none)
    (hsplices : (Document.mk text "").splices edits = .ok splices)
    (hcheck : checkOverlaps splices = .ok ()) :
    ∃ changes w₁, w.record h names path edits description = (.ok changes, w₁) ∧
      changes.map (·.edit) = edits ∧
      (h.apply w₁.files path edits).made = .ok true ∧
      ∀ k ≤ changes.length,
        let order := (changes.mergeSort PendingChange.rangeLe).take k
        ∃ w₂ live, rejectRun h { w₁ with files := (h.apply w₁.files path edits).state }
            (order.map (·.id)) = (List.replicate k (.ok true), w₂) ∧
          w₂.ledger.pending path = Ledger.without changes (order.map (·.id)) ∧
          h.read w₂.files path = .ok live ∧
          applyEdits text ((w₂.ledger.pending path).map (·.edit)) = .ok live ∧
          (k = changes.length → live = text) := by
  obtain ⟨changes, w₁, hrecord, hw₁, hedits⟩ := record_first edits description hgood hread hset
  obtain ⟨hcov, -⟩ := Document.splices_eq_ok_iff.mp hsplices
  have hclear := (Document.checkOverlaps_eq_ok_iff hsplices).mp hcheck
  obtain ⟨hmade, hw⟩ := hw₁.make hh (applyEdits_eq_weave strict hcov hclear)
  refine ⟨changes, w₁, hrecord, hedits, hmade, ?_⟩
  intro k hk order
  have hperm := List.mergeSort_perm changes PendingChange.rangeLe
  have hsorted : (changes.mergeSort PendingChange.rangeLe).map (·.edit)
      = edits.mergeSort Edit.rangeLe := by
    rw [PendingChange.map_edit_mergeSort, hedits]
  have hsub : order ⊆ changes := fun c hc => hperm.mem_iff.mp (List.mem_of_mem_take hc)
  have hdistinct : (order.map (·.id)).Nodup :=
    ((hperm.map _).nodup_iff.mpr hw.tracks.distinct).sublist ((List.take_sublist _ _).map _)
  obtain ⟨answers, w₂, hrun, -, hlen, -, hafter⟩ := hw.rejectRun hh hsub hdistinct
  -- the pure run: the first `k` edits in order are taken back
  have hundo : Edit.undoEach text (Splice.weave text 0 ((Document.mk text "").ordered edits))
      (order.map (·.edit))
        = .ok (Splice.weave text 0 (((edits.mergeSort Edit.rangeLe).drop k).map
            (Document.mk text "").spliceOf)) := by
    rw [List.map_take, hsorted]
    refine undoEach_take k ?_ (Document.inOrder_ordered hcov hclear)
    intro e he
    exact hcov e (List.mem_mergeSort.mp he)
  obtain ⟨hyes, hw₂⟩ := hafter _ hundo
  have hpending := hw₂.tracks.pending
  have hcount : order.length = k := by
    rw [List.length_take, hperm.length_eq, Nat.min_eq_left hk]
  have hanswers : answers = List.replicate k true :=
    List.eq_replicate_iff.mpr ⟨by rw [hlen, hcount], hyes⟩
  refine ⟨w₂, _, ?_, hpending, hw₂.read, ?_, ?_⟩
  · rw [hrun, hanswers, List.map_replicate]
  · -- sorting what is left is leaving out what went from the sorted batch
    have hleft : ((Ledger.without changes (order.map (·.id))).map (·.edit)).Sublist edits := by
      rw [← hedits]
      exact List.filter_sublist.map _
    rw [hpending, applyEdits_eq_weave true (fun e he => hcov e (hleft.subset he))
      (hclear.sublist hleft), Document.ordered, ← PendingChange.map_edit_mergeSort,
      PendingChange.mergeSort_without hw.tracks.distinct, List.map_drop, hsorted]
  · intro hall
    have hnone : (edits.mergeSort Edit.rangeLe).drop k = [] := by
      rw [List.drop_eq_nil_iff, List.length_mergeSort, ← hedits, List.length_map, hall]
    rw [hnone]
    rfl

/-- Two insertions at one place, in front of a span that another insertion follows. -/
theorem rejectRun_ascending_touching :
    let h := Memory.host true fun _ => []
    let w : Workspace Memory := { files := { texts := [("f", "abcd".toList)] } }
    let edits : List Edit :=
      [⟨⟨⟨0, 1⟩, ⟨0, 3⟩, by decide⟩, "X\nY".toList⟩, ⟨.emptyAt ⟨0, 3⟩, ['z']⟩,
        ⟨.emptyAt ⟨0, 1⟩, ['p']⟩, ⟨.emptyAt ⟨0, 1⟩, ['q', '\n']⟩]
    let splices : List Splice :=
      [⟨1, 3, "X\nY".toList, 0⟩, ⟨3, 3, ['z'], 1⟩, ⟨1, 1, ['p'], 2⟩, ⟨1, 1, ['q', '\n'], 3⟩]
    (h.Healthy "f" true fun m => m.mode = .healthy) ∧
      w.files.mode = .healthy ∧ h.read w.files "f" = .ok "abcd".toList ∧
      w.ledger.setOf "f" = none ∧ (Document.mk "abcd".toList "").splices edits = .ok splices ∧
      checkOverlaps splices = .ok () ∧
      ∃ changes w₁ w₂, w.record h Ledger.strokes "f" edits "batch" = (.ok changes, w₁) ∧
        rejectRun h { w₁ with files := (h.apply w₁.files "f" edits).state }
          ((changes.mergeSort PendingChange.rangeLe).map (·.id))
            = (List.replicate 4 (.ok true), w₂) ∧
        h.read w₂.files "f" = .ok "abcd".toList := by
  intro h w edits splices
  have hh : h.Healthy "f" true fun m => m.mode = .healthy := Memory.healthy _ "f" true
  have hread : h.read w.files "f" = .ok "abcd".toList := rfl
  have hsplices : (Document.mk "abcd".toList "").splices edits = .ok splices := rfl
  have hcheck : checkOverlaps splices = .ok () := by cbv
  refine ⟨hh, rfl, hread, rfl, hsplices, hcheck, ?_⟩
  obtain ⟨changes, w₁, hrecord, hedits, -, hrun⟩ :=
    rejectRun_ascending "batch" hh rfl hread rfl hsplices hcheck
  have hlen : changes.length = 4 := by
    have := congrArg List.length hedits
    simpa [edits] using this
  -- all four changes are taken back, so the text is the one before the batch
  obtain ⟨w₂, live, hreject, -, hlive, -, hall⟩ := hrun 4 (Nat.le_of_eq hlen.symm)
  have htake : (changes.mergeSort PendingChange.rangeLe).take 4
      = changes.mergeSort PendingChange.rangeLe := by
    apply List.take_of_length_le
    rw [List.length_mergeSort, hlen]
  rw [htake] at hreject
  exact ⟨changes, w₁, w₂, hrecord, hreject, by rw [hlive, hall hlen.symm]⟩

end Workspace

end Emend
