import Emend.Proofs.Session.Request

/-!
# Rejecting all changes of a file

All changes of a file are rejected from the one that starts last on. The edit that takes a change back
speaks of the place that the change has in the original text, but the changes in front of it are still
made by then. So the original text comes back if these do not move anything
(`rejectAll_restores_iff`), and does not otherwise (`rejectAll_loses_text`).

Main statements:

* `makeAndUndo_of_keepsPlace`: edits that do not move anything are undone in any order.
* `Healthy.rejectAll`: rejecting all changes is undoing their edits, the last one first.
* `rejectAll_restores_iff`: whether the original text comes back.
-/

namespace Emend

namespace Edit

/-- The order in which edits are taken back: what starts last comes first. -/
def startsLater (a b : Edit) : Bool := decide (b.range.start ≤ a.range.start)

/-- Make the edits of a batch in a text, and take them back from the one that starts last on. -/
def makeAndUndo (original : List Char) (edits : List Edit) : Except BatchError (List Char) :=
  (applyEdits original edits).bind fun live =>
    undoEach original live (edits.mergeSort startsLater)

end Edit

/-- If all edits but the last keep places, making and taking back leaves the original text. -/
theorem makeAndUndo_of_keepsPlace {text : List Char} {edits : List Edit}
    (hcov : ∀ e ∈ edits, (Document.mk text "").Covers e.range)
    (hclear : (Document.mk text "").Clear edits)
    (hkeep : (edits.mergeSort Edit.rangeLe).Pairwise fun e _ => e.KeepsPlace) :
    Edit.makeAndUndo text edits = .ok text := by
  -- the changes are taken back in another order than that of the text
  have hperm : (edits.mergeSort Edit.rangeLe).Perm (edits.mergeSort Edit.startsLater ++ []) := by
    rw [List.append_nil]
    exact (List.mergeSort_perm edits _).trans (List.mergeSort_perm edits _).symm
  have hcov' : ∀ e ∈ edits.mergeSort Edit.rangeLe, (Document.mk text "").Covers e.range :=
    fun e he => hcov e (List.mem_mergeSort.mp he)
  have hkeep' : (edits.mergeSort Edit.rangeLe).Pairwise
      fun e f => f ∈ edits.mergeSort Edit.startsLater → e.KeepsPlace := by
    refine hkeep.imp ?_
    intro e f h _
    exact h
  -- no edit moves another one, so the order does not matter
  have hundo := undoEach_of_keepsPlace id hperm (List.nil_sublist _) (by simp) hcov' hkeep'
    (Document.inOrder_ordered hcov hclear)
  unfold Edit.makeAndUndo
  rw [applyEdits_eq_weave true hcov hclear]
  rw [List.map_id] at hundo
  exact hundo

namespace Session

variable {σ : Type} {s : Session σ} {good : σ → Prop} {path spelling : String} {strict : Bool}
  {w w₁ : Workspace σ} {request : Request} {text : List Char} {done : Applied}

theorem reviewOrder_map_edit (changes : List PendingChange) :
    (changes.mergeSort reviewLe).map (·.edit) = (changes.map (·.edit)).mergeSort Edit.startsLater :=
  List.map_mergeSort fun _ _ _ _ => rfl

theorem reviewOrder_eq {others : List ChangeSet} {original live : List Char}
    {changes : List PendingChange} (hspelling : s.host.key spelling = path)
    (hw : w.Holds s.host good others path original live changes) :
    s.reviewOrder w spelling = changes.mergeSort reviewLe := by
  rw [reviewOrder, Session.pending, hspelling, hw.tracks.pending]

/-- All pending changes are rejected as the pure run has it: as many as are answered with yes are counted,
and all of them are exactly if the run succeeds. -/
theorem Healthy.rejectAll {others : List ChangeSet} {original live : List Char}
    {changes : List PendingChange} (hs : s.Healthy path strict good)
    (hspelling : s.host.key spelling = path)
    (hw : w.Holds s.host good others path original live changes) :
    ∃ (answers : List Bool) (w' : Workspace σ),
      s.rejectAll w spelling = (.ok (answers.count true), w') ∧ answers.length = changes.length ∧
      ((∀ answer ∈ answers, answer = true) → ∃ after, Edit.undoEach original live
        ((changes.map (·.edit)).mergeSort Edit.startsLater) = .ok after) ∧
      ∀ after, Edit.undoEach original live
          ((changes.map (·.edit)).mergeSort Edit.startsLater) = .ok after →
        (∀ answer ∈ answers, answer = true) ∧
          w'.Holds s.host good others path original after [] := by
  have hperm := List.mergeSort_perm changes reviewLe
  have horder : s.reviewOrder w spelling = changes.mergeSort reviewLe :=
    reviewOrder_eq hspelling hw
  have hdistinct : ((changes.mergeSort reviewLe).map (·.id)).Nodup :=
    (hperm.map _).nodup_iff.mpr hw.tracks.distinct
  -- all changes of the file are in the list, each of them once
  obtain ⟨answers, w', -, heach, hlen, hall, hafter⟩ := hw.rejectRun hs.host
    (fun c hc => hperm.mem_iff.mp hc) hdistinct
  rw [reviewOrder_map_edit] at hall hafter
  rw [Ledger.without_all fun c hc => hperm.mem_iff.mpr hc] at hafter
  refine ⟨answers, w', ?_, by rw [hlen, hperm.length_eq], hall, hafter⟩
  rw [Session.rejectAll, horder, heach]

/-- After a request that opened the set of a file, rejecting all changes answers with their number, leaves
none pending and brings the original text back exactly if the edits that take them back, made from the
one that starts last on, happen to lead there. They do if no edit that another one follows moves what is
behind it to another line or column. -/
theorem rejectAll_restores_iff (hs : s.Healthy path strict good)
    (hreject : s.settings.rejectOverlaps = true)
    (hkey : s.host.key request.filePath = path) (hspelling : s.host.key spelling = path)
    (hne : request.instructions ≠ []) (hgood : good w.files)
    (hread : s.host.read w.files path = .ok text) (hset : w.ledger.setOf path = none)
    (happ : s.apply w request = (.ok done, w₁)) :
    (((s.rejectAll w₁ spelling).1 = .ok done.changes.length ∧
        s.pending (s.rejectAll w₁ spelling).2 spelling = [] ∧
        s.host.read (s.rejectAll w₁ spelling).2.files path = .ok text) ↔
      Edit.makeAndUndo text done.edits = .ok text) ∧
    ((done.edits.mergeSort Edit.rangeLe).Pairwise (fun e _ => e.KeepsPlace) →
      Edit.makeAndUndo text done.edits = .ok text) := by
  obtain ⟨document, live, hcompile, happly, hw₁, hedits⟩ :=
    hs.accepted_first hkey hne hgood hread hset happ
  obtain ⟨hcov, hclear⟩ := clear_of_compile hreject (hkey ▸ hread) (hkey ▸ hcompile)
  obtain ⟨answers, w₂, hall, hlen, hyes, hafter⟩ := hs.rejectAll hspelling hw₁
  have hlive : applyEdits text done.edits = .ok live := by
    rw [applyEdits_eq_weave true hcov hclear, ← applyEdits_eq_weave strict hcov hclear, happly]
  -- making a batch and taking it back is what the request and the rejection do
  have hrun : ∀ after, Edit.makeAndUndo text done.edits = .ok after ↔
      Edit.undoEach text live ((done.changes.map (·.edit)).mergeSort Edit.startsLater)
        = .ok after := by
    intro after
    rw [Edit.makeAndUndo, hlive, hedits]
    exact Iff.rfl
  rw [hall]
  refine ⟨⟨?_, ?_⟩, makeAndUndo_of_keepsPlace hcov hclear⟩
  · -- as many as there are changes means that none was refused
    rintro ⟨hcount, -, hback⟩
    have hcount' : answers.count true = answers.length := (Except.ok.inj hcount).trans hlen.symm
    obtain ⟨after, hundo⟩ := hyes fun answer ha =>
      (List.count_eq_length.mp hcount' answer ha).symm
    have hholds := (hafter after hundo).2
    rw [hholds.read] at hback
    rw [hrun, hundo, Except.ok.inj hback]
  · intro hback
    obtain ⟨hanswers, hholds⟩ := hafter text ((hrun text).mp hback)
    have hcount : answers.count true = answers.length :=
      List.count_eq_length.mpr fun answer ha => (hanswers answer ha).symm
    refine ⟨?_, ?_, hholds.read⟩
    · rw [hcount, hlen]
    · rw [Session.pending, hspelling]
      exact hholds.tracks.pending

/-- A line that becomes another line, and a last line that becomes two lines. -/
theorem rejectAll_restores_lines :
    let w : Workspace Memory := { files := { texts := [("a.txt", "a\nb".toList)] } }
    let request : Request := ⟨"a.txt", [⟨.replace, .lines 2 2, "B\nB2".toList⟩,
      ⟨.replace, .lines 1 1, "A".toList⟩], ""⟩
    (inMemory.Healthy "a.txt" true fun m => m.mode = .healthy) ∧
      inMemory.settings.rejectOverlaps = true ∧
      inMemory.host.key request.filePath = "a.txt" ∧ inMemory.host.key "a.txt" = "a.txt" ∧
      request.instructions ≠ [] ∧ w.files.mode = .healthy ∧
      inMemory.host.read w.files "a.txt" = .ok "a\nb".toList ∧ w.ledger.setOf "a.txt" = none ∧
      ∃ done w₁, inMemory.apply w request = (.ok done, w₁) ∧
        (done.edits.mergeSort Edit.rangeLe).Pairwise (fun e _ => e.KeepsPlace) ∧
        (inMemory.rejectAll w₁ "a.txt").1 = .ok done.changes.length ∧
        inMemory.pending (inMemory.rejectAll w₁ "a.txt").2 "a.txt" = [] ∧
        inMemory.host.read (inMemory.rejectAll w₁ "a.txt").2.files "a.txt"
          = .ok "a\nb".toList := by
  intro w request
  let edits : List Edit := [⟨⟨⟨1, 0⟩, ⟨1, 1⟩, by decide⟩, "B\nB2".toList⟩,
    ⟨⟨⟨0, 0⟩, ⟨0, 1⟩, by decide⟩, "A".toList⟩]
  have hs := inMemory_healthy "a.txt"
  have hne : request.instructions ≠ [] := List.cons_ne_nil _ _
  have hread : inMemory.host.read w.files "a.txt" = .ok "a\nb".toList := rfl
  have hcompile : inMemory.compile w.files "a.txt" request
      = .ok (⟨"a\nb".toList, "a.txt"⟩, edits) :=
    (compile_eq_ok_iff hread).mpr ⟨rfl, rfl, by cbv⟩
  have happly : applyEdits "a\nb".toList edits = .ok "A\nB\nB2".toList := by cbv
  obtain ⟨done, w₁, happ, hedits, -, -⟩ := hs.accepts_first rfl rfl hne rfl
    hread rfl hcompile happly
  -- in the order of the text, the edit that adds a line is the last one
  have hsorted : edits.mergeSort Edit.rangeLe = [⟨⟨⟨0, 0⟩, ⟨0, 1⟩, by decide⟩, "A".toList⟩,
      ⟨⟨⟨1, 0⟩, ⟨1, 1⟩, by decide⟩, "B\nB2".toList⟩] := by cbv
  have hkeep : (done.edits.mergeSort Edit.rangeLe).Pairwise fun e _ => e.KeepsPlace := by
    rw [hedits, hsorted]
    decide
  obtain ⟨hiff, hsuffices⟩ := rejectAll_restores_iff hs rfl rfl
    (rfl : inMemory.host.key "a.txt" = "a.txt") hne rfl hread rfl happ
  obtain ⟨hcount, hpending, hback⟩ := hiff.mpr (hsuffices hkeep)
  exact ⟨hs, rfl, rfl, rfl, hne, rfl, hread, rfl, done, w₁, happ, hkeep,
    hcount, hpending, hback⟩

/-- A first line that becomes two lines, and a second line: the text of the second line is put back into
the second line of the live text, which is not where it was changed. -/
theorem rejectAll_loses_text :
    let w : Workspace Memory := { files := { texts := [("a.txt", "a\nb".toList)] } }
    let request : Request := ⟨"a.txt", [⟨.replace, .lines 1 1, "A\nA2".toList⟩,
      ⟨.replace, .lines 2 2, "B".toList⟩], ""⟩
    w.ledger.setOf "a.txt" = none ∧ inMemory.settings.rejectOverlaps = true ∧
      inMemory.host.read w.files "a.txt" = .ok "a\nb".toList ∧
      ∃ done w₁ w₂, inMemory.apply w request = (.ok done, w₁) ∧ done.changes.length = 2 ∧
        inMemory.rejectAll w₁ "a.txt" = (.ok 2, w₂) ∧ inMemory.pending w₂ "a.txt" = [] ∧
        inMemory.host.read w₂.files "a.txt" = .ok "a\nB".toList := by
  intro w request
  let edits : List Edit := [⟨⟨⟨0, 0⟩, ⟨0, 1⟩, by decide⟩, "A\nA2".toList⟩,
    ⟨⟨⟨1, 0⟩, ⟨1, 1⟩, by decide⟩, "B".toList⟩]
  have hs := inMemory_healthy "a.txt"
  have hread : inMemory.host.read w.files "a.txt" = .ok "a\nb".toList := rfl
  have hcompile : inMemory.compile w.files "a.txt" request
      = .ok (⟨"a\nb".toList, "a.txt"⟩, edits) :=
    (compile_eq_ok_iff hread).mpr ⟨rfl, rfl, by cbv⟩
  have happly : applyEdits "a\nb".toList edits = .ok "A\nA2\nB".toList := by cbv
  -- the second change is taken back in the line where it was, and this is not where it is now
  have hundo : Edit.undoEach "a\nb".toList "A\nA2\nB".toList (edits.mergeSort Edit.startsLater)
      = .ok "a\nB".toList := by cbv
  obtain ⟨done, w₁, happ, -, hw₁, hedits⟩ := hs.accepts_first rfl rfl
    (List.cons_ne_nil _ _) rfl hread rfl hcompile happly
  obtain ⟨answers, w₂, hall, hlen, -, hafter⟩ :=
    hs.rejectAll (rfl : inMemory.host.key "a.txt" = "a.txt") hw₁
  rw [hedits] at hafter
  obtain ⟨hanswers, hw₂⟩ := hafter _ hundo
  have hcount : answers.count true = answers.length :=
    List.count_eq_length.mpr fun answer ha => (hanswers answer ha).symm
  have htwo : done.changes.length = 2 := by
    have := congrArg List.length hedits
    simpa [edits] using this
  rw [hcount, hlen, htwo] at hall
  exact ⟨rfl, rfl, hread, done, w₁, w₂, happ, htwo, hall, hw₂.tracks.pending, hw₂.read⟩

end Session

end Emend
