import Emend.Command.Apply
import Emend.Proofs.Session.RejectAll

/-!
# Reviewing an applied request

What is typed decides which changes of a request are taken back (`refused`). The questions go from the
change that starts last to the first one, and a change that is taken back is looked for in the place that
it has in the original text. So the kept edits alone are what is made in the end if the edits that are
kept in front of a refused one do not move it (`applyRequest_keeps_iff`), and need not be otherwise
(`applyRequest_moves_text`).

Main statements:

* `reviewOne_kept`, `reviewOne_taken`, `reviewOne_stuck`: one question and its answer.
* `Reviewed.kept`, `Reviewed.taken`, `Reviewed.stuck`: what each of them adds to a review.
* `reviewEach_spec`, `applyRequest_reviewed`: a review, and the request around it.
* `applyRequest_keeps_iff`: whether the edits that were kept are what is made.
-/

namespace Emend

/-! ## Taking some changes back -/

section

variable {changes order : List PendingChange}

/-- Make the edits of changes in a text, and take some of them back. -/
def makeAndRefuse (original : List Char) (changes order : List PendingChange) :
    Except BatchError (List Char) :=
  (applyEdits original (changes.map (·.edit))).bind fun live =>
    Edit.undoEach original live (order.map (·.edit))

/-- If each change keeps places that is followed by one that is taken back, the edits of the others are
left made. -/
theorem makeAndRefuse_of_keepsPlace {text : List Char}
    (hcov : ∀ e ∈ changes.map (·.edit), (Document.mk text "").Covers e.range)
    (hclear : (Document.mk text "").Clear (changes.map (·.edit)))
    (hdistinct : (changes.map (·.id)).Nodup) (hsub : order ⊆ changes)
    (honce : (order.map (·.id)).Nodup)
    (hkeep : (changes.mergeSort PendingChange.rangeLe).Pairwise
      fun c d => d ∈ order → c.edit.KeepsPlace) :
    makeAndRefuse text changes order
      = applyEdits text ((Ledger.without changes (order.map (·.id))).map (·.edit)) := by
  have hperm := List.mergeSort_perm changes PendingChange.rangeLe
  have hkept : ((Ledger.without changes (order.map (·.id))).map (·.edit)).Sublist
      (changes.map (·.edit)) := List.filter_sublist.map _
  -- what is left of the sorted changes is what is left of the changes, sorted
  have hleft : Ledger.without (changes.mergeSort PendingChange.rangeLe) (order.map (·.id))
      = (Ledger.without changes (order.map (·.id))).mergeSort PendingChange.rangeLe :=
    Sort.filter_mergeSort (fun a b c => Edit.rangeLe_trans a.edit b.edit c.edit)
      (fun a b => Edit.rangeLe_total a.edit b.edit) _ _
  have hundo := undoEach_of_keepsPlace (·.edit)
    (Ledger.perm_append_without ((hperm.map _).nodup_iff.mpr hdistinct)
      (fun c hc => hperm.mem_iff.mpr (hsub hc)) honce)
    List.filter_sublist
    (fun c hc hin => by simpa [List.mem_map_of_mem hc] using (List.mem_filter.mp hin).2)
    (fun c hc => hcov c.edit (List.mem_map_of_mem (hperm.mem_iff.mp hc))) hkeep
    (by
      have hinOrder := Document.inOrder_ordered hcov hclear
      rw [Document.ordered, ← PendingChange.map_edit_mergeSort, List.map_map] at hinOrder
      exact hinOrder)
  have hweave : ∀ cs : List PendingChange,
      (cs.mergeSort PendingChange.rangeLe).map (fun c => (Document.mk text "").spliceOf c.edit)
        = (Document.mk text "").ordered (cs.map (·.edit)) := by
    intro cs
    rw [Document.ordered, ← PendingChange.map_edit_mergeSort, List.map_map]
    rfl
  rw [hleft, hweave, hweave] at hundo
  rw [makeAndRefuse, applyEdits_eq_weave true hcov hclear,
    applyEdits_eq_weave true (fun e he => hcov e (hkept.subset he)) (hclear.sublist hkept)]
  exact hundo

end

end Emend

namespace Emend.Command

variable {σ : Type}

/-! ## What is typed -/

namespace Screen

@[simp] theorem typed_printAll (s : Screen) (lines : List String) :
    (s.printAll lines).typed = s.typed := by
  induction lines generalizing s with
  | nil => rfl
  | cons line rest ih => exact ih (s.print line)

@[simp] theorem typed_tell (s : Screen) (notes : List Note) : (s.tell notes).typed = s.typed := by
  unfold tell
  generalize (notes.filter s.lets).map Note.render = lines
  induction lines generalizing s with
  | nil => rfl
  | cons line rest ih => exact ih (s.complain line)

end Screen

/-- The line that is read next. -/
def answer (typed : List Char) : List Char := typed.takeWhile (· != '\n')

/-- What is left to be read behind that line. -/
def unread (typed : List Char) : List Char := (typed.dropWhile (· != '\n')).drop 1

/-- The changes whose question is answered with a no by what is typed, a line for each question. -/
def refused (typed : List Char) : List PendingChange → List PendingChange
  | [] => []
  | c :: rest =>
    if isNo (answer typed) then c :: refused (unread typed) rest else refused (unread typed) rest

theorem refused_sublist (typed : List Char) (changes : List PendingChange) :
    (refused typed changes).Sublist changes := by
  induction changes generalizing typed with
  | nil => exact List.Sublist.refl []
  | cons c rest ih =>
    simp only [refused]
    split
    · exact (ih _).cons_cons c
    · exact (ih _).cons c

/-- How an answer is typed. -/
def typing (no : Bool) : List Char := if no then "n\n".toList else "y\n".toList

/-- Any sequence of answers can be typed. -/
theorem refused_typing {answers : List Bool} {changes : List PendingChange}
    (h : answers.length = changes.length) :
    refused (answers.flatMap typing) changes
      = ((changes.zip answers).filter (·.2)).map (·.1) := by
  -- Induction on the changes, each of which takes one line of what is typed.
  induction changes generalizing answers with
  | nil => simp [refused]
  | cons c rest ih =>
    obtain ⟨no, answers, rfl⟩ := List.exists_cons_of_length_eq_add_one h
    have hrest := ih (Nat.succ.inj h)
    cases no with
    | false =>
      have hno : isNo ['y'] = false := by decide
      simp [refused, answer, unread, typing, hno, hrest]
    | true =>
      have hno : isNo ['n'] = true := by decide
      simp [refused, answer, unread, typing, hno, hrest]

/-! ## Answering -/

section

variable {h : Host σ} {good : σ → Prop} {path : String} {strict : Bool} {others : List ChangeSet}
  {original text : List Char} {changes order : List PendingChange} {c : PendingChange} {s : Scene σ}

/-- The notes of a workspace do not matter for what it holds. -/
theorem holds_move {w : Workspace σ} (s : Scene σ)
    (hw : w.Holds h good others path original text changes) :
    (s.move w).work.Holds h good others path original text changes :=
  hw.of_agrees ⟨rfl, fun _ => rfl, id⟩

/-- The scene after the question for a change. -/
def asked (s : Scene σ) (c : PendingChange) : Scene σ :=
  { s with screen := ((s.screen.printAll (changeLines c)).ask question).2 }

theorem typed_move_asked (s : Scene σ) (c : PendingChange) (w : Workspace σ) :
    ((asked s c).move w).screen.typed = unread s.screen.typed := by
  simp [asked, Scene.move, Screen.ask, unread]

theorem answer_ask (s : Scene σ) (c : PendingChange) :
    ((s.screen.printAll (changeLines c)).ask question).1 = answer s.screen.typed := by
  simp [Screen.ask, answer]

/-- A change is kept if the answer is not a no. -/
theorem reviewOne_kept (count : ReviewCount)
    (hw : s.work.Holds h good others path original text changes) (hc : c ∈ changes)
    (hyes : isNo (answer s.screen.typed) = false) :
    ∃ s', reviewOne h s count c = (.ok { count with approved := count.approved + 1 }, s') ∧
      s'.screen.typed = unread s.screen.typed ∧
      s'.work.Holds h good others path original text (changes.filter (·.id != c.id)) := by
  obtain ⟨w, happrove, hw'⟩ := hw.approve hc
  refine ⟨(asked s c).move w, ?_, typed_move_asked s c w, holds_move _ hw'⟩
  simp only [reviewOne, answer_ask, hyes, Bool.false_eq_true, if_false, happrove]
  rfl

/-- A change that is refused is taken back where its inverse can be made. -/
theorem reviewOne_taken {after : List Char} (count : ReviewCount) (hh : h.Healthy path strict good)
    (hw : s.work.Holds h good others path original text changes) (hc : c ∈ changes)
    (hno : isNo (answer s.screen.typed) = true)
    (happly : applyEdits text [c.edit.undo original] = .ok after) :
    ∃ s', reviewOne h s count c = (.ok { count with rejected := count.rejected + 1 }, s') ∧
      s'.screen.typed = unread s.screen.typed ∧
      s'.work.Holds h good others path original after (changes.filter (·.id != c.id)) := by
  obtain ⟨w, hreject, hw'⟩ := hw.reject_taken hh hc happly
  refine ⟨(asked s c).move w, ?_, typed_move_asked s c w, holds_move _ hw'⟩
  simp only [reviewOne, answer_ask, hno, if_true, hreject]
  rfl

/-- It stays where its inverse cannot be made, and is not counted. -/
theorem reviewOne_stuck {cause : BatchError} (count : ReviewCount)
    (hh : h.Healthy path strict good)
    (hw : s.work.Holds h good others path original text changes) (hc : c ∈ changes)
    (hno : isNo (answer s.screen.typed) = true)
    (happly : applyEdits text [c.edit.undo original] = .error cause) :
    ∃ s', reviewOne h s count c = (.ok count, s') ∧
      s'.screen.typed = unread s.screen.typed ∧
      s'.work.Holds h good others path original text changes := by
  -- The host refuses the undoing edit, which spares the text and leaves the change pending.
  obtain ⟨w, hreject, hw'⟩ := hw.reject_refused hh hc happly
  refine ⟨((asked s c).move w).on (·.complain s!"  Could not revert {c.id}"), ?_,
    typed_move_asked s c w, holds_move (asked s c) hw'⟩
  simp only [reviewOne, answer_ask, hno, if_true, hreject]
  rfl

/-! ## A review -/

/-- What a review of changes comes to, some of which are refused: a count of those that are not refused and
of the refused ones that were taken back. These are all of them exactly if their inverses can be made one
after the other, and then the text is what they make of it. -/
structure Reviewed (h : Host σ) (good : σ → Prop) (others : List ChangeSet) (path : String)
    (original text : List Char) (changes order no : List PendingChange) (count total : ReviewCount)
    (last : Scene σ) : Prop where
  approved : total.approved + no.length = count.approved + order.length
  rejected : total.rejected ≤ count.rejected + no.length
  undone : total.rejected = count.rejected + no.length →
    ∃ after, Edit.undoEach original text (no.map (·.edit)) = .ok after
  takes : ∀ after, Edit.undoEach original text (no.map (·.edit)) = .ok after →
    total.rejected = count.rejected + no.length ∧
      last.work.Holds h good others path original after (Ledger.without changes (order.map (·.id)))

variable {no : List PendingChange} {count total : ReviewCount} {last : Scene σ}

theorem Reviewed.nil (count : ReviewCount)
    (hw : s.work.Holds h good others path original text changes) :
    Reviewed h good others path original text changes [] [] count count s where
  approved := rfl
  rejected := Nat.le_refl _
  undone := fun _ => ⟨text, rfl⟩
  takes := by
    intro after hundo
    obtain rfl : text = after := Except.ok.inj hundo
    rw [List.map_nil, Ledger.without_nil]
    exact ⟨rfl, hw⟩

theorem Reviewed.kept (hr : Reviewed h good others path original text
      (changes.filter (·.id != c.id)) order no { count with approved := count.approved + 1 }
      total last) :
    Reviewed h good others path original text changes (c :: order) no count total last where
  approved := by
    -- One more is approved and none is taken back.
    have happroved : total.approved + no.length = count.approved + 1 + order.length := hr.approved
    rw [List.length_cons]
    omega
  rejected := hr.rejected
  undone := hr.undone
  takes := by
    intro after hundo
    rw [List.map_cons, Ledger.without_cons]
    exact hr.takes after hundo

theorem Reviewed.taken {after : List Char}
    (happly : applyEdits text [c.edit.undo original] = .ok after)
    (hr : Reviewed h good others path original after (changes.filter (·.id != c.id)) order no
      { count with rejected := count.rejected + 1 } total last) :
    Reviewed h good others path original text changes (c :: order) (c :: no) count total last := by
  -- The change is the first of the refused ones, and its undoing went through.
  have hundo : Edit.undoEach original text ((c :: no).map (·.edit))
      = Edit.undoEach original after (no.map (·.edit)) := by
    rw [List.map_cons, Edit.undoEach_cons, happly]
    rfl
  have happroved : total.approved + no.length = count.approved + order.length := hr.approved
  have hrejected : total.rejected ≤ count.rejected + 1 + no.length := hr.rejected
  have hundone : total.rejected = count.rejected + 1 + no.length →
      ∃ after', Edit.undoEach original after (no.map (·.edit)) = .ok after' := hr.undone
  constructor
  · rw [List.length_cons, List.length_cons]
    omega
  · rw [List.length_cons]
    omega
  · intro hall
    rw [List.length_cons] at hall
    rw [hundo]
    exact hundone (by omega)
  · intro final hfinal
    rw [hundo] at hfinal
    have htakes : total.rejected = count.rejected + 1 + no.length ∧ _ := hr.takes final hfinal
    rw [List.map_cons, Ledger.without_cons, List.length_cons]
    exact ⟨by omega, htakes.2⟩

theorem Reviewed.stuck {cause : BatchError}
    (happly : applyEdits text [c.edit.undo original] = .error cause)
    (hr : Reviewed h good others path original text changes order no count total last) :
    Reviewed h good others path original text changes (c :: order) (c :: no) count total last := by
  -- The undoing fails here, so the whole row of undoings fails, and the count says that one is missing.
  have hundo : Edit.undoEach original text ((c :: no).map (·.edit)) = .error cause := by
    rw [List.map_cons, Edit.undoEach_cons, happly]
    rfl
  have happroved := hr.approved
  have hrejected := hr.rejected
  constructor
  · rw [List.length_cons, List.length_cons]
    omega
  · rw [List.length_cons]
    omega
  · -- the one that is stuck is missing in the count for good
    intro hall
    rw [List.length_cons] at hall
    omega
  · intro final hfinal
    rw [hundo] at hfinal
    simp at hfinal

/-- From zero on, as many are counted as were asked for, and the text is a given one, exactly if the
refused changes make that text when they are taken back. -/
theorem Reviewed.text_iff {after : List Char}
    (hr : Reviewed h good others path original text changes order no {} total last) :
    h.read last.work.files path = .ok after ∧ total.approved + total.rejected = order.length ↔
      Edit.undoEach original text (no.map (·.edit)) = .ok after := by
  have happroved : total.approved + no.length = 0 + order.length := hr.approved
  have hundone : total.rejected = 0 + no.length →
      ∃ final, Edit.undoEach original text (no.map (·.edit)) = .ok final := hr.undone
  constructor
  · -- as many as were asked for means that no refused change was stuck
    rintro ⟨hread, hcount⟩
    obtain ⟨final, hundo⟩ := hundone (by omega)
    rw [(hr.takes final hundo).2.read] at hread
    rw [hundo, Except.ok.inj hread]
  · intro hundo
    obtain ⟨hcount, hholds⟩ := hr.takes after hundo
    have hrejected : total.rejected = 0 + no.length := hcount
    exact ⟨hholds.read, by omega⟩

/-- A review asks for each change and does what is typed. -/
theorem reviewEach_spec (count : ReviewCount) (hh : h.Healthy path strict good)
    (hw : s.work.Holds h good others path original text changes) (hsub : order ⊆ changes)
    (hdistinct : (order.map (·.id)).Nodup) :
    ∃ total last, reviewEach h s count order = (.ok total, last) ∧
      Reviewed h good others path original text changes order (refused s.screen.typed order) count
        total last := by
  induction order generalizing s count text changes with
  | nil => exact ⟨count, s, rfl, .nil count hw⟩
  | cons c rest ih =>
    have hc : c ∈ changes := hsub List.mem_cons_self
    have hrest : rest ⊆ changes := List.subset_of_cons_subset hsub
    rw [List.map_cons, List.nodup_cons] at hdistinct
    have hrest' := Ledger.subset_filter_id hrest hdistinct.1
    -- a change is kept, taken back or stuck, and the rest is reviewed from where that leads
    rcases hanswer : isNo (answer s.screen.typed) with - | -
    · obtain ⟨s₁, hone, htyped, hw₁⟩ := reviewOne_kept count hw hc hanswer
      obtain ⟨total, last, heach, hr⟩ := ih { count with approved := count.approved + 1 } hw₁ hrest'
        hdistinct.2
      refine ⟨total, last, by simp [reviewEach, hone, heach], ?_⟩
      simpa [refused, hanswer, htyped] using hr.kept
    · rcases happly : applyEdits text [c.edit.undo original] with cause | after
      · obtain ⟨s₁, hone, htyped, hw₁⟩ := reviewOne_stuck count hh hw hc hanswer happly
        obtain ⟨total, last, heach, hr⟩ := ih count hw₁ hrest hdistinct.2
        refine ⟨total, last, by simp [reviewEach, hone, heach], ?_⟩
        simpa [refused, hanswer, htyped] using hr.stuck happly
      · obtain ⟨s₁, hone, htyped, hw₁⟩ := reviewOne_taken count hh hw hc hanswer happly
        obtain ⟨total, last, heach, hr⟩ := ih { count with rejected := count.rejected + 1 } hw₁ hrest'
          hdistinct.2
        refine ⟨total, last, by simp [reviewEach, hone, heach], ?_⟩
        simpa [refused, hanswer, htyped] using hr.taken happly

end

/-! ## A whole command -/

section

variable {session : Session σ} {good : σ → Prop} {path : String} {strict : Bool}
  {others : List ChangeSet} {scene : Scene σ} {request : Request} {text live : List Char}
  {done : Applied} {w : Workspace σ}

/-- Saving a file and dropping its set leaves the files as they are. -/
theorem files_saveAndClear (session : Session σ) (w : Workspace σ) (spelling : String) :
    (session.saveAndClear w spelling).2.files = w.files := by
  simp only [Session.saveAndClear]
  split
  · unfold Workspace.clear
    split <;> rfl
  · rfl

/-- The changes of a request are reviewed, and what the review comes to is said at the end. -/
theorem applyRequest_reviewed (track : Bool) (hs : session.Healthy path strict good)
    (hkey : session.host.key request.filePath = path) (hsome : done.changes ≠ [])
    (happ : session.apply scene.work request = (.ok done, w))
    (hw : w.Holds session.host good others path text live done.changes) :
    ∃ count reviewed last, applyRequest session scene request track true = (.ok 0, last) ∧
      (∃ shown, last.screen.out = shown ++ reviewMessage count ++ "\n") ∧
      last.work.files = reviewed.work.files ∧
      Reviewed session.host good others path text live done.changes
        (session.reviewOrder w request.filePath)
        (refused scene.screen.typed (session.reviewOrder w request.filePath)) {} count reviewed := by
  -- What is shown before the first question takes nothing of what is typed.
  let s := (scene.move w).on (·.print done.message)
  have hw' : s.work.Holds session.host good others path text live done.changes :=
    holds_move scene hw
  have htyped : s.screen.typed = scene.screen.typed := Screen.typed_tell scene.screen w.notes
  have hperm := List.mergeSort_perm done.changes Session.reviewLe
  have horder : session.reviewOrder w request.filePath
      = done.changes.mergeSort Session.reviewLe := Session.reviewOrder_eq hkey hw
  have hsub : session.reviewOrder w request.filePath ⊆ done.changes := by
    rw [horder]
    exact hperm.subset
  -- The order of the review is a sorting of the recorded changes, each of them once.
  have hdistinct : ((session.reviewOrder w request.filePath).map (·.id)).Nodup := by
    rw [horder]
    exact (hperm.map _).nodup_iff.mpr hw.tracks.distinct
  obtain ⟨count, reviewed, heach, hr⟩ := reviewEach_spec {} hs.host hw' hsub hdistinct
  rw [htyped] at hr
  have hasked : (!done.changes.isEmpty) = true := by simpa using hsome
  have hsame : session.reviewOrder s.work request.filePath
      = session.reviewOrder w request.filePath := rfl
  let saved := reviewed.move (session.saveAndClear reviewed.work request.filePath).2
  refine ⟨count, reviewed, saved.on (·.print (reviewMessage count)), ?_, ⟨saved.screen.out, rfl⟩,
    ?_, hr⟩
  · simp only [applyRequest, Bool.or_true, happ, Bool.true_and, hasked, if_true]
    rw [review, hsame, heach]
  · exact files_saveAndClear session reviewed.work request.filePath

/-- After a review, the text has exactly the edits that were kept, and as many changes are counted as there
are, if and only if making all edits and taking the refused ones back from the one that starts last on
leads there. It does if each change keeps places that is followed by a refused one. -/
theorem applyRequest_keeps_iff (track : Bool) (hs : session.Healthy path strict good)
    (hreject : session.settings.rejectOverlaps = true)
    (hkey : session.host.key request.filePath = path) (hne : request.instructions ≠ [])
    (hgood : good scene.work.files) (hread : session.host.read scene.work.files path = .ok text)
    (hset : scene.work.ledger.setOf path = none)
    (happ : session.apply scene.work request = (.ok done, w)) :
    let no := refused scene.screen.typed (session.reviewOrder w request.filePath)
    let kept := Ledger.without done.changes (no.map (·.id))
    ∃ count last, applyRequest session scene request track true = (.ok 0, last) ∧
      (∃ shown, last.screen.out = shown ++ reviewMessage count ++ "\n") ∧
      done.changes.map (·.edit) = done.edits ∧
      (((∃ after, applyEdits text (kept.map (·.edit)) = .ok after ∧
            session.host.read last.work.files path = .ok after) ∧
          count.approved + count.rejected = done.edits.length) ↔
        makeAndRefuse text done.changes no = applyEdits text (kept.map (·.edit))) ∧
      ((done.changes.mergeSort PendingChange.rangeLe).Pairwise
          (fun c d => d ∈ no → c.edit.KeepsPlace) →
        makeAndRefuse text done.changes no = applyEdits text (kept.map (·.edit))) := by
  intro no kept
  obtain ⟨document, live, hcompile, happly, hw, hedits⟩ :=
    hs.accepted_first hkey hne hgood hread hset happ
  obtain ⟨hcov, hclear⟩ := Session.clear_of_compile hreject (hkey ▸ hread) (hkey ▸ hcompile)
  have hlen : done.changes.length = done.edits.length := by
    rw [← hedits, List.length_map]
  have hsome : done.changes ≠ [] := by
    intro hnone
    have hcount := Session.length_edits_of_compile hcompile
    rw [← hlen, hnone] at hcount
    exact hne (List.eq_nil_of_length_eq_zero hcount.symm)
  obtain ⟨count, reviewed, last, hcommand, hshown, hfiles, hr⟩ :=
    applyRequest_reviewed track hs hkey hsome happ hw
  have hperm := List.mergeSort_perm done.changes Session.reviewLe
  have horder : session.reviewOrder w request.filePath
      = done.changes.mergeSort Session.reviewLe := Session.reviewOrder_eq hkey hw
  have hno : no.Sublist (done.changes.mergeSort Session.reviewLe) := by
    rw [← horder]
    exact refused_sublist _ _
  have hkept : (kept.map (·.edit)).Sublist done.edits := by
    rw [← hedits]
    exact List.filter_sublist.map _
  have hweave := applyEdits_eq_weave true (fun e he => hcov e (hkept.subset he))
    (hclear.sublist hkept)
  -- clear edits make one text, whether or not overlaps are refused
  have hlive : applyEdits text (done.changes.map (·.edit)) = .ok live := by
    rw [hedits, applyEdits_eq_weave true hcov hclear, ← applyEdits_eq_weave strict hcov hclear,
      happly]
  have hmake : makeAndRefuse text done.changes no = Edit.undoEach text live (no.map (·.edit)) := by
    rw [makeAndRefuse, hlive]
    rfl
  have hasked : (session.reviewOrder w request.filePath).length = done.edits.length := by
    rw [horder, hperm.length_eq, hlen]
  refine ⟨count, last, hcommand, hshown, hedits, ?_, ?_⟩
  · rw [hweave, hmake, hfiles, ← hasked, ← hr.text_iff]
    simp
  · exact makeAndRefuse_of_keepsPlace (hedits ▸ hcov) (hedits ▸ hclear) hw.tracks.distinct
      (fun c hc => hperm.subset (hno.subset hc))
      ((hno.map _).nodup ((hperm.map _).nodup_iff.mpr hw.tracks.distinct))

/-- Of two changes the one that is asked for first is refused, and the other one is kept. -/
theorem refused_of_two {changes : List PendingChange} {first second : Edit}
    (hdistinct : (changes.map (·.id)).Nodup)
    (horder : (changes.map (·.edit)).mergeSort Edit.startsLater = [first, second]) :
    ∃ c d, changes.mergeSort Session.reviewLe = [c, d] ∧ c.edit = first ∧ d.edit = second ∧
      refused ([true, false].flatMap typing) [c, d] = [c] ∧
      Ledger.without changes [c.id] = [d] := by
  -- The two edits determine the two changes, since the review sorts changes by their edits.
  rw [← Session.reviewOrder_map_edit] at horder
  obtain ⟨c, rest, hsorted, hc, hrest⟩ := List.map_eq_cons_iff.mp horder
  obtain ⟨d, last, rfl, hd, hlast⟩ := List.map_eq_cons_iff.mp hrest
  obtain rfl := List.map_eq_nil_iff.mp hlast
  have hperm : changes.Perm [c, d] := hsorted ▸ (List.mergeSort_perm changes _).symm
  have hsub : [c] ⊆ changes := by
    intro x hx
    rw [List.mem_singleton] at hx
    exact hperm.mem_iff.mpr (hx ▸ List.mem_cons_self)
  have hleft := Ledger.perm_append_without hdistinct hsub (List.nodup_singleton c.id)
  refine ⟨c, d, hsorted, hc, hd, refused_typing rfl, ?_⟩
  exact List.perm_singleton.mp ((List.perm_cons c).mp (hleft.symm.trans hperm))

/-- A second line is kept, and a third one that became two lines is refused. -/
theorem applyRequest_keeps_line :
    let scene : Scene Memory := {
      screen := { typed := [true, false].flatMap typing }
      work := { files := { texts := [("a.txt", "a\nb\nc".toList)] } } }
    let request : Request := ⟨"a.txt", [⟨.replace, .lines 2 2, "B".toList⟩,
      ⟨.replace, .lines 3 3, "C\nC2".toList⟩], ""⟩
    (Session.inMemory.Healthy "a.txt" true fun m => m.mode = .healthy) ∧
      Session.inMemory.settings.rejectOverlaps = true ∧
      Session.inMemory.host.key request.filePath = "a.txt" ∧ request.instructions ≠ [] ∧
      scene.work.files.mode = .healthy ∧
      Session.inMemory.host.read scene.work.files "a.txt" = .ok "a\nb\nc".toList ∧
      scene.work.ledger.setOf "a.txt" = none ∧
      ∃ done w count last, Session.inMemory.apply scene.work request = (.ok done, w) ∧
        done.edits.length = 2 ∧
        applyRequest Session.inMemory scene request true true = (.ok 0, last) ∧
        count.approved + count.rejected = 2 ∧
        (∃ shown, last.screen.out = shown ++ reviewMessage count ++ "\n") ∧
        Session.inMemory.host.read last.work.files "a.txt" = .ok "a\nB\nc".toList := by
  intro scene request
  let edits : List Edit := [⟨⟨⟨1, 0⟩, ⟨1, 1⟩, by decide⟩, "B".toList⟩,
    ⟨⟨⟨2, 0⟩, ⟨2, 1⟩, by decide⟩, "C\nC2".toList⟩]
  have hs := Session.inMemory_healthy "a.txt"
  have hkey : Session.inMemory.host.key request.filePath = "a.txt" := rfl
  have hne : request.instructions ≠ [] := List.cons_ne_nil _ _
  have hread : Session.inMemory.host.read scene.work.files "a.txt" = .ok "a\nb\nc".toList := rfl
  have hcompile : Session.inMemory.compile scene.work.files "a.txt" request
      = .ok (⟨"a\nb\nc".toList, "a.txt"⟩, edits) :=
    (Session.compile_eq_ok_iff hread).mpr ⟨rfl, rfl, by cbv⟩
  have happly : applyEdits "a\nb\nc".toList edits = .ok "a\nB\nC\nC2".toList := by cbv
  obtain ⟨done, w, happ, hdone, hw, hedits⟩ :=
    hs.accepts_first rfl hkey hne rfl hread rfl hcompile happly
  have hsorted : edits.mergeSort Edit.startsLater
      = [⟨⟨⟨2, 0⟩, ⟨2, 1⟩, by decide⟩, "C\nC2".toList⟩,
        ⟨⟨⟨1, 0⟩, ⟨1, 1⟩, by decide⟩, "B".toList⟩] := by cbv
  obtain ⟨c, d, horder, hc, hd, hno, hkept⟩ :=
    refused_of_two hw.tracks.distinct (by rw [hedits, hsorted])
  have hasked : Session.inMemory.reviewOrder w request.filePath = [c, d] :=
    (Session.reviewOrder_eq hkey hw).trans horder
  have hno' : refused scene.screen.typed (Session.inMemory.reviewOrder w request.filePath) = [c] := by
    rw [hasked]
    exact hno
  have hplaces : (done.changes.mergeSort PendingChange.rangeLe).Pairwise
      fun x y => y ∈ [c] → x.edit.KeepsPlace := by
    have hall : ((done.changes.mergeSort PendingChange.rangeLe).map (·.edit)).Pairwise
        fun e _ => e.KeepsPlace := by
      rw [PendingChange.map_edit_mergeSort, hedits]
      have hascending : edits.mergeSort Edit.rangeLe = edits := by cbv
      rw [hascending]
      decide
    refine (List.pairwise_map.mp hall).imp ?_
    intro x y hx _
    exact hx
  obtain ⟨count, last, hcommand, hshown, -, hiff, hsuffices⟩ :=
    applyRequest_keeps_iff true hs rfl hkey hne rfl hread rfl happ
  simp only [hno', List.map_cons, List.map_nil, hkept, hd, hdone] at hiff hsuffices
  obtain ⟨⟨after, hafter, hback⟩, hcount⟩ := hiff.mpr (hsuffices hplaces)
  have hone : applyEdits "a\nb\nc".toList [⟨⟨⟨1, 0⟩, ⟨1, 1⟩, by decide⟩, "B".toList⟩]
      = .ok "a\nB\nc".toList := by cbv
  rw [hone] at hafter
  exact ⟨hs, rfl, hkey, hne, rfl, hread, rfl, done, w, count, last, happ, by rw [hdone]; rfl,
    hcommand, hcount, hshown, by rw [hback, Except.ok.inj hafter]⟩

/-- A first line that becomes two lines is kept, and a second line is refused: its old text is put into the
second line of the live text, where the first change ends. -/
theorem applyRequest_moves_text :
    let scene : Scene Memory := {
      screen := { typed := [true, false].flatMap typing }
      work := { files := { texts := [("a.txt", "a\nb".toList)] } } }
    let request : Request := ⟨"a.txt", [⟨.replace, .lines 1 1, "A\nA2".toList⟩,
      ⟨.replace, .lines 2 2, "B".toList⟩], ""⟩
    Session.inMemory.settings.rejectOverlaps = true ∧
      Session.inMemory.host.read scene.work.files "a.txt" = .ok "a\nb".toList ∧
      scene.work.ledger.setOf "a.txt" = none ∧
      ∃ done w last, Session.inMemory.apply scene.work request = (.ok done, w) ∧
        (Ledger.without done.changes ((refused scene.screen.typed
          (Session.inMemory.reviewOrder w "a.txt")).map (·.id))).map (·.edit)
            = [⟨⟨⟨0, 0⟩, ⟨0, 1⟩, by decide⟩, "A\nA2".toList⟩] ∧
        applyEdits "a\nb".toList [⟨⟨⟨0, 0⟩, ⟨0, 1⟩, by decide⟩, "A\nA2".toList⟩]
          = .ok "A\nA2\nb".toList ∧
        applyRequest Session.inMemory scene request true true = (.ok 0, last) ∧
        Session.inMemory.host.read last.work.files "a.txt" = .ok "A\nb2\nB".toList := by
  intro scene request
  let edits : List Edit := [⟨⟨⟨0, 0⟩, ⟨0, 1⟩, by decide⟩, "A\nA2".toList⟩,
    ⟨⟨⟨1, 0⟩, ⟨1, 1⟩, by decide⟩, "B".toList⟩]
  have hs := Session.inMemory_healthy "a.txt"
  have hkey : Session.inMemory.host.key request.filePath = "a.txt" := rfl
  have hread : Session.inMemory.host.read scene.work.files "a.txt" = .ok "a\nb".toList := rfl
  have hcompile : Session.inMemory.compile scene.work.files "a.txt" request
      = .ok (⟨"a\nb".toList, "a.txt"⟩, edits) :=
    (Session.compile_eq_ok_iff hread).mpr ⟨rfl, rfl, by cbv⟩
  have happly : applyEdits "a\nb".toList edits = .ok "A\nA2\nB".toList := by cbv
  obtain ⟨done, w, happ, hdone, hw, hedits⟩ := hs.accepts_first rfl hkey
    (List.cons_ne_nil _ _) rfl hread rfl hcompile happly
  have hsorted : edits.mergeSort Edit.startsLater
      = [⟨⟨⟨1, 0⟩, ⟨1, 1⟩, by decide⟩, "B".toList⟩,
        ⟨⟨⟨0, 0⟩, ⟨0, 1⟩, by decide⟩, "A\nA2".toList⟩] := by cbv
  obtain ⟨c, d, horder, hc, hd, hno, hkept⟩ :=
    refused_of_two hw.tracks.distinct (by rw [hedits, hsorted])
  have hasked : Session.inMemory.reviewOrder w "a.txt" = [c, d] :=
    (Session.reviewOrder_eq rfl hw).trans horder
  have hsome : done.changes ≠ [] := by
    intro hnone
    rw [hnone] at hedits
    simp [edits] at hedits
  obtain ⟨count, reviewed, last, hcommand, -, hfiles, hr⟩ :=
    applyRequest_reviewed true hs hkey hsome happ hw
  have hno' : refused scene.screen.typed (Session.inMemory.reviewOrder w "a.txt") = [c] := by
    rw [hasked]
    exact hno
  have hundo : Edit.undoEach "a\nb".toList "A\nA2\nB".toList
      [⟨⟨⟨1, 0⟩, ⟨1, 1⟩, by decide⟩, "B".toList⟩] = .ok "A\nb2\nB".toList := by cbv
  have hholds := (hr.takes "A\nb2\nB".toList (by
    rw [hno', List.map_cons, List.map_nil, hc]
    exact hundo)).2
  refine ⟨rfl, hread, rfl, done, w, last, happ, ?_, by cbv, hcommand, ?_⟩
  · rw [hno', List.map_cons, List.map_nil, hkept, List.map_cons, List.map_nil, hd]
  · rw [hfiles]
    exact hholds.read

end

end Emend.Command
