import Emend.Proofs.Session.Alike
import Emend.Proofs.Session.Failed
import Emend.Proofs.Session.Logged

/-!
# Requests that the host refuses

A tracked request that the host refuses drops the changes that were recorded for it, and leaves the set that was
opened for them. If the file had a set before, the request leaves no trace; otherwise the text that the file has at
that time is its baseline from then on (`runAll_after_refused`). This may bring back an older text much later
(`runAll_after_refused_frozen`).

Main statements:

* `exists_shadows_refused`: a refused request leaves a spare set at most.
* `runAll_after_refused`, `runAll_after_refused_logged`: so no run after it can tell.
* `runAll_after_refused_frozen`: unless the file has another text by then.
-/

namespace Emend.Session

variable {σ α : Type} {s : Session σ} {view : View σ} {gap : Nat} {spare : Option ChangeSet}
  {w v : Workspace σ} {path : String} {request : Request} {document : Document} {edits : List Edit}

/-! ## What is seen -/

/-- The files of a view, the pending changes and the verdicts of two workspaces are the same, and so are the baselines;
only the file of a spare set has its baseline in the first one, and none in the second. -/
structure SeenAlike (s : Session σ) (view : View σ) (spare : Option ChangeSet) (w v : Workspace σ) : Prop where
  read : ∀ path, view.seen path → s.host.read w.files path = s.host.read v.files path
  pending : ∀ path, s.pending w path = s.pending v path
  verdicts : w.verdicts = v.verdicts
  baseline : ∀ path, w.ledger.baseline path = v.ledger.baseline path ∨
    ∃ x ∈ spare, x.path = path ∧ w.ledger.baseline path = some x.baseline ∧ v.ledger.baseline path = none

theorem Alike.seenAlike {x y : α × Workspace σ} (hb : s.Blind view) (h : Alike view gap spare x y) :
    s.SeenAlike view spare x.2 y.2 := by
  obtain ⟨-, left, hleft, hshadows⟩ := h
  refine ⟨fun path => hb.read hshadows.files, hshadows.pending, hshadows.verdicts, fun path => ?_⟩
  refine (hshadows.ledger.baseline hshadows.sound path).imp_right ?_
  rintro ⟨z, hz, hpath, hnone, hbaseline⟩
  rcases hleft with rfl | rfl
  · simp at hz
  · exact ⟨z, hz, hpath, hbaseline, by rw [Ledger.baseline, hnone]; rfl⟩

/-- Whatever is done through a session, it stays alike to itself: its ledger is sound, has sets of files of the view
only, and the state of its host is looked at. -/
theorem shadows_runAll {files : σ} (hb : s.Blind view) (hfiles : view.same files files) (actions : List (Action σ))
    (hkeeps : ∀ action ∈ actions, action.Keeps s view) :
    Shadows view 0 none (s.runAll { files } actions).2 ((s.later 0).runAll { files } actions).2 := by
  have hstart : Shadows view 0 none ({ files } : Workspace σ) { files } :=
    ⟨hfiles, Ledger.Spare.refl _, Ledger.sound_of_sets_nil rfl, Ledger.within_of_sets_nil rfl, rfl⟩
  obtain ⟨-, left, hleft, hshadows⟩ := hstart.runAll hb actions hkeeps (by simp)
  obtain rfl : left = none := by simpa using hleft
  exact hshadows

/-! ## The refused request -/

theorem Shadows.logBatch_left (hb : s.Blind view) (h : Shadows view gap spare w v) (request : Request)
    (error : Option EditError) : (s.logBatch w request error).1 = .ok () ∧
      Shadows view gap spare (s.logBatch w request error).2 v := by
  unfold Session.logBatch
  by_cases hmetrics : s.settings.metricsEnabled = true
  · rw [if_pos hmetrics]
    -- the log is the only thing that changes, and the view does not show it
    obtain ⟨files, hlog, hunseen⟩ := hb.logs hmetrics (hb.refl_left h.files) (Metrics.entry request error)
    rcases hresult : s.log w.files (Metrics.entry request error) with ⟨result, notes⟩
    obtain rfl : result = .ok files := by rw [← hlog, hresult]
    exact ⟨rfl, hb.trans (hb.symm hunseen) h.files, h.ledger, h.sound, h.within, h.verdicts⟩
  · rw [if_neg hmetrics]
    exact ⟨rfl, h⟩

/-- A refusal is an error, and changes nothing that is seen. -/
theorem Shadows.refuse_left (hb : s.Blind view) (h : Shadows view gap spare w v) (request : Request)
    (error : EditError) (f : Failure) (notes : List Note) :
    (s.refuse (α := α) w request error f notes).1 = .error f ∧
      Shadows view gap spare (s.refuse (α := α) w request error f notes).2 v := by
  obtain ⟨hlogged, hlog⟩ := h.logBatch_left hb request (some error)
  unfold Session.refuse
  rcases hresult : s.logBatch w request (some error) with ⟨result, w₁⟩
  rw [hresult] at hlogged hlog
  obtain rfl : result = .ok () := hlogged
  exact ⟨rfl, hlog.files, hlog.ledger, hlog.sound, hlog.within, hlog.verdicts⟩

/-- A request that the host refuses leaves the set that was opened for it, if one was. -/
theorem exists_shadows_refused (hb : s.Blind view) (hsound : w.ledger.Sound) (hwithin : w.ledger.Within view.seen)
    (hkey : s.host.key request.filePath = path) (hpath : view.seen path) (hne : request.instructions ≠ [])
    (hcompile : s.compile w.files path request = .ok (document, edits))
    (hmade : (s.host.apply w.files path edits).made = .ok false)
    (hsame : view.same (s.host.apply w.files path edits).state w.files) :
    ∃ gap, (s.apply w request).1 = .error (.ofError (.applyFailed edits.length request.filePath)) ∧
      Shadows view gap (if (w.ledger.setOf path).isSome then none else some ⟨path, document.text, []⟩)
        (s.apply w request).2 w := by
  obtain ⟨text, hread⟩ := read_of_compile hcompile
  obtain ⟨rfl, -⟩ := (compile_eq_ok_iff hread).mp hcompile
  have hgiven : Workspace.given s.host w.files path = some text := Workspace.given_of_read hread
  rcases Workspace.record_cases s.host s.names (w.tell (s.compileNotes w.files path request)) path edits
    (remark request) with ⟨-, hnone, -⟩ | ⟨captured, notes, hcaptured, hrecord⟩
  · simp [Workspace.tell, hgiven] at hnone
  · obtain ⟨gap, hspare⟩ := hsound.spare_of_record path captured edits (remark request)
    obtain ⟨hsound', -⟩ := hsound.record path captured edits (remark request)
    -- a set is opened for the text that was read to compile
    have hopened : (if (w.ledger.setOf path).isSome then none else some (⟨path, captured, []⟩ : ChangeSet))
        = if (w.ledger.setOf path).isSome then none else some ⟨path, text, []⟩ := by
      rcases hset : w.ledger.setOf path with _ | x
      · obtain rfl : text = captured := Option.some.inj (hgiven.symm.trans (hcaptured hset))
        rfl
      · rfl
    rw [hopened] at hspare
    rw [apply_eq_make hkey hne hcompile hrecord, Session.make]
    simp only [Workspace.tell, Workspace.discard, hmade]
    refine ⟨gap, Shadows.refuse_left hb ?_ request _ _ _⟩
    exact ⟨hsame, hspare, hsound'.discard _, (hwithin.record hpath _ _ _ _).discard hsound' _, rfl⟩

/-! ## Runs with the refused request and without it -/

/-- A tracked request that the host refuses, after any run from an empty ledger. It ends with the error that the edits
could not be applied. If the file had a change set by then, the request leaves no trace: everything that is done
afterwards is answered and leaves behind what it would without the request. Otherwise the text that the file has at
that time is its baseline from then on, and this alone is seen, as long as the run without the request does not open
the set of the file for another text. -/
theorem runAll_after_refused (files : σ) (before : List (Action σ)) (hb : s.Blind view)
    (hfiles : view.same files files) (hbefore : ∀ action ∈ before, action.Keeps s view)
    (hw : (s.runAll { files } before).2 = w) (hkey : s.host.key request.filePath = path) (hpath : view.seen path)
    (hne : request.instructions ≠ []) (hcompile : s.compile w.files path request = .ok (document, edits))
    (hmade : (s.host.apply w.files path edits).made = .ok false)
    (hsame : view.same (s.host.apply w.files path edits).state w.files) :
    ∃ gap, (s.apply w request).1 = .error (.ofError (.applyFailed edits.length request.filePath)) ∧
      ((w.ledger.setOf path).isSome → ∀ after, (∀ action ∈ after, action.Keeps s view) →
        (s.runAll (s.apply w request).2 after).1 = ((s.later gap).runAll w after).1 ∧
        s.SeenAlike view none (s.runAll (s.apply w request).2 after).2 ((s.later gap).runAll w after).2) ∧
      (w.ledger.setOf path = none →
        (s.apply w request).2.ledger.baseline path = some document.text ∧
        ∀ after, (∀ action ∈ after, action.Keeps s view) →
          s.OpensFor gap path document.text (s.apply w request).2 w after →
          (s.runAll (s.apply w request).2 after).1 = ((s.later gap).runAll w after).1 ∧
          s.SeenAlike view (some ⟨path, document.text, []⟩) (s.runAll (s.apply w request).2 after).2
            ((s.later gap).runAll w after).2) := by
  have hstart := shadows_runAll hb hfiles before hbefore
  rw [hw] at hstart
  obtain ⟨gap, herror, hshadows⟩ :=
    exists_shadows_refused hb hstart.sound hstart.within hkey hpath hne hcompile hmade hsame
  refine ⟨gap, herror, ?_, ?_⟩
  -- the set was open: nothing is left of the request
  · intro hset after hafter
    rw [if_pos hset] at hshadows
    have hall := hshadows.runAll hb after hafter (by simp)
    exact ⟨hall.answer, hall.seenAlike hb⟩
  · intro hset
    rw [hset] at hshadows
    -- a set was opened, and it is the spare one
    have hopen := (hshadows.ledger.setOf_spare hshadows.sound).1
    refine ⟨by rw [Ledger.baseline, hopen]; rfl, ?_⟩
    intro after hafter hopens
    have hall := hshadows.runAll hb after hafter (by
      rintro x hx
      obtain rfl := Option.some.inj hx
      exact hopens)
    exact ⟨hall.answer, hall.seenAlike hb⟩

/-! ## A line that is edited after a refusal -/

/-- Give the line of a file another text. -/
def lineRequest (text : List Char) : Request := ⟨"a.txt", [⟨.replace, .lines 1 1, text⟩], ""⟩

/-- A project where a folder has the name of the file that would be written first. -/
def blocked : Disk where
  entries := [(["p"], .folder), (["p", "a.txt"], .file (Text.encode ['a'])),
    (["p", "a.txt.structedit_tmp"], .folder)]

/-- Nothing is set but the folder of the project, so batches are logged. -/
def projectSettings : Settings := { projectRoot := "/p" }

/-- What commands find around them in the project. -/
def projectSurroundings : Command.Surroundings where
  home := "/"
  environment := fun _ => none
  registry := {}
  names := Ledger.strokes
  time := ""

/-- The host of a command in the project. -/
def projectHost : FileHost := commandHost projectSurroundings blocked projectSettings

/-- The session of a command in the project. -/
def logging : Session Disk := Command.sessionOf projectSurroundings blocked projectSettings

/-- Take away the folder that is in the way. -/
def unblock : Action Disk := .disturb (·.erase ["p", "a.txt.structedit_tmp"])

theorem logsInside_projectSettings : projectSettings.LogsInside :=
  ⟨by decide, by decide, ⟨by decide, by decide, by decide⟩, by decide, by decide, by decide +kernel⟩

theorem blind_logging : logging.Blind (besidesLog projectHost projectSettings) :=
  blind_sessionOf projectSurroundings blocked logsInside_projectSettings

theorem same_blocked : (besidesLog projectHost projectSettings).same blocked blocked :=
  have hlinks : blocked.NoLinks := Disk.noLinks_of_entries (by decide)
  have hfolder : blocked.isFolder projectSettings.projectRoot.toList = true := by decide +kernel
  ⟨⟨hlinks, hfolder⟩, ⟨hlinks, hfolder⟩, fun _ _ => rfl⟩

theorem keeps_unblock : unblock.Keeps logging (besidesLog projectHost projectSettings) :=
  fun _ _ => same_erase logsInside_projectSettings.absolute (by decide +kernel)

/-- The batches are logged in the folder of the project. The folder that was in the way is taken away after the
refusal, and then the line is edited and taken back. -/
theorem runAll_after_refused_logged :
    let view := besidesLog projectHost projectSettings
    let w : Workspace Disk := { files := blocked }
    let request := lineRequest ['A']
    let after := [unblock, .apply (lineRequest ['b']) true, .reject (Ledger.strokes 1)]
    logging.settings.metricsEnabled = true ∧ logging.Blind view ∧ view.same blocked blocked ∧
      (logging.runAll { files := blocked } []).2 = w ∧ logging.host.key request.filePath = "/p/a.txt" ∧
      view.seen "/p/a.txt" ∧ request.instructions ≠ [] ∧ (∀ action ∈ after, action.Keeps logging view) ∧
      ∃ gap, (logging.apply w request).1 = .error (.ofError (.applyFailed 1 "a.txt")) ∧
        (logging.runAll (logging.apply w request).2 after).1 = ((logging.later gap).runAll w after).1 ∧
        logging.host.read (logging.runAll (logging.apply w request).2 after).2.files "/p/a.txt"
          = logging.host.read ((logging.later gap).runAll w after).2.files "/p/a.txt" := by
  intro view w request after
  let edits : List Edit := [⟨⟨⟨0, 0⟩, ⟨0, 1⟩, by decide⟩, ['A']⟩]
  have hkey : logging.host.key request.filePath = "/p/a.txt" := by decide +kernel
  have hseen : view.seen "/p/a.txt" := ⟨by decide +kernel, by decide +kernel⟩
  have hne : request.instructions ≠ [] := List.cons_ne_nil _ _
  have hread : logging.host.read blocked "/p/a.txt" = .ok ['a'] := Attempt.toOption_eq_some.mp (by decide +kernel)
  have hcompile : logging.compile w.files "/p/a.txt" request = .ok (⟨['a'], "/p/a.txt"⟩, edits) :=
    (compile_eq_ok_iff hread).mpr ⟨rfl, Attempt.toOption_eq_some.mp (by decide +kernel),
      Attempt.toOption_eq_some.mp (by decide +kernel)⟩
  have hmade : (logging.host.apply w.files "/p/a.txt" edits).made = .ok false :=
    Attempt.toOption_eq_some.mp (by decide +kernel)
  have hstart : (logging.runAll { files := blocked } []).2 = w := rfl
  -- a folder is in the way, so the edit is not made and the disk is as it was
  have hsame : view.same (logging.host.apply w.files "/p/a.txt" edits).state w.files := by
    refine same_of_not_made (FileHost.isAbsolute_rootOf blocked "/p") same_blocked ?_
    exact fun hdone => by cases hmade.symm.trans hdone
  have hkeeps : ∀ action ∈ after, action.Keeps logging view := by
    simp only [after, List.forall_mem_cons, List.not_mem_nil, false_imp_iff, implies_true, and_true]
    exact ⟨keeps_unblock, hseen, trivial⟩
  obtain ⟨gap, herror, -, hunset⟩ := runAll_after_refused blocked [] blind_logging same_blocked (by simp) hstart hkey
    hseen hne hcompile hmade hsame
  -- the later request reads the same text, so the set is opened for this one either way
  have hopens : logging.OpensFor gap "/p/a.txt" ['a'] (logging.apply w request).2 w after := by
    refine ⟨fun _ _ h => h.elim, ?_, fun _ _ h => h.elim, trivial⟩
    rintro - other ⟨-, -, -, -, document, edits, hcompile, rfl⟩
    have hagain : logging.host.read (unblock.run logging w).2.files "/p/a.txt" = .ok ['a'] :=
      Attempt.toOption_eq_some.mp (by decide +kernel)
    exact congrArg Document.text ((compile_eq_ok_iff hagain).mp hcompile).1
  obtain ⟨hanswers, halike⟩ := (hunset rfl).2 after hkeeps hopens
  exact ⟨rfl, blind_logging, same_blocked, rfl, hkey, hseen, hne, hkeeps, gap, herror, hanswers,
    halike.read "/p/a.txt" hseen⟩

/-- A file of one line, in a host that refuses. -/
def refusing : Workspace Memory := { files := { texts := [("a.txt", ['a'])], mode := .refusing } }

/-- The host makes edits again. -/
def recover : Action Memory := .disturb fun m => { m with mode := .healthy }

/-- The line is edited without tracking after a refusal. Taking a tracked edit back then brings the text from before
the refusal, and not the text that was edited. -/
theorem runAll_after_refused_frozen :
    let request := lineRequest ['A']
    let after :=
      [recover, .apply (lineRequest ['b']) false, .apply (lineRequest ['c']) true, .reject (Ledger.strokes 1)]
    let refused := inMemory.apply refusing request
    let present := (inMemory.runAll refused.2 after).2
    let absent := ((inMemory.later 1).runAll refusing after).2
    refused.1 = .error (.ofError (.applyFailed 1 "a.txt")) ∧ refused.2.files.texts = refusing.files.texts ∧
      present.ledger.baseline "a.txt" = some ['a'] ∧ absent.ledger.baseline "a.txt" = some ['b'] ∧
      present.files.text? "a.txt" = some ['a'] ∧ absent.files.text? "a.txt" = some ['b'] := by
  intro request after refused present absent
  have hkey : inMemory.host.key request.filePath = "a.txt" := rfl
  have hcompile : inMemory.compile refusing.files "a.txt" request
      = .ok (⟨['a'], "a.txt"⟩, [⟨⟨⟨0, 0⟩, ⟨0, 1⟩, by decide⟩, ['A']⟩]) :=
    (compile_eq_ok_iff rfl).mpr ⟨rfl, rfl, by cbv⟩
  have hb : inMemory.Blind ⟨fun _ => True, Eq⟩ := blind_eq fun h => by cases h
  obtain ⟨gap, herror, -⟩ := exists_shadows_refused hb
    (Ledger.sound_of_sets_nil rfl) (Ledger.within_of_sets_nil rfl) hkey trivial (List.cons_ne_nil _ _) hcompile rfl rfl
  exact ⟨herror, by decide +kernel, by decide +kernel, by decide +kernel, by decide +kernel, by decide +kernel⟩

end Emend.Session
