import Emend.Command.Run
import Emend.Proofs.Host.Files
import Emend.Proofs.Ledger.Operation
import Emend.Proofs.Session.Request

/-!
# Previews

A preview makes the edits of a request in the text that it reads; applying the request has the host read the
text again, check the edits again and write. Every edit that is compiled lies inside of the text
(`covers_of_compile`), so nothing new can go wrong on the way to the file but writing it
(`preview_agrees`).

Main statements:

* `covers_of_compile`, `applyEdits_of_compile`: what a batch that compiles makes of the text.
* `preview_of_compile`, `apply_of_compile`: the preview and the application of one request.
* `preview_agrees`, `preview_agrees_command`: they agree, for any host and for the one of the command.
* `preview_agrees_behind_link`: but not behind a link to a folder.
-/

namespace Emend.Session

variable {s : Session Disk} {h : FileHost} {w : Workspace Disk} {request : Request} {path : String}
  {text : List Char} {edits : List Edit} {document : Document}

/-! ## Compiling -/

/-- The symbols that are reported of a file lie in its text. -/
theorem symbolsWithin_context (hhost : s.host = h.host)
    (hpath : h.resolve path = path) (hread : h.read w.files path = .ok text) :
    (s.context w.files ⟨text, path⟩).SymbolsWithin := by
  intro forest hforest
  have hsymbols : (h.symbols w.files path).symbols = .ok forest := by
    have hreport : s.host.symbols w.files path = h.symbols w.files path := by rw [hhost]; rfl
    rw [← hreport]
    exact hforest
  -- of the three steps only the nesting gives a forest, and what it gives lies in the text
  unfold FileHost.symbols at hsymbols
  simp only [hpath, hread] at hsymbols
  split at hsymbols
  · simp at hsymbols
  · split at hsymbols
    · simp at hsymbols
    · rename_i found hnest
      obtain rfl := Except.ok.inj hsymbols
      exact Declaration.within_nest hnest

/-- The edits of a compiled request lie inside of the text of the file. -/
theorem covers_of_compile (hhost : s.host = h.host) (hpath : h.resolve path = path)
    (hread : h.read w.files path = .ok text)
    (hcompile : s.compile w.files path request = .ok (document, edits)) :
    ∀ e ∈ edits, (Document.mk text "").Covers e.range := by
  have hread' : s.host.read w.files path = .ok text := by rw [hhost]; exact hread
  obtain ⟨-, hbatch, -⟩ := (compile_eq_ok_iff hread').mp hcompile
  exact Context.covers_compile (symbolsWithin_context hhost hpath hread) hbatch

/-- A compiled request can be made in the text of the file. -/
theorem applyEdits_of_compile (hhost : s.host = h.host)
    (hpath : h.resolve path = path) (hread : h.read w.files path = .ok text)
    (hcompile : s.compile w.files path request = .ok (document, edits)) :
    ∃ after, applyEdits text edits s.settings.rejectOverlaps = .ok after := by
  -- where overlaps are refused the edits are woven; otherwise they are made one after the other
  by_cases hreject : s.settings.rejectOverlaps = true
  · have hread' : s.host.read w.files path = .ok text := by rw [hhost]; exact hread
    obtain ⟨hcov, hclear⟩ := clear_of_compile hreject hread' hcompile
    exact ⟨_, applyEdits_eq_weave _ hcov hclear⟩
  · rw [Bool.not_eq_true] at hreject
    rw [hreject]
    exact applyEdits_of_covers (covers_of_compile hhost hpath hread hcompile)

/-! ## Previewing -/

/-- A preview changes nothing. -/
theorem preview_frame (s : Session Disk) (w : Workspace Disk) (request : Request) :
    (s.preview w request).2.files = w.files ∧ (s.preview w request).2.ledger = w.ledger := by
  unfold preview
  simp only
  split
  · exact ⟨rfl, rfl⟩
  · split <;> exact ⟨rfl, rfl⟩

/-- A request that is not compiled has no preview. -/
theorem preview_of_compile_error {f : Failure} (hkey : s.host.key request.filePath = path)
    (hcompile : s.compile w.files path request = .error f) :
    (s.preview w request).1 = .error f := by
  subst hkey
  unfold preview
  simp only [hcompile]

/-- A request that is compiled has the text of its edits as a preview. -/
theorem preview_of_compile {after : List Char} (hkey : s.host.key request.filePath = path)
    (hcompile : s.compile w.files path request = .ok (document, edits))
    (happly : applyEdits document.text edits s.settings.rejectOverlaps = .ok after) :
    ∃ diff, (s.preview w request).1 = .ok ⟨path, edits, after, diff⟩ := by
  subst hkey
  unfold preview
  simp only [hcompile, happly, Attempt.ofBatch]
  exact ⟨_, rfl⟩

/-! ## Applying -/

/-- Without metrics, a request that is not compiled fails in the same way and changes nothing. -/
theorem apply_of_compile_error {f : Failure} (track : Bool)
    (hmetrics : s.settings.metricsEnabled = false)
    (hkey : s.host.key request.filePath = path) (hne : request.instructions ≠ [])
    (hcompile : s.compile w.files path request = .error f) :
    ∃ w', s.apply w request track = (.error f, w') ∧ w'.files = w.files ∧ w'.ledger = w.ledger := by
  subst hkey
  have hsome : request.instructions.isEmpty = false := by simpa using hne
  unfold Session.apply
  simp only [hsome, Bool.false_eq_true, if_false, hcompile]
  -- only a failed edit goes through the log, which is off
  rcases f with ⟨e, culprit⟩ | _
  · simp only [refuse, logBatch, hmetrics, Bool.false_eq_true, if_false]
    exact ⟨_, rfl, rfl, rfl⟩
  all_goals exact ⟨_, rfl, rfl, rfl⟩

/-- Where a file can be read, its edits are recorded, if they are at all, and no file changes. -/
theorem recordEdits_of_read (request : Request) (edits : List Edit) (track : Bool)
    (hread : s.host.read w.files path = .ok text) :
    ∃ changes w', s.recordEdits w path request edits track = (.ok changes, w') ∧
      w'.files = w.files := by
  unfold recordEdits
  split
  · rcases Workspace.record_cases s.host s.names w path edits
      (if request.comment.isEmpty then "No comment" else request.comment) with
      ⟨-, hgiven, -⟩ | ⟨captured, notes, -, hrecord⟩
    -- the file was read, so recording does not fail
    · rw [Workspace.given, hread] at hgiven
      simp at hgiven
    · exact ⟨_, _, hrecord, rfl⟩
  · exact ⟨[], w, rfl, rfl⟩

/-- Without metrics, a batch that the host makes is applied. -/
theorem make_of_made (request : Request) (changes : List PendingChange) (track : Bool)
    (hmetrics : s.settings.metricsEnabled = false)
    (hmade : (s.host.apply w.files path edits).made = .ok true) :
    ∃ done w', s.make w path request edits changes track = (.ok done, w') ∧ done.edits = edits ∧
      w'.files = (s.host.apply w.files path edits).state := by
  unfold Session.make
  simp only [hmade, logBatch, hmetrics, Bool.false_eq_true, if_false]
  exact ⟨_, _, rfl, rfl, rfl⟩

/-- A request that is compiled is applied where the file can be replaced. The file has the text that its edits make, if
no link leads from the file that is read to another one. -/
theorem apply_of_compile {after : List Char} (track : Bool) (hhost : s.host = h.host)
    (hroot : Path.isAbsolute h.root.toList = true) (hstrict : h.strict = s.settings.rejectOverlaps)
    (hmetrics : s.settings.metricsEnabled = false) (hne : request.instructions ≠ [])
    (hkey : s.host.key request.filePath = path) (hpath : h.resolve path = path)
    (hread : h.read w.files path = .ok text)
    (hcompile : s.compile w.files path request = .ok (document, edits))
    (happly : applyEdits text edits s.settings.rejectOverlaps = .ok after)
    (hreplace : (w.files.replace path.toList (Text.encode after)).1 = .ok ()) :
    ∃ done w', s.apply w request track = (.ok done, w') ∧ done.edits = edits ∧
      (w.files.Direct path.toList → s.host.read w'.files path = .ok after) := by
  let told := w.tell (s.compileNotes w.files path request)
  have hread' : s.host.read told.files path = .ok text := by rw [hhost]; exact hread
  obtain ⟨changes, w₁, hrecord, hfiles⟩ := recordEdits_of_read request edits track hread'
  rw [← hstrict] at happly
  rw [← hpath] at hreplace
  have hmade : (h.apply w.files path edits).made = .ok true :=
    (FileHost.applyDuring_of_read hroot rfl hread happly).2.mpr hreplace
  -- recording came first, but did not touch the files that the host now reads again
  have hreply : s.host.apply w₁.files path edits = h.apply w.files path edits := by
    rw [hhost, hfiles]
    rfl
  obtain ⟨done, w', hmake, hedits, hfiles'⟩ := make_of_made request changes track hmetrics
    (hreply ▸ hmade)
  have hsome : request.instructions.isEmpty = false := by simpa using hne
  refine ⟨done, w', ?_, hedits, ?_⟩
  · unfold Session.apply
    simp only [hkey, hsome, Bool.false_eq_true, if_false, hcompile]
    rw [hrecord]
    exact hmake
  · intro hdirect
    rw [← hpath] at hdirect
    rw [hfiles', hreply, hhost]
    exact (FileHost.apply_made hroot hdirect hread happly hreplace).2.2

/-- A preview changes nothing. It and an application of the request fail alike, and then nothing has changed
either. If there is a preview and its text can be written, the request is applied: it has the same edits,
and the file gets the text of the preview where it is read where it is written. -/
theorem preview_agrees (track : Bool) (hhost : s.host = h.host)
    (hroot : Path.isAbsolute h.root.toList = true)
    (hstrict : h.strict = s.settings.rejectOverlaps)
    (hmetrics : s.settings.metricsEnabled = false) (hne : request.instructions ≠ [])
    (hwrite : ∀ p, (s.preview w request).1 = .ok p →
      (w.files.replace p.path.toList (Text.encode p.text)).1 = .ok ()) :
    ((s.preview w request).2.files = w.files ∧ (s.preview w request).2.ledger = w.ledger) ∧
    (∀ f, (s.preview w request).1 = .error f ↔ (s.apply w request track).1 = .error f) ∧
    (∀ f, (s.apply w request track).1 = .error f →
      (s.apply w request track).2.files = w.files ∧
        (s.apply w request track).2.ledger = w.ledger) ∧
    ∀ p, (s.preview w request).1 = .ok p → ∃ done w', s.apply w request track = (.ok done, w') ∧
      done.edits = p.edits ∧
      (w.files.Direct p.path.toList → s.host.read w'.files p.path = .ok p.text) := by
  have hkey : s.host.key request.filePath = h.resolve request.filePath := by rw [hhost]; rfl
  have hpath := FileHost.resolve_resolve hroot request.filePath
  refine ⟨preview_frame s w request, ?_⟩
  -- both begin with one and the same compilation: it decides which of them fail, and how
  rcases hcompile : s.compile w.files (h.resolve request.filePath) request with
    f | ⟨document, edits⟩
  · have hpreview := preview_of_compile_error hkey hcompile
    obtain ⟨w', happ, hfiles, hledger⟩ := apply_of_compile_error track hmetrics hkey hne hcompile
    rw [hpreview, happ]
    simp [hfiles, hledger]
  · obtain ⟨text, hread'⟩ := read_of_compile hcompile
    have hread : h.read w.files (h.resolve request.filePath) = .ok text := by
      rw [hhost] at hread'
      exact hread'
    obtain ⟨rfl, -, -⟩ := (compile_eq_ok_iff hread').mp hcompile
    obtain ⟨after, happly⟩ := applyEdits_of_compile hhost hpath hread hcompile
    obtain ⟨diff, hpreview⟩ := preview_of_compile hkey hcompile happly
    have hreplace := hwrite _ hpreview
    dsimp only at hreplace
    obtain ⟨done, w', happ, hedits, hback⟩ := apply_of_compile track hhost hroot hstrict hmetrics hne
      hkey hpath hread hcompile happly hreplace
    rw [hpreview, happ]
    refine ⟨by simp, by simp, ?_⟩
    intro p hp
    obtain rfl := Except.ok.inj hp
    exact ⟨done, w', rfl, hedits, hback⟩

/-- A file in the project folder, in a session as commands have it. -/
theorem preview_agrees_command :
    let around : Command.Surroundings := {
      home := "/", environment := fun _ => none, registry := {}, names := Ledger.strokes, time := "" }
    let settings : Settings := { projectRoot := "/p", metricsEnabled := false }
    let disk : Disk := {
      entries := [(["p"], .folder), (["p", "a.txt"], .file (Text.encode "a\nb".toList))] }
    let s := Command.sessionOf around disk settings
    let h : FileHost := { root := FileHost.rootOf disk settings.projectRoot, registry := {} }
    let w : Workspace Disk := { files := disk }
    let request : Request := ⟨"x/../a.txt", [⟨.replace, .lines 1 1, "A".toList⟩,
      ⟨.append, .line 2, "\nc".toList⟩], ""⟩
    s.host = h.host ∧ Path.isAbsolute h.root.toList = true ∧
      h.strict = s.settings.rejectOverlaps ∧ s.settings.metricsEnabled = false ∧
      request.instructions ≠ [] ∧
      ∃ p done w', (s.preview w request).1 = .ok p ∧ p.path = "/p/a.txt" ∧
        (disk.replace p.path.toList (Text.encode p.text)).1 = .ok () ∧ disk.Direct p.path.toList ∧
        s.apply w request true = (.ok done, w') ∧ done.edits = p.edits ∧
        s.host.read w'.files "/p/a.txt" = .ok "A\nb\nc".toList := by
  intro around settings disk s h w request
  let edits : List Edit := [⟨⟨⟨0, 0⟩, ⟨0, 1⟩, by decide⟩, "A".toList⟩,
    ⟨.emptyAt ⟨1, 1⟩, "\nc".toList⟩]
  have hroot := FileHost.isAbsolute_rootOf disk settings.projectRoot
  have hne : request.instructions ≠ [] := List.cons_ne_nil _ _
  have hkey : s.host.key request.filePath = "/p/a.txt" := by decide +kernel
  have hread : s.host.read w.files "/p/a.txt" = .ok "a\nb".toList :=
    Attempt.toOption_eq_some.mp (by decide +kernel)
  have hcompile : s.compile w.files "/p/a.txt" request
      = .ok (⟨"a\nb".toList, "/p/a.txt"⟩, edits) :=
    (compile_eq_ok_iff hread).mpr ⟨rfl, Attempt.toOption_eq_some.mp (by decide +kernel),
      Attempt.toOption_eq_some.mp (by decide +kernel)⟩
  have happly : applyEdits "a\nb".toList edits = .ok "A\nb\nc".toList := by cbv
  obtain ⟨diff, hpreview⟩ := preview_of_compile hkey hcompile happly
  have hreplace : (disk.replace "/p/a.txt".toList (Text.encode "A\nb\nc".toList)).1 = .ok () :=
    Attempt.toOption_eq_some.mp (by decide +kernel)
  -- there are no links, so the path leads where it is written
  have hdirect : disk.Direct "/p/a.txt".toList :=
    Disk.direct_of_noLinks (Disk.noLinks_of_entries (by decide)) (by decide)
  have hwrite : ∀ p, (s.preview w request).1 = .ok p →
      (w.files.replace p.path.toList (Text.encode p.text)).1 = .ok () := by
    intro p hp
    rw [hpreview] at hp
    obtain rfl := Except.ok.inj hp
    exact hreplace
  -- the theorem gives what the application returns and what is read afterwards
  obtain ⟨-, -, -, hdone⟩ :=
    preview_agrees (h := h) true rfl hroot rfl rfl hne hwrite
  obtain ⟨done, w', happ, hedits, hback⟩ := hdone _ hpreview
  exact ⟨rfl, hroot, rfl, rfl, hne, _, done, w', hpreview, rfl, hreplace, hdirect, happ, hedits, hback hdirect⟩

/-- Two points behind a link are followed where the file is read, and taken back where it is written. The request
succeeds with the text of its preview, and the file has its old text. -/
theorem preview_agrees_behind_link :
    let around : Command.Surroundings := {
      home := "/", environment := fun _ => none, registry := {}, names := Ledger.strokes, time := "" }
    let disk : Disk := { entries := [(["p"], .folder), (["p", "link"], .link "/q/f".toList), (["q"], .folder),
      (["q", "f"], .folder), (["q", "a.txt"], .file (Text.encode "a".toList))] }
    let s := Command.sessionOf around disk { projectRoot := "/p", metricsEnabled := false }
    let w : Workspace Disk := { files := disk }
    let request : Request := ⟨"/p/link/../a.txt", [⟨.replace, .lines 1 1, "A".toList⟩], ""⟩
    (∃ p, (s.preview w request).1 = .ok p ∧ p.path = request.filePath ∧ p.text = "A".toList) ∧
      (∃ done, (s.apply w request true).1 = .ok done) ∧
      s.host.read (s.apply w request true).2.files request.filePath = .ok "a".toList := by
  intro around disk s w request
  let edits : List Edit := [⟨⟨⟨0, 0⟩, ⟨0, 1⟩, by decide⟩, "A".toList⟩]
  have hroot := FileHost.isAbsolute_rootOf disk "/p"
  have hkey : s.host.key request.filePath = request.filePath := by decide +kernel
  have hread : s.host.read w.files request.filePath = .ok "a".toList :=
    Attempt.toOption_eq_some.mp (by decide +kernel)
  have hcompile : s.compile w.files request.filePath request = .ok (⟨"a".toList, request.filePath⟩, edits) :=
    (compile_eq_ok_iff hread).mpr ⟨rfl, Attempt.toOption_eq_some.mp (by decide +kernel),
      Attempt.toOption_eq_some.mp (by decide +kernel)⟩
  have happly : applyEdits "a".toList edits = .ok "A".toList := by cbv
  obtain ⟨diff, hpreview⟩ := preview_of_compile hkey hcompile happly
  -- the write goes to another file, and succeeds
  have hreplace : (disk.replace request.filePath.toList (Text.encode "A".toList)).1 = .ok () :=
    Attempt.toOption_eq_some.mp (by decide +kernel)
  obtain ⟨done, w', happ, -, -⟩ := apply_of_compile (h := { root := FileHost.rootOf disk "/p", registry := {} })
    true rfl hroot rfl rfl (List.cons_ne_nil _ _) hkey hkey hread hcompile happly hreplace
  refine ⟨⟨_, hpreview, rfl, rfl⟩, ⟨done, by rw [happ]⟩, ?_⟩
  -- the file that is read has kept its text
  exact Attempt.toOption_eq_some.mp (by decide +kernel)

end Emend.Session
