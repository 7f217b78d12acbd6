import Emend.Proofs.Compile
import Emend.Proofs.Ledger.Review

/-!
# Tracked requests

What a tracked request does to one file and its changes, for a healthy host: a batch that can be made is
made and its changes are pending (`Healthy.make_made`), and any other leaves the text alone
(`Healthy.make_refused`).

Main statements:

* `Healthy.make_made`, `Healthy.make_refused`: a batch that can be made, and one that cannot.
* `apply_eq_make`, `apply_first`, `apply_later`: the first request for a file, and a later one.
* `Healthy.accepted_of_make`, `Healthy.compile_of_accepted`: what is known of a request that was accepted.
-/

namespace Emend

variable {σ : Type}

/-- The part of a workspace that belongs to one file is the same in another workspace. -/
structure Workspace.Agrees (h : Host σ) (good : σ → Prop) (path : String) (w w' : Workspace σ) :
    Prop where
  ledger : w'.ledger = w.ledger
  read : good w.files → h.read w'.files path = h.read w.files path
  good : good w.files → good w'.files

namespace Workspace

variable {h : Host σ} {good : σ → Prop} {path : String} {others : List ChangeSet}
  {original text : List Char} {changes : List PendingChange} {w w₁ w₂ : Workspace σ}

theorem Agrees.refl (w : Workspace σ) : Agrees h good path w w := ⟨rfl, fun _ => rfl, id⟩

theorem Agrees.tell (w : Workspace σ) (notes : List Note) : Agrees h good path w (w.tell notes) :=
  ⟨rfl, fun _ => rfl, id⟩

theorem Agrees.trans (h₁ : Agrees h good path w w₁) (h₂ : Agrees h good path w₁ w₂) :
    Agrees h good path w w₂ where
  ledger := h₂.ledger.trans h₁.ledger
  read := fun hgood => (h₂.read (h₁.good hgood)).trans (h₁.read hgood)
  good := fun hgood => h₂.good (h₁.good hgood)

theorem Holds.of_agrees (hw : w.Holds h good others path original text changes)
    (hagrees : Agrees h good path w w₁) : w₁.Holds h good others path original text changes where
  good := hagrees.good hw.good
  read := (hagrees.read hw.good).trans hw.read
  tracks := by
    rw [hagrees.ledger]
    exact hw.tracks
  replaced := hw.replaced

end Workspace

/-- A session is healthy for a file if its host is, and logging leaves the file alone. -/
structure Session.Healthy (s : Session σ) (path : String) (strict : Bool) (good : σ → Prop) : Prop where
  host : s.host.Healthy path strict good
  logs : ∀ {files after : σ} {entry : List (String × Json)} {notes : List Note}, good files →
    s.log files entry = (.ok after, notes) →
      good after ∧ s.host.read after path = s.host.read files path

namespace Session

variable {s : Session σ} {good : σ → Prop} {path : String} {strict : Bool} {w w' : Workspace σ}
  {request : Request} {edits : List Edit} {changes more : List PendingChange}
  {others : List ChangeSet} {original text after : List Char}

/-! ## Logging and refusing -/

theorem Healthy.logBatch (hs : s.Healthy path strict good) (w : Workspace σ) (request : Request)
    (error : Option EditError) : w.Agrees s.host good path (s.logBatch w request error).2 := by
  unfold Session.logBatch
  by_cases hmetrics : s.settings.metricsEnabled
  · rw [if_pos hmetrics]
    rcases hlog : s.log w.files (Metrics.entry request error) with ⟨f | files, notes⟩
    · exact Workspace.Agrees.tell w notes
    · exact ⟨rfl, fun hgood => (hs.logs hgood hlog).2, fun hgood => (hs.logs hgood hlog).1⟩
  · rw [if_neg hmetrics]
    exact Workspace.Agrees.refl w

/-- A refusal is an error and leaves the file and its changes alone. -/
theorem Healthy.refuse {α : Type} (hs : s.Healthy path strict good) (w : Workspace σ)
    (request : Request) (error : EditError) (f : Failure) (notes : List Note) :
    ∃ g w', s.refuse (α := α) w request error f notes = (.error g, w') ∧
      w.Agrees s.host good path w' := by
  have hlog := hs.logBatch w request (some error)
  unfold Session.refuse
  -- the refusal is logged first, and a failure to log takes its place
  rcases hresult : s.logBatch w request (some error) with ⟨g | _, w₁⟩
  · rw [hresult] at hlog
    exact ⟨g, w₁, rfl, hlog⟩
  · rw [hresult] at hlog
    exact ⟨f, _, rfl, hlog.trans (Workspace.Agrees.tell w₁ notes)⟩

/-! ## Making -/

/-- A batch that can be made is made. Whatever comes of logging it, its changes stay. -/
theorem Healthy.make_made (request : Request) (more : List PendingChange)
    (hs : s.Healthy path strict good)
    (hw : w.Holds s.host good others path original text changes)
    (happly : applyEdits text edits strict = .ok after) :
    (s.make w path request edits more true).2.Holds s.host good others path original after changes ∧
      ∀ done, (s.make w path request edits more true).1 = .ok done →
        done.edits = edits ∧ done.changes = more := by
  obtain ⟨hmade, hw₁⟩ := hw.make hs.host happly
  unfold Session.make
  simp only [hmade]
  have hw₂ := hw₁.of_agrees (Workspace.Agrees.tell _ (s.host.apply w.files path edits).notes)
  -- what is left is to log the batch, which changes nothing that is seen of the file
  have hlog := hs.logBatch (({ w with files := (s.host.apply w.files path edits).state } :
    Workspace σ).tell (s.host.apply w.files path edits).notes) request none
  rcases hresult : s.logBatch (({ w with files := (s.host.apply w.files path edits).state } :
    Workspace σ).tell (s.host.apply w.files path edits).notes) request none with ⟨f | _, w₃⟩
  · rw [hresult] at hlog
    exact ⟨hw₂.of_agrees hlog, by simp⟩
  · rw [hresult] at hlog
    refine ⟨(hw₂.of_agrees hlog).of_agrees (Workspace.Agrees.tell w₃ _), ?_⟩
    intro done hdone
    obtain rfl := Except.ok.inj hdone
    exact ⟨rfl, rfl⟩

/-- Without metrics, a batch that can be made is accepted. -/
theorem Healthy.make_accepted (request : Request) (more : List PendingChange)
    (hs : s.Healthy path strict good) (hmetrics : s.settings.metricsEnabled = false)
    (hw : w.Holds s.host good others path original text changes)
    (happly : applyEdits text edits strict = .ok after) :
    ∃ done w', s.make w path request edits more true = (.ok done, w') ∧ done.edits = edits ∧
      done.changes = more ∧ w'.Holds s.host good others path original after changes := by
  obtain ⟨hholds, hdone⟩ := hs.make_made request more hw happly
  rcases hmake : s.make w path request edits more true with ⟨f | done, w'⟩
  · -- only logging could fail
    obtain ⟨hmade, -⟩ := hw.make hs.host happly
    unfold Session.make at hmake
    simp [hmade, Session.logBatch, hmetrics] at hmake
  · rw [hmake] at hholds hdone
    obtain ⟨hedits, hmore⟩ := hdone done rfl
    exact ⟨done, w', rfl, hedits, hmore, hholds⟩

/-- A batch that cannot be made is an error. The text stays; the changes stay or are discarded. -/
theorem Healthy.make_refused {cause : BatchError} (request : Request)
    (hs : s.Healthy path strict good)
    (hw : w.Holds s.host good others path original text changes) (hmore : more ⊆ changes)
    (happly : applyEdits text edits strict = .error cause) :
    ∃ f w' left, s.make w path request edits more true = (.error f, w') ∧
      w'.Holds s.host good others path original text left := by
  obtain ⟨hnot, hgood, hread⟩ := hs.host.refuses hw.good hw.read happly
  have hw₁ : (({ w with files := (s.host.apply w.files path edits).state } :
      Workspace σ).tell (s.host.apply w.files path edits).notes).Holds s.host good others path
        original text changes :=
    ⟨hgood, hread, hw.tracks, hw.replaced⟩
  unfold Session.make
  rcases hmade : (s.host.apply w.files path edits).made with f | made
  · simp only [hmade]
    exact ⟨f, _, changes, rfl, hw₁⟩
  · rw [hmade] at hnot
    have hfalse : made = false := hnot
    subst hfalse
    -- the host says no: what was just recorded is discarded
    have hdiscard := hw₁.tracks.discard (more.map (·.id)) (by
      intro id hid
      obtain ⟨c, hc, rfl⟩ := List.mem_map.mp hid
      exact hw.tracks.unknown c (hmore hc))
    have hw₂ : ((({ w with files := (s.host.apply w.files path edits).state } :
        Workspace σ).tell (s.host.apply w.files path edits).notes).discard
          (more.map (·.id))).Holds s.host good others path original text
            (Ledger.without changes (more.map (·.id))) :=
      ⟨hgood, hread, hdiscard, fun c hc => hw.replaced c (List.mem_filter.mp hc).1⟩
    obtain ⟨f, w', hrefuse, hagrees⟩ := hs.refuse (α := Applied) _ request
      (EditError.applyFailed edits.length request.filePath)
      (.ofError (EditError.applyFailed edits.length request.filePath))
      [⟨.warning, .session,
        s!"[Edit] {(EditError.applyFailed edits.length request.filePath).message}"⟩]
    simp only [hmade]
    exact ⟨f, w', _, hrefuse, hw₂.of_agrees hagrees⟩

/-! ## Requests -/

/-- A request that cannot be compiled is an error and leaves the file and its changes alone. -/
theorem Healthy.apply_refused {f : Failure} (hs : s.Healthy path strict good)
    (hkey : s.host.key request.filePath = path) (hne : request.instructions ≠ [])
    (hcompile : s.compile w.files path request = .error f) :
    ∃ g w', s.apply w request = (.error g, w') ∧ w.Agrees s.host good path w' := by
  subst hkey
  have hsome : request.instructions.isEmpty = false := by simpa using hne
  have htell : w.Agrees s.host good (s.host.key request.filePath)
      (w.tell (s.compileNotes w.files (s.host.key request.filePath) request)) :=
    Workspace.Agrees.tell w _
  unfold Session.apply
  simp only [hsome, Bool.false_eq_true, if_false, hcompile]
  -- a refusal is logged, a failure of another kind is not
  rcases f with ⟨e, culprit⟩ | _
  · obtain ⟨g, w', hrefuse, hagrees⟩ := hs.refuse (α := Applied)
      (w.tell (s.compileNotes w.files (s.host.key request.filePath) request)) request e
        (.edit e culprit) []
    exact ⟨g, w', hrefuse, htell.trans hagrees⟩
  all_goals exact ⟨_, _, rfl, htell⟩

/-- What a request says about its changes. -/
def remark (request : Request) : String :=
  if request.comment.isEmpty then "No comment" else request.comment

/-- A request that is compiled and recorded is then made. -/
theorem apply_eq_make {document : Document} (hkey : s.host.key request.filePath = path)
    (hne : request.instructions ≠ [])
    (hcompile : s.compile w.files path request = .ok (document, edits))
    (hrecord : (w.tell (s.compileNotes w.files path request)).record s.host s.names path edits
      (remark request) = (.ok more, w')) :
    s.apply w request = s.make w' path request edits more true := by
  subst hkey
  have hsome : request.instructions.isEmpty = false := by simpa using hne
  unfold Session.apply
  simp only [hsome, Bool.false_eq_true, if_false, hcompile, recordEdits, if_true]
  unfold remark at hrecord
  rw [hrecord]

/-- The first request of a file is recorded against the text of the file, and then made. -/
theorem apply_first {document : Document}
    (hkey : s.host.key request.filePath = path) (hne : request.instructions ≠ [])
    (hgood : good w.files) (hread : s.host.read w.files path = .ok text)
    (hset : w.ledger.setOf path = none)
    (hcompile : s.compile w.files path request = .ok (document, edits)) :
    ∃ more w₁, s.apply w request = s.make w₁ path request edits more true ∧
      w₁.Holds s.host good w.ledger.sets path text text more ∧ more.map (·.edit) = edits := by
  let told := w.tell (s.compileNotes w.files path request)
  -- the set of the file is opened for the text that the host gives
  obtain ⟨more, w₁, hrecord, hw₁, hedits⟩ := Workspace.record_first (w := told) edits
    (remark request) hgood hread hset
  exact ⟨more, w₁, apply_eq_make hkey hne hcompile hrecord, hw₁, hedits⟩

/-- A later request is recorded against the same original text, and then made. -/
theorem apply_later {document : Document}
    (hkey : s.host.key request.filePath = path) (hne : request.instructions ≠ [])
    (hw : w.Holds s.host good others path original text changes)
    (hcompile : s.compile w.files path request = .ok (document, edits)) :
    ∃ more w₁, s.apply w request = s.make w₁ path request edits more true ∧
      w₁.Holds s.host good others path original text (changes ++ more) ∧
        more.map (·.edit) = edits := by
  have htold := hw.of_agrees (Workspace.Agrees.tell w (s.compileNotes w.files path request))
  obtain ⟨more, w₁, hrecord, hw₁, hedits⟩ := htold.record edits (remark request)
  exact ⟨more, w₁, apply_eq_make hkey hne hcompile hrecord, hw₁, hedits⟩

/-- A request that is accepted was compiled. -/
theorem Healthy.compile_of_accepted {done : Applied} (hs : s.Healthy path strict good)
    (hkey : s.host.key request.filePath = path) (hne : request.instructions ≠ [])
    (happ : s.apply w request = (.ok done, w')) :
    ∃ document edits, s.compile w.files path request = .ok (document, edits) := by
  rcases hcompile : s.compile w.files path request with f | ⟨document, edits⟩
  · obtain ⟨g, w₁, hrefused, -⟩ := hs.apply_refused hkey hne hcompile
    rw [hrefused] at happ
    simp at happ
  · exact ⟨document, edits, rfl⟩

/-- A batch that is accepted was made, and has the changes that were recorded for it. -/
theorem Healthy.accepted_of_make {done : Applied} (hs : s.Healthy path strict good)
    (hw : w.Holds s.host good others path original text changes) (hmore : more ⊆ changes)
    (happ : s.make w path request edits more true = (.ok done, w')) :
    done.edits = edits ∧ done.changes = more ∧ ∃ after, applyEdits text edits strict = .ok after ∧
      w'.Holds s.host good others path original after changes := by
  -- a batch that cannot be made is not accepted
  rcases happly : applyEdits text edits strict with cause | after
  · obtain ⟨f, w₁, -, hmake, -⟩ := hs.make_refused request hw hmore happly
    rw [hmake] at happ
    simp at happ
  · obtain ⟨hholds, hdone⟩ := hs.make_made request more hw happly
    rw [happ] at hholds hdone
    obtain ⟨hedits, hchanges⟩ := hdone done rfl
    exact ⟨hedits, hchanges, after, rfl, hholds⟩

/-- After the first request of a file was accepted, its changes are pending. -/
theorem Healthy.accepted_first {done : Applied} (hs : s.Healthy path strict good)
    (hkey : s.host.key request.filePath = path)
    (hne : request.instructions ≠ []) (hgood : good w.files)
    (hread : s.host.read w.files path = .ok text) (hset : w.ledger.setOf path = none)
    (happ : s.apply w request = (.ok done, w')) :
    ∃ document after, s.compile w.files path request = .ok (document, done.edits) ∧
      applyEdits text done.edits strict = .ok after ∧
      w'.Holds s.host good w.ledger.sets path text after done.changes ∧
      done.changes.map (·.edit) = done.edits := by
  obtain ⟨document, edits, hcompile⟩ := hs.compile_of_accepted hkey hne happ
  obtain ⟨more, w₁, hmake, hw₁, hmore⟩ := apply_first hkey hne hgood hread hset hcompile
  rw [hmake] at happ
  obtain ⟨rfl, rfl, after, happly, hholds⟩ := hs.accepted_of_make hw₁ (List.Subset.refl _) happ
  exact ⟨document, after, hcompile, happly, hholds, hmore⟩

/-- After a later request was accepted, its changes are pending behind those that were. -/
theorem Healthy.accepted_later {done : Applied} (hs : s.Healthy path strict good)
    (hkey : s.host.key request.filePath = path)
    (hne : request.instructions ≠ [])
    (hw : w.Holds s.host good others path original text changes)
    (happ : s.apply w request = (.ok done, w')) :
    ∃ document after, s.compile w.files path request = .ok (document, done.edits) ∧
      applyEdits text done.edits strict = .ok after ∧
      w'.Holds s.host good others path original after (changes ++ done.changes) ∧
      done.changes.map (·.edit) = done.edits := by
  obtain ⟨document, edits, hcompile⟩ := hs.compile_of_accepted hkey hne happ
  obtain ⟨more, w₁, hmake, hw₁, hmore⟩ := apply_later hkey hne hw hcompile
  rw [hmake] at happ
  obtain ⟨rfl, rfl, after, happly, hholds⟩ :=
    hs.accepted_of_make hw₁ (List.subset_append_right _ _) happ
  exact ⟨document, after, hcompile, happly, hholds, hmore⟩

/-- Without metrics, the first request of a file is accepted if its batch can be made. -/
theorem Healthy.accepts_first {document : Document} (hs : s.Healthy path strict good)
    (hmetrics : s.settings.metricsEnabled = false)
    (hkey : s.host.key request.filePath = path) (hne : request.instructions ≠ [])
    (hgood : good w.files) (hread : s.host.read w.files path = .ok text)
    (hset : w.ledger.setOf path = none)
    (hcompile : s.compile w.files path request = .ok (document, edits))
    (happly : applyEdits text edits strict = .ok after) :
    ∃ done w', s.apply w request = (.ok done, w') ∧ done.edits = edits ∧
      w'.Holds s.host good w.ledger.sets path text after done.changes ∧
      done.changes.map (·.edit) = edits := by
  obtain ⟨more, w₁, hmake, hw₁, hmore⟩ := apply_first hkey hne hgood hread hset hcompile
  obtain ⟨done, w', hdone, hedits, rfl, hholds⟩ :=
    hs.make_accepted request more hmetrics hw₁ happly
  exact ⟨done, w', hmake.trans hdone, hedits, hholds, hmore⟩

/-- So is a later one. -/
theorem Healthy.accepts_later {document : Document} (hs : s.Healthy path strict good)
    (hmetrics : s.settings.metricsEnabled = false)
    (hkey : s.host.key request.filePath = path) (hne : request.instructions ≠ [])
    (hw : w.Holds s.host good others path original text changes)
    (hcompile : s.compile w.files path request = .ok (document, edits))
    (happly : applyEdits text edits strict = .ok after) :
    ∃ done w', s.apply w request = (.ok done, w') ∧ done.edits = edits ∧
      w'.Holds s.host good others path original after (changes ++ done.changes) ∧
      done.changes.map (·.edit) = edits := by
  obtain ⟨more, w₁, hmake, hw₁, hmore⟩ := apply_later hkey hne hw hcompile
  obtain ⟨done, w', hdone, hedits, rfl, hholds⟩ :=
    hs.make_accepted request more hmetrics hw₁ happly
  exact ⟨done, w', hmake.trans hdone, hedits, hholds, hmore⟩

/-! ## Compiling -/

/-- What a request is compiled to belongs to the text of the file, and passed the check. -/
theorem compile_eq_ok_iff {document : Document} (hread : s.host.read w.files path = .ok text) :
    s.compile w.files path request = .ok (document, edits) ↔ document = ⟨text, path⟩ ∧
      (s.context w.files ⟨text, path⟩).compile s.settings.normalizeIndentation request.instructions
        = .ok edits ∧ s.check ⟨text, path⟩ edits = .ok () := by
  constructor
  · intro h
    -- the steps of compiling, each of which has succeeded
    obtain ⟨found, hfound, h⟩ := Attempt.bind_eq_ok.mp h
    obtain rfl : text = found := Except.ok.inj (hread.symm.trans hfound)
    obtain ⟨batch, hbatch, h⟩ := Attempt.bind_eq_ok.mp h
    obtain ⟨compiled, hcompiled, hbatch⟩ := Attempt.bind_eq_ok.mp hbatch
    obtain ⟨⟨⟩, hcheck, hbatch⟩ := Attempt.bind_eq_ok.mp hbatch
    obtain rfl := Attempt.pure_eq_ok.mp hbatch
    obtain ⟨rfl, rfl⟩ := Prod.mk.inj (Attempt.pure_eq_ok.mp h)
    exact ⟨rfl, hcompiled, hcheck⟩
  · rintro ⟨rfl, hedits, hcheck⟩
    simp only [Session.compile, compileFor, hread, hedits, hcheck, bind, Except.bind, pure,
      Except.pure]

theorem read_of_compile {files : σ} {document : Document}
    (hcompile : s.compile files path request = .ok (document, edits)) :
    ∃ text, s.host.read files path = .ok text := by
  obtain ⟨text, hread, -⟩ := Attempt.bind_eq_ok.mp hcompile
  exact ⟨text, hread⟩

theorem length_edits_of_compile {document : Document}
    (hcompile : s.compile w.files path request = .ok (document, edits)) :
    edits.length = request.instructions.length := by
  obtain ⟨text, hread⟩ := read_of_compile hcompile
  obtain ⟨-, hbatch, -⟩ := (compile_eq_ok_iff hread).mp hcompile
  exact Context.length_compile hbatch

/-- Where overlaps are refused, the edits of a compiled request lie inside of the text, and no two of them
clash. -/
theorem clear_of_compile {document : Document} (hreject : s.settings.rejectOverlaps = true)
    (hread : s.host.read w.files path = .ok text)
    (hcompile : s.compile w.files path request = .ok (document, edits)) :
    (∀ e ∈ edits, (Document.mk text "").Covers e.range) ∧ (Document.mk text "").Clear edits := by
  obtain ⟨-, -, hcheck⟩ := (compile_eq_ok_iff hread).mp hcompile
  unfold Session.check at hcheck
  -- the check was made, and it passed
  rw [if_pos hreject] at hcheck
  obtain ⟨splices, hsplices, hoverlap⟩ := Attempt.bind_eq_ok.mp hcheck
  rw [Attempt.ofRange_eq_ok] at hsplices
  rw [Attempt.ofBatch_eq_ok] at hoverlap
  exact ⟨(Document.splices_eq_ok_iff.mp hsplices).1,
    (Document.checkOverlaps_eq_ok_iff hsplices).mp hoverlap⟩

/-! ## Texts in memory -/

/-- A session on texts in memory that logs nothing. -/
def inMemory : Session Memory where
  host := Memory.host true fun _ => []
  settings := { projectRoot := "", metricsEnabled := false }
  registry := {}
  names := Ledger.strokes
  log := fun m _ => (.ok m, [])

theorem inMemory_healthy (path : String) :
    inMemory.Healthy path true fun m => m.mode = .healthy where
  host := Memory.healthy _ path true
  logs := by
    intro m after entry notes hgood hlog
    obtain rfl : m = after := by simpa [inMemory] using (Prod.mk.inj hlog).1
    exact ⟨hgood, rfl⟩

end Session

end Emend
