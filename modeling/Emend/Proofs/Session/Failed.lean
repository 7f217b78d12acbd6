import Emend.Proofs.Ledger.Operation
import Emend.Proofs.Session.Request

/-!
# Requests that fail

The changes of a request are recorded before the host is asked to make its edits. They go again if the host
answers with no, so such a failure leaves every pending change as it was. They stay if the host gives up in
another way (`pending_of_apply_error`): then changes are pending that nobody made
(`apply_error_leaves_pending`).

Main statements:

* `Recorded.pending_discard`: discarding what was recorded brings the pending changes back.
* `make_cases`, `apply_error_cases`: the ways in which a tracked request ends.
* `pending_of_apply_error`: which failures leave the pending changes as they were.
-/

namespace Emend

variable {σ : Type}

/-! ## Pending changes after an operation -/

namespace Ledger

variable {l : Ledger} {names : Identifiers} {path other : String}

theorem pending_record (names : Identifiers) (l : Ledger) (path other : String)
    (text : List Char) (edits : List Edit) (description : String) :
    (l.record names path text edits description).2.pending other = l.pending other
      ++ if path = other then (l.record names path text edits description).1 else [] := by
  rw [pending, setOf_record, pending]
  -- only the set of the file is extended, or opened with the changes in it
  by_cases h : path = other
  · subst h
    rcases hset : l.setOf path with _ | s
    · simp [ChangeSet.extend]
    · simp [ChangeSet.changes_extend_of_eq (mem_of_setOf hset).2]
  · simp [h]

theorem Sound.pending_discard (h : l.Sound) (ids : List String) (path : String) :
    (l.discard ids).pending path = without (l.pending path) ids := by
  rw [pending, h.setOf_discard, pending]
  rcases l.setOf path with _ | s <;> rfl

theorem exists_set_of_pending {c : PendingChange} (h : c ∈ l.pending path) :
    ∃ s ∈ l.sets, s.path = path ∧ c ∈ s.changes := by
  rw [pending] at h
  rcases hset : l.setOf path with _ | s
  · simp [hset] at h
  · rw [hset] at h
    obtain ⟨hs, hpath⟩ := mem_of_setOf hset
    exact ⟨s, hs, hpath, h⟩

theorem id_mem_ids_of_pending {c : PendingChange} (h : c ∈ l.pending path) : c.id ∈ l.ids := by
  obtain ⟨s, hs, -, hc⟩ := exists_set_of_pending h
  exact mem_ids.mpr ⟨s, hs, c, hc, rfl⟩

theorem record_edits (names : Identifiers) (l : Ledger) (path : String) (text : List Char)
    (edits : List Edit) (description : String) :
    (l.record names path text edits description).1.map (·.edit) = edits :=
  (recordFrom_edits _ _ _ _ _ _ _ _).1

end Ledger

/-! ## Recording a request -/

namespace Workspace

variable {w w₁ : Workspace σ} {h : Host σ} {names : Identifiers} {path : String}
  {more : List PendingChange}

theorem given_of_read {files : σ} {text : List Char} (hread : h.read files path = .ok text) :
    given h files path = some text := by
  rw [given, hread]

/-- Changes of a file with new identifiers were recorded, and that is all that was done to the ledger and
the files. -/
structure Recorded (w : Workspace σ) (path : String) (more : List PendingChange)
    (w₁ : Workspace σ) : Prop where
  files : w₁.files = w.files
  sound : w₁.ledger.Sound
  fresh : ∀ c ∈ more, c.id ∉ w.ledger.ids
  pending : ∀ other, w₁.ledger.pending other
    = w.ledger.pending other ++ if path = other then more else []

/-- The edits of a file that can be read are recorded. -/
theorem recorded_of_read {text : List Char}
    (hsound : w.ledger.Sound) (hread : h.read w.files path = .ok text) (edits : List Edit)
    (description : String) :
    ∃ more w₁, w.record h names path edits description = (.ok more, w₁) ∧
      more.map (·.edit) = edits ∧ w.Recorded path more w₁ := by
  rcases record_cases h names w path edits description with
    ⟨-, hgiven, -⟩ | ⟨captured, notes, -, hrecord⟩
  -- a text was read, so there is one to be captured
  · rw [given_of_read hread] at hgiven
    simp at hgiven
  · obtain ⟨hsound', hfresh⟩ := hsound.record path captured edits description
    refine ⟨_, _, hrecord, Ledger.record_edits _ _ _ _ _ _, rfl, hsound', hfresh, ?_⟩
    intro other
    exact Ledger.pending_record names w.ledger path other captured edits description

/-- Discarding what was recorded leaves the changes that were pending before. -/
theorem Recorded.pending_discard (hw : w.Recorded path more w₁) (other : String) :
    (w₁.ledger.discard (more.map (·.id))).pending other = w.ledger.pending other := by
  -- the changes of the request have new identifiers, so none of the earlier ones goes with them
  have hother : ∀ c ∈ w.ledger.pending other, c.id ∉ more.map (·.id) := by
    intro c hc hid
    obtain ⟨d, hd, heq⟩ := List.mem_map.mp hid
    exact hw.fresh d hd (heq ▸ Ledger.id_mem_ids_of_pending hc)
  rw [hw.sound.pending_discard, hw.pending]
  split
  · exact Ledger.without_append_self hother
  · rw [List.append_nil]
    exact Ledger.without_eq_self hother

end Workspace

namespace Session

variable {s : Session σ} {w w' : Workspace σ} {request : Request} {path : String}

/-! ## Logging and refusing leave the ledger alone -/

theorem ledger_logBatch (s : Session σ) (w : Workspace σ) (request : Request)
    (error : Option EditError) : (s.logBatch w request error).2.ledger = w.ledger := by
  unfold logBatch
  by_cases hmetrics : s.settings.metricsEnabled
  · rw [if_pos hmetrics]
    rcases s.log w.files (Metrics.entry request error) with ⟨f | files, notes⟩ <;> rfl
  · rw [if_neg hmetrics]

theorem ledger_refuse {α : Type} (s : Session σ) (w : Workspace σ) (request : Request)
    (error : EditError) (f : Failure) (notes : List Note) :
    (s.refuse (α := α) w request error f notes).2.ledger = w.ledger := by
  have hlog := ledger_logBatch s w request (some error)
  unfold refuse
  rcases hresult : s.logBatch w request (some error) with ⟨g | _, w₁⟩
  · rw [hresult] at hlog
    exact hlog
  · rw [hresult] at hlog
    exact hlog

/-! ## Failing -/

theorem exists_error_of_refuse {α : Type} (s : Session σ) (w : Workspace σ) (request : Request)
    (error : EditError) (f : Failure) (notes : List Note) :
    ∃ g, (s.refuse (α := α) w request error f notes).1 = .error g := by
  unfold refuse
  rcases s.logBatch w request (some error) with ⟨g | _, w₁⟩
  · exact ⟨g, rfl⟩
  · exact ⟨f, rfl⟩

/-- What becomes of edits that were recorded. The host fails, and they stay recorded; it says no, and they are
dropped again; or it makes them, and nothing but the log can still fail. -/
theorem make_cases (s : Session σ) (w : Workspace σ) (path : String) (request : Request) (edits : List Edit)
    (changes : List PendingChange) (track : Bool) :
    let made := (s.host.apply w.files path edits).made
    let result := s.make w path request edits changes track
    ((∃ f, made = .error f ∧ result.1 = .error f) ∧ result.2.ledger = w.ledger) ∨
    (made = .ok false ∧ (∃ f, result.1 = .error f) ∧ result.2.ledger = w.ledger.discard (changes.map (·.id))) ∨
    (made = .ok true ∧ result.2.ledger = w.ledger ∧
      ((∃ f, result.1 = .error f) ∨ ∃ message, result.1 = .ok ⟨message, path, edits, changes⟩)) := by
  intro made result
  have hresult : result = s.make w path request edits changes track := rfl
  unfold make at hresult
  -- the host fails, refuses or makes the edits; only a refusal takes the changes away
  rcases hmade : made with f | yes
  · simp only [made] at hmade
    simp only [hmade] at hresult
    exact .inl ⟨⟨f, rfl, congrArg Prod.fst hresult⟩, congrArg (·.2.ledger) hresult⟩
  · simp only [made] at hmade
    cases yes with
    | false =>
      simp only [hmade] at hresult
      rw [hresult]
      exact .inr (.inl ⟨rfl, exists_error_of_refuse s _ request _ _ _, ledger_refuse s _ request _ _ _⟩)
    | true =>
      -- what was made is logged, which leaves the ledger alone even if it fails
      have hlog := ledger_logBatch s (({ w with files := (s.host.apply w.files path edits).state } :
        Workspace σ).tell (s.host.apply w.files path edits).notes) request none
      simp only [hmade] at hresult
      refine .inr (.inr ⟨rfl, ?_⟩)
      rw [hresult]
      rcases hlogged : s.logBatch (({ w with files := (s.host.apply w.files path edits).state } :
        Workspace σ).tell (s.host.apply w.files path edits).notes) request none with ⟨f | ⟨⟩, w₁⟩
      · rw [hlogged] at hlog
        exact ⟨hlog, .inl ⟨f, rfl⟩⟩
      · rw [hlogged] at hlog
        exact ⟨hlog, .inr ⟨_, rfl⟩⟩

/-- The changes that a failed request leaves behind, once they were recorded: none if the host said no, and
all of them otherwise. -/
theorem pending_of_make_error {w₁ : Workspace σ} {edits : List Edit} {more : List PendingChange}
    {f : Failure} (hw : w.Recorded path more w₁)
    (hmake : s.make w₁ path request edits more true = (.error f, w')) :
    ((s.host.apply w.files path edits).made = .ok false ∧
      ∀ other, w'.ledger.pending other = w.ledger.pending other) ∨
    ((s.host.apply w.files path edits).made ≠ .ok false ∧
      ∀ other, w'.ledger.pending other
        = w.ledger.pending other ++ if path = other then more else []) := by
  have hcases := make_cases s w₁ path request edits more true
  simp only [hmake, hw.files] at hcases
  -- only in the second case were the changes dropped
  rcases hcases with ⟨⟨g, hmade, -⟩, hledger⟩ | ⟨hmade, -, hledger⟩ | ⟨hmade, hledger, -⟩
  · exact Or.inr ⟨by simp [hmade], fun other => hledger ▸ hw.pending other⟩
  · exact Or.inl ⟨hmade, fun other => hledger ▸ hw.pending_discard other⟩
  · exact Or.inr ⟨by simp [hmade], fun other => hledger ▸ hw.pending other⟩

/-- A request that fails was not compiled, and leaves the ledger alone, or its changes were recorded. -/
theorem apply_error_cases {f : Failure}
    (hsound : w.ledger.Sound) (hkey : s.host.key request.filePath = path)
    (happ : s.apply w request = (.error f, w')) :
    ((∃ g, s.compile w.files path request = .error g) ∧ w'.ledger = w.ledger) ∨
    ∃ document edits more w₁, s.compile w.files path request = .ok (document, edits) ∧
      more.map (·.edit) = edits ∧ more ≠ [] ∧ w.Recorded path more w₁ ∧
      s.make w₁ path request edits more true = (.error f, w') := by
  subst hkey
  by_cases hne : request.instructions = []
  · simp [Session.apply, hne] at happ
  · rcases hcompile : s.compile w.files (s.host.key request.filePath) request with
      g | ⟨document, edits⟩
    · refine Or.inl ⟨⟨g, rfl⟩, ?_⟩
      have hsome : request.instructions.isEmpty = false := by simpa using hne
      unfold Session.apply at happ
      simp only [hsome, Bool.false_eq_true, if_false, hcompile] at happ
      have hledger := congrArg (fun x => x.2.ledger) happ
      rw [← hledger]
      rcases g with ⟨e, culprit⟩ | _
      · exact ledger_refuse s _ request e (.edit e culprit) []
      all_goals rfl
    · obtain ⟨text, hread⟩ := read_of_compile hcompile
      obtain ⟨more, w₁, hrecord, hedits, hw⟩ := Workspace.recorded_of_read
        (w := w.tell (s.compileNotes w.files (s.host.key request.filePath) request)) hsound
          hread edits (remark request)
      -- what was read to compile can be read to record, so recording does not fail
      refine Or.inr ⟨document, edits, more, w₁, rfl, hedits, ?_,
        ⟨hw.files, hw.sound, hw.fresh, hw.pending⟩, ?_⟩
      · rintro rfl
        have hlen := length_edits_of_compile hcompile
        rw [← hedits] at hlen
        exact hne (List.eq_nil_of_length_eq_zero hlen.symm)
      · rw [← happ]
        exact (apply_eq_make rfl hne hcompile hrecord).symm

/-- A host that gives up makes the request fail, in the state that it leaves. -/
theorem apply_of_made_error {document : Document} {edits : List Edit} {f : Failure}
    (hsound : w.ledger.Sound)
    (hkey : s.host.key request.filePath = path) (hne : request.instructions ≠ [])
    (hcompile : s.compile w.files path request = .ok (document, edits))
    (hmade : (s.host.apply w.files path edits).made = .error f) :
    ∃ w', s.apply w request = (.error f, w') ∧
      w'.files = (s.host.apply w.files path edits).state := by
  obtain ⟨text, hread⟩ := read_of_compile hcompile
  -- a text was read to compile, so the changes are recorded before the host is asked
  obtain ⟨more, w₁, hrecord, -, hw⟩ := Workspace.recorded_of_read
    (w := w.tell (s.compileNotes w.files path request)) hsound hread edits (remark request)
  have hfiles : w₁.files = w.files := hw.files
  rw [apply_eq_make hkey hne hcompile hrecord, Session.make, hfiles]
  simp only [hmade]
  exact ⟨_, rfl, rfl⟩

/-- A host that answers with no makes the request fail. -/
theorem apply_of_made_false {document : Document} {edits : List Edit}
    (hsound : w.ledger.Sound)
    (hkey : s.host.key request.filePath = path) (hne : request.instructions ≠ [])
    (hcompile : s.compile w.files path request = .ok (document, edits))
    (hmade : (s.host.apply w.files path edits).made = .ok false) :
    ∃ f w', s.apply w request = (.error f, w') := by
  obtain ⟨text, hread⟩ := read_of_compile hcompile
  obtain ⟨more, w₁, hrecord, -, hw⟩ := Workspace.recorded_of_read
    (w := w.tell (s.compileNotes w.files path request)) hsound hread edits (remark request)
  have hfiles : w₁.files = w.files := hw.files
  rw [apply_eq_make hkey hne hcompile hrecord, Session.make, hfiles]
  simp only [hmade]
  -- a refusal is an error whether it can be logged or not
  unfold Session.refuse
  split
  · exact ⟨_, _, rfl⟩
  · exact ⟨_, _, rfl⟩

/-- A request that fails leaves the pending changes of all files as they were exactly if it was not compiled
or the host answered with no. In any other case each of its edits has a change that is pending behind
the others of the file, although the request failed. -/
theorem pending_of_apply_error {f : Failure}
    (hsound : w.ledger.Sound) (hkey : s.host.key request.filePath = path)
    (happ : s.apply w request = (.error f, w')) :
    ((∀ other, w'.ledger.pending other = w.ledger.pending other) ↔
      ∀ document edits, s.compile w.files path request = .ok (document, edits) →
        (s.host.apply w.files path edits).made = .ok false) ∧
    ∀ document edits, s.compile w.files path request = .ok (document, edits) →
      (s.host.apply w.files path edits).made ≠ .ok false →
      ∃ more, more.map (·.edit) = edits ∧ ∀ other, w'.ledger.pending other
        = w.ledger.pending other ++ if path = other then more else [] := by
  rcases apply_error_cases hsound hkey happ with
    ⟨⟨g, hcompile⟩, hledger⟩ | ⟨document, edits, more, w₁, hcompile, hedits, hmore, hw, hmake⟩
  · simp [hcompile, hledger]
  · have honly : ∀ d e, s.compile w.files path request = .ok (d, e) → e = edits := by
      intro d e h
      rw [hcompile] at h
      exact (congrArg Prod.snd (Except.ok.inj h)).symm
    -- a batch has at least one change, so what stays pending is seen
    rcases pending_of_make_error hw hmake with ⟨hno, hsame⟩ | ⟨hnotno, hpending⟩
    · refine ⟨⟨fun _ d e h => honly d e h ▸ hno, fun _ => hsame⟩, ?_⟩
      intro d e h hnotno
      exact absurd (honly d e h ▸ hno) hnotno
    · refine ⟨⟨?_, fun h => absurd (h document edits hcompile) hnotno⟩, ?_⟩
      · intro hsame
        have hhere := hpending path
        rw [hsame, if_pos rfl, List.self_eq_append_right] at hhere
        exact absurd hhere hmore
      · intro d e h _
        exact ⟨more, hedits.trans (honly d e h).symm, hpending⟩

/-- A host that answers with no: the change that was pending is the only one afterwards. -/
theorem pending_of_apply_error_refusing :
    let earlier : PendingChange :=
      ⟨"", "a.txt", ⟨⟨⟨0, 0⟩, ⟨0, 1⟩, by decide⟩, "a".toList⟩, "b".toList, "earlier (1/1)"⟩
    let w : Workspace Memory := {
      files := { texts := [("a.txt", "a".toList)], mode := .refusing }
      ledger := { sets := [⟨"a.txt", "b".toList, [earlier]⟩], issued := 1 } }
    let request : Request := ⟨"a.txt", [⟨.replace, .lines 1 1, "A".toList⟩], ""⟩
    w.ledger.Sound ∧
      inMemory.host.key request.filePath = "a.txt" ∧
      ∃ f w', inMemory.apply w request = (.error f, w') ∧
        w'.ledger.pending "a.txt" = [earlier] := by
  intro earlier w request
  let edits : List Edit := [⟨⟨⟨0, 0⟩, ⟨0, 1⟩, by decide⟩, "A".toList⟩]
  have hread : inMemory.host.read w.files "a.txt" = .ok "a".toList := rfl
  have hcompile : inMemory.compile w.files "a.txt" request = .ok (⟨"a".toList, "a.txt"⟩, edits) :=
    (compile_eq_ok_iff hread).mpr ⟨rfl, rfl, by cbv⟩
  have hsound : w.ledger.Sound := ⟨by decide, by decide, by decide, by decide⟩
  have hkey : inMemory.host.key request.filePath = "a.txt" := rfl
  have hne : request.instructions ≠ [] := List.cons_ne_nil _ _
  obtain ⟨f, w', happ⟩ := apply_of_made_false hsound hkey hne hcompile rfl
  refine ⟨hsound, hkey, f, w', happ, ?_⟩
  -- the host refuses every batch, so the change from before is the only one that is left
  refine (pending_of_apply_error hsound hkey happ).1.mpr ?_ "a.txt"
  intro document made h
  rfl

/-- A host whose storage fails: the text is as it was, but the change that was to be made to it is
pending. -/
theorem apply_error_leaves_pending :
    let w : Workspace Memory := {
      files := { texts := [("a.txt", "a".toList)], mode := .failing } }
    let request : Request := ⟨"a.txt", [⟨.replace, .lines 1 1, "A".toList⟩], ""⟩
    ∃ w', inMemory.apply w request = (.error (.storage "disk full"), w') ∧
      inMemory.host.read w'.files "a.txt" = inMemory.host.read w.files "a.txt" ∧
      w.ledger.pending "a.txt" = [] ∧
      (w'.ledger.pending "a.txt").map (·.edit)
        = [⟨⟨⟨0, 0⟩, ⟨0, 1⟩, by decide⟩, "A".toList⟩] := by
  intro w request
  let edits : List Edit := [⟨⟨⟨0, 0⟩, ⟨0, 1⟩, by decide⟩, "A".toList⟩]
  have hread : inMemory.host.read w.files "a.txt" = .ok "a".toList := rfl
  have hcompile : inMemory.compile w.files "a.txt" request = .ok (⟨"a".toList, "a.txt"⟩, edits) :=
    (compile_eq_ok_iff hread).mpr ⟨rfl, rfl, by cbv⟩
  have hsound : w.ledger.Sound := Ledger.sound_of_sets_nil rfl
  have hkey : inMemory.host.key request.filePath = "a.txt" := rfl
  have hne : request.instructions ≠ [] := List.cons_ne_nil _ _
  obtain ⟨w', happ, hfiles⟩ := apply_of_made_error hsound hkey hne hcompile rfl
  obtain ⟨document, found, more, w₁, hcompile', hedits, -, hw, hmake⟩ :=
    (apply_error_cases hsound hkey happ).resolve_left (by simp [hcompile])
  obtain rfl : edits = found := (Prod.mk.inj (Except.ok.inj (hcompile.symm.trans hcompile'))).2
  -- the host failed and did not refuse, so the change that was recorded is still there
  have hpending := ((pending_of_make_error hw hmake).resolve_left (by simp [inMemory, Memory.host,
    Memory.apply, w])).2 "a.txt"
  have hempty : w.ledger.pending "a.txt" = [] := rfl
  refine ⟨w', happ, by rw [hfiles]; rfl, hempty, ?_⟩
  rw [hpending, hempty]
  exact hedits

end Session

end Emend
