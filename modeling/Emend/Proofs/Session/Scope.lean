import Emend.Proofs.Ledger.Verdicts
import Emend.Proofs.Session.Alike
import Emend.Proofs.Session.Failed

/-!
# What an action may touch

Whatever is done through a session records changes of some files, drops some changes and clears the sets of some
files (`leads_run`), and leaves everything else in its ledger alone. So every baseline that there is after a run was
opened by a tracked request for its file (`tracked_of_baseline`).

Main statements:

* `leads_run`: what one action does to the ledger.
* `Leads.frame`, `Leads.baseline`: what it leaves alone.
* `runAll_tracked`, `tracked_of_baseline`: every baseline was opened by a tracked request.
-/

namespace Emend

variable {σ : Type}

namespace Ledger

variable {l l' l'' : Ledger} {names : Identifiers} {path : String}

/-! ## Pending changes -/

/-- A change is pending for its own file only. -/
theorem Sound.path_of_pending (h : l.Sound) {c : PendingChange} (hc : c ∈ l.pending path) : c.path = path := by
  obtain ⟨x, hx, rfl, hmem⟩ := exists_set_of_pending hc
  exact h.here x hx c hmem

theorem Sound.find_of_pending (h : l.Sound) {c : PendingChange} (hc : c ∈ l.pending path) : l.find c.id = some c := by
  obtain ⟨x, hx, -, hmem⟩ := exists_set_of_pending hc
  exact h.find_eq_some_iff.mpr ⟨x, hx, hmem, rfl⟩

theorem Sound.nodup_pending (h : l.Sound) (path : String) : ((l.pending path).map (·.id)).Nodup := by
  rw [pending]
  rcases hset : l.setOf path with _ | x
  · exact List.nodup_nil
  · exact (ids_nodup_iff.mp h.ids).1 x (mem_of_setOf hset).1

/-! ## Scopes -/

/-- The part of a ledger that may be touched. -/
structure Scope where
  /-- Changes of this file may be recorded, and its set may be opened for them. -/
  records : String → Prop := fun _ => False
  /-- The change of this identifier may be dropped. -/
  drops : String → Prop := fun _ => False
  /-- The set of this file may be cleared. -/
  clears : String → Prop := fun _ => False

/-- One ledger leads to another one, touching nothing outside of a scope. -/
inductive Leads (names : Identifiers) (scope : Scope) (l : Ledger) : Ledger → Prop
  | refl : Leads names scope l l
  | record {l' : Ledger} {path : String} (text : List Char) (edits : List Edit) (description : String)
    (h : Leads names scope l l') (hpath : scope.records path) :
    Leads names scope l (l'.record names path text edits description).2
  | erase {l' : Ledger} {id : String} (h : Leads names scope l l') (hid : scope.drops id) :
    Leads names scope l (l'.erase id)
  | clear {l' : Ledger} {path : String} (h : Leads names scope l l') (hpath : scope.clears path) :
    Leads names scope l (l'.clear path)

theorem Leads.trans {scope : Scope} (h : Leads names scope l l') (h' : Leads names scope l' l'') :
    Leads names scope l l'' := by
  induction h' with
  | refl => exact h
  | record text edits description _ hpath ih => exact ih.record text edits description hpath
  | erase _ hid ih => exact ih.erase hid
  | clear _ hpath ih => exact ih.clear hpath

theorem Leads.discard {scope : Scope} (h : Leads names scope l l') {ids : List String}
    (hids : ∀ id ∈ ids, scope.drops id) : Leads names scope l (l'.discard ids) := by
  induction ids generalizing l' with
  | nil => exact h
  | cons id rest ih =>
    rw [List.forall_mem_cons] at hids
    exact ih (h.erase hids.1) hids.2

theorem Leads.sound {scope : Scope} (hl : l.Sound) (h : Leads names scope l l') :
    l'.Sound := by
  induction h with
  | refl => exact hl
  | record text edits description _ _ ih => exact (ih.record _ text edits description).1
  | erase _ _ ih => exact ih.erase _
  | clear _ _ ih => exact ih.clear _

/-- What was not recorded, dropped or cleared is pending as before, with its baseline. -/
theorem Leads.frame {scope : Scope} (hl : l.Sound) (h : Leads names scope l l')
    (hrecords : ¬ scope.records path) (hdrops : ∀ c ∈ l.pending path, ¬ scope.drops c.id)
    (hclears : ¬ scope.clears path) :
    l'.pending path = l.pending path ∧ l'.baseline path = l.baseline path := by
  -- each step records, drops or clears what the scope allows, and the file is out of it
  induction h with
  | refl => exact ⟨rfl, rfl⟩
  | @record l₁ other text edits description _ hpath ih =>
    have hother : other ≠ path := fun heq => hrecords (heq ▸ hpath)
    rw [pending_record, Workspace.baseline_record, if_neg hother, if_neg hother, List.append_nil]
    exact ih
  | @erase l₁ id h₁ hid ih =>
    obtain ⟨hpending, hbaseline⟩ := (h₁.sound hl).loses_erase id path
    rw [hpending, hbaseline, ih.1]
    refine ⟨?_, ih.2⟩
    rw [List.filter_eq_self]
    intro c hc
    have hkept := hdrops c hc
    simpa using fun heq : c.id = id => hkept (heq ▸ hid)
  | @clear l₁ other _ hpath ih =>
    have hother : other ≠ path := fun heq => hclears (heq ▸ hpath)
    rw [Workspace.baseline_clear, if_neg hother, pending, setOf_clear, if_neg hother]
    exact ih

/-- A file with a baseline had one before, or its set was opened on the way. -/
theorem Leads.baseline {scope : Scope} (hl : l.Sound) (h : Leads names scope l l')
    (hsome : (l'.baseline path).isSome) : (l.baseline path).isSome ∨ scope.records path := by
  -- only recording opens a set, and only for a file that the scope allows
  induction h with
  | refl => exact .inl hsome
  | @record l₁ other text edits description _ hpath ih =>
    rw [Workspace.baseline_record] at hsome
    split at hsome
    · rename_i heq
      exact .inr (heq ▸ hpath)
    · exact ih hsome
  | erase h₁ _ ih =>
    rw [Workspace.baseline_erase (h₁.sound hl)] at hsome
    exact ih hsome
  | clear _ _ ih =>
    rw [Workspace.baseline_clear] at hsome
    split at hsome
    · simp at hsome
    · exact ih hsome

end Ledger

namespace Session

variable {s : Session σ} {w : Workspace σ} {names : Identifiers}

/-! ## Verdicts -/

theorem leads_approve {scope : Ledger.Scope} {id : String} (hid : scope.drops id) :
    Ledger.Leads names scope w.ledger (w.approve id).2.ledger := by
  rcases Workspace.ledger_approve w id with heq | heq <;> rw [heq]
  · exact .refl
  · exact Ledger.Leads.refl.erase hid

theorem leads_reject {scope : Ledger.Scope} {id : String} (h : Host σ) (hid : scope.drops id) :
    Ledger.Leads names scope w.ledger (w.reject h id).2.ledger := by
  rcases Workspace.ledger_reject h w id with heq | heq <;> rw [heq]
  · exact .refl
  · exact Ledger.Leads.refl.erase hid

theorem leads_approveEach {scope : Ledger.Scope} {changes : List PendingChange}
    (hdrops : ∀ c ∈ changes, scope.drops c.id) :
    Ledger.Leads names scope w.ledger (approveEach w changes).2.ledger := by
  induction changes generalizing w with
  | nil => exact .refl
  | cons c rest ih =>
    rw [List.forall_mem_cons] at hdrops
    exact (leads_approve hdrops.1).trans (ih hdrops.2)

theorem leads_rejectEach {scope : Ledger.Scope} {changes : List PendingChange} (h : Host σ)
    (hdrops : ∀ c ∈ changes, scope.drops c.id) :
    Ledger.Leads names scope w.ledger (rejectEach h w changes).2.ledger := by
  induction changes generalizing w with
  | nil => exact .refl
  | cons c rest ih =>
    rw [List.forall_mem_cons] at hdrops
    have hfirst : Ledger.Leads names scope w.ledger (w.reject h c.id).2.ledger := leads_reject h hdrops.1
    rw [rejectEach]
    -- the rejections end where one of them fails
    rcases hreject : w.reject h c.id with ⟨f | taken, w₁⟩
    · rw [hreject] at hfirst
      exact hfirst
    · rw [hreject] at hfirst
      exact hfirst.trans (ih hdrops.2)

/-! ## Requests -/

/-- What a request may touch. One that is refused drops what it recorded, and the identifiers of that are not known
beforehand. -/
def requestScope (s : Session σ) (request : Request) (track : Bool) : Ledger.Scope where
  records := fun path => track = true ∧ path = s.host.key request.filePath
  drops := fun _ => True

theorem leads_make {path : String} {request : Request} {edits : List Edit} {changes : List PendingChange}
    {track : Bool} {w₁ : Workspace σ}
    (h : Ledger.Leads s.names (s.requestScope request track) w.ledger w₁.ledger) :
    Ledger.Leads s.names (s.requestScope request track) w.ledger
      (s.make w₁ path request edits changes track).2.ledger := by
  rcases make_cases s w₁ path request edits changes track with ⟨-, hledger⟩ | ⟨-, -, hledger⟩ | ⟨-, hledger, -⟩
  all_goals rw [hledger]
  · exact h
  · exact h.discard fun _ _ => trivial
  · exact h

theorem leads_apply (s : Session σ) (w : Workspace σ) (request : Request) (track : Bool) :
    Ledger.Leads s.names (s.requestScope request track) w.ledger (s.apply w request track).2.ledger := by
  unfold apply
  by_cases hne : request.instructions.isEmpty = true
  · rw [if_pos hne]
    exact .refl
  rw [if_neg hne]
  rcases s.compile w.files (s.host.key request.filePath) request with f | ⟨document, edits⟩
  · rcases f with ⟨e, culprit⟩ | _
    · rw [ledger_refuse]
      exact .refl
    all_goals exact .refl
  · unfold recordEdits
    cases track with
    | false => exact leads_make .refl
    | true =>
      -- the changes are recorded for the file that the request names
      have hrecords : (s.requestScope request true).records (s.host.key request.filePath) := ⟨rfl, rfl⟩
      simp only [if_true]
      rcases Workspace.record_cases s.host s.names
        (w.tell (s.compileNotes w.files (s.host.key request.filePath) request)) (s.host.key request.filePath)
        edits (if request.comment.isEmpty then "No comment" else request.comment) with
        ⟨-, -, f, hrecord⟩ | ⟨text, notes, -, hrecord⟩
      · rw [hrecord]
        exact .refl
      · rw [hrecord]
        exact leads_make (Ledger.Leads.refl.record text edits _ hrecords)

/-! ## Actions -/

/-- What an action may touch. -/
def Action.scope (s : Session σ) (w : Workspace σ) : Action σ → Ledger.Scope
  | .preview _ | .disturb _ => {}
  | .apply request track => s.requestScope request track
  | .approve change | .reject change => { drops := (· = change) }
  | .approveAll path | .rejectAll path => { drops := fun id => ∃ c ∈ s.pending w path, c.id = id }
  | .saveAndClear path => { clears := (· = s.host.key path) }

theorem leads_run (s : Session σ) (w : Workspace σ) (action : Action σ) :
    Ledger.Leads s.names (action.scope s w) w.ledger (action.run s w).2.ledger := by
  -- what each action may touch is what its scope says
  cases action with
  | preview request =>
    have hsame : (s.preview w request).2.ledger = w.ledger := by
      unfold preview
      simp only
      split
      · rfl
      · split <;> rfl
    exact hsame ▸ .refl
  | apply request track => exact leads_apply s w request track
  | approve change => exact leads_approve rfl
  | reject change => exact leads_reject s.host rfl
  | approveAll path => exact leads_approveEach fun c hc => ⟨c, hc, rfl⟩
  | rejectAll path => exact leads_rejectEach s.host fun c hc => ⟨c, List.mem_mergeSort.mp hc, rfl⟩
  | saveAndClear path =>
    have hcases : (s.saveAndClear w path).2.ledger = w.ledger.clear (s.host.key path) ∨
        (s.saveAndClear w path).2.ledger = w.ledger := by
      unfold saveAndClear
      simp only
      split
      · exact .inl (Workspace.ledger_clear w _)
      · exact .inr rfl
    rcases hcases with heq | heq
    · exact heq ▸ Ledger.Leads.refl.clear rfl
    · exact heq ▸ .refl
  | disturb change => exact .refl

/-! ## Runs -/

/-- Along a run the ledger stays sound, and every baseline that is new was opened by a tracked request. -/
theorem runAll_tracked (hsound : w.ledger.Sound) (run : List (Action σ)) :
    (s.runAll w run).2.ledger.Sound ∧ ∀ path, ((s.runAll w run).2.ledger.baseline path).isSome →
      (w.ledger.baseline path).isSome ∨
        ∃ request, .apply request true ∈ run ∧ path = s.host.key request.filePath := by
  -- on the actions: a baseline at the end was there before the rest, or is opened in it
  induction run generalizing w with
  | nil => exact ⟨hsound, fun path h => .inl h⟩
  | cons action rest ih =>
    have hleads := leads_run s w action
    obtain ⟨hrest, htracked⟩ := ih (hleads.sound hsound)
    refine ⟨hrest, fun path hsome => ?_⟩
    rcases htracked path hsome with hhere | ⟨request, hmem, rfl⟩
    · rcases hleads.baseline hsound hhere with hbefore | hrecords
      · exact .inl hbefore
      · -- of all actions only a tracked request records
        cases action with
        | apply request track =>
          obtain ⟨rfl, heq⟩ : track = true ∧ path = s.host.key request.filePath := hrecords
          exact .inr ⟨request, List.mem_cons_self, heq⟩
        | preview | approve | reject | approveAll | rejectAll | saveAndClear | disturb => exact hrecords.elim
    · exact .inr ⟨request, List.mem_cons_of_mem _ hmem, rfl⟩

/-- After a run from an empty ledger, a file with a baseline is the file of a tracked request. -/
theorem tracked_of_baseline (files : σ) (run : List (Action σ)) {path : String}
    (hsome : ((s.runAll { files } run).2.ledger.baseline path).isSome) :
    ∃ request, .apply request true ∈ run ∧ path = s.host.key request.filePath := by
  have hempty : ({ files } : Workspace σ).ledger.Sound := Ledger.sound_of_sets_nil rfl
  rcases (runAll_tracked hempty run).2 path hsome with hnone | htracked
  · simp [Ledger.baseline, Ledger.setOf] at hnone
  · exact htracked

/-! ## Keeping every change -/

/-- Changes that are there are all kept. -/
theorem approveEach_eq (hsound : w.ledger.Sound) {changes : List PendingChange}
    (hthere : ∀ c ∈ changes, c.id ∈ w.ledger.ids) (hnodup : (changes.map (·.id)).Nodup) :
    (approveEach w changes).1 = changes.length ∧
      (approveEach w changes).2.ledger = w.ledger.discard (changes.map (·.id)) ∧
      (approveEach w changes).2.verdicts = w.verdicts ++ changes.map fun c => (c.id, .approved) := by
  induction changes generalizing w with
  | nil => exact ⟨rfl, rfl, (List.append_nil _).symm⟩
  | cons c rest ih =>
    rw [List.forall_mem_cons] at hthere
    rw [List.map_cons, List.nodup_cons] at hnodup
    rcases Workspace.approve_cases w c.id with ⟨hnone, -⟩ | ⟨d, -, hkept, -, hledger, hverdicts⟩
    · exact absurd hthere.1 (Ledger.find_eq_none_iff.mp hnone)
    -- the other changes have other identifiers, so they are still there
    · have hleft : ∀ d ∈ rest, d.id ∈ (w.approve c.id).2.ledger.ids := by
        intro d hd
        rw [hledger, hsound.mem_ids_erase]
        exact ⟨hthere.2 d hd, fun heq => hnodup.1 (heq ▸ List.mem_map_of_mem hd)⟩
      obtain ⟨hcount, hrest, hmore⟩ := ih (hledger ▸ hsound.erase c.id) hleft hnodup.2
      rw [approveEach]
      refine ⟨?_, ?_, ?_⟩
      · simp [hcount, hkept]
      · rw [hrest, hledger]
        rfl
      · rw [hmore, hverdicts]
        simp

/-- All changes of a file are kept, and none is left. -/
theorem approveAll_eq (hsound : w.ledger.Sound) (path : String) :
    (s.approveAll w path).1 = (s.pending w path).length ∧
      (s.approveAll w path).2.verdicts
        = w.verdicts ++ (s.pending w path).map (fun c => (c.id, .approved)) ∧
      s.pending (s.approveAll w path).2 path = [] := by
  have hthere : ∀ c ∈ s.pending w path, c.id ∈ w.ledger.ids := fun c hc => Ledger.id_mem_ids_of_pending hc
  obtain ⟨hcount, hledger, hverdicts⟩ := approveEach_eq hsound hthere (hsound.nodup_pending _)
  refine ⟨hcount, hverdicts, ?_⟩
  rw [pending, approveAll, hledger, hsound.pending_discard]
  exact Ledger.without_all fun c hc => hc

end Session

end Emend
