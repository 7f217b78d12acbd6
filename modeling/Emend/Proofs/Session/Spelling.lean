import Emend.Host.Files
import Emend.Proofs.Path
import Emend.Proofs.Session.Scope

/-!
# Spellings of a path

A file that is given by two paths has one key exactly if the paths are the same, or if neither is an absolute path
with something to be normalized away (`resolve_eq_iff`): only relative paths are normalized. With one key, what was
recorded through one path is found, approved, rejected and cleared through the other, and nothing of it otherwise
(`resolve_spellings`). The other path then opens a second change set of the file, with a baseline of its own
(`resolve_spellings_twice`).

Main statements:

* `resolve_eq_iff`, `resolve_eq_place_iff`: which paths have one key.
* `record_of_apply_ok`: what a request records it records under the key.
* `resolve_spellings`: what is found through the other path.
-/

namespace Emend

/-! ## Keys -/

namespace FileHost

variable {h : FileHost} {p q : String}

/-- The file of a path: the path behind the root, normalized. -/
def place (h : FileHost) (p : String) : List Char := Path.normalize (Path.join h.root.toList p.toList)

/-- There is nothing to be normalized away in the path, if it is absolute. -/
def Tidy (p : String) : Prop := Path.isAbsolute p.toList = true → Path.normalize p.toList = p.toList

instance (p : String) : Decidable (Tidy p) :=
  inferInstanceAs (Decidable (Path.isAbsolute p.toList = true → Path.normalize p.toList = p.toList))

/-- The key of a path is its file exactly if the path is tidy. -/
theorem resolve_eq_place_iff : h.resolve p = String.ofList (h.place p) ↔ Tidy p := by
  unfold resolve place Tidy
  by_cases habsolute : Path.isAbsolute p.toList = true
  -- an absolute path is taken as it is, so it has to be normalized already
  · rw [if_pos habsolute, Path.join_of_isAbsolute _ habsolute, imp_iff_right habsolute]
    constructor
    · intro heq
      rw [← String.toList_inj, String.toList_ofList] at heq
      exact heq.symm
    · intro heq
      rw [heq, String.ofList_toList]
  · rw [if_neg habsolute]
    exact iff_of_true rfl fun h => absurd h habsolute

theorem resolve_of_not_tidy (hp : ¬ Tidy p) : h.resolve p = p := by
  have habsolute : Path.isAbsolute p.toList = true := by
    by_contra hno
    exact hp fun h => absurd h hno
  exact if_pos habsolute

/-- Two paths of one file have one key exactly if they are the same or both are tidy. -/
theorem resolve_eq_iff (hsame : h.place p = h.place q) :
    h.resolve p = h.resolve q ↔ p = q ∨ Tidy p ∧ Tidy q := by
  constructor
  · intro heq
    -- a tidy path resolves to the place itself, and only another tidy one can do so
    by_cases hp : Tidy p
    · rw [resolve_eq_place_iff.mpr hp, hsame] at heq
      exact .inr ⟨hp, resolve_eq_place_iff.mp heq.symm⟩
    · by_cases hq : Tidy q
      · rw [resolve_eq_place_iff.mpr hq, ← hsame] at heq
        exact absurd (resolve_eq_place_iff.mp heq) hp
      · rw [resolve_of_not_tidy hp, resolve_of_not_tidy hq] at heq
        exact .inl heq
  · rintro (rfl | ⟨hp, hq⟩)
    · rfl
    · rw [resolve_eq_place_iff.mpr hp, resolve_eq_place_iff.mpr hq, hsame]

/-- A file is normalized. -/
theorem normalize_place (hroot : Path.isAbsolute h.root.toList = true) (p : String) :
    Path.normalize (h.place p) = h.place p :=
  Path.normalize_normalize (Path.isAbsolute_join hroot)

end FileHost

/-! ## Reviewing through another path -/

namespace Session

variable {σ : Type} {s : Session σ} {w w' : Workspace σ} {p q : String} {request : Request} {done : Applied}

/-- What is pending for one path is found, kept, taken back and cleared through another one. -/
structure Shares (s : Session σ) (w : Workspace σ) (p q : String) : Prop where
  pending : s.pending w q = s.pending w p
  approveAll : (s.approveAll w q).1 = (s.pending w p).length ∧ s.pending (s.approveAll w q).2 p = [] ∧
    (s.approveAll w q).2.verdicts = w.verdicts ++ (s.pending w p).map fun c => (c.id, .approved)
  rejectAll : s.rejectAll w q = s.rejectAll w p
  saveAndClear : (s.saveAndClear w q).1 = true → s.pending (s.saveAndClear w q).2 p = [] ∧
    (s.saveAndClear w q).2.ledger.baseline (s.host.key p) = none

/-- Nothing of what is pending for one path is found through another one, and reviewing through that leaves it
alone. -/
structure Splits (s : Session σ) (w : Workspace σ) (p q : String) : Prop where
  pending : ∀ c ∈ s.pending w p, c ∉ s.pending w q
  approveAll : s.pending (s.approveAll w q).2 p = s.pending w p
  rejectAll : s.pending (s.rejectAll w q).2 p = s.pending w p
  saveAndClear : s.pending (s.saveAndClear w q).2 p = s.pending w p ∧
    (s.saveAndClear w q).2.ledger.baseline (s.host.key p) = w.ledger.baseline (s.host.key p)

theorem shares_of_key_eq (hsound : w.ledger.Sound) (hkey : s.host.key p = s.host.key q) : s.Shares w p q := by
  have hpending : s.pending w q = s.pending w p := by rw [pending, pending, hkey]
  -- everything that is done through a path is done through its key
  obtain ⟨hcount, hverdicts, hnone⟩ := approveAll_eq (s := s) hsound q
  rw [hpending] at hcount hverdicts
  refine ⟨hpending, ⟨hcount, ?_, hverdicts⟩, ?_, ?_⟩
  · rw [pending, hkey]
    exact hnone
  · rw [rejectAll, rejectAll, reviewOrder, reviewOrder, hpending]
  · intro hsaved
    have hledger : (s.saveAndClear w q).2.ledger = w.ledger.clear (s.host.key q) := by
      unfold saveAndClear at hsaved ⊢
      simp only at hsaved ⊢
      split at hsaved
      · rw [if_pos ‹_›]
        exact Workspace.ledger_clear w _
      · simp at hsaved
    rw [pending, hledger, hkey, Ledger.pending, Ledger.setOf_clear, Workspace.baseline_clear]
    simp

theorem splits_of_key_ne (hsound : w.ledger.Sound)
    (hkey : s.host.key p ≠ s.host.key q) : s.Splits w p q := by
  have hapart : ∀ c ∈ s.pending w p, c ∉ s.pending w q := by
    intro c hp hq
    exact hkey ((hsound.path_of_pending hp).symm.trans (hsound.path_of_pending hq))
  -- an identifier of the other file would be that of the same change
  have hids : ∀ c ∈ s.pending w p, ¬ ∃ d ∈ s.pending w q, d.id = c.id := by
    rintro c hp ⟨d, hq, hid⟩
    have hfound : w.ledger.find c.id = some d := hid ▸ hsound.find_of_pending hq
    have heq : d = c := Option.some.inj (hfound.symm.trans (hsound.find_of_pending hp))
    exact hapart c hp (heq ▸ hq)
  have hframe : ∀ action : Action σ, (∀ c ∈ s.pending w p, ¬ (action.scope s w).drops c.id) →
      ¬ (action.scope s w).records (s.host.key p) → ¬ (action.scope s w).clears (s.host.key p) →
      s.pending (action.run s w).2 p = s.pending w p ∧
        (action.run s w).2.ledger.baseline (s.host.key p) = w.ledger.baseline (s.host.key p) :=
    fun action hdrops hrecords hclears => (leads_run s w action).frame hsound hrecords hdrops hclears
  exact {
    pending := hapart
    approveAll := (hframe (.approveAll q) hids id id).1
    rejectAll := (hframe (.rejectAll q) hids id id).1
    saveAndClear := hframe (.saveAndClear q) (fun _ _ => id) id hkey }

/-! ## Accepted requests -/

theorem make_eq_ok {path : String} {edits : List Edit} {changes : List PendingChange} {track : Bool}
    (h : s.make w path request edits changes track = (.ok done, w')) :
    done.edits = edits ∧ done.changes = changes ∧ w'.ledger = w.ledger := by
  have hcases := make_cases s w path request edits changes track
  simp only [h, reduceCtorEq, and_false, exists_false, false_and, false_or, Except.ok.injEq] at hcases
  obtain ⟨-, hledger, message, rfl⟩ := hcases
  exact ⟨rfl, rfl, hledger⟩

/-- The changes of an accepted request were recorded for the file that it names, one for each instruction. -/
theorem record_of_apply_ok (hne : request.instructions ≠ []) (happ : s.apply w request = (.ok done, w')) :
    done.changes.length = request.instructions.length ∧ done.changes.map (·.edit) = done.edits ∧
      ∃ text, (done.changes, w'.ledger)
        = w.ledger.record s.names (s.host.key request.filePath) text done.edits (remark request) := by
  rcases hcompile : s.compile w.files (s.host.key request.filePath) request with f | ⟨document, edits⟩
  -- a request that is not compiled is no success
  · have hsome : request.instructions.isEmpty = false := by simpa using hne
    unfold apply at happ
    simp only [hsome, Bool.false_eq_true, if_false, hcompile] at happ
    rcases f with ⟨e, culprit⟩ | _
    · simp only [refuse] at happ
      split at happ <;> simp at happ
    all_goals simp at happ
  · obtain ⟨given, hread⟩ := read_of_compile hcompile
    rcases Workspace.record_cases s.host s.names
      (w.tell (s.compileNotes w.files (s.host.key request.filePath) request)) (s.host.key request.filePath) edits
      (remark request) with ⟨-, hnone, -⟩ | ⟨text, notes, -, hrecord⟩
    · simp [Workspace.tell, Workspace.given_of_read hread] at hnone
    -- a request that succeeds was recorded, and what it returns is what was recorded
    · rw [apply_eq_make rfl hne hcompile hrecord] at happ
      obtain ⟨rfl, hchanges, hledger⟩ := make_eq_ok happ
      have hedits : done.changes.map (·.edit) = done.edits := hchanges ▸ Ledger.record_edits _ _ _ _ _ _
      refine ⟨?_, hedits, text, Prod.ext hchanges hledger⟩
      rw [← length_edits_of_compile hcompile, ← hedits, List.length_map]

end Session

/-! ## One file, two paths -/

namespace FileHost

variable {σ : Type} {h : FileHost} {s : Session σ} {w : Workspace σ} {p q : String}

/-- Two paths of one file have one key exactly if they are the same or both are tidy. With one key, the changes of a
request that names one of them are reviewed through the other like through the first; with two keys, nothing of them
is found through the other, and each key has a baseline of its own. As long as tracked requests name files by tidy
paths, no file has two baselines. -/
theorem resolve_spellings (hs : s.host.key = h.resolve) (hroot : Path.isAbsolute h.root.toList = true)
    (files : σ) (run : List (Session.Action σ))
    (hw : (s.runAll { files } run).2 = w) (hsame : h.place p = h.place q) :
    (h.resolve p = h.resolve q ↔ p = q ∨ Tidy p ∧ Tidy q) ∧
    (∀ request done w', request.filePath = p → request.instructions ≠ [] →
      s.apply w request = (.ok done, w') →
        done.changes.length = request.instructions.length ∧
        s.pending w' p = s.pending w p ++ done.changes ∧
        (w'.ledger.baseline (h.resolve p)).isSome ∧
        (∀ key, key ≠ h.resolve p → w'.ledger.baseline key = w.ledger.baseline key) ∧
        (h.resolve p = h.resolve q → s.Shares w' p q) ∧ (h.resolve p ≠ h.resolve q → s.Splits w' p q)) ∧
    ((∀ request, .apply request true ∈ run → Tidy request.filePath) → ∀ a b,
      (w.ledger.baseline a).isSome → (w.ledger.baseline b).isSome →
        Path.normalize a.toList = Path.normalize b.toList → a = b) := by
  have hempty : ({ files } : Workspace σ).ledger.Sound := Ledger.sound_of_sets_nil rfl
  have hsound : w.ledger.Sound := hw ▸ (Session.runAll_tracked hempty run).1
  refine ⟨resolve_eq_iff hsame, ?_, ?_⟩
  · rintro request done w' rfl hne happ
    obtain ⟨hlength, -, text, hrecord⟩ := Session.record_of_apply_ok hne happ
    have hchanges : done.changes = _ := congrArg Prod.fst hrecord
    have hledger : w'.ledger = _ := congrArg Prod.snd hrecord
    rw [← hs]
    have hsound' : w'.ledger.Sound := hledger ▸ (hsound.record _ text done.edits _).1
    refine ⟨hlength, ?_, ?_, ?_, Session.shares_of_key_eq hsound', Session.splits_of_key_ne hsound'⟩
    · rw [Session.pending, hledger, Ledger.pending_record, if_pos rfl, ← hchanges]
      rfl
    · rw [hledger, Workspace.baseline_record, if_pos rfl]
      rfl
    · intro key hkey
      rw [hledger, Workspace.baseline_record, if_neg (Ne.symm hkey)]
  · intro htidy a b ha hb heq
    -- a key of a tidy path is normalized
    have hnormal : ∀ key, (w.ledger.baseline key).isSome → Path.normalize key.toList = key.toList := by
      intro key hsome
      subst hw
      obtain ⟨request, hmem, rfl⟩ := Session.tracked_of_baseline files run hsome
      rw [hs, resolve_eq_place_iff.mpr (htidy request hmem), String.toList_ofList, normalize_place hroot]
    rw [hnormal a ha, hnormal b hb] at heq
    exact String.toList_inj.mp heq

/-- A session on files that logs nothing. -/
def project : Session Disk where
  host := ({ root := "/p", registry := {} } : FileHost).host
  settings := { projectRoot := "/p", metricsEnabled := false }
  registry := {}
  names := Ledger.strokes
  log := fun d _ => (.ok d, [])

/-- A file of one line. -/
def oneFile : Disk := { entries := [(["p"], .folder), (["p", "a.txt"], .file (Text.encode "a".toList))] }

/-- Give the line of the file another text. -/
def lineRequest (path : String) (text : List Char) : Request := ⟨path, [⟨.replace, .lines 1 1, text⟩], ""⟩

/-- The file is edited through a relative path and then through an absolute one. Both edits are pending for the
relative path, and kept through it. -/
theorem resolve_spellings_tidy :
    let h : FileHost := { root := "/p", registry := {} }
    let run := [Session.Action.apply (lineRequest "a.txt" ['A']) true]
    let w := (project.runAll { files := oneFile } run).2
    let second := project.apply w (lineRequest "/p/a.txt" ['B'])
    project.host.key = h.resolve ∧ Path.isAbsolute h.root.toList = true ∧
      h.place "/p/a.txt" = h.place "a.txt" ∧ h.resolve "/p/a.txt" = h.resolve "a.txt" ∧
      (∃ done, second.1 = .ok done ∧ done.changes.length = 1 ∧
        project.pending second.2 "/p/a.txt" = project.pending w "/p/a.txt" ++ done.changes) ∧
      (project.approveAll second.2 "a.txt").1 = 2 ∧
      project.pending (project.approveAll second.2 "a.txt").2 "/p/a.txt" = [] := by
  intro h run w second
  have hs : project.host.key = h.resolve := rfl
  have hroot : Path.isAbsolute h.root.toList = true := by decide
  have hsame : h.place "/p/a.txt" = h.place "a.txt" := by decide +kernel
  obtain ⟨hiff, haccepted, -⟩ := resolve_spellings hs hroot oneFile run rfl hsame
  have hkey : h.resolve "/p/a.txt" = h.resolve "a.txt" := hiff.mpr (.inr (by decide +kernel))
  have hdone : second.1.toOption.isSome = true := by decide +kernel
  obtain ⟨done, hdone⟩ := Option.isSome_iff_exists.mp hdone
  have happ : project.apply w (lineRequest "/p/a.txt" ['B']) = (.ok done, second.2) :=
    Prod.ext (Attempt.toOption_eq_some.mp hdone) rfl
  -- the second request goes through another spelling with the same key
  obtain ⟨hlength, hpending, -, -, hshares, -⟩ :=
    haccepted _ done second.2 rfl (List.cons_ne_nil _ _) happ
  obtain ⟨hcount, hnone, -⟩ := (hshares hkey).approveAll
  have htwo : (project.pending second.2 "/p/a.txt").length = 2 := by decide +kernel
  exact ⟨hs, hroot, hsame, hkey, ⟨done, congrArg Prod.fst happ, hlength, hpending⟩, hcount.trans htwo, hnone⟩

/-- An absolute path with a point that leads nowhere is not normalized. What was recorded through the relative path is
not found through it, and an edit through it gives the file a second baseline. -/
theorem resolve_spellings_twice :
    let h : FileHost := { root := "/p", registry := {} }
    let w := (project.runAll { files := oneFile } [.apply (lineRequest "a.txt" ['A']) true]).2
    let second := (project.apply w (lineRequest "/p/./a.txt" ['B'])).2
    h.place "a.txt" = h.place "/p/./a.txt" ∧ h.resolve "a.txt" = "/p/a.txt" ∧
      h.resolve "/p/./a.txt" = "/p/./a.txt" ∧ (project.pending w "a.txt").length = 1 ∧
      project.pending w "/p/./a.txt" = [] ∧ (project.approveAll w "/p/./a.txt").1 = 0 ∧
      second.ledger.baseline "/p/a.txt" = some ['a'] ∧ second.ledger.baseline "/p/./a.txt" = some ['A'] := by
  intro h w second
  -- each part is read off the two runs
  exact ⟨by decide +kernel, by decide +kernel, by decide +kernel, by decide +kernel, by decide +kernel,
    by decide +kernel, by decide +kernel, by decide +kernel⟩

end FileHost

end Emend
