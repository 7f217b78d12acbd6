import Emend.Proofs.Session.Request

/-!
# Rejecting the latest change

Whatever requests and decisions came before, the change of a request with one edit can be rejected right
away. But its range then gets what the text had there when the set of the file was opened
(`reject_latest`), and that is not always what the edit replaced (`reject_latest_older_text`).

Main statements:

* `inReview_make`, `inReview_step`, `inReview_reachable`: one action keeps the workspace in review, and so does a run.
* `reject_latest`: the latest change can be rejected, and what the text is then.
* `reject_latest_other_line`, `reject_latest_older_text`: with its own old text back, and with an older one.
-/

namespace Emend.Session

variable {σ : Type} {s : Session σ} {good : σ → Prop} {path : String} {strict : Bool}
  {w₀ w w' w₁ : Workspace σ} {request : Request} {original live : List Char} {done : Applied}

/-! ## What can be done about one file -/

/-- Make a tracked request for a file, or decide on a change. -/
inductive Step (s : Session σ) (path : String) : Workspace σ → Workspace σ → Prop
  | request (w : Workspace σ) (r : Request) (hkey : s.host.key r.filePath = path) :
    Step s path w (s.apply w r).2
  | approve (w : Workspace σ) (id : String) : Step s path w (w.approve id).2
  | reject (w : Workspace σ) (id : String) : Step s path w (w.reject s.host id).2

/-- The workspaces that steps lead to. -/
inductive Reachable (s : Session σ) (path : String) (w₀ : Workspace σ) : Workspace σ → Prop
  | start : Reachable s path w₀ w₀
  | step {w w' : Workspace σ} (hreach : Reachable s path w₀ w) (hstep : Step s path w w') :
    Reachable s path w₀ w'

theorem Reachable.approveEach {changes : List PendingChange} (h : Reachable s path w₀ w) :
    Reachable s path w₀ (Session.approveEach w changes).2 := by
  induction changes generalizing w with
  | nil => exact h
  | cons c rest ih =>
    rw [Session.approveEach]
    exact ih (h.step (.approve w c.id))

theorem Reachable.rejectEach {changes : List PendingChange} (h : Reachable s path w₀ w) :
    Reachable s path w₀ (Session.rejectEach s.host w changes).2 := by
  induction changes generalizing w with
  | nil => exact h
  | cons c rest ih =>
    have hstep := h.step (.reject w c.id)
    rw [Session.rejectEach]
    -- a rejection that fails is the last step
    rcases hreject : w.reject s.host c.id with ⟨f | taken, w₁⟩
    · rw [hreject] at hstep
      exact hstep
    · rw [hreject] at hstep
      exact ih hstep

/-! ## The invariant -/

/-- Nothing is tracked and the file has its original text, or the set of the file is the only one, and was
opened for the original text. -/
inductive InReview (s : Session σ) (good : σ → Prop) (path : String) (original : List Char)
    (w : Workspace σ) : Prop
  | untouched (hsets : w.ledger.sets = []) (hgood : good w.files)
    (hread : s.host.read w.files path = .ok original)
  | tracked {live : List Char} {changes : List PendingChange}
    (hw : w.Holds s.host good [] path original live changes)

theorem InReview.of_agrees (h : InReview s good path original w)
    (hagrees : w.Agrees s.host good path w') : InReview s good path original w' := by
  rcases h with ⟨hsets, hgood, hread⟩ | hw
  · refine .untouched ?_ (hagrees.good hgood) ?_
    · rw [hagrees.ledger, hsets]
    · rw [hagrees.read hgood, hread]
  · exact .tracked (hw.of_agrees hagrees)

theorem setOf_of_sets {l : Ledger} (h : l.sets = []) : l.setOf path = none := by
  rw [Ledger.setOf, h]
  rfl

theorem find_of_sets {l : Ledger} (h : l.sets = []) (id : String) : l.find id = none := by
  rw [Ledger.find, h]
  rfl

/-- The only set that there is knows every change that is found. -/
theorem mem_of_find {l : Ledger} {changes : List PendingChange} {id : String} {c : PendingChange}
    (h : l.Tracks [] path original changes) (hfind : l.find id = some c) : c ∈ changes ∧ c.id = id := by
  rw [h.find_eq (by simp)] at hfind
  exact ⟨List.mem_of_find?_eq_some hfind, by simpa using List.find?_some hfind⟩

/-- A request that is recorded is made or refused; the set of the file stays open either way. -/
theorem inReview_make {changes more : List PendingChange} {edits : List Edit}
    (hs : s.Healthy path strict good)
    (hw : w.Holds s.host good [] path original live changes) (hmore : more ⊆ changes) :
    InReview s good path original (s.make w path request edits more true).2 := by
  rcases happly : applyEdits live edits strict with cause | after
  · obtain ⟨f, w', left, hmake, hw'⟩ := hs.make_refused request hw hmore happly
    rw [hmake]
    exact .tracked hw'
  · exact .tracked (hs.make_made request more hw happly).1

/-- Every step keeps the invariant. -/
theorem inReview_step (hs : s.Healthy path strict good)
    (h : InReview s good path original w) (hstep : Step s path w w') :
    InReview s good path original w' := by
  cases hstep with
  | request r hkey =>
    -- the set is opened for the original text, or is open already
    by_cases hne : r.instructions = []
    · have hsame : (s.apply w r).2 = w := by simp [Session.apply, hne]
      rw [hsame]
      exact h
    · rcases hcompile : s.compile w.files path r with f | ⟨document, edits⟩
      · obtain ⟨g, w₁, hrefused, hagrees⟩ := hs.apply_refused hkey hne hcompile
        rw [hrefused]
        exact h.of_agrees hagrees
      · rcases h with ⟨hsets, hgood, hread⟩ | hw
        · obtain ⟨more, w₁, hmake, hw₁, -⟩ :=
            apply_first hkey hne hgood hread (setOf_of_sets hsets) hcompile
          rw [hsets] at hw₁
          rw [hmake]
          exact inReview_make hs hw₁ (List.Subset.refl _)
        · obtain ⟨more, w₁, hmake, hw₁, -⟩ := apply_later hkey hne hw hcompile
          rw [hmake]
          exact inReview_make hs hw₁ (List.subset_append_right _ _)
  | approve id =>
    rcases hfind : w.ledger.find id with _ | c
    · have hsame : (w.approve id).2 = w := by simp [Workspace.approve, hfind]
      rw [hsame]
      exact h
    · rcases h with ⟨hsets, -, -⟩ | hw
      · simp [find_of_sets hsets] at hfind
      · obtain ⟨hc, rfl⟩ := mem_of_find hw.tracks hfind
        obtain ⟨w₁, happrove, hw₁⟩ := hw.approve hc
        rw [happrove]
        exact .tracked hw₁
  | reject id =>
    rcases hfind : w.ledger.find id with _ | c
    · have hsame : (w.reject s.host id).2 = w := by simp [Workspace.reject, hfind]
      rw [hsame]
      exact h
    · rcases h with ⟨hsets, -, -⟩ | @⟨live, changes, hw⟩
      · simp [find_of_sets hsets] at hfind
      · obtain ⟨hc, rfl⟩ := mem_of_find hw.tracks hfind
        rcases happly : applyEdits live [c.edit.undo original] with cause | after
        · obtain ⟨w₁, hreject, hw₁⟩ := hw.reject_refused hs.host hc happly
          rw [hreject]
          exact .tracked hw₁
        · obtain ⟨w₁, hreject, hw₁⟩ := hw.reject_taken hs.host hc happly
          rw [hreject]
          exact .tracked hw₁

/-- So does every run. -/
theorem inReview_reachable (hs : s.Healthy path strict good)
    (hstart : InReview s good path original w₀) (hreach : Reachable s path w₀ w) :
    InReview s good path original w := by
  induction hreach with
  | start => exact hstart
  | step _ hstep ih => exact inReview_step hs ih hstep

/-! ## The latest change -/

/-- In a workspace that a run leads to, an accepted request leaves its changes pending. -/
theorem inReview_accepted (hs : s.Healthy path strict good)
    (hkey : s.host.key request.filePath = path) (hne : request.instructions ≠ [])
    (h : InReview s good path original w) (hread : s.host.read w.files path = .ok live)
    (happ : s.apply w request = (.ok done, w₁)) :
    ∃ document after changes, s.compile w.files path request = .ok (document, done.edits) ∧
      applyEdits live done.edits strict = .ok after ∧
      w₁.Holds s.host good [] path original after (changes ++ done.changes) ∧
      done.changes.map (·.edit) = done.edits := by
  -- the request opens the set of the file, or adds to the one that is open
  rcases h with ⟨hsets, hgood, horiginal⟩ | hw
  · obtain rfl : original = live := Except.ok.inj (horiginal.symm.trans hread)
    obtain ⟨document, after, hcompile, happly, hw₁, hedits⟩ :=
      hs.accepted_first hkey hne hgood hread (setOf_of_sets hsets) happ
    rw [hsets] at hw₁
    exact ⟨document, after, [], hcompile, happly, hw₁, hedits⟩
  · obtain rfl := Except.ok.inj (hw.read.symm.trans hread)
    obtain ⟨document, after, hcompile, happly, hw₁, hedits⟩ :=
      hs.accepted_later hkey hne hw happ
    exact ⟨document, after, _, hcompile, happly, hw₁, hedits⟩

/-- After any run from an empty ledger, the change of an accepted request with one edit can be rejected right
away. The text is then the text before the request with the range of the edit set to what the original
text has there. So it is the text before the request exactly if both texts agree in that range. -/
theorem reject_latest {i : Instruction} (hs : s.Healthy path strict good)
    (hempty : w₀.ledger.sets = []) (hgood : good w₀.files)
    (horiginal : s.host.read w₀.files path = .ok original) (hreach : Reachable s path w₀ w)
    (hread : s.host.read w.files path = .ok live) (hkey : s.host.key request.filePath = path)
    (hone : request.instructions = [i]) (happ : s.apply w request = (.ok done, w₁)) :
    ∃ c after, done.changes = [c] ∧ (w₁.reject s.host c.id).1 = .ok true ∧
      s.host.read (w₁.reject s.host c.id).2.files path = .ok after ∧
      applyEdits live [⟨c.edit.range, baselineText original c.edit.range⟩] = .ok after ∧
      (after = live ↔ baselineText original c.edit.range = baselineText live c.edit.range) := by
  have hne : request.instructions ≠ [] := by simp [hone]
  have hreview := inReview_reachable hs (.untouched hempty hgood horiginal) hreach
  obtain ⟨document, made, changes, hcompile, happly, hw₁, hedits⟩ :=
    inReview_accepted hs hkey hne hreview hread happ
  -- one instruction, one edit, one change
  have hcount : done.changes.length = 1 := by
    obtain ⟨-, hbatch, -⟩ := (compile_eq_ok_iff hread).mp hcompile
    rw [← List.length_map (f := (·.edit)), hedits, Context.length_compile hbatch, hone]
    rfl
  obtain ⟨c, hc⟩ := List.length_eq_one_iff.mp hcount
  rw [hc] at hw₁ hedits
  rw [← hedits] at happly
  obtain ⟨w₂, after, hreject, hw₂, hafter⟩ :=
    hw₁.reject_last hs.host (List.mem_append_right changes List.mem_cons_self) happly
  have hcov := covers_of_applyEdits hafter _ List.mem_cons_self
  refine ⟨c, after, hc, by rw [hreject], by rw [hreject, hw₂.read], hafter, ?_⟩
  rw [← applyEdits_eq_self_iff hcov, hafter, Except.ok.injEq]

/-- A request with one edit is accepted for a file that nothing is known of, and its change is kept. -/
theorem exists_kept {document : Document} {e : Edit} (hs : s.Healthy path strict good)
    (hmetrics : s.settings.metricsEnabled = false) (hkey : s.host.key request.filePath = path)
    (hne : request.instructions ≠ []) (hempty : w₀.ledger.sets = []) (hgood : good w₀.files)
    (horiginal : s.host.read w₀.files path = .ok original)
    (hcompile : s.compile w₀.files path request = .ok (document, [e]))
    (happly : applyEdits original [e] strict = .ok live) :
    ∃ done w₁ kept w, s.apply w₀ request = (.ok done, w₁) ∧ done.changes = [kept] ∧
      w₁.approve kept.id = (true, w) ∧ Reachable s path w₀ w ∧ w.Holds s.host good [] path original live [] := by
  obtain ⟨done, w₁, happ, -, hw₁, hedits⟩ :=
    hs.accepts_first hmetrics hkey hne hgood horiginal (setOf_of_sets hempty) hcompile happly
  obtain ⟨kept, hkept, -⟩ := List.map_eq_singleton_iff.mp hedits
  rw [hempty] at hw₁
  obtain ⟨w, happrove, hw⟩ := hw₁.approve (c := kept) (by simp [hkept])
  refine ⟨done, w₁, kept, w, happ, hkept, happrove, ?_, by simpa [hkept] using hw⟩
  -- two steps lead there, the request and the approval
  have hrequest := Reachable.start.step (Step.request (s := s) w₀ request hkey)
  rw [happ] at hrequest
  have hkeep := hrequest.step (.approve w₁ kept.id)
  rwa [happrove] at hkeep

/-- The other line was changed before, and its change was kept: rejecting the change that makes two lines of one
brings back the text from right before it. -/
theorem reject_latest_other_line :
    let w₀ : Workspace Memory := { files := { texts := [("a.txt", "a\nb".toList)] } }
    let first : Request := ⟨"a.txt", [⟨.replace, .lines 1 1, "A".toList⟩], ""⟩
    let second : Request := ⟨"a.txt", [⟨.replace, .lines 2 2, "B\nB2".toList⟩], ""⟩
    (inMemory.Healthy "a.txt" true fun m => m.mode = .healthy) ∧
      w₀.ledger.sets = [] ∧ w₀.files.mode = .healthy ∧
      inMemory.host.read w₀.files "a.txt" = .ok "a\nb".toList ∧
      inMemory.host.key second.filePath = "a.txt" ∧ second.instructions.length = 1 ∧
      ∃ earlier w₁ kept w done w₂ c, inMemory.apply w₀ first = (.ok earlier, w₁) ∧
        earlier.changes = [kept] ∧ w₁.approve kept.id = (true, w) ∧ Reachable inMemory "a.txt" w₀ w ∧
        inMemory.host.read w.files "a.txt" = .ok "A\nb".toList ∧
        inMemory.apply w second = (.ok done, w₂) ∧ done.changes = [c] ∧
        (w₂.reject inMemory.host c.id).1 = .ok true ∧
        inMemory.host.read (w₂.reject inMemory.host c.id).2.files "a.txt" = .ok "A\nb".toList := by
  intro w₀ first second
  let line : Range := ⟨⟨0, 0⟩, ⟨0, 1⟩, by decide⟩
  let other : Range := ⟨⟨1, 0⟩, ⟨1, 1⟩, by decide⟩
  have hs := inMemory_healthy "a.txt"
  have horiginal : inMemory.host.read w₀.files "a.txt" = .ok "a\nb".toList := rfl
  have hcompile : inMemory.compile w₀.files "a.txt" first = .ok (⟨"a\nb".toList, "a.txt"⟩, [⟨line, "A".toList⟩]) :=
    (compile_eq_ok_iff horiginal).mpr ⟨rfl, rfl, by cbv⟩
  have happly : applyEdits "a\nb".toList [⟨line, "A".toList⟩] = .ok "A\nb".toList := by cbv
  obtain ⟨earlier, w₁, kept, w, happ, hkept, happrove, hreach, hw⟩ :=
    exists_kept hs rfl rfl (List.cons_ne_nil _ _) rfl rfl horiginal hcompile happly
  have hcompile' : inMemory.compile w.files "a.txt" second
      = .ok (⟨"A\nb".toList, "a.txt"⟩, [⟨other, "B\nB2".toList⟩]) :=
    (compile_eq_ok_iff hw.read).mpr ⟨rfl, rfl, by cbv⟩
  have happly' : applyEdits "A\nb".toList [⟨other, "B\nB2".toList⟩] = .ok "A\nB\nB2".toList := by cbv
  obtain ⟨done, w₂, happ', -, -, hedits⟩ := hs.accepts_later rfl rfl (List.cons_ne_nil _ _) hw hcompile' happly'
  obtain ⟨c, after, hc, hanswer, hafter, -, hsame⟩ :=
    reject_latest hs rfl rfl horiginal hreach hw.read rfl rfl happ'
  -- the original text and the text before the request have the same line in the range of the edit
  have hedit : c.edit = ⟨other, "B\nB2".toList⟩ := by simpa [hc] using hedits
  have hline : baselineText "a\nb".toList other = baselineText "A\nb".toList other := by cbv
  rw [hsame.mpr (by rw [hedit]; exact hline)] at hafter
  exact ⟨hs, rfl, rfl, horiginal, rfl, rfl, earlier, w₁, kept, w, done, w₂, c, happ, hkept, happrove, hreach, hw.read,
    happ', hc, hanswer, hafter⟩

/-- A line that is changed twice, where the first change was kept: rejecting the second one brings back the
text from before the first. -/
theorem reject_latest_older_text :
    let w₀ : Workspace Memory := { files := { texts := [("a.txt", "a".toList)] } }
    let first : Request := ⟨"a.txt", [⟨.replace, .lines 1 1, "A".toList⟩], ""⟩
    let second : Request := ⟨"a.txt", [⟨.replace, .lines 1 1, "B".toList⟩], ""⟩
    w₀.ledger.sets = [] ∧ w₀.files.mode = .healthy ∧
      ∃ earlier w₁ kept w done w₂ c, inMemory.apply w₀ first = (.ok earlier, w₁) ∧
        earlier.changes = [kept] ∧ w₁.approve kept.id = (true, w) ∧
        Reachable inMemory "a.txt" w₀ w ∧
        inMemory.host.read w.files "a.txt" = .ok "A".toList ∧
        inMemory.apply w second = (.ok done, w₂) ∧ done.changes = [c] ∧
        (w₂.reject inMemory.host c.id).1 = .ok true ∧
        inMemory.host.read (w₂.reject inMemory.host c.id).2.files "a.txt" = .ok "a".toList := by
  intro w₀ first second
  let line : Range := ⟨⟨0, 0⟩, ⟨0, 1⟩, by decide⟩
  have hs := inMemory_healthy "a.txt"
  have hread : inMemory.host.read w₀.files "a.txt" = .ok "a".toList := rfl
  -- the first change is made and kept
  have hcompile : inMemory.compile w₀.files "a.txt" first
      = .ok (⟨"a".toList, "a.txt"⟩, [⟨line, "A".toList⟩]) :=
    (compile_eq_ok_iff hread).mpr ⟨rfl, rfl, by cbv⟩
  have happly : applyEdits "a".toList [⟨line, "A".toList⟩] = .ok "A".toList := by cbv
  obtain ⟨earlier, w₁, kept, w, happ, hkept, happrove, hreach, hw⟩ :=
    exists_kept hs rfl rfl (List.cons_ne_nil _ _) rfl rfl hread hcompile happly
  -- the second change is made and taken back
  have hcompile' : inMemory.compile w.files "a.txt" second
      = .ok (⟨"A".toList, "a.txt"⟩, [⟨line, "B".toList⟩]) :=
    (compile_eq_ok_iff hw.read).mpr ⟨rfl, rfl, by cbv⟩
  have happly' : applyEdits "A".toList [⟨line, "B".toList⟩] = .ok "B".toList := by cbv
  obtain ⟨done, w₂, happ', -, hw₂, hedits'⟩ := hs.accepts_later rfl rfl
    (List.cons_ne_nil _ _) hw hcompile' happly'
  obtain ⟨c, hc, hedit⟩ := List.map_eq_singleton_iff.mp hedits'
  rw [← hedit] at happly'
  obtain ⟨w₃, after, hreject, hw₃, hafter⟩ :=
    hw₂.reject_last hs.host (c := c) (by simp [hc]) happly'
  have hback : applyEdits "A".toList [⟨line, baselineText "a".toList line⟩] = .ok "a".toList := by
    cbv
  rw [hedit] at hafter
  obtain rfl : after = "a".toList := Except.ok.inj (hafter.symm.trans hback)
  exact ⟨rfl, rfl, earlier, w₁, kept, w, done, w₂, c, happ, hkept, happrove, hreach, hw.read, happ',
    hc, by rw [hreject], by rw [hreject, hw₃.read]⟩

end Emend.Session
