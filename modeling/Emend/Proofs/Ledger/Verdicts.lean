import Emend.Proofs.Attempt
import Emend.Proofs.Host.Files
import Emend.Proofs.Ledger.Operation

/-!
# Verdicts

Whatever is done to a ledger, no change is settled twice, and every verdict is told once, in the order of the
calls (`settled_at_most_once`). A call that settles nothing leaves the records as they are; one that settles a
change drops its record and no other, and one that rejects it makes one edit in its file. The identifiers must not
repeat: those that are still to be given out are then neither pending nor settled (`Settled`).

On a disk the edit goes through a second file beside the first (`reject_frame_disk`), and one that is there already
is lost (`reject_loses_file_beside`).

Main statements:

* `verdicts_run`, `verdicts_foldl_run`: what one call tells, and what a run of calls tells.
* `Settled.record`, `Settled.settle`, `Settled.run`: one step keeps what is settled apart from what is pending.
* `approve_frame`, `reject_frame`: what a call leaves alone.
* `settled_at_most_once`: all of it for every run.
-/

namespace Emend

namespace Ledger

variable {l : Ledger} {names : Identifiers} {path id other : String}

/-! ## Identifiers that are dropped -/

/-- Dropping an identifier drops it and no other. -/
theorem Sound.mem_ids_erase (h : l.Sound) : other ∈ (l.erase id).ids ↔ other ∈ l.ids ∧ other ≠ id := by
  rw [h.erase_eq, mem_ids, mem_ids]
  constructor
  · rintro ⟨s', hs', c, hc, rfl⟩
    obtain ⟨s, hs, rfl⟩ := List.mem_map.mp hs'
    have hkept := List.mem_filter.mp hc
    exact ⟨⟨s, hs, c, hkept.1, rfl⟩, by simpa using hkept.2⟩
  · rintro ⟨⟨s, hs, c, hc, rfl⟩, hne⟩
    exact ⟨s.erase id, List.mem_map_of_mem hs, c, List.mem_filter.mpr ⟨hc, by simpa using hne⟩, rfl⟩

theorem Sound.ids_discard (h : l.Sound) (ids : List String) :
    (l.discard ids).ids ⊆ l.ids ∧ (l.discard ids).issued = l.issued := by
  induction ids generalizing l with
  | nil => exact ⟨List.Subset.refl _, rfl⟩
  | cons id rest ih =>
    obtain ⟨hids, hissued⟩ := ih (h.erase id)
    exact ⟨fun other hother => (h.mem_ids_erase.mp (hids hother)).1, hissued⟩

theorem ids_clear (l : Ledger) (path : String) : (l.clear path).ids ⊆ l.ids := by
  intro id hid
  obtain ⟨s, hs, hc⟩ := mem_ids.mp hid
  exact mem_ids.mpr ⟨s, (List.mem_filter.mp hs).1, hc⟩

/-- The ledger has lost the record of one change: every other record stays in its place, and every
baseline stays as it is. -/
def Loses (l l' : Ledger) (id : String) : Prop :=
  ∀ path, l'.pending path = (l.pending path).filter (·.id != id) ∧ l'.baseline path = l.baseline path

theorem Sound.loses_erase (h : l.Sound) (id : String) : l.Loses (l.erase id) id := by
  intro path
  rw [pending, pending, baseline, baseline, h.setOf_erase, Option.map_map, Option.map_map]
  refine ⟨?_, rfl⟩
  rcases l.setOf path with _ | s <;> rfl

end Ledger

namespace Workspace

variable {σ : Type} {w : Workspace σ} {names : Identifiers}

/-! ## Calls that are granted -/

/-- What a call settles: the change that it keeps or takes back, if it answers with yes. -/
def Operation.granted (w : Workspace σ) : Operation σ → List (String × Verdict)
  | .approve id => if (w.approve id).1 = true then [(id, .approved)] else []
  | .reject h id =>
    match (w.reject h id).1 with
    | .ok true => [(id, .rejected)]
    | _ => []
  | .record .. | .discard _ | .clear _ | .disturb _ => []

/-- What a run of operations settles, in the order of the calls. -/
def granted (names : Identifiers) : Workspace σ → List (Operation σ) → List (String × Verdict)
  | _, [] => []
  | w, o :: rest => o.granted w ++ granted names (o.run names w) rest

/-- What is told after an operation is what it settled. -/
theorem verdicts_run (names : Identifiers) (w : Workspace σ) (o : Operation σ) :
    (o.run names w).verdicts = w.verdicts ++ o.granted w := by
  -- only approving and rejecting tell anything, and only where they settle a change
  cases o with
  | record h path edits description =>
    rw [Operation.granted, List.append_nil, Operation.run]
    rcases record_cases h names w path edits description with
      ⟨-, -, f, hrecord⟩ | ⟨text, notes, -, hrecord⟩
    · rw [hrecord]
    · rw [hrecord]
      rfl
  | discard ids => exact (List.append_nil _).symm
  | approve id =>
    rw [Operation.granted, Operation.run]
    rcases approve_cases w id with ⟨-, hsame⟩ | ⟨c, -, hyes, -, -, hverdicts⟩
    · simp [hsame]
    · rw [hverdicts, if_pos hyes]
  | reject h id =>
    rw [Operation.granted, Operation.run]
    rcases reject_cases h w id with
      ⟨-, hsame⟩ | ⟨c, -, -, ⟨-, hyes, -, hverdicts⟩ | ⟨-, hno, -, hverdicts⟩⟩
    · simp [hsame]
    · rw [hverdicts, hyes]
    · rw [hverdicts]
      split
      · rename_i hyes
        exact absurd hyes hno
      · exact (List.append_nil _).symm
  | clear path =>
    rw [Operation.granted, List.append_nil, Operation.run, clear]
    split <;> rfl
  | disturb files => exact (List.append_nil _).symm

/-- What is told during a run is what its calls settled, in their order. -/
theorem verdicts_foldl_run (names : Identifiers) (w : Workspace σ) (run : List (Operation σ)) :
    (run.foldl (Operation.run names) w).verdicts = w.verdicts ++ granted names w run := by
  induction run generalizing w with
  | nil => exact (List.append_nil _).symm
  | cons o rest ih => rw [List.foldl_cons, ih, verdicts_run, granted, List.append_assoc]

/-! ## What is settled -/

/-- The ledger is sound; pending and settled changes have identifiers that were given out; and no change is
settled twice, or pending after it was settled. -/
structure Settled (names : Identifiers) (w : Workspace σ) : Prop where
  sound : w.ledger.Sound
  issued : ∀ id, id ∈ w.ledger.ids ∨ id ∈ w.verdicts.map (·.1) →
    ∃ k < w.ledger.issued, id = names k
  once : (w.verdicts.map (·.1)).Nodup
  gone : ∀ id ∈ w.verdicts.map (·.1), id ∉ w.ledger.ids

theorem settled_start (names : Identifiers) (files : σ) :
    Settled names ({ files } : Workspace σ) where
  sound := Ledger.sound_of_sets_nil rfl
  issued := by simp [Ledger.ids]
  once := List.nodup_nil
  gone := by simp

/-- Records may be dropped without a verdict. -/
theorem Settled.forget {w' : Workspace σ} (h : Settled names w) (hsound : w'.ledger.Sound)
    (hids : w'.ledger.ids ⊆ w.ledger.ids) (hissued : w'.ledger.issued = w.ledger.issued)
    (hverdicts : w'.verdicts = w.verdicts) : Settled names w' where
  sound := hsound
  issued := by
    intro id hid
    rw [hissued]
    rw [hverdicts] at hid
    exact h.issued id (hid.imp_left fun hid => hids hid)
  once := by
    rw [hverdicts]
    exact h.once
  gone := by
    rw [hverdicts]
    intro id hid hpending
    exact h.gone id hid (hids hpending)

/-- A change that is pending may be settled: it is dropped, and was not settled before. -/
theorem Settled.settle {w' : Workspace σ} {c : PendingChange} {id : String} {v : Verdict}
    (h : Settled names w) (hfind : w.ledger.find id = some c)
    (hledger : w'.ledger = w.ledger.erase id) (hverdicts : w'.verdicts = w.verdicts ++ [(id, v)]) :
    Settled names w' := by
  -- the change is pending, so it is not among those that were settled
  have hid : id ∈ w.ledger.ids := Ledger.mem_ids_of_find (by rw [hfind]; rfl)
  have hsettled : ∀ other, other ∈ w'.verdicts.map (·.1) ↔
      other ∈ w.verdicts.map (·.1) ∨ other = id := by
    intro other
    rw [hverdicts, List.map_append, List.mem_append, List.map_singleton, List.mem_singleton]
  refine ⟨hledger ▸ h.sound.erase id, ?_, ?_, ?_⟩
  · intro other hother
    have hissued : w'.ledger.issued = w.ledger.issued := by
      rw [hledger]
      rfl
    rw [hissued]
    rcases hother with hpending | hother
    · rw [hledger, h.sound.mem_ids_erase] at hpending
      exact h.issued other (Or.inl hpending.1)
    · rcases (hsettled other).mp hother with hbefore | rfl
      · exact h.issued other (Or.inr hbefore)
      · exact h.issued other (Or.inl hid)
  -- it was pending, so it was not settled before
  · rw [hverdicts, List.map_append, List.nodup_append]
    refine ⟨h.once, List.nodup_singleton id, ?_⟩
    rintro other hother last hlast rfl
    obtain rfl : other = id := List.mem_singleton.mp hlast
    exact h.gone other hother hid
  · intro other hother hpending
    rw [hledger, h.sound.mem_ids_erase] at hpending
    rcases (hsettled other).mp hother with hbefore | heq
    · exact h.gone other hbefore hpending.1
    · exact hpending.2 heq

/-- New changes have identifiers that no settled change has. -/
theorem Settled.record (hnames : Function.Injective names) (hw : Settled names w) (h : Host σ)
    (path : String) (edits : List Edit) (description : String) :
    Settled names (w.record h names path edits description).2 := by
  rcases record_cases h names w path edits description with
    ⟨-, -, f, hrecord⟩ | ⟨text, notes, -, hrecord⟩
  · rw [hrecord]
    exact hw
  · rw [hrecord]
    obtain ⟨hle, hids⟩ := Ledger.ids_record names w.ledger path text edits description
    refine ⟨(hw.sound.record path text edits description).1, ?_, hw.once, ?_⟩
    · intro id hid
      -- what was given out before is still counted as given out
      have hbefore : (id ∈ w.ledger.ids ∨ id ∈ w.verdicts.map (·.1)) →
          ∃ k < (w.ledger.record names path text edits description).2.issued, id = names k := by
        intro hid
        obtain ⟨k, hk, heq⟩ := hw.issued id hid
        exact ⟨k, Nat.lt_of_lt_of_le hk hle, heq⟩
      rcases hid with hpending | hsettled
      · rcases hids id hpending with hid | ⟨k, -, hk, heq⟩
        · exact hbefore (Or.inl hid)
        · exact ⟨k, hk, heq⟩
      · exact hbefore (Or.inr hsettled)
    · intro id hid hpending
      rcases hids id hpending with hold | ⟨k, hk, -, heq⟩
      · exact hw.gone id hid hold
      · -- it would have been given out before it was settled
        obtain ⟨k', hk', heq'⟩ := hw.issued id (Or.inr hid)
        have hsame : k' = k := hnames (heq'.symm.trans heq)
        omega

/-- Every operation keeps what is settled apart from what is pending. -/
theorem Settled.run (hnames : Function.Injective names) (hw : Settled names w) (o : Operation σ) :
    Settled names (o.run names w) := by
  cases o with
  | record h path edits description => exact hw.record hnames h path edits description
  | discard ids =>
    obtain ⟨hids, hissued⟩ := hw.sound.ids_discard ids
    exact hw.forget (hw.sound.discard ids) hids hissued rfl
  | approve id =>
    rcases approve_cases w id with ⟨-, hsame⟩ | ⟨c, hfind, -, -, hledger, hverdicts⟩
    · rw [Operation.run, hsame]
      exact hw
    · exact hw.settle hfind hledger hverdicts
  | reject h id =>
    rcases reject_cases h w id with
      ⟨-, hsame⟩ | ⟨c, hfind, -, ⟨-, -, hledger, hverdicts⟩ | ⟨-, -, hledger, hverdicts⟩⟩
    · rw [Operation.run, hsame]
      exact hw
    · exact hw.settle hfind hledger hverdicts
    · refine hw.forget ?_ ?_ ?_ hverdicts
      · rw [Operation.run, hledger]
        exact hw.sound
      · rw [Operation.run, hledger]
        exact List.Subset.refl _
      · rw [Operation.run, hledger]
  | clear path =>
    have hledger : ((Operation.clear path).run names w).ledger = w.ledger.clear path :=
      ledger_clear w path
    have hverdicts : ((Operation.clear path).run names w).verdicts = w.verdicts :=
      (verdicts_run names w (.clear path)).trans (List.append_nil _)
    refine hw.forget ?_ ?_ ?_ hverdicts
    · rw [hledger]
      exact hw.sound.clear path
    · rw [hledger]
      exact w.ledger.ids_clear path
    · rw [hledger]
      rfl
  | disturb files => exact ⟨hw.sound, hw.issued, hw.once, hw.gone⟩

/-- So does every run. -/
theorem Settled.foldl_run (hnames : Function.Injective names) (hw : Settled names w)
    (run : List (Operation σ)) : Settled names (run.foldl (Operation.run names) w) := by
  induction run generalizing w with
  | nil => exact hw
  | cons o rest ih => exact ih (hw.run hnames o)

/-! ## One call -/

/-- Approving changes no file. It drops the record of the change and no other, or changes nothing. -/
theorem approve_frame (hsound : w.ledger.Sound) (id : String) :
    ((w.approve id).1 = false → (w.approve id).2 = w) ∧
      ((w.approve id).1 = true → (w.approve id).2.files = w.files ∧
        w.ledger.Loses (w.approve id).2.ledger id) := by
  rcases approve_cases w id with ⟨-, hsame⟩ | ⟨c, -, hyes, hfiles, hledger, -⟩
  · rw [hsame]
    exact ⟨fun _ => rfl, by simp⟩
  · rw [hyes, hfiles, hledger]
    exact ⟨by simp, fun _ => ⟨rfl, hsound.loses_erase id⟩⟩

/-- Rejecting has the host make one edit in the file of the change, and drops its record and no other; or it changes
no record, and no text through a host that spares the texts. -/
theorem reject_frame (h : Host σ) (hsound : w.ledger.Sound) (id : String) :
    ((w.reject h id).1 ≠ .ok true → (w.reject h id).2.ledger = w.ledger ∧
        (h.Spares w.files → ∀ path, h.read (w.reject h id).2.files path = h.read w.files path)) ∧
      ((w.reject h id).1 = .ok true → ∃ c, w.ledger.find id = some c ∧
        (h.apply w.files c.path [c.inverse]).made = .ok true ∧
        (w.reject h id).2.files = (h.apply w.files c.path [c.inverse]).state ∧
        w.ledger.Loses (w.reject h id).2.ledger id) := by
  rcases reject_cases h w id with
    ⟨-, hsame⟩ | ⟨c, hfind, hfiles, ⟨hmade, hyes, hledger, -⟩ | ⟨hmade, hno, hledger, -⟩⟩
  · rw [hsame]
    exact ⟨fun _ => ⟨rfl, fun _ _ => rfl⟩, by simp⟩
  · rw [hyes, hledger, hfiles]
    exact ⟨fun hno => absurd rfl hno, fun _ => ⟨c, hfind, hmade, rfl, hsound.loses_erase id⟩⟩
  · rw [hledger, hfiles]
    exact ⟨fun _ => ⟨rfl, fun hspares path => hspares c.path [c.inverse] path hmade⟩,
      fun hyes => absurd hyes hno⟩

/-! ## Runs -/

/-- If identifiers do not repeat, then in every run each change is settled by at most one call. From any point
of the run on, what is told is what the calls settle, in their order. At every point a call that settles
nothing leaves the records and the texts as they are, one that approves changes no text and drops one record,
and one that rejects makes one edit in the file of the change and drops one record. -/
theorem settled_at_most_once (hnames : Function.Injective names) (files : σ)
    (run : List (Operation σ)) :
    let w := run.foldl (Operation.run names) { files }
    ((granted names { files } run).map (·.1)).Nodup ∧
    (∀ more, (more.foldl (Operation.run names) w).verdicts
      = granted names { files } run ++ granted names w more) ∧
    ∀ id, ((w.approve id).1 = false → (w.approve id).2 = w) ∧
      ((w.approve id).1 = true → (w.approve id).2.files = w.files ∧
        w.ledger.Loses (w.approve id).2.ledger id) ∧
      ∀ h : Host σ,
        ((w.reject h id).1 ≠ .ok true → (w.reject h id).2.ledger = w.ledger ∧
          (h.Spares w.files → ∀ path, h.read (w.reject h id).2.files path = h.read w.files path)) ∧
        ((w.reject h id).1 = .ok true → ∃ c, w.ledger.find id = some c ∧
          (h.apply w.files c.path [c.inverse]).made = .ok true ∧
          (w.reject h id).2.files = (h.apply w.files c.path [c.inverse]).state ∧
          w.ledger.Loses (w.reject h id).2.ledger id) := by
  intro w
  have hsettled : Settled names w := (settled_start names files).foldl_run hnames run
  have hverdicts : w.verdicts = granted names { files } run := by
    have h := verdicts_foldl_run names { files } run
    rwa [List.nil_append] at h
  refine ⟨hverdicts ▸ hsettled.once, ?_, ?_⟩
  · intro more
    rw [verdicts_foldl_run, hverdicts]
  · intro id
    obtain ⟨hkeep, hdrop⟩ := approve_frame hsettled.sound id
    exact ⟨hkeep, hdrop, fun h => reject_frame h hsettled.sound id⟩

/-- Two changes of one file and one of another. The first is approved twice; the second is rejected while the
storage fails, then twice more, and approved in the end. -/
def contested : List (Operation Memory) :=
  let h := Memory.host true fun _ => []
  let line : Edit := ⟨⟨⟨0, 1⟩, ⟨0, 2⟩, by decide⟩, ['x']⟩
  let texts := [("a", "xyz".toList), ("b", "xyz".toList)]
  [.record h "a" [line, line] "two", .record h "b" [line] "one", .approve (Ledger.strokes 0),
    .approve (Ledger.strokes 0), .disturb { texts, mode := .failing }, .reject h (Ledger.strokes 1),
    .disturb { texts }, .reject h (Ledger.strokes 1), .reject h (Ledger.strokes 1),
    .approve (Ledger.strokes 1)]

/-- Two of the calls are granted, and two verdicts are told. The change of the other file can still be taken
back, by one edit there; the one that was approved cannot, and is not there to be lost. -/
theorem settled_at_most_once_contested :
    let h := Memory.host true fun _ => []
    let files : Memory := { texts := [("a", "abc".toList)] }
    let w := contested.foldl (Operation.run Ledger.strokes) { files }
    Function.Injective Ledger.strokes ∧ h.Spares w.files ∧
      granted Ledger.strokes { files } contested
        = [(Ledger.strokes 0, .approved), (Ledger.strokes 1, .rejected)] ∧
      w.verdicts = granted Ledger.strokes { files } contested ∧
      ((granted Ledger.strokes { files } contested).map (·.1)).Nodup ∧
      (∃ c : PendingChange, c.path = "b" ∧ (w.reject h (Ledger.strokes 2)).1 = .ok true ∧
        (w.reject h (Ledger.strokes 2)).2.files = (h.apply w.files c.path [c.inverse]).state) ∧
      (w.reject h (Ledger.strokes 0)).2.ledger = w.ledger ∧
      h.read (w.reject h (Ledger.strokes 0)).2.files "a" = h.read w.files "a" := by
  intro h files w
  have hspares : h.Spares w.files := Memory.spares true _ w.files
  have hw : contested.foldl (Operation.run Ledger.strokes) { files } = w := rfl
  have hall := settled_at_most_once Ledger.strokes_injective files contested
  rw [hw] at hall
  obtain ⟨hnodup, htold, hcalls⟩ := hall
  have hmade : (w.reject h (Ledger.strokes 2)).1 = .ok true :=
    Attempt.toOption_eq_some.mp (by decide +kernel)
  obtain ⟨c, hfind, -, hfiles, -⟩ := ((hcalls (Ledger.strokes 2)).2.2 h).2 hmade
  have hpath : c.path = "b" := by
    have hfound : (w.ledger.find (Ledger.strokes 2)).map (·.path) = some "b" := by decide +kernel
    rw [hfind] at hfound
    simpa using hfound
  have hrefused : (w.reject h (Ledger.strokes 0)).1 ≠ .ok true := by
    have hno : (w.reject h (Ledger.strokes 0)).1 = .ok false :=
      Attempt.toOption_eq_some.mp (by decide +kernel)
    rw [hno]
    simp
  obtain ⟨hledger, htexts⟩ := ((hcalls (Ledger.strokes 0)).2.2 h).1 hrefused
  refine ⟨Ledger.strokes_injective, hspares, by decide +kernel, ?_, hnodup, ⟨c, hpath, hmade, hfiles⟩, hledger,
    htexts hspares "a"⟩
  simpa only [List.foldl_nil, granted, List.append_nil] using htold []

/-! ## Rejecting on a disk -/

/-- A file that has the name through which another one is replaced is lost when a change of that one is rejected. -/
theorem reject_loses_file_beside :
    let h : FileHost := { root := "/p", registry := {} }
    let on : List Char → Disk := fun text => { entries := [(["p"], .folder), (["p", "a.txt"], .file (Text.encode text))] }
    let beside := (on ['A']).put ["p", "a.txt.structedit_tmp"] (.file (Text.encode ['b']))
    let run : List (Operation Disk) := [.record h.host "/p/a.txt" [⟨⟨⟨0, 0⟩, ⟨0, 1⟩, by decide⟩, ['A']⟩] "one",
      .disturb beside]
    let w := run.foldl (Operation.run Ledger.strokes) { files := on ['a'] }
    Function.Injective Ledger.strokes ∧ h.host.Spares w.files ∧
      (w.ledger.find (Ledger.strokes 0)).map (·.path) = some "/p/a.txt" ∧
      (w.reject h.host (Ledger.strokes 0)).1 = .ok true ∧
      h.host.key "/p/a.txt.structedit_tmp" ≠ h.host.key "/p/a.txt" ∧
      h.host.read w.files "/p/a.txt.structedit_tmp" = .ok ['b'] ∧
      h.host.read (w.reject h.host (Ledger.strokes 0)).2.files "/p/a.txt.structedit_tmp" ≠ .ok ['b'] := by
  intro h on beside run w
  have hlinks : w.files.NoLinks := Disk.noLinks_of_entries (by decide +kernel)
  refine ⟨Ledger.strokes_injective, FileHost.spares (by decide) hlinks, by decide +kernel,
    Attempt.toOption_eq_some.mp (by decide +kernel), by decide +kernel,
    Attempt.toOption_eq_some.mp (by decide +kernel), ?_⟩
  intro hread
  have hlost : (h.host.read (w.reject h.host (Ledger.strokes 0)).2.files "/p/a.txt.structedit_tmp").toOption = none := by
    decide +kernel
  rw [hread] at hlost
  cases hlost

end Workspace

end Emend
