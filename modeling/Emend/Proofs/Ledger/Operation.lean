import Emend.Host.Memory
import Emend.Proofs.Ledger.Sound

/-!
# Runs of a ledger

Whatever is done to a ledger, through hosts that may answer anything and on files that may change at any
time, its records stay in order (`records_of_reachable`): a change is found by its identifier in the set of
its file and nowhere else, and the baseline of a file is the text that the host gave when the set of the
file was opened, until the set is cleared.

Main statements:

* `record_cases`, `approve_cases`, `reject_cases`: what one operation does to the ledger.
* `Kept.record`, `Kept.run`: one step keeps the baselines, and so does a run.
* `records_of_reachable`: the records after any run.
-/

namespace Emend.Workspace

variable {σ : Type} {w : Workspace σ} {names : Identifiers} {path : String}
  {known : String → Option (List Char)}

/-! ## Operations -/

/-- Something that is done to a ledger through a host, or happens to the files behind it. -/
inductive Operation (σ : Type) where
  | record (h : Host σ) (path : String) (edits : List Edit) (description : String)
  | discard (ids : List String)
  | approve (id : String)
  | reject (h : Host σ) (id : String)
  | clear (path : String)
  | disturb (files : σ)

/-- The workspace after an operation. -/
def Operation.run (names : Identifiers) (w : Workspace σ) : Operation σ → Workspace σ
  | .record h path edits description => (w.record h names path edits description).2
  | .discard ids => w.discard ids
  | .approve id => (w.approve id).2
  | .reject h id => (w.reject h id).2
  | .clear path => w.clear path
  | .disturb files => { w with files }

/-- What a host gives as the text of a file that is about to be edited: an empty text where reading it is
refused, and none where it fails in another way. -/
def given (h : Host σ) (files : σ) (path : String) : Option (List Char) :=
  match h.read files path with
  | .ok text => some text
  | .error f => if f.isEditError || f.isStorageError then some [] else none

/-- The text that was given for each file when its set was opened, for the files whose set was not cleared
since; `known` are these texts before the operation. -/
def Operation.texts (w : Workspace σ) (known : String → Option (List Char)) :
    Operation σ → String → Option (List Char)
  | .record h path _ _ =>
    if (known path).isSome then known else Function.update known path (given h w.files path)
  | .clear path => Function.update known path none
  | _ => known

/-- The workspaces that operations lead to from an empty ledger, each with the texts that were given for
its files. -/
inductive Reachable (names : Identifiers) :
    Workspace σ → (String → Option (List Char)) → Prop
  | start (files : σ) : Reachable names { files } fun _ => none
  | step {w : Workspace σ} {known : String → Option (List Char)} (o : Operation σ)
    (hreach : Reachable names w known) : Reachable names (o.run names w) (o.texts w known)

/-- A workspace and the texts of its files after one operation after the other. -/
def runAll (names : Identifiers) (start : Workspace σ × (String → Option (List Char)))
    (run : List (Operation σ)) : Workspace σ × (String → Option (List Char)) :=
  run.foldl (fun x o => (o.run names x.1, o.texts x.1 x.2)) start

theorem Reachable.runAll (start : Workspace σ × (String → Option (List Char)))
    (run : List (Operation σ)) (hreach : Reachable names start.1 start.2) :
    Reachable names (runAll names start run).1 (runAll names start run).2 := by
  induction run generalizing start with
  | nil => exact hreach
  | cons o rest ih => exact ih (o.run names start.1, o.texts start.1 start.2) (hreach.step o)

/-! ## One operation -/

/-- The baseline that is captured is the text that the host gives. -/
theorem baselineOf_cases (h : Host σ) (w : Workspace σ) (path : String) :
    (∃ f, baselineOf h w path = .error f ∧ given h w.files path = none) ∨
      ∃ text notes, baselineOf h w path = .ok (text, notes) ∧
        given h w.files path = some text := by
  unfold baselineOf given
  rcases h.read w.files path with f | text
  -- a file that cannot be read has the empty baseline, unless the failure is of a kind that goes on
  · by_cases hallowed : (f.isEditError || f.isStorageError) = true
    · simp only [hallowed, if_true]
      exact Or.inr ⟨[], _, rfl, rfl⟩
    · simp only [hallowed]
      exact Or.inl ⟨f, rfl, rfl⟩
  · exact Or.inr ⟨text, _, rfl, rfl⟩

/-- Recording fails where no text is given for a baseline, and then leaves everything as it is; otherwise
the ledger records. -/
theorem record_cases (h : Host σ) (names : Identifiers) (w : Workspace σ) (path : String)
    (edits : List Edit) (description : String) :
    (w.ledger.setOf path = none ∧ given h w.files path = none ∧
      ∃ f, w.record h names path edits description = (.error f, w)) ∨
    ∃ text notes, (w.ledger.setOf path = none → given h w.files path = some text) ∧
      w.record h names path edits description
        = (.ok (w.ledger.record names path text edits description).1,
          ({ w with ledger := (w.ledger.record names path text edits description).2 } :
            Workspace σ).tell notes) := by
  unfold record
  -- the host is asked for a baseline only where the file has no set yet
  by_cases hset : (w.ledger.setOf path).isSome
  · rw [if_pos hset]
    refine Or.inr ⟨[], _, ?_, rfl⟩
    intro hnone
    simp [hnone] at hset
  · rw [if_neg hset]
    have hnone : w.ledger.setOf path = none := by simpa using hset
    rcases baselineOf_cases h w path with ⟨f, hbase, hgiven⟩ | ⟨text, notes, hbase, hgiven⟩
    · rw [hbase]
      exact Or.inl ⟨hnone, hgiven, f, rfl⟩
    · rw [hbase]
      exact Or.inr ⟨text, _, fun _ => hgiven, rfl⟩

theorem id_of_find {l : Ledger} {id : String} {c : PendingChange} (h : l.find id = some c) :
    c.id = id := by
  obtain ⟨s, -, hfind⟩ := List.exists_of_findSome?_eq_some h
  simpa using List.find?_some hfind

/-- Approving settles the change, if there is one. -/
theorem approve_cases (w : Workspace σ) (id : String) :
    (w.ledger.find id = none ∧ w.approve id = (false, w)) ∨
      ∃ c, w.ledger.find id = some c ∧ (w.approve id).1 = true ∧
        (w.approve id).2.files = w.files ∧ (w.approve id).2.ledger = w.ledger.erase id ∧
        (w.approve id).2.verdicts = w.verdicts ++ [(id, .approved)] := by
  unfold approve
  rcases hfind : w.ledger.find id with _ | c
  · exact Or.inl ⟨rfl, rfl⟩
  · obtain rfl := id_of_find hfind
    exact Or.inr ⟨c, rfl, rfl, rfl, rfl, rfl⟩

/-- Rejecting has the host make the inverse edit, if there is a change, and settles the change if the host
made it. -/
theorem reject_cases (h : Host σ) (w : Workspace σ) (id : String) :
    (w.ledger.find id = none ∧ w.reject h id = (.ok false, w)) ∨
      ∃ c, w.ledger.find id = some c ∧
        (w.reject h id).2.files = (h.apply w.files c.path [c.inverse]).state ∧
        (((h.apply w.files c.path [c.inverse]).made = .ok true ∧ (w.reject h id).1 = .ok true ∧
            (w.reject h id).2.ledger = w.ledger.erase id ∧
            (w.reject h id).2.verdicts = w.verdicts ++ [(id, .rejected)]) ∨
          ((h.apply w.files c.path [c.inverse]).made ≠ .ok true ∧ (w.reject h id).1 ≠ .ok true ∧
            (w.reject h id).2.ledger = w.ledger ∧ (w.reject h id).2.verdicts = w.verdicts)) := by
  unfold reject
  rcases hfind : w.ledger.find id with _ | c
  · exact Or.inl ⟨rfl, rfl⟩
  · obtain rfl := id_of_find hfind
    refine Or.inr ⟨c, rfl, ?_⟩
    rcases hmade : (h.apply w.files c.path [c.inverse]).made with f | made
    · -- a failure that the host may have is told, any other goes on
      simp only [hmade]
      split
      · exact ⟨rfl, Or.inr ⟨by simp, by simp, rfl, rfl⟩⟩
      · exact ⟨rfl, Or.inr ⟨by simp, by simp, rfl, rfl⟩⟩
    · simp only [hmade]
      cases made with
      | false => exact ⟨rfl, Or.inr ⟨by simp, by simp, rfl, rfl⟩⟩
      | true => exact ⟨rfl, Or.inl ⟨rfl, rfl, rfl, rfl⟩⟩

/-- A verdict drops a change, or there is none. -/
theorem ledger_approve (w : Workspace σ) (id : String) :
    (w.approve id).2.ledger = w.ledger ∨ (w.approve id).2.ledger = w.ledger.erase id := by
  rcases approve_cases w id with ⟨-, hsame⟩ | ⟨c, -, -, -, hledger, -⟩
  · exact Or.inl (by rw [hsame])
  · exact Or.inr hledger

theorem ledger_reject (h : Host σ) (w : Workspace σ) (id : String) :
    (w.reject h id).2.ledger = w.ledger ∨ (w.reject h id).2.ledger = w.ledger.erase id := by
  rcases reject_cases h w id with ⟨-, hsame⟩ | ⟨c, -, -, ⟨-, -, hledger, -⟩ | ⟨-, -, hledger, -⟩⟩
  · exact Or.inl (by rw [hsame])
  · exact Or.inr hledger
  · exact Or.inl hledger

theorem ledger_clear (w : Workspace σ) (path : String) :
    (w.clear path).ledger = w.ledger.clear path := by
  unfold clear
  rcases hset : w.ledger.setOf path with _ | s
  · -- where the file has no set, there is nothing to be dropped
    have hkeep : w.ledger.sets.filter (·.path != path) = w.ledger.sets := by
      rw [List.filter_eq_self]
      intro s hs
      simpa using List.find?_eq_none.mp hset s hs
    simp [Ledger.clear, hkeep]
  · rfl

/-! ## Baselines -/

theorem baseline_record (names : Identifiers) (l : Ledger) (path other : String)
    (text : List Char) (edits : List Edit) (description : String) :
    (l.record names path text edits description).2.baseline other
      = if path = other then some ((l.baseline path).getD text) else l.baseline other := by
  rw [Ledger.baseline, Ledger.setOf_record]
  by_cases h : path = other
  · simp only [h, if_true, Option.map_some, ChangeSet.baseline_extend, Ledger.baseline]
    rcases l.setOf other with _ | s <;> rfl
  · simp only [h, if_false]
    rfl

theorem baseline_erase {l : Ledger} (h : l.Sound) (id path : String) :
    (l.erase id).baseline path = l.baseline path := by
  rw [Ledger.baseline, h.setOf_erase, Option.map_map]
  rfl

theorem baseline_discard {l : Ledger} (h : l.Sound) (ids : List String) (path : String) :
    (l.discard ids).baseline path = l.baseline path := by
  rw [Ledger.baseline, h.setOf_discard, Option.map_map]
  rfl

theorem baseline_clear (l : Ledger) (path other : String) :
    (l.clear path).baseline other = if path = other then none else l.baseline other := by
  rw [Ledger.baseline, Ledger.setOf_clear]
  split <;> rfl

/-! ## Runs -/

/-- The ledger is sound, and has the given texts as its baselines. -/
structure Kept (w : Workspace σ) (known : String → Option (List Char)) : Prop where
  sound : w.ledger.Sound
  baseline : ∀ path, w.ledger.baseline path = known path

theorem Kept.of_erase {w' : Workspace σ} {id : String} (h : w.Kept known)
    (hledger : w'.ledger = w.ledger ∨ w'.ledger = w.ledger.erase id) : w'.Kept known := by
  rcases hledger with heq | heq
  · exact ⟨heq ▸ h.sound, fun path => by rw [heq, h.baseline]⟩
  · exact ⟨heq ▸ h.sound.erase id, fun path => by rw [heq, baseline_erase h.sound, h.baseline]⟩

/-- Recording keeps the baselines that there are, and takes what is given for a new one. -/
theorem Kept.record (hw : w.Kept known) (h : Host σ)
    (path : String) (edits : List Edit) (description : String) :
    (w.record h names path edits description).2.Kept
      ((Operation.record h path edits description).texts w known) := by
  have hknown : known path = (w.ledger.setOf path).map (·.baseline) := (hw.baseline path).symm
  rw [Operation.texts]
  rcases record_cases h names w path edits description with
    ⟨hset, hgiven, f, hrecord⟩ | ⟨text, notes, hgiven, hrecord⟩
  · rw [hset, Option.map_none] at hknown
    rw [hrecord, hgiven, hknown, Option.isSome_none, if_neg Bool.false_ne_true, ← hknown,
      Function.update_eq_self]
    exact hw
  · rw [hrecord]
    refine ⟨(hw.sound.record path text edits description).1, ?_⟩
    intro other
    have hbaseline := baseline_record names w.ledger path other text edits description
    rw [hw.baseline, hw.baseline] at hbaseline
    refine hbaseline.trans ?_
    -- the text is new to a file without a set, and ignored where there is a set
    rcases hset : w.ledger.setOf path with _ | s
    · rw [hset, Option.map_none] at hknown
      rw [hknown, hgiven hset]
      by_cases hother : path = other
      · subst hother
        simp
      · simp [hother, Function.update_of_ne (Ne.symm hother)]
    · rw [hset, Option.map_some] at hknown
      rw [hknown]
      by_cases hother : path = other
      · subst hother
        simp [hknown]
      · simp [hother]

/-- Every operation keeps the records. -/
theorem Kept.run (hw : w.Kept known) (o : Operation σ) :
    (o.run names w).Kept (o.texts w known) := by
  -- recording and clearing change the texts that are known, the others do not touch a baseline
  cases o with
  | record h path edits description => exact hw.record h path edits description
  | discard ids =>
    refine ⟨hw.sound.discard ids, ?_⟩
    intro path
    exact (baseline_discard hw.sound ids path).trans (hw.baseline path)
  | approve id => exact hw.of_erase (ledger_approve w id)
  | reject h id => exact hw.of_erase (ledger_reject h w id)
  | clear path =>
    have hledger : ((Operation.clear path).run names w).ledger = w.ledger.clear path :=
      ledger_clear w path
    refine ⟨hledger ▸ hw.sound.clear path, ?_⟩
    intro other
    rw [hledger, baseline_clear, Operation.texts]
    by_cases h : path = other
    · simp [h]
    · simp [h, Function.update_of_ne (Ne.symm h), hw.baseline other]
  | disturb files => exact ⟨hw.sound, hw.baseline⟩

theorem kept_of_reachable (hreach : Reachable names w known) :
    w.Kept known := by
  induction hreach with
  | start files => exact ⟨Ledger.sound_of_sets_nil rfl, fun _ => rfl⟩
  | step o _ ih => exact ih.run o

/-- Whatever was done to a ledger: each change is found by its identifier in its set, which is the set of
its file, and has what the baseline of the set has in its range; no two sets know one identifier; and the
baselines are the texts that hosts gave when sets were opened, none of which any operation alters except
by clearing the set. -/
theorem records_of_reachable (hreach : Reachable names w known) :
    (∀ s ∈ w.ledger.sets, ∀ c ∈ s.changes, s.find c.id = some c ∧
      w.ledger.setOf c.path = some s ∧ c.replaced = baselineText s.baseline c.edit.range) ∧
    (∀ s ∈ w.ledger.sets, ∀ t ∈ w.ledger.sets, ∀ id, (s.find id).isSome → (t.find id).isSome →
      s = t) ∧
    (∀ path, w.ledger.baseline path = known path) ∧
    ∀ (o : Operation σ) (path : String) (text : List Char), w.ledger.baseline path = some text →
      o ≠ .clear path → (o.run names w).ledger.baseline path = some text := by
  obtain ⟨hsound, hbaseline⟩ := kept_of_reachable hreach
  refine ⟨?_, ?_, hbaseline, ?_⟩
  · intro s hs c hc
    refine ⟨hsound.find hs hc, ?_, hsound.replaced s hs c hc⟩
    rw [hsound.here s hs c hc]
    exact hsound.setOf hs
  · intro s hs t ht id
    exact hsound.eq_of_find hs ht
  · intro o path text htext hclear
    -- what is known after one more operation is the baseline after it
    have hnext := ((kept_of_reachable (hreach.step o)).baseline path)
    rw [hbaseline] at htext
    rw [hnext]
    cases o with
    | record h other edits description =>
      by_cases hother : path = other
      · subst hother
        simp [Operation.texts, htext]
      · simp only [Operation.texts]
        split
        · exact htext
        · rw [Function.update_of_ne hother, htext]
    | clear other =>
      have hother : path ≠ other := fun heq => hclear (congrArg _ heq.symm)
      rw [Operation.texts, Function.update_of_ne hother, htext]
    | discard | approve | reject | disturb => exact htext

/-- A run on two files: one that changes after it was recorded, through a host that then fails, and one that
cannot be read. In the end the set of the first file is cleared and opened again. -/
def reopening : List (Operation Memory) :=
  let h := Memory.host true fun _ => []
  let line : Edit := ⟨⟨⟨0, 0⟩, ⟨0, 1⟩, by decide⟩, ['x']⟩
  [.record h "a" [line] "one", .disturb { texts := [("a", "later".toList)], mode := .failing },
    .record h "a" [line, line] "two", .reject h (Ledger.strokes 1), .record h "b" [line] "three",
    .approve (Ledger.strokes 2), .clear "a", .record h "a" [line] "four"]

/-- The baseline of a file that changes is the earlier text until the set is cleared, and the later text
afterwards. Every identifier is offered twice, and passed over while a change has it. -/
theorem records_of_reachable_reopening :
    let start : Workspace Memory := { files := { texts := [("a", "first".toList)] } }
    let before := runAll Ledger.doubled (start, fun _ => none) (reopening.take 6)
    let after := runAll Ledger.doubled (start, fun _ => none) reopening
    Reachable Ledger.doubled before.1 before.2 ∧
      Reachable Ledger.doubled after.1 after.2 ∧
      before.1.ledger.baseline "a" = some "first".toList ∧
      before.1.ledger.ids = [0, 1, 3].map Ledger.strokes ∧
      after.1.ledger.baseline "a" = some "later".toList ∧
      after.1.ledger.baseline "b" = some [] ∧
      after.1.ledger.ids = [3, 4].map Ledger.strokes := by
  intro start before after
  have hbefore : Reachable Ledger.doubled before.1 before.2 :=
    Reachable.runAll (start, fun _ => none) _ (.start start.files)
  have hafter : Reachable Ledger.doubled after.1 after.2 :=
    Reachable.runAll (start, fun _ => none) _ (.start start.files)
  -- the baselines are the texts that the host gave, which are read off the run
  obtain ⟨-, -, hknown, -⟩ := records_of_reachable hbefore
  obtain ⟨-, -, hknown', -⟩ := records_of_reachable hafter
  refine ⟨hbefore, hafter, ?_, by decide +kernel, ?_, ?_, by decide +kernel⟩
  · rw [hknown]
    decide +kernel
  · rw [hknown']
    decide +kernel
  · rw [hknown']
    decide +kernel

end Emend.Workspace
