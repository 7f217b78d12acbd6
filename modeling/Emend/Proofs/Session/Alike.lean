import Emend.Proofs.Ledger.Operation
import Emend.Proofs.Ledger.Spare
import Emend.Proofs.Session.Request

/-!
# Runs that answer alike

Two workspaces whose hosts nobody can tell apart, and whose ledgers differ in a spare change set and in how many
identifiers were asked for, answer alike to everything that is done through a session, and stay like this
(`Shadows.run`, `Shadows.runAll`). Only a request that opens the set of the file for another text than that of the
spare one would tell them apart.

Main statements:

* `blind_eq`: logging tells nobody anything that a session would answer by.
* `Shadows.record`, `Shadows.apply`: one request, on both workspaces.
* `Shadows.run`, `Shadows.runAll`: one action, and a run of them.
-/

namespace Emend.Session

variable {σ α β : Type} {s : Session σ} {gap : Nat} {spare left : Option ChangeSet}
  {w v : Workspace σ} {a b : σ} {path : String} {request : Request}

/-! ## Runs -/

/-- Something that is done through a session, or that happens to the files behind it. -/
inductive Action (σ : Type) where
  | preview (request : Request)
  | apply (request : Request) (track : Bool)
  | approve (change : String)
  | reject (change : String)
  | approveAll (path : String)
  | rejectAll (path : String)
  | saveAndClear (path : String)
  | disturb (change : σ → σ)

/-- What an action answers. -/
inductive Answer where
  | previewed (result : Attempt Preview)
  | applied (result : Attempt Applied)
  | decided (result : Attempt Bool)
  | counted (result : Attempt Nat)
  | nothing

/-- The answer of an action, and the workspace after it. -/
def Action.run (s : Session σ) (w : Workspace σ) : Action σ → Answer × Workspace σ
  | .preview request => (s.preview w request).map .previewed id
  | .apply request track => (s.apply w request track).map .applied id
  | .approve change => (w.approve change).map (.decided ∘ .ok) id
  | .reject change => (w.reject s.host change).map .decided id
  | .approveAll path => (s.approveAll w path).map (.counted ∘ .ok) id
  | .rejectAll path => (s.rejectAll w path).map .counted id
  | .saveAndClear path => (s.saveAndClear w path).map (.decided ∘ .ok) id
  | .disturb change => (.nothing, { w with files := change w.files })

/-- The answers of one action after the other, and the workspace after all of them. -/
def runAll (s : Session σ) (w : Workspace σ) : List (Action σ) → List Answer × Workspace σ
  | [] => ([], w)
  | a :: rest =>
    let (answer, w) := a.run s w
    let (more, w) := s.runAll w rest
    (answer :: more, w)

/-- The session with identifiers from some place on. -/
def later (s : Session σ) (gap : Nat) : Session σ := { s with names := s.names.later gap }

/-! ## What a host can tell -/

/-- The files that a session works with, and the states that nobody can tell apart by them. A state that is not even
the same as itself is not looked at. -/
structure View (σ : Type) where
  seen : String → Prop
  same : σ → σ → Prop

variable {view : View σ}

/-- By the files of a view the host cannot tell states that are the same, and it does not see what is logged. -/
structure Blind (s : Session σ) (view : View σ) : Prop where
  symm : ∀ {a b}, view.same a b → view.same b a
  trans : ∀ {a b c}, view.same a b → view.same b c → view.same a c
  read : ∀ {a b path}, view.same a b → view.seen path → s.host.read a path = s.host.read b path
  symbols : ∀ {a b path}, view.same a b → view.seen path → s.host.symbols a path = s.host.symbols b path
  save : ∀ {a b path}, view.same a b → view.seen path → s.host.save a path = s.host.save b path
  made : ∀ {a b path}, view.same a b → view.seen path → ∀ edits,
    (s.host.apply a path edits).made = (s.host.apply b path edits).made
  state : ∀ {a b path}, view.same a b → view.seen path → ∀ edits,
    view.same (s.host.apply a path edits).state (s.host.apply b path edits).state
  logs : s.settings.metricsEnabled = true → ∀ {a}, view.same a a → ∀ entry,
    ∃ a', (s.log a entry).1 = .ok a' ∧ view.same a a'

/-- Where nothing is logged in its state, every host tells no more than this state. -/
theorem blind_eq (h : s.settings.metricsEnabled = true → ∀ a entry, (s.log a entry).1 = .ok a) :
    s.Blind ⟨fun _ => True, Eq⟩ where
  symm := Eq.symm
  trans := Eq.trans
  read := by rintro _ _ path rfl -; rfl
  symbols := by rintro _ _ path rfl -; rfl
  save := by rintro _ _ path rfl -; rfl
  made := by rintro _ _ path rfl - edits; rfl
  state := by rintro _ _ path rfl - edits; rfl
  logs := fun hmetrics a _ entry => ⟨a, h hmetrics a entry, rfl⟩

theorem Blind.refl_left (hb : s.Blind view) (h : view.same a b) : view.same a a := hb.trans h (hb.symm h)

/-- An action works with the files of a view, and what happens to the files leaves states the same that are. -/
def Action.Keeps (s : Session σ) (view : View σ) : Action σ → Prop
  | .preview request | .apply request _ => view.seen (s.host.key request.filePath)
  | .saveAndClear path => view.seen (s.host.key path)
  | .disturb change => ∀ a b, view.same a b → view.same (change a) (change b)
  | .approve _ | .reject _ | .approveAll _ | .rejectAll _ => True

theorem Blind.compile (hb : s.Blind view) (h : view.same a b) (hpath : view.seen path) (request : Request) :
    s.compile a path request = s.compile b path request := by
  have hcontext : ∀ text, s.context a ⟨text, path⟩ = s.context b ⟨text, path⟩ := by
    intro text
    simp only [context, hb.symbols h hpath]
  simp only [Session.compile, compileFor, hb.read h hpath, hcontext]

/-! ## Two workspaces -/

/-- The states of two workspaces are the same, and the first ledger has no more than a spare set besides those of the
second. All of its sets are of files of the view. -/
structure Shadows (view : View σ) (gap : Nat) (spare : Option ChangeSet) (w v : Workspace σ) : Prop where
  files : view.same w.files v.files
  ledger : Ledger.Spare gap spare w.ledger v.ledger
  sound : w.ledger.Sound
  within : w.ledger.Within view.seen
  verdicts : w.verdicts = v.verdicts

/-- One answer, and workspaces in which the spare set is left, or gone. -/
structure Alike (view : View σ) (gap : Nat) (spare : Option ChangeSet) (x y : α × Workspace σ) : Prop where
  answer : x.1 = y.1
  shadows : ∃ left, (left = none ∨ left = spare) ∧ Shadows view gap left x.2 y.2

theorem Shadows.tell (h : Shadows view gap spare w v) (notes notes' : List Note) :
    Shadows view gap spare (w.tell notes) (v.tell notes') :=
  ⟨h.files, h.ledger, h.sound, h.within, h.verdicts⟩

theorem Shadows.alike (h : Shadows view gap spare w v) (x : α) : Alike view gap spare (x, w) (x, v) :=
  ⟨rfl, spare, .inr rfl, h⟩

theorem Alike.mono {x y : α × Workspace σ} (h : Alike view gap left x y) (hleft : left = none ∨ left = spare) :
    Alike view gap spare x y := by
  obtain ⟨hanswer, still, hstill, hshadows⟩ := h
  refine ⟨hanswer, still, ?_, hshadows⟩
  rcases hstill with rfl | rfl
  · exact .inl rfl
  · exact hleft

theorem Alike.map {x y : α × Workspace σ} (h : Alike view gap spare x y) (f : α → β) :
    Alike view gap spare (x.map f id) (y.map f id) :=
  ⟨congrArg f h.answer, h.shadows⟩

/-- What is said of two results that are alike can be said for one answer and two workspaces. -/
@[elab_as_elim]
theorem Alike.elim {motive : α × Workspace σ → α × Workspace σ → Prop} {x y : α × Workspace σ}
    (h : Alike view gap spare x y) (hpair : ∀ (answer : α) (left : Option ChangeSet) (w v : Workspace σ),
      (left = none ∨ left = spare) → Shadows view gap left w v → motive (answer, w) (answer, v)) : motive x y := by
  obtain ⟨hanswer, left, hleft, hshadows⟩ := h
  obtain ⟨answer, w⟩ := x
  obtain ⟨answer', v⟩ := y
  obtain rfl : answer = answer' := hanswer
  exact hpair answer left w v hleft hshadows

/-! ## Requests -/

theorem Shadows.logBatch (hb : s.Blind view) (h : Shadows view gap spare w v) (request : Request)
    (error : Option EditError) : Alike view gap spare (s.logBatch w request error) (s.logBatch v request error) := by
  unfold Session.logBatch
  by_cases hmetrics : s.settings.metricsEnabled = true
  · rw [if_pos hmetrics, if_pos hmetrics]
    -- neither host sees what was logged, so the states that follow are the same as those before
    obtain ⟨files, hw, hfrom⟩ := hb.logs hmetrics (hb.refl_left h.files) (Metrics.entry request error)
    obtain ⟨files', hv, hto⟩ := hb.logs hmetrics (hb.refl_left (hb.symm h.files)) (Metrics.entry request error)
    have hsame : view.same files files' := hb.trans (hb.symm hfrom) (hb.trans h.files hto)
    rcases hlog : s.log w.files (Metrics.entry request error) with ⟨result, notes⟩
    rcases hlog' : s.log v.files (Metrics.entry request error) with ⟨result', notes'⟩
    obtain rfl : result = .ok files := by rw [← hw, hlog]
    obtain rfl : result' = .ok files' := by rw [← hv, hlog']
    exact ⟨rfl, spare, .inr rfl, hsame, h.ledger, h.sound, h.within, h.verdicts⟩
  · rw [if_neg hmetrics, if_neg hmetrics]
    exact h.alike _

theorem Shadows.refuse (hb : s.Blind view) (h : Shadows view gap spare w v) (request : Request) (error : EditError)
    (f : Failure) (notes : List Note) : Alike (α := Attempt α) view gap spare
      (s.refuse w request error f notes) (s.refuse v request error f notes) := by
  unfold Session.refuse
  refine (h.logBatch hb request (some error)).elim ?_
  intro answer left w₁ v₁ hleft hshadows
  rcases answer with g | ⟨⟩
  · exact (hshadows.alike _).mono hleft
  · exact ((hshadows.tell notes notes).alike _).mono hleft

/-- What the host does for edits leaves states that are the same. -/
theorem Shadows.attempt (hb : s.Blind view) (h : Shadows view gap spare w v) (hpath : view.seen path)
    (edits : List Edit) :
    Shadows view gap spare
      (({ w with files := (s.host.apply w.files path edits).state } : Workspace σ).tell
        (s.host.apply w.files path edits).notes)
      (({ v with files := (s.host.apply v.files path edits).state } : Workspace σ).tell
        (s.host.apply v.files path edits).notes) :=
  ⟨hb.state h.files hpath edits, h.ledger, h.sound, h.within, h.verdicts⟩

theorem Shadows.discard (h : Shadows view gap spare w v) (ids : List String) :
    Shadows view gap spare (w.discard ids) (v.discard ids) :=
  ⟨h.files, h.ledger.discard h.sound ids, h.sound.discard ids, h.within.discard h.sound ids, h.verdicts⟩

theorem Shadows.make (hb : s.Blind view) (h : Shadows view gap spare w v) (hpath : view.seen path)
    (request : Request) (edits : List Edit) (changes : List PendingChange) (track : Bool) : Alike view gap spare
      (s.make w path request edits changes track) (s.make v path request edits changes track) := by
  -- both hosts answer alike, and what they do leaves states that are the same
  have hmade := hb.made h.files hpath edits
  have hnext := h.attempt hb hpath edits
  unfold Session.make
  simp only [hmade]
  rcases (s.host.apply v.files path edits).made with f | made
  · exact hnext.alike _
  · cases made with
    | false => exact (hnext.discard (changes.map (·.id))).refuse hb _ _ _ _
    | true =>
      simp only
      -- a batch that was made is logged before the answer is given
      refine (hnext.logBatch hb request none).elim ?_
      intro answer left w₁ v₁ hleft hshadows
      rcases answer with g | ⟨⟩
      · exact (hshadows.alike _).mono hleft
      · exact ((hshadows.tell _ _).alike _).mono hleft

/-- The edits of a file are recorded alike, unless the set of the file is opened for another text than that of the
spare one. -/
theorem Shadows.record (hb : s.Blind view) (h : Shadows view gap spare w v) (hpath : view.seen path)
    (edits : List Edit) (description : String)
    (hopens : ∀ x ∈ spare, x.path = path → s.host.read v.files path = .ok x.baseline) : Alike view gap spare
      (w.record s.host s.names path edits description)
      (v.record s.host (s.names.later gap) path edits description) := by
  unfold Workspace.record
  by_cases hother : ∀ x ∈ spare, x.path ≠ path
  · -- the set of any other file is there in both ledgers, or opened in both
    have hcaptured : Workspace.baselineOf s.host w path = Workspace.baselineOf s.host v path := by
      simp only [Workspace.baselineOf, hb.read h.files hpath]
    rw [h.ledger.setOf_other h.sound hother, hcaptured]
    simp only
    split
    · exact h.alike _
    · rename_i text notes _
      obtain ⟨hchanges, hspare⟩ := h.ledger.record_other h.sound hother s.names text edits description
      exact ⟨congrArg Except.ok hchanges, spare, .inr rfl, h.files, hspare,
        (h.sound.record path text edits description).1, h.within.record hpath _ _ _ _, h.verdicts⟩
  · push Not at hother
    obtain ⟨x, rfl, rfl⟩ := hother
    obtain ⟨hhere, hnone⟩ := h.ledger.setOf_spare h.sound
    -- the second ledger opens a set for the text of the spare one, which is none from then on
    have hread : s.host.read v.files x.path = .ok x.baseline := hopens x rfl rfl
    obtain ⟨hchanges, hspare⟩ := h.ledger.record_spare h.sound s.names [] edits description
    simp only [hhere, hnone, Option.isSome_some, Option.isSome_none, if_true, Bool.false_eq_true, if_false,
      Workspace.baselineOf, hread]
    exact ⟨congrArg Except.ok hchanges, none, .inl rfl, h.files, hspare,
      (h.sound.record x.path [] edits description).1, h.within.record hpath _ _ _ _, h.verdicts⟩

/-- An action makes edits for a file that has no set, so that its set is opened for a text. -/
def Action.Opens (s : Session σ) (v : Workspace σ) (path : String) (text : List Char) : Action σ → Prop
  | .apply request track => track = true ∧ request.instructions ≠ [] ∧ s.host.key request.filePath = path ∧
      v.ledger.setOf path = none ∧
        ∃ document edits, s.compile v.files path request = .ok (document, edits) ∧ document.text = text
  | _ => False

theorem Shadows.recordEdits (hb : s.Blind view) (h : Shadows view gap spare w v) (hpath : view.seen path)
    (request : Request) (edits : List Edit) (track : Bool)
    (hopens : track = true → ∀ x ∈ spare, x.path = path → s.host.read v.files path = .ok x.baseline) :
    Alike view gap spare (s.recordEdits w path request edits track)
      ((s.later gap).recordEdits v path request edits track) := by
  unfold Session.recordEdits
  cases track with
  | false => exact h.alike _
  | true => exact h.record hb hpath edits _ (hopens rfl)

/-- A request is answered alike, unless it opens the set of the file of the spare one for another text. -/
theorem Shadows.apply (hb : s.Blind view) (h : Shadows view gap spare w v)
    (request : Request) (track : Bool) (hpath : view.seen (s.host.key request.filePath))
    (hopens : ∀ x ∈ spare, ∀ text, (Action.apply request track).Opens s v x.path text → text = x.baseline) :
    Alike view gap spare (s.apply w request track) ((s.later gap).apply v request track) := by
  have hsame := hb.compile h.files hpath request
  have hlater : (s.later gap).compile v.files (s.host.key request.filePath) request
      = s.compile v.files (s.host.key request.filePath) request := rfl
  have htold := h.tell (s.compileNotes w.files (s.host.key request.filePath) request)
    ((s.later gap).compileNotes v.files (s.host.key request.filePath) request)
  have hkey : (s.later gap).host.key request.filePath = s.host.key request.filePath := rfl
  unfold Session.apply
  rw [hkey]
  by_cases hne : request.instructions = []
  · simp only [hne, List.isEmpty_nil, if_true]
    exact h.alike _
  · have hsome : request.instructions.isEmpty = false := by simpa using hne
    simp only [hsome, Bool.false_eq_true, if_false]
    rw [hlater, hsame]
    rcases hcompile : s.compile v.files (s.host.key request.filePath) request with f | ⟨document, edits⟩
    · rcases f with ⟨e, culprit⟩ | _
      · exact htold.refuse hb request e _ []
      all_goals exact htold.alike _
    · -- the text that is recorded is the one that was read to compile
      have hread : track = true → ∀ x ∈ spare, x.path = s.host.key request.filePath →
          s.host.read v.files (s.host.key request.filePath) = .ok x.baseline := by
        rintro rfl x hx hpath
        obtain ⟨text, hread⟩ := read_of_compile hcompile
        obtain ⟨rfl, -⟩ := (compile_eq_ok_iff (w := v) hread).mp hcompile
        obtain ⟨x, rfl⟩ : ∃ y, spare = some y := ⟨x, hx⟩
        obtain rfl := Option.some.inj hx
        rw [hread, ← hopens x rfl text]
        exact ⟨rfl, hne, hpath.symm, (h.ledger.setOf_spare h.sound).2, _, edits, hpath ▸ hcompile, rfl⟩
      simp only
      refine (htold.recordEdits hb hpath request edits track hread).elim ?_
      intro answer left w₁ v₁ hleft hshadows
      rcases answer with f | changes
      · exact (hshadows.alike _).mono hleft
      · exact (hshadows.make hb hpath request edits changes track).mono hleft

theorem Shadows.preview (hb : s.Blind view) (h : Shadows view gap spare w v) (request : Request)
    (hpath : view.seen (s.host.key request.filePath)) :
    Alike view gap spare (s.preview w request) ((s.later gap).preview v request) := by
  have hsame := hb.compile h.files hpath request
  have htold := h.tell (s.compileNotes w.files (s.host.key request.filePath) request)
    (s.compileNotes v.files (s.host.key request.filePath) request)
  have hlater : (s.later gap).preview v request = s.preview v request := rfl
  rw [hlater]
  unfold Session.preview
  simp only [hsame]
  -- a preview fails while it is compiled, fails while it is made, or shows the text
  split
  · exact htold.alike _
  · split
    · exact htold.alike _
    · exact (htold.tell _ _).alike _

/-! ## Reviewing -/

theorem Shadows.pending (h : Shadows view gap spare w v) (path : String) : s.pending w path = s.pending v path :=
  h.ledger.pending h.sound (s.host.key path)

theorem Shadows.settle (h : Shadows view gap spare w v) (c : PendingChange) (verdict : Verdict) (text : String) :
    Shadows view gap spare (w.settle c verdict text) (v.settle c verdict text) :=
  ⟨h.files, h.ledger.erase h.sound c.id, h.sound.erase c.id, h.within.erase h.sound c.id,
    congrArg (· ++ [(c.id, verdict)]) h.verdicts⟩

theorem Shadows.approve (h : Shadows view gap spare w v) (id : String) :
    Alike view gap spare (w.approve id) (v.approve id) := by
  unfold Workspace.approve
  rw [h.ledger.find h.sound]
  split
  · exact h.alike _
  · exact (h.settle _ _ _).alike _

theorem Shadows.reject (hb : s.Blind view) (h : Shadows view gap spare w v) (id : String) :
    Alike view gap spare (w.reject s.host id) (v.reject s.host id) := by
  unfold Workspace.reject
  rcases hfind : w.ledger.find id with _ | c
  · rw [← h.ledger.find h.sound, hfind]
    exact h.alike _
  · -- a change that is found is one of a file that was worked with
    have hpath := h.within.find h.sound hfind
    have hmade := hb.made h.files hpath [c.inverse]
    have hnext := h.attempt hb hpath [c.inverse]
    rw [← h.ledger.find h.sound, hfind]
    simp only [hmade]
    rcases (s.host.apply v.files c.path [c.inverse]).made with f | made
    · simp only
      split
      · exact (hnext.tell _ _).alike _
      · exact hnext.alike _
    · cases made with
      | false => exact (hnext.tell _ _).alike _
      | true => exact (hnext.settle _ _ _).alike _

theorem Shadows.approveEach (h : Shadows view gap spare w v) (changes : List PendingChange) :
    Alike view gap spare (Session.approveEach w changes) (Session.approveEach v changes) := by
  induction changes generalizing spare w v with
  | nil => exact h.alike _
  | cons c rest ih =>
    rw [Session.approveEach, Session.approveEach]
    refine (h.approve c.id).elim ?_
    intro kept left w₁ v₁ hleft hshadows
    exact ((ih hshadows).map (· + kept.toNat)).mono hleft

theorem Shadows.rejectEach (hb : s.Blind view) (h : Shadows view gap spare w v) (changes : List PendingChange) :
    Alike view gap spare (Session.rejectEach s.host w changes) (Session.rejectEach s.host v changes) := by
  -- on the changes, each of which is rejected in workspaces that are alike by then
  induction changes generalizing spare w v with
  | nil => exact h.alike _
  | cons c rest ih =>
    rw [Session.rejectEach, Session.rejectEach]
    refine (h.reject hb c.id).elim ?_
    intro answer left w₁ v₁ hleft hshadows
    rcases answer with f | taken
    · exact (hshadows.alike _).mono hleft
    · exact ((ih hshadows).map fun n => n.map (· + taken.toNat)).mono hleft

theorem frame_clear (w : Workspace σ) (path : String) :
    (w.clear path).files = w.files ∧ (w.clear path).verdicts = w.verdicts := by
  unfold Workspace.clear
  split <;> exact ⟨rfl, rfl⟩

theorem Shadows.clear (h : Shadows view gap spare w v) (path : String) (x : α) :
    Alike view gap spare (x, w.clear path) (x, v.clear path) := by
  obtain ⟨hfiles, hverdicts⟩ := frame_clear w path
  obtain ⟨hfiles', hverdicts'⟩ := frame_clear v path
  -- the spare set goes if it is of the file
  have hleft : spare.filter (·.path != path) = none ∨ spare.filter (·.path != path) = spare := by
    rcases spare with _ | x
    · exact .inl rfl
    · by_cases hx : x.path = path <;> simp [Option.filter, hx]
  refine ⟨rfl, _, hleft, ?_, ?_, ?_, ?_, ?_⟩
  · rw [hfiles, hfiles']
    exact h.files
  · rw [Workspace.ledger_clear, Workspace.ledger_clear]
    exact h.ledger.clear path
  · rw [Workspace.ledger_clear]
    exact h.sound.clear path
  · rw [Workspace.ledger_clear]
    exact h.within.clear path
  · rw [hverdicts, hverdicts', h.verdicts]

theorem Shadows.saveAndClear (hb : s.Blind view) (h : Shadows view gap spare w v) (path : String)
    (hpath : view.seen (s.host.key path)) :
    Alike view gap spare (s.saveAndClear w path) (s.saveAndClear v path) := by
  unfold Session.saveAndClear
  simp only [hb.save h.files hpath]
  split
  · exact h.clear _ _
  · exact (h.tell _ _).alike _

/-! ## Actions -/

/-- An action is answered alike, unless it opens the set of the file of the spare one for another text. -/
theorem Shadows.run (hb : s.Blind view) (h : Shadows view gap spare w v)
    (action : Action σ) (hkeeps : action.Keeps s view)
    (hopens : ∀ x ∈ spare, ∀ text, action.Opens s v x.path text → text = x.baseline) :
    Alike view gap spare (action.run s w) (action.run (s.later gap) v) := by
  -- one lemma for each action; the spare set can be used up by a request only
  cases action with
  | preview request => exact (h.preview hb request hkeeps).map Answer.previewed
  | apply request track => exact (h.apply hb request track hkeeps hopens).map Answer.applied
  | approve change => exact (h.approve change).map (Answer.decided ∘ Except.ok)
  | reject change => exact (h.reject hb change).map Answer.decided
  | approveAll path =>
    have hall : Alike view gap spare (s.approveAll w path) (s.approveAll v path) := by
      rw [Session.approveAll, h.pending path]
      exact h.approveEach _
    exact hall.map (Answer.counted ∘ Except.ok)
  | rejectAll path =>
    have hall : Alike view gap spare (s.rejectAll w path) (s.rejectAll v path) := by
      rw [Session.rejectAll, reviewOrder, h.pending path]
      exact h.rejectEach hb _
    exact hall.map Answer.counted
  | saveAndClear path => exact (h.saveAndClear hb path hkeeps).map (Answer.decided ∘ Except.ok)
  | disturb change =>
    exact ⟨rfl, spare, .inr rfl, hkeeps _ _ h.files, h.ledger, h.sound, h.within, h.verdicts⟩

/-- In two runs, where a file has a set in the first one and its set is opened in the second one, it is opened for
a given text. -/
def OpensFor (s : Session σ) (gap : Nat) (path : String) (text : List Char) (w v : Workspace σ) :
    List (Action σ) → Prop
  | [] => True
  | action :: rest =>
    ((w.ledger.setOf path).isSome → ∀ other, action.Opens s v path other → other = text) ∧
      s.OpensFor gap path text (action.run s w).2 (action.run (s.later gap) v).2 rest

/-- Along a run, every action is answered alike. -/
theorem Shadows.runAll (hb : s.Blind view) (h : Shadows view gap spare w v)
    (actions : List (Action σ)) (hkeeps : ∀ action ∈ actions, action.Keeps s view)
    (hopens : ∀ x ∈ spare, s.OpensFor gap x.path x.baseline w v actions) :
    Alike view gap spare (s.runAll w actions) ((s.later gap).runAll v actions) := by
  induction actions generalizing spare w v with
  | nil => exact h.alike _
  | cons action rest ih =>
    rw [List.forall_mem_cons] at hkeeps
    have hrun := h.run hb action hkeeps.1 (by
      intro x hx text
      obtain rfl : spare = some x := hx
      exact (hopens x rfl).1 (by rw [(h.ledger.setOf_spare h.sound).1]; rfl) text)
    have hnext : ∀ x ∈ spare, s.OpensFor gap x.path x.baseline (action.run s w).2
        (action.run (s.later gap) v).2 rest := fun x hx => (hopens x hx).2
    rw [Session.runAll, Session.runAll]
    revert hnext
    refine hrun.elim ?_
    intro answer left w₁ v₁ hleft hshadows hnext
    -- once the spare set is used up, nothing that follows can tell the two runs apart
    refine ((ih hshadows hkeeps.2 ?_).map (answer :: ·)).mono hleft
    intro x hx
    rcases hleft with rfl | rfl
    · simp at hx
    · exact hnext x hx

end Emend.Session
