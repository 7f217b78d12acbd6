import Emend.Proofs.Instruction.Reading

/-!
# The grammar of requests

What a request has to look like is said here without reading it: which keys are asked for, and which values they
may have. The reader takes exactly these requests, and of a request with bad instructions it names the first one
(`Request.ofJson_iff_isRequest`).

Main statements:

* `hasFields_of_writtenIn`, `exists_writtenIn_of_hasFields`: the fields of each kind of match.
* `isInstruction_iff`: an instruction has the grammar if it is read.
* `exists_firstBad`, `ofJson_iff_isRequest`: the same of requests, with the first bad instruction.
-/

namespace Emend

/-- The refusal says that a request is malformed: something in it is wrong, or an action does not take its
match. -/
def EditError.IsMalformed : EditError → Prop
  | .request _ => True
  | .mismatch .. => True
  | _ => False

namespace Wire

variable {fields : Fields} {key : String} {least : Int} {v : Json}

/-! ## Values and keys -/

/-- A whole number of at least `least`. Neither truth values nor numbers with a point are whole. -/
def IsInteger (least : Int) (v : Json) : Prop := ∃ n, v = .int n ∧ least ≤ n

/-- Any text. -/
def IsText (v : Json) : Prop := ∃ s, v = .str s

/-- A text that is not empty. -/
def IsWord (v : Json) : Prop := ∃ s, v = .str s ∧ s ≠ ""

/-- A value that counts as present. -/
def IsPresent (v : Json) : Prop := v.isTruthy = true

/-- The key is set to a value of this kind. -/
def Required (fields : Fields) (key : String) (kind : Json → Prop) : Prop :=
  ∃ v, Json.lookup key fields = some v ∧ kind v

/-- The key is set to a value of this kind, or to null, or not set. -/
def Optional (fields : Fields) (key : String) (kind : Json → Prop) : Prop :=
  ∀ v, Json.lookup key fields = some v → v = .null ∨ kind v

/-- The key is set to a value of this kind, or not set. -/
def Defaulted (fields : Fields) (key : String) (kind : Json → Prop) : Prop :=
  ∀ v, Json.lookup key fields = some v → kind v

theorem required_iff {kind : Json → Prop} (hnull : ¬ kind .null) :
    Required fields key kind ↔ kind (Json.get key fields) := by
  rw [Required, Json.get]
  rcases Json.lookup key fields with _ | v
  · simpa using hnull
  · simp

theorem optional_iff {kind : Json → Prop} :
    Optional fields key kind ↔ Json.get key fields = .null ∨ kind (Json.get key fields) := by
  rw [Optional, Json.get]
  rcases Json.lookup key fields with _ | v
  · simp
  · simp

theorem defaulted_iff {kind : Json → Prop} {default : Json} (hdefault : kind default) :
    Defaulted fields key kind ↔ kind ((Json.lookup key fields).getD default) := by
  rw [Defaulted]
  rcases Json.lookup key fields with _ | v
  · simpa using hdefault
  · simp

theorem required_isInteger_iff :
    Required fields key (IsInteger least) ↔ ∃ n, Json.get key fields = .int n ∧ least ≤ n :=
  required_iff (by simp [IsInteger])

theorem required_isWord_iff :
    Required fields key IsWord ↔ ∃ s, Json.get key fields = .str s ∧ s ≠ "" :=
  required_iff (by simp [IsWord])

theorem required_isText_iff : Required fields key IsText ↔ ∃ s, Json.get key fields = .str s :=
  required_iff (by simp [IsText])

theorem required_isPresent_iff :
    Required fields key IsPresent ↔ (Json.get key fields).isTruthy = true :=
  required_iff (by simp [IsPresent, Json.isTruthy])

theorem optional_isText_iff :
    Optional fields key IsText ↔ ∃ o, Json.get key fields = .ofOption o := by
  -- null is how a text that is missing is written
  rw [optional_iff, Option.exists]
  rfl

theorem optional_isInteger_iff :
    Optional fields key (IsInteger least) ↔
      ∃ o : Option Int, Json.get key fields = (o.map .int).getD .null ∧ ∀ d ∈ o, least ≤ d := by
  rw [optional_iff, Option.exists]
  simp [IsInteger]

theorem defaulted_occurrence_iff :
    Defaulted fields "occurrence" (IsInteger 1) ↔ ∃ n, Counted fields n ∧ 1 ≤ n :=
  defaulted_iff ⟨1, rfl, le_rfl⟩

/-! ## Instructions -/

/-- The fields that a match of this kind has. -/
def HasFields (fields : Fields) : MatchKind → Prop
  | .lines => Required fields "startLine" (IsInteger 1) ∧ Required fields "endLine" (IsInteger 1)
  | .line => Required fields "atLine" (IsInteger 1)
  | .pattern => Required fields "regex" IsWord ∧ Defaulted fields "occurrence" (IsInteger 1)
  | .literal => Required fields "text" IsWord ∧ Defaulted fields "occurrence" (IsInteger 1)
  | .wholeFile => True
  | .symbol =>
    Required fields "name" IsWord ∧ Optional fields "kind" IsText ∧
      Optional fields "parentName" IsText ∧ Optional fields "parentKind" IsText ∧
      Defaulted fields "occurrence" (IsInteger 1)
  | .declaration =>
    Required fields "nodeType" IsWord ∧ Required fields "name" IsWord ∧
      Optional fields "depth" (IsInteger 0) ∧ Optional fields "parent" IsText ∧
      Defaulted fields "occurrence" (IsInteger 1)

/-- A valid match stands in fields that its kind has. -/
theorem hasFields_of_writtenIn {m : Match} (hwritten : m.WrittenIn fields) (hvalid : m.Valid) :
    HasFields fields m.kind := by
  -- Constructor by constructor: what is written is there, and what is valid has its bounds.
  cases m with
  | lines first last =>
    exact ⟨required_isInteger_iff.mpr ⟨first, hwritten.1, hvalid.1⟩,
      required_isInteger_iff.mpr ⟨last, hwritten.2, hvalid.2⟩⟩
  | line number => exact required_isInteger_iff.mpr ⟨number, hwritten, hvalid⟩
  | pattern source n =>
    exact ⟨required_isWord_iff.mpr ⟨_, hwritten.1, by simpa using hvalid.1⟩,
      defaulted_occurrence_iff.mpr ⟨n, hwritten.2, hvalid.2⟩⟩
  | literal text n =>
    exact ⟨required_isWord_iff.mpr ⟨_, hwritten.1, by simpa using hvalid.1⟩,
      defaulted_occurrence_iff.mpr ⟨n, hwritten.2, hvalid.2⟩⟩
  | wholeFile => trivial
  | symbol name kind parentName parentKind n =>
    obtain ⟨hname, hkind, hparentName, hparentKind, hcounted⟩ := hwritten
    obtain ⟨hfull, hn⟩ := hvalid
    exact ⟨required_isWord_iff.mpr ⟨name, hname, hfull⟩, optional_isText_iff.mpr ⟨kind, hkind⟩,
      optional_isText_iff.mpr ⟨parentName, hparentName⟩,
      optional_isText_iff.mpr ⟨parentKind, hparentKind⟩, defaulted_occurrence_iff.mpr ⟨n, hcounted, hn⟩⟩
  | declaration kind name depth parent n =>
    obtain ⟨hkind, hname, hdepth, hparent, hcounted⟩ := hwritten
    obtain ⟨hkindFull, hnameFull, hleast, hn⟩ := hvalid
    exact ⟨required_isWord_iff.mpr ⟨kind, hkind, hkindFull⟩,
      required_isWord_iff.mpr ⟨name, hname, hnameFull⟩,
      optional_isInteger_iff.mpr ⟨depth, hdepth, hleast⟩, optional_isText_iff.mpr ⟨parent, hparent⟩,
      defaulted_occurrence_iff.mpr ⟨n, hcounted, hn⟩⟩

/-- In fields that a kind of match has, there stands a valid match of this kind. -/
theorem exists_writtenIn_of_hasFields {kind : MatchKind} (h : HasFields fields kind) :
    ∃ m : Match, m.kind = kind ∧ m.WrittenIn fields ∧ m.Valid := by
  -- Kind by kind: the match is made of the values that are there, or of their defaults.
  cases kind with
  | lines =>
    obtain ⟨first, hfirst, hleast⟩ := required_isInteger_iff.mp h.1
    obtain ⟨last, hlast, hleast'⟩ := required_isInteger_iff.mp h.2
    exact ⟨.lines first last, rfl, ⟨hfirst, hlast⟩, hleast, hleast'⟩
  | line =>
    obtain ⟨number, hnumber, hleast⟩ := required_isInteger_iff.mp h
    exact ⟨.line number, rfl, hnumber, hleast⟩
  | pattern =>
    obtain ⟨source, hsource, hfull⟩ := required_isWord_iff.mp h.1
    obtain ⟨n, hcounted, hn⟩ := defaulted_occurrence_iff.mp h.2
    refine ⟨.pattern source.toList n, rfl, ⟨?_, hcounted⟩, by simpa using hfull, hn⟩
    rw [String.ofList_toList]
    exact hsource
  | literal =>
    obtain ⟨text, htext, hfull⟩ := required_isWord_iff.mp h.1
    obtain ⟨n, hcounted, hn⟩ := defaulted_occurrence_iff.mp h.2
    refine ⟨.literal text.toList n, rfl, ⟨?_, hcounted⟩, by simpa using hfull, hn⟩
    rw [String.ofList_toList]
    exact htext
  | wholeFile => exact ⟨.wholeFile, rfl, trivial, trivial⟩
  | symbol =>
    obtain ⟨hname, hkind, hparentName, hparentKind, hoccurrence⟩ := h
    obtain ⟨name, hname, hfull⟩ := required_isWord_iff.mp hname
    obtain ⟨kind, hkind⟩ := optional_isText_iff.mp hkind
    obtain ⟨parentName, hparentName⟩ := optional_isText_iff.mp hparentName
    obtain ⟨parentKind, hparentKind⟩ := optional_isText_iff.mp hparentKind
    obtain ⟨n, hcounted, hn⟩ := defaulted_occurrence_iff.mp hoccurrence
    exact ⟨.symbol name kind parentName parentKind n, rfl,
      ⟨hname, hkind, hparentName, hparentKind, hcounted⟩, hfull, hn⟩
  | declaration =>
    obtain ⟨hkind, hname, hdepth, hparent, hoccurrence⟩ := h
    obtain ⟨kind, hkind, hkindFull⟩ := required_isWord_iff.mp hkind
    obtain ⟨name, hname, hnameFull⟩ := required_isWord_iff.mp hname
    obtain ⟨depth, hdepth, hleast⟩ := optional_isInteger_iff.mp hdepth
    obtain ⟨parent, hparent⟩ := optional_isText_iff.mp hparent
    obtain ⟨n, hcounted, hn⟩ := defaulted_occurrence_iff.mp hoccurrence
    exact ⟨.declaration kind name depth parent n, rfl, ⟨hkind, hname, hdepth, hparent, hcounted⟩,
      hkindFull, hnameFull, hleast, hn⟩

/-- The value is an instruction: an object with the word for an action, the word for a kind of match that the
action takes, the fields of such a match, and a new text, except where the action deletes. -/
def IsInstruction (v : Json) : Prop :=
  ∃ fields action kind, v = .obj fields ∧
    Json.lookup "action_type" fields = some (.str (Action.name action)) ∧
    Json.lookup "match_type" fields = some (.str (MatchKind.name kind)) ∧
    action.accepts kind = true ∧ HasFields fields kind ∧
    (action ≠ .delete → Required fields "newText" IsText)

/-- Exactly the instructions are read. -/
theorem isInstruction_iff : IsInstruction v ↔ ∃ i, Instruction.ofJson v = .ok i := by
  -- Reading is told by what is written and valid, so the grammar is compared with these two.
  simp only [Instruction.ofJson_eq_ok_iff]
  constructor
  · rintro ⟨fields, action, kind, rfl, haction, hkind, haccepted, hfields, hnewText⟩
    obtain ⟨target, rfl, hwritten, hvalid⟩ := exists_writtenIn_of_hasFields hfields
    rw [← Json.get_eq_iff (by simp)] at haction hkind
    by_cases hdelete : action = .delete
    · -- whatever new text stands there is not read
      exact ⟨⟨action, target, []⟩, ⟨fields, rfl, haction, hkind, hwritten, fun h => absurd hdelete h⟩,
        haccepted, hvalid, fun _ => rfl⟩
    · obtain ⟨text, htext⟩ := required_isText_iff.mp (hnewText hdelete)
      refine ⟨⟨action, target, text.toList⟩, ⟨fields, rfl, haction, hkind, hwritten, fun _ => ?_⟩,
        haccepted, hvalid, fun h => absurd h hdelete⟩
      rw [String.ofList_toList]
      exact htext
  · rintro ⟨i, ⟨fields, rfl, hwritten⟩, hvalid⟩
    refine ⟨fields, i.action, i.target.kind, rfl, ?_, ?_, hvalid.accepted,
      hasFields_of_writtenIn hwritten.target hvalid.target, ?_⟩
    · exact (Json.get_eq_iff (by simp)).mp hwritten.action
    · exact (Json.get_eq_iff (by simp)).mp hwritten.kind
    · intro hkept
      exact required_isText_iff.mpr ⟨_, hwritten.newText hkept⟩

/-! ## Failures -/

/-- The value asks for no action that is a list or an object, in which nothing can be looked up. -/
def PlainAction (v : Json) : Prop :=
  ∀ fields action, v = .obj fields → Json.lookup "action_type" fields = some action →
    (∀ items, action ≠ .arr items) ∧ ∀ entries, action ≠ .obj entries

theorem plainAction_of_str {s : String} (h : Json.lookup "action_type" fields = some (.str s)) :
    PlainAction (.obj fields) := by
  intro entries action hv hset
  obtain rfl := Json.obj.inj hv
  obtain rfl := Option.some.inj (h.symm.trans hset)
  exact ⟨by simp, by simp⟩

/-- The failure is the refusal of a malformed request, and names no instruction at fault. -/
def SaysMalformed (f : Failure) : Prop := ∃ e : EditError, f = .ofError e ∧ e.IsMalformed

theorem saysMalformed_of_refuse {α : Type} {f : Failure} {cause : EditError}
    (h : (Attempt.refuse cause : Attempt α) = .error f) (hcause : cause.IsMalformed) : SaysMalformed f :=
  ⟨cause, (Attempt.refuse_eq_error.mp h).symm, hcause⟩

theorem saysMalformed_of_fieldRead {α : Type} {x : Except RequestFault α} {f : Failure}
    (h : fieldRead x = .error f) : SaysMalformed f := by
  rcases x with fault | a
  · exact saysMalformed_of_refuse h trivial
  · simp [fieldRead] at h

/-- Only a list or an object is more than an unknown action. -/
theorem saysMalformed_of_action {f : Failure} (hlist : ∀ items, v ≠ .arr items)
    (hobject : ∀ entries, v ≠ .obj entries) (h : action v = .error f) : SaysMalformed f := by
  cases v with
  | str s =>
    rw [action] at h
    split at h
    · simp at h
    · exact saysMalformed_of_refuse h trivial
  | arr items => exact absurd rfl (hlist items)
  | obj entries => exact absurd rfl (hobject entries)
  | _ => exact saysMalformed_of_refuse h trivial

/-- A value that is no instruction is refused. -/
theorem saysMalformed_of_ofJson {f : Failure} (hplain : PlainAction v)
    (h : Instruction.ofJson v = .error f) : SaysMalformed f := by
  cases v with
  | obj fields =>
    -- of what is read in turn, only the action can fail in another way
    rcases Attempt.bind_eq_error.mp h with h | ⟨action, -, h⟩
    · have hget : (∀ items, Json.get "action_type" fields ≠ .arr items) ∧
          ∀ entries, Json.get "action_type" fields ≠ .obj entries := by
        rw [Json.get]
        rcases hset : Json.lookup "action_type" fields with _ | value
        · simp
        · exact hplain fields value rfl hset
      exact saysMalformed_of_action hget.1 hget.2 h
    · rcases Attempt.bind_eq_error.mp h with h | ⟨target, -, h⟩
      · exact saysMalformed_of_fieldRead h
      · rcases Attempt.bind_eq_error.mp h with h | ⟨newText, -, h⟩
        · exact saysMalformed_of_fieldRead h
        · unfold Instruction.pair at h
          split at h
          · simp at h
          · exact saysMalformed_of_refuse h trivial
  | _ => exact saysMalformed_of_refuse h trivial

/-! ## Requests -/

/-- The value is an object that names a file, by any value that counts as present, and has these items. -/
def IsEnvelope (v : Json) (items : List Json) : Prop :=
  ∃ fields, v = .obj fields ∧ Required fields "filePath" IsPresent ∧
    Json.lookup "edits" fields = some (.arr items)

/-- The value is a request: every item of its list is an instruction. -/
def IsRequest (v : Json) : Prop := ∃ items, IsEnvelope v items ∧ ∀ item ∈ items, IsInstruction item

/-- The first item of a list that is no instruction. -/
structure FirstBad (items : List Json) (k : Nat) (item : Json) : Prop where
  place : items[k]? = some item
  bad : ¬ IsInstruction item
  before : ∀ other ∈ items.take k, IsInstruction other

theorem isEnvelope_iff {items : List Json} :
    IsEnvelope v items ↔ ∃ fields, v = .obj fields ∧
      (Json.get "filePath" fields).isTruthy = true ∧ Json.get "edits" fields = .arr items := by
  simp only [IsEnvelope, required_isPresent_iff, Json.get_eq_iff (v := .arr items) (by simp)]

end Wire

namespace Request

open Wire

variable {v : Json} {items : List Json}

theorem exists_instructionsFrom_iff {index : Nat} :
    (∃ instructions, instructionsFrom index items = .ok instructions) ↔
      ∀ item ∈ items, IsInstruction item := by
  simp only [instructionsFrom_eq_each, Attempt.each_eq_ok_iff, exists_forall₂_iff, isInstruction_iff]

/-- Instructions that are not all read fail as the first bad one of them does. -/
theorem firstBad_of_instructionsFrom {index : Nat} {f : Failure}
    (h : instructionsFrom index items = .error f) :
    ∃ k item g, FirstBad items k item ∧ Instruction.ofJson item = .error g ∧
      f = g.blame (index + k) (.raw item) := by
  rw [instructionsFrom_eq_each] at h
  obtain ⟨k, item, g, hplace, hg, hbefore, rfl⟩ := Attempt.exists_first_of_each_eq_error h
  have hbad : ¬ IsInstruction item := by
    rw [isInstruction_iff, hg]
    simp
  exact ⟨k, item, g, ⟨hplace, hbad, fun other hother => isInstruction_iff.mpr (hbefore other hother)⟩,
    hg, rfl⟩

/-- Of instructions that are not all read, the first bad one is told. -/
theorem exists_firstBad {index : Nat} {f : Failure} (hplain : ∀ item ∈ items, PlainAction item)
    (h : instructionsFrom index items = .error f) :
    ∃ k item e, FirstBad items k item ∧ f = .edit e (some ⟨index + k, .raw item⟩) := by
  obtain ⟨k, item, g, hfirst, hg, rfl⟩ := firstBad_of_instructionsFrom h
  obtain ⟨e, rfl, -⟩ := saysMalformed_of_ofJson (hplain item (List.mem_of_getElem? hfirst.place)) hg
  exact ⟨k, item, e, hfirst, rfl⟩

/-- Exactly the requests are read, each as what stands in its fields. A value that is no request because of its
instructions alone is refused for the first bad one. -/
theorem ofJson_iff_isRequest (v : Json) :
    ((∃ r, ofJson v = .ok r) ↔ IsRequest v) ∧
    (∀ r, ofJson v = .ok r → ∃ fields, v = .obj fields ∧ r.WrittenIn fields) ∧
    ∀ items, IsEnvelope v items → (∀ item ∈ items, PlainAction item) →
      (∃ item ∈ items, ¬ IsInstruction item) →
      ∃ k item e, FirstBad items k item ∧ ofJson v = .error (.edit e (some ⟨k, .raw item⟩)) := by
  refine ⟨⟨?_, ?_⟩, fun r h => (ofJson_eq_ok_iff.mp h).1, ?_⟩
  · rintro ⟨r, h⟩
    obtain ⟨fields, items, rfl, hpath, hitems⟩ := list_of_ofJson h
    refine ⟨items, isEnvelope_iff.mpr ⟨fields, rfl, hpath, hitems⟩, ?_⟩
    rw [ofJson_of_list hpath hitems] at h
    obtain ⟨instructions, hread, -⟩ := Attempt.map_eq_ok.mp h
    exact exists_instructionsFrom_iff.mp ⟨instructions, hread⟩
  · rintro ⟨items, henvelope, hgood⟩
    obtain ⟨fields, rfl, hpath, hitems⟩ := isEnvelope_iff.mp henvelope
    obtain ⟨instructions, hread⟩ := exists_instructionsFrom_iff.mpr hgood
    rw [ofJson_of_list hpath hitems]
    exact ⟨_, Attempt.map_eq_ok.mpr ⟨instructions, hread, rfl⟩⟩
  · rintro items henvelope hplain ⟨bad, hmem, hbad⟩
    obtain ⟨fields, rfl, hpath, hitems⟩ := isEnvelope_iff.mp henvelope
    rw [ofJson_of_list hpath hitems]
    rcases hread : instructionsFrom 0 items with f | instructions
    · obtain ⟨k, item, e, hfirst, rfl⟩ := exists_firstBad hplain hread
      -- items are counted from zero
      rw [Nat.zero_add]
      exact ⟨k, item, e, hfirst, rfl⟩
    · exact absurd (exists_instructionsFrom_iff.mp ⟨instructions, hread⟩ bad hmem) hbad

/-- The occurrence of the second instruction is null, which is not the same as not given, and the action of the
third one does not take its match. -/
theorem ofJson_iff_isRequest_first :
    let insertion : Json := .obj [
      ("action_type", .str "insert-before"), ("match_type", .str "str"), ("text", .str "x"),
      ("newText", .str "")]
    let uncounted : Json := .obj [
      ("action_type", .str "delete"), ("match_type", .str "regex"), ("regex", .str "x"),
      ("occurrence", .null)]
    let unpaired : Json := .obj [
      ("action_type", .str "append"), ("match_type", .str "whole_file"), ("newText", .str "x")]
    let items := [insertion, uncounted, unpaired]
    let v : Json := .obj [("filePath", .bool true), ("edits", .arr items)]
    IsRequest (.obj [("filePath", .bool true), ("edits", .arr [insertion])]) ∧ ¬ IsRequest v ∧
      IsEnvelope v items ∧ (∀ item ∈ items, PlainAction item) ∧
      (∃ item ∈ items, ¬ IsInstruction item) ∧ FirstBad items 1 uncounted ∧
      ofJson v = .error (.edit (.request (.missingField "occurrence")) (some ⟨1, .raw uncounted⟩)) := by
  intro insertion uncounted unpaired items v
  have henvelope : IsEnvelope v items := isEnvelope_iff.mpr ⟨_, rfl, rfl, rfl⟩
  have hplain : ∀ item ∈ items, PlainAction item := by
    simp only [items, List.forall_mem_cons, List.not_mem_nil, false_imp_iff, implies_true, and_true]
    exact ⟨plainAction_of_str rfl, plainAction_of_str rfl, plainAction_of_str rfl⟩
  have hbad : ∃ item ∈ items, ¬ IsInstruction item := by
    refine ⟨unpaired, by simp [items], ?_⟩
    rw [isInstruction_iff]
    rintro ⟨i, hi⟩
    have hrefused : Instruction.ofJson unpaired
        = .error (.ofError (.mismatch "append" .wholeFile [.line])) := by cbv
    rw [hrefused] at hi
    simp at hi
  have hread : ofJson (.obj [("filePath", .bool true), ("edits", .arr [insertion])])
      = .ok ⟨"True", [⟨.insertBefore, .literal ['x'] 1, []⟩], ""⟩ := by cbv
  have hrefused : ofJson v
      = .error (.edit (.request (.missingField "occurrence")) (some ⟨1, .raw uncounted⟩)) := by cbv
  obtain ⟨k, item, e, hfirst, h⟩ := (ofJson_iff_isRequest v).2.2 items henvelope hplain hbad
  rw [hrefused, Except.error.injEq, Failure.edit.injEq, Option.some.injEq, Culprit.mk.injEq,
    Subject.raw.injEq] at h
  obtain ⟨-, rfl, rfl⟩ := h
  refine ⟨(ofJson_iff_isRequest _).1.mp ⟨_, hread⟩, ?_, henvelope, hplain, hbad, hfirst, hrefused⟩
  rw [← (ofJson_iff_isRequest v).1, hrefused]
  simp

end Request

end Emend
