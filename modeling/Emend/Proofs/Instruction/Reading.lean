import Emend.Instruction.Wire
import Emend.Proofs.Attempt

/-!
# What is read from JSON

An instruction is read from the fields that it is written in (`Instruction.WrittenIn`), if its values are such as
are asked for (`Instruction.Valid`). Nothing else is read, and nothing is read in two ways: success of a reader is
equivalent to the two together (`Instruction.ofJson_eq_ok_iff`, `Request.ofJson_eq_ok_iff`).

Main statements:

* `matchOfKind_of_writtenIn`, `writtenIn_of_matchOfKind`: reading a match, kind by kind.
* `Instruction.ofJson_eq_ok_iff`: reading an instruction.
* `Request.ofJson_eq_ok_iff`: reading a request.
-/

namespace Emend

/-! ## Keys -/

namespace Json

variable {key k : String} {v : Json} {fields more : List (String × Json)}

@[simp]
theorem lookup_nil (key : String) : lookup key [] = none := rfl

@[simp]
theorem lookup_cons :
    lookup key ((k, v) :: fields) = if k = key then some v else lookup key fields := by
  rw [lookup, lookup]
  split
  · rw [List.find?_cons_of_pos (by simpa), Option.map_some]
  · rw [List.find?_cons_of_neg (by simpa)]

@[simp]
theorem lookup_append : lookup key (fields ++ more) = (lookup key fields).or (lookup key more) := by
  rw [lookup, lookup, lookup, List.find?_append, Option.map_or]

/-- A value other than null comes from a key that is set. -/
theorem get_eq_iff (hv : v ≠ .null) : get key fields = v ↔ lookup key fields = some v := by
  rw [get]
  rcases lookup key fields with _ | w
  · simpa using hv.symm
  · simp

end Json

/-! ## Words -/

theorem Action.ofName?_eq_some_iff {s : String} {a : Action} :
    Action.ofName? s = some a ↔ s = a.name := by
  constructor
  · intro h
    have hname := List.find?_some h
    exact (beq_iff_eq.mp hname).symm
  · rintro rfl
    cases a <;> rfl

theorem MatchKind.ofName?_eq_some_iff {s : String} {k : MatchKind} :
    MatchKind.ofName? s = some k ↔ s = k.name := by
  constructor
  · intro h
    have hname := List.find?_some h
    exact (beq_iff_eq.mp hname).symm
  · rintro rfl
    cases k <;> rfl

/-! ## Matches -/

/-- The number of an occurrence stands in the fields. Where there is none, it is the first one. -/
def Wire.Counted (fields : Wire.Fields) (n : Int) : Prop :=
  (Json.lookup "occurrence" fields).getD (.int 1) = .int n

namespace Match

/-- Each value of the match stands in the fields under its key. A value that is missing may be written as null. -/
def WrittenIn (fields : Wire.Fields) : Match → Prop
  | .lines first last =>
    Json.get "startLine" fields = .int first ∧ Json.get "endLine" fields = .int last
  | .line number => Json.get "atLine" fields = .int number
  | .pattern source n =>
    Json.get "regex" fields = .str (String.ofList source) ∧ Wire.Counted fields n
  | .literal text n =>
    Json.get "text" fields = .str (String.ofList text) ∧ Wire.Counted fields n
  | .wholeFile => True
  | .symbol name kind parentName parentKind n =>
    Json.get "name" fields = .str name ∧ Json.get "kind" fields = .ofOption kind ∧
      Json.get "parentName" fields = .ofOption parentName ∧
      Json.get "parentKind" fields = .ofOption parentKind ∧ Wire.Counted fields n
  | .declaration kind name depth parent n =>
    Json.get "nodeType" fields = .str kind ∧ Json.get "name" fields = .str name ∧
      Json.get "depth" fields = (depth.map .int).getD .null ∧
      Json.get "parent" fields = .ofOption parent ∧ Wire.Counted fields n

/-- Lines and occurrences are counted from one and depths from zero, and what is looked for is not empty. -/
def Valid : Match → Prop
  | .lines first last => 1 ≤ first ∧ 1 ≤ last
  | .line number => 1 ≤ number
  | .pattern source n => source ≠ [] ∧ 1 ≤ n
  | .literal text n => text ≠ [] ∧ 1 ≤ n
  | .wholeFile => True
  | .symbol name _ _ _ n => name ≠ "" ∧ 1 ≤ n
  | .declaration kind name depth _ n => kind ≠ "" ∧ name ≠ "" ∧ (∀ d ∈ depth, 0 ≤ d) ∧ 1 ≤ n

end Match

namespace Wire

variable {fields : Fields} {key : String} {least n : Int} {v : Json}

theorem integer_eq_ok_iff : integer key least v = .ok n ↔ v = .int n ∧ least ≤ n := by
  cases v with
  | int m =>
    rw [integer]
    split
    · simp only [reduceCtorEq, Json.int.injEq, false_iff]
      omega
    · simp only [Except.ok.injEq, Json.int.injEq]
      omega
  | _ => simp [integer]

theorem lineField_eq_ok_iff :
    lineField fields key = .ok n ↔ Json.get key fields = .int n ∧ 1 ≤ n :=
  integer_eq_ok_iff

theorem occurrenceField_eq_ok_iff : occurrenceField fields = .ok n ↔ Counted fields n ∧ 1 ≤ n :=
  integer_eq_ok_iff

theorem textField_eq_ok_iff {s : String} :
    textField fields key = .ok s ↔ Json.get key fields = .str s ∧ s ≠ "" := by
  rw [textField]
  -- Only a text is taken, and only if it is not empty.
  cases Json.get key fields with
  | str t =>
    simp only [Json.str.injEq]
    split
    · rename_i hempty
      rw [String.isEmpty_iff] at hempty
      simp [hempty, eq_comm]
    · rename_i hfull
      rw [String.isEmpty_iff] at hfull
      simp only [Except.ok.injEq]
      constructor
      · rintro rfl
        exact ⟨rfl, hfull⟩
      · exact And.left
  | _ => simp

theorem optionalTextField_eq_ok_iff {o : Option String} :
    optionalTextField fields key = .ok o ↔ Json.get key fields = .ofOption o := by
  rw [optionalTextField]
  cases Json.get key fields with
  | null => cases o <;> simp [Json.ofOption]
  | str t => cases o <;> simp [Json.ofOption]
  | _ => cases o <;> simp [Json.ofOption]

theorem depthField_eq_ok_iff {o : Option Int} :
    depthField fields = .ok o ↔
      Json.get "depth" fields = (o.map .int).getD .null ∧ ∀ d ∈ o, 0 ≤ d := by
  rw [depthField]
  -- `null` and a missing key are the same here.
  split
  · rename_i hnull
    rw [hnull]
    cases o <;> simp
  · rename_i hset
    rw [Attempt.map_eq_ok]
    simp only [integer_eq_ok_iff]
    rcases o with _ | d
    · simpa using hset
    · simp

/-- A match is read from the fields that it is written in, if it is valid. -/
theorem matchOfKind_of_writtenIn {m : Match} (hwritten : m.WrittenIn fields) (hvalid : m.Valid) :
    matchOfKind fields m.kind = .ok m := by
  cases m with
  | lines first last =>
    refine Attempt.bind_eq_ok.mpr ⟨first, lineField_eq_ok_iff.mpr ⟨hwritten.1, hvalid.1⟩, ?_⟩
    exact Attempt.bind_eq_ok.mpr ⟨last, lineField_eq_ok_iff.mpr ⟨hwritten.2, hvalid.2⟩, rfl⟩
  | line number =>
    exact Attempt.bind_eq_ok.mpr ⟨number, lineField_eq_ok_iff.mpr ⟨hwritten, hvalid⟩, rfl⟩
  | pattern source n =>
    obtain ⟨htext, hcounted⟩ := hwritten
    obtain ⟨hsource, hn⟩ := hvalid
    -- the characters of the pattern are read as a text, and taken out of it again
    refine Attempt.bind_eq_ok.mpr ⟨_, textField_eq_ok_iff.mpr ⟨htext, by simpa using hsource⟩, ?_⟩
    refine Attempt.bind_eq_ok.mpr ⟨n, occurrenceField_eq_ok_iff.mpr ⟨hcounted, hn⟩, ?_⟩
    rw [String.toList_ofList]
    rfl
  | literal text n =>
    obtain ⟨htext, hcounted⟩ := hwritten
    obtain ⟨hfull, hn⟩ := hvalid
    refine Attempt.bind_eq_ok.mpr ⟨_, textField_eq_ok_iff.mpr ⟨htext, by simpa using hfull⟩, ?_⟩
    refine Attempt.bind_eq_ok.mpr ⟨n, occurrenceField_eq_ok_iff.mpr ⟨hcounted, hn⟩, ?_⟩
    rw [String.toList_ofList]
    rfl
  | wholeFile => rfl
  | symbol name kind parentName parentKind n =>
    obtain ⟨hname, hkind, hparentName, hparentKind, hcounted⟩ := hwritten
    obtain ⟨hfull, hn⟩ := hvalid
    refine Attempt.bind_eq_ok.mpr ⟨name, textField_eq_ok_iff.mpr ⟨hname, hfull⟩, ?_⟩
    refine Attempt.bind_eq_ok.mpr ⟨kind, optionalTextField_eq_ok_iff.mpr hkind, ?_⟩
    refine Attempt.bind_eq_ok.mpr ⟨parentName, optionalTextField_eq_ok_iff.mpr hparentName, ?_⟩
    refine Attempt.bind_eq_ok.mpr ⟨parentKind, optionalTextField_eq_ok_iff.mpr hparentKind, ?_⟩
    exact Attempt.bind_eq_ok.mpr ⟨n, occurrenceField_eq_ok_iff.mpr ⟨hcounted, hn⟩, rfl⟩
  | declaration kind name depth parent n =>
    obtain ⟨hkind, hname, hdepth, hparent, hcounted⟩ := hwritten
    obtain ⟨hkindFull, hnameFull, hleast, hn⟩ := hvalid
    refine Attempt.bind_eq_ok.mpr ⟨kind, textField_eq_ok_iff.mpr ⟨hkind, hkindFull⟩, ?_⟩
    refine Attempt.bind_eq_ok.mpr ⟨name, textField_eq_ok_iff.mpr ⟨hname, hnameFull⟩, ?_⟩
    refine Attempt.bind_eq_ok.mpr ⟨depth, depthField_eq_ok_iff.mpr ⟨hdepth, hleast⟩, ?_⟩
    refine Attempt.bind_eq_ok.mpr ⟨parent, optionalTextField_eq_ok_iff.mpr hparent, ?_⟩
    exact Attempt.bind_eq_ok.mpr ⟨n, occurrenceField_eq_ok_iff.mpr ⟨hcounted, hn⟩, rfl⟩

/-- A match that is read is of the kind that was asked for, and each of its values was read from its field. -/
theorem writtenIn_of_matchOfKind {kind : MatchKind} {m : Match} (h : matchOfKind fields kind = .ok m) :
    m.kind = kind ∧ m.WrittenIn fields ∧ m.Valid := by
  -- Kind by kind, the fields are read in the order in which the constructor has them.
  cases kind with
  | lines =>
    obtain ⟨first, hfirst, h⟩ := Attempt.bind_eq_ok.mp h
    obtain ⟨last, hlast, h⟩ := Attempt.bind_eq_ok.mp h
    obtain rfl := Attempt.pure_eq_ok.mp h
    rw [lineField_eq_ok_iff] at hfirst hlast
    exact ⟨rfl, ⟨hfirst.1, hlast.1⟩, hfirst.2, hlast.2⟩
  | line =>
    obtain ⟨number, hnumber, h⟩ := Attempt.bind_eq_ok.mp h
    obtain rfl := Attempt.pure_eq_ok.mp h
    rw [lineField_eq_ok_iff] at hnumber
    exact ⟨rfl, hnumber⟩
  | pattern =>
    obtain ⟨source, hsource, h⟩ := Attempt.bind_eq_ok.mp h
    obtain ⟨n, hn, h⟩ := Attempt.bind_eq_ok.mp h
    obtain rfl := Attempt.pure_eq_ok.mp h
    rw [textField_eq_ok_iff] at hsource
    rw [occurrenceField_eq_ok_iff] at hn
    exact ⟨rfl, ⟨by rw [String.ofList_toList]; exact hsource.1, hn.1⟩, by simpa using hsource.2, hn.2⟩
  | literal =>
    obtain ⟨text, htext, h⟩ := Attempt.bind_eq_ok.mp h
    obtain ⟨n, hn, h⟩ := Attempt.bind_eq_ok.mp h
    obtain rfl := Attempt.pure_eq_ok.mp h
    rw [textField_eq_ok_iff] at htext
    rw [occurrenceField_eq_ok_iff] at hn
    exact ⟨rfl, ⟨by rw [String.ofList_toList]; exact htext.1, hn.1⟩, by simpa using htext.2, hn.2⟩
  | wholeFile =>
    obtain rfl := Attempt.pure_eq_ok.mp h
    exact ⟨rfl, trivial, trivial⟩
  | symbol =>
    obtain ⟨name, hname, h⟩ := Attempt.bind_eq_ok.mp h
    obtain ⟨kind, hkind, h⟩ := Attempt.bind_eq_ok.mp h
    obtain ⟨parentName, hparentName, h⟩ := Attempt.bind_eq_ok.mp h
    obtain ⟨parentKind, hparentKind, h⟩ := Attempt.bind_eq_ok.mp h
    obtain ⟨n, hn, h⟩ := Attempt.bind_eq_ok.mp h
    obtain rfl := Attempt.pure_eq_ok.mp h
    rw [textField_eq_ok_iff] at hname
    rw [optionalTextField_eq_ok_iff] at hkind hparentName hparentKind
    rw [occurrenceField_eq_ok_iff] at hn
    exact ⟨rfl, ⟨hname.1, hkind, hparentName, hparentKind, hn.1⟩, hname.2, hn.2⟩
  | declaration =>
    obtain ⟨kind, hkind, h⟩ := Attempt.bind_eq_ok.mp h
    obtain ⟨name, hname, h⟩ := Attempt.bind_eq_ok.mp h
    obtain ⟨depth, hdepth, h⟩ := Attempt.bind_eq_ok.mp h
    obtain ⟨parent, hparent, h⟩ := Attempt.bind_eq_ok.mp h
    obtain ⟨n, hn, h⟩ := Attempt.bind_eq_ok.mp h
    obtain rfl := Attempt.pure_eq_ok.mp h
    rw [textField_eq_ok_iff] at hkind hname
    rw [depthField_eq_ok_iff] at hdepth
    rw [optionalTextField_eq_ok_iff] at hparent
    rw [occurrenceField_eq_ok_iff] at hn
    exact ⟨rfl, ⟨hkind.1, hname.1, hdepth.1, hparent, hn.1⟩, hkind.2, hname.2, hdepth.2, hn.2⟩

/-! ## Instructions -/

theorem matchKind_eq_ok_iff {kind : MatchKind} :
    matchKind fields = .ok kind ↔ Json.get "match_type" fields = .str kind.name := by
  rw [matchKind]
  cases Json.get "match_type" fields with
  | str s =>
    simp only [Json.str.injEq]
    rw [← MatchKind.ofName?_eq_some_iff]
    rcases MatchKind.ofName? s with _ | k
    · simp
    · simp
  | _ => simp

/-- A match is read exactly if its kind and its values stand in the fields, and it is valid. -/
theorem matchField_eq_ok_iff {m : Match} :
    matchField fields = .ok m ↔
      Json.get "match_type" fields = .str m.kind.name ∧ m.WrittenIn fields ∧ m.Valid := by
  constructor
  · intro h
    obtain ⟨kind, hkind, h⟩ := Attempt.bind_eq_ok.mp h
    obtain ⟨rfl, hm⟩ := writtenIn_of_matchOfKind h
    exact ⟨matchKind_eq_ok_iff.mp hkind, hm⟩
  · rintro ⟨hkind, hwritten, hvalid⟩
    exact Attempt.bind_eq_ok.mpr
      ⟨m.kind, matchKind_eq_ok_iff.mpr hkind, matchOfKind_of_writtenIn hwritten hvalid⟩

theorem action_eq_ok_iff {a : Action} : action v = .ok a ↔ v = .str a.name := by
  cases v with
  | str s =>
    rw [action, Json.str.injEq, ← Action.ofName?_eq_some_iff]
    rcases Action.ofName? s with _ | b
    · simp [Attempt.refuse]
    · simp
  | _ => simp [action, Attempt.refuse]

theorem newTextField_eq_ok_iff {a : Action} {text : List Char} :
    newTextField fields a = .ok text ↔
      (a = .delete → text = []) ∧
        (a ≠ .delete → Json.get "newText" fields = .str (String.ofList text)) := by
  rw [newTextField]
  -- A deletion does not read its new text.
  split
  · rename_i hdelete
    simp [hdelete, eq_comm]
  · rename_i hdelete
    cases Json.get "newText" fields with
    | str s =>
      simp only [hdelete, Except.ok.injEq, false_imp_iff, true_and, ne_eq, not_false_eq_true,
        true_imp_iff, Json.str.injEq]
      rw [← String.toList_inj, String.toList_ofList]
    | _ => simp [hdelete]

theorem fieldRead_eq_ok_iff {α : Type} {x : Except RequestFault α} {a : α} :
    fieldRead x = .ok a ↔ x = .ok a := by
  rcases x with f | b
  · simp [fieldRead, Attempt.refuse]
  · simp [fieldRead]

end Wire

namespace Instruction

/-- The words and values of the instruction stand in the fields. -/
structure WrittenIn (i : Instruction) (fields : Wire.Fields) : Prop where
  action : Json.get "action_type" fields = .str i.action.name
  kind : Json.get "match_type" fields = .str i.target.kind.name
  target : i.target.WrittenIn fields
  newText : i.action ≠ .delete → Json.get "newText" fields = .str (String.ofList i.newText)

/-- The action takes the match, the match is valid, and there is no new text for what is deleted. -/
structure Valid (i : Instruction) : Prop where
  accepted : i.action.accepts i.target.kind = true
  target : i.target.Valid
  newText : i.action = .delete → i.newText = []

theorem pair_eq_ok_iff {action : Action} {target : Match} {newText : List Char} {i : Instruction} :
    pair action target newText = .ok i ↔
      action.accepts target.kind = true ∧ ⟨action, target, newText⟩ = i := by
  rw [pair]
  split
  · rename_i haccepted
    simp [haccepted]
  · rename_i haccepted
    simp [haccepted, Attempt.refuse]

/-- A valid instruction is read from an object with its words and values, and nothing else is read. -/
theorem ofJson_eq_ok_iff {v : Json} {i : Instruction} :
    ofJson v = .ok i ↔ (∃ fields, v = .obj fields ∧ i.WrittenIn fields) ∧ i.Valid := by
  -- Anything but an object is refused, and of an object each field is read once.
  cases v with
  | obj fields =>
    rw [ofJson]
    simp only [Json.obj.injEq, exists_eq_left']
    constructor
    · intro h
      obtain ⟨action, haction, h⟩ := Attempt.bind_eq_ok.mp h
      obtain ⟨target, htarget, h⟩ := Attempt.bind_eq_ok.mp h
      obtain ⟨newText, hnewText, h⟩ := Attempt.bind_eq_ok.mp h
      obtain ⟨haccepted, rfl⟩ := pair_eq_ok_iff.mp h
      rw [Wire.action_eq_ok_iff] at haction
      rw [Wire.fieldRead_eq_ok_iff, Wire.matchField_eq_ok_iff] at htarget
      rw [Wire.fieldRead_eq_ok_iff, Wire.newTextField_eq_ok_iff] at hnewText
      exact ⟨⟨haction, htarget.1, htarget.2.1, hnewText.2⟩, ⟨haccepted, htarget.2.2, hnewText.1⟩⟩
    · rintro ⟨hwritten, hvalid⟩
      have htarget : Wire.matchField fields = .ok i.target :=
        Wire.matchField_eq_ok_iff.mpr ⟨hwritten.kind, hwritten.target, hvalid.target⟩
      have hnewText : Wire.newTextField fields i.action = .ok i.newText :=
        Wire.newTextField_eq_ok_iff.mpr ⟨hvalid.newText, hwritten.newText⟩
      refine Attempt.bind_eq_ok.mpr ⟨i.action, Wire.action_eq_ok_iff.mpr hwritten.action, ?_⟩
      refine Attempt.bind_eq_ok.mpr ⟨i.target, Wire.fieldRead_eq_ok_iff.mpr htarget, ?_⟩
      refine Attempt.bind_eq_ok.mpr ⟨i.newText, Wire.fieldRead_eq_ok_iff.mpr hnewText, ?_⟩
      exact pair_eq_ok_iff.mpr ⟨hvalid.accepted, rfl⟩
  | _ => simp [ofJson, Attempt.refuse]

end Instruction

/-! ## Values as texts -/

namespace Shortest

theorem Decimal.render_ne_nil (d : Decimal) : d.render ≠ [] := by
  rw [Decimal.render]
  split
  · split
    · simp
    · simp only
      split <;> simp
  · simp

theorem render_ne_empty (x : Float) : render x ≠ "" := by
  rw [render]
  cases Binary.magnitude x with
  | undefined => simp
  | infinite => simp
  | finite m e =>
    simp only
    split <;> split <;> simp [Decimal.render_ne_nil]

end Shortest

namespace Json

/-- However a value is shown, something is shown. -/
theorem literal_ne_empty (v : Json) : v.literal ≠ "" := by
  -- Whatever the kind of the value, there is something to write.
  cases v with
  | null => simp [literal]
  | bool b => cases b <;> simp [literal]
  | int n =>
    rw [literal]
    cases n with
    | ofNat n => exact Nat.repr_ne_empty
    | negSucc n => simp [toString, Int.repr]
  | float x =>
    rw [literal]
    exact Shortest.render_ne_empty x
  | str s => simp [literal, Text.quote, Text.quoteChars]
  | arr items => simp [literal]
  | obj fields => simp [literal]

/-- The text of a value that counts as present, and the empty text for any other. -/
def textOrEmpty (v : Json) : String := if v.isTruthy then v.toText else ""

@[simp]
theorem textOrEmpty_str (s : String) : textOrEmpty (.str s) = s := by
  rw [textOrEmpty, isTruthy, toText]
  split
  · rfl
  · rename_i hempty
    simp only [Bool.not_eq_true, Bool.not_eq_false', String.isEmpty_iff] at hempty
    exact hempty.symm

/-- A value that counts as present has a text that is not empty, whatever value it is. -/
theorem textOrEmpty_ne_empty_iff {v : Json} : v.textOrEmpty ≠ "" ↔ v.isTruthy = true := by
  rw [textOrEmpty]
  split
  · rename_i hpresent
    simp only [hpresent, iff_true]
    -- of the texts, only the empty one does not count, and no other value is shown as nothing
    cases v with
    | str s =>
      rw [isTruthy, Bool.not_eq_true', ← Bool.not_eq_true, String.isEmpty_iff] at hpresent
      exact hpresent
    | _ => exact literal_ne_empty _
  · rename_i habsent
    simpa using habsent

end Json

/-! ## Requests -/

theorem forall₂_and_right {α β : Type} {R : α → β → Prop} {p : β → Prop} {items : List α}
    {images : List β} :
    List.Forall₂ (fun a b => R a b ∧ p b) items images ↔
      List.Forall₂ R items images ∧ ∀ b ∈ images, p b := by
  -- Induction on the images, one item for each.
  induction images generalizing items with
  | nil => simp
  | cons b more ih =>
    rw [List.forall₂_cons_right_iff, List.forall₂_cons_right_iff, List.forall_mem_cons]
    simp only [ih]
    constructor
    · rintro ⟨a, rest, ⟨ha, hb⟩, ⟨hrest, hmore⟩, rfl⟩
      exact ⟨⟨a, rest, ha, hrest, rfl⟩, hb, hmore⟩
    · rintro ⟨⟨a, rest, ha, hrest, rfl⟩, hb, hmore⟩
      exact ⟨a, rest, ⟨ha, hb⟩, ⟨hrest, hmore⟩, rfl⟩

namespace Request

variable {index : Nat} {items : List Json}

theorem instructionsFrom_eq_each :
    instructionsFrom index items
      = Attempt.each Instruction.ofJson (fun k v => Failure.blame k (.raw v)) index items := by
  induction items generalizing index with
  | nil => rfl
  | cons v rest ih => rw [instructionsFrom, Attempt.each, ih]

/-- The path, the comment and the instructions of the request stand in the fields. A path or a comment that is
no text stands there as its text. -/
structure WrittenIn (r : Request) (fields : Wire.Fields) : Prop where
  filePath : (Json.get "filePath" fields).textOrEmpty = r.filePath
  comment : (Json.get "shortComment" fields).textOrEmpty = r.comment
  instructions : ∃ items, Json.get "edits" fields = .arr items ∧
    List.Forall₂ (fun v i => ∃ entries, v = .obj entries ∧ i.WrittenIn entries) items r.instructions

/-- The request names a file, and each of its instructions is valid. -/
structure Valid (r : Request) : Prop where
  filePath : r.filePath ≠ ""
  instructions : ∀ i ∈ r.instructions, i.Valid

theorem instructionsFrom_eq_ok_iff {instructions : List Instruction} :
    instructionsFrom index items = .ok instructions ↔
      List.Forall₂ (fun v i => ∃ entries, v = .obj entries ∧ i.WrittenIn entries) items instructions ∧
        ∀ i ∈ instructions, i.Valid := by
  rw [instructionsFrom_eq_each, Attempt.each_eq_ok_iff, ← forall₂_and_right]
  simp only [Instruction.ofJson_eq_ok_iff]

/-- Where a file is named and there is a list, the request is read if its instructions are. -/
theorem ofJson_of_list {fields : Wire.Fields}
    (hpath : (Json.get "filePath" fields).isTruthy = true)
    (hitems : Json.get "edits" fields = .arr items) :
    ofJson (.obj fields) = (instructionsFrom 0 items).map fun instructions =>
      ⟨(Json.get "filePath" fields).textOrEmpty, instructions,
        (Json.get "shortComment" fields).textOrEmpty⟩ := by
  rw [ofJson]
  simp only [hpath, hitems, Json.textOrEmpty, if_true]
  rfl

/-- A request that is read names a file and has a list. -/
theorem list_of_ofJson {v : Json} {r : Request} (h : ofJson v = .ok r) :
    ∃ fields items, v = .obj fields ∧ (Json.get "filePath" fields).isTruthy = true ∧
      Json.get "edits" fields = .arr items := by
  cases v with
  | obj fields =>
    refine ⟨fields, ?_⟩
    rw [ofJson] at h
    simp only at h
    -- The path and the list of edits are asked for first, the path before the list.
    split at h
    · exact absurd h Attempt.refuse_ne_ok
    · exact absurd h Attempt.refuse_ne_ok
    · rename_i hpath hitems
      exact ⟨_, rfl, hpath, hitems⟩
    · exact absurd h Attempt.refuse_ne_ok
  | _ => exact absurd h Attempt.refuse_ne_ok

/-- A valid request is read from an object that says what is in it, and nothing else is read. -/
theorem ofJson_eq_ok_iff {v : Json} {r : Request} :
    ofJson v = .ok r ↔ (∃ fields, v = .obj fields ∧ r.WrittenIn fields) ∧ r.Valid := by
  constructor
  · intro h
    -- the instructions are read only once the path and the list are there
    obtain ⟨fields, items, rfl, hpath, hitems⟩ := list_of_ofJson h
    rw [ofJson_of_list hpath hitems] at h
    obtain ⟨instructions, hread, rfl⟩ := Attempt.map_eq_ok.mp h
    obtain ⟨hwritten, hvalid⟩ := instructionsFrom_eq_ok_iff.mp hread
    exact ⟨⟨fields, rfl, ⟨rfl, rfl, items, hitems, hwritten⟩⟩,
      ⟨Json.textOrEmpty_ne_empty_iff.mpr hpath, hvalid⟩⟩
  · rintro ⟨⟨fields, rfl, hwritten⟩, hvalid⟩
    obtain ⟨items, hitems, hinstructions⟩ := hwritten.instructions
    have hpath : (Json.get "filePath" fields).isTruthy = true := by
      rw [← Json.textOrEmpty_ne_empty_iff, hwritten.filePath]
      exact hvalid.filePath
    rw [ofJson_of_list hpath hitems, Attempt.map_eq_ok]
    refine ⟨r.instructions, instructionsFrom_eq_ok_iff.mpr ⟨hinstructions, hvalid.instructions⟩, ?_⟩
    rw [hwritten.filePath, hwritten.comment]

end Request

end Emend
