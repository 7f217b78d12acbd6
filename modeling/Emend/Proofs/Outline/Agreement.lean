import Emend.Proofs.Host.Files
import Emend.Proofs.Outline.Layout
import Emend.Proofs.Outline.Selection

/-!
# What is around a symbol and around a declaration

A symbol is asked for by the declaration right around it, a declaration by the named scope that it lies in. For the
tree of a parsed text, nesting finds what is around a declaration in the tree (`nested_declarations`), so the symbol
that is chosen shows the declaration that is chosen by it. Both matches find the same wherever the two parents are
told by the same name (`resolve_in_parent`), as they are where the declarations that hold others are the named scopes
(`parent_of_enclosed`).

Main statements:

* `laid_root`, `nested_declarations`: nesting finds what is around a declaration in the tree.
* `listed_declarations`: the declarations of a parsed text are listed in order.
* `parent_of_enclosed`: where the named scopes are the declarations that hold others.
* `accepts_facts_eq_iff`: when both matches judge a declaration alike.
* `resolve_in_parent`: then they find the same.
-/

namespace Emend

open Declaration (Nested nested Listed)
open SyntaxTree (Parsed)

namespace Grammar

variable {g : Grammar} {text : List Char} {source : Source} {root : SyntaxTree}

/-! ## Kinds -/

/-- A grammar gives plain words for the kinds of what it declares. -/
def PlainKinds (g : Grammar) : Prop := ∀ entry ∈ g.kinds, Text.IsPlain entry.2.toList

theorem plainKinds_of_builtIn (hg : g ∈ builtIn) : g.PlainKinds := by
  have hall : ∀ g ∈ builtIn, ∀ entry ∈ g.kinds,
      entry.2 ∈ ["function", "class", "variable", "method", "property", "interface", "type", "enum", "trait"] := by
    decide
  have hwords : ∀ word ∈ ["function", "class", "variable", "method", "property", "interface", "type", "enum",
      "trait"], ∀ c ∈ word.toList, c.toNat < 128 := by
    simp
  intro entry hentry
  exact hwords entry.2 (hall g hg entry hentry)

theorem isPlain_reportedKind {owner : Option String} {kind reported : String} (hkind : Text.IsPlain kind.toList)
    (h : reportedKind owner kind = some reported) : Text.IsPlain reported.toList := by
  -- The kinds that are put in place of others are plain words, and any other is the kind that came in.
  unfold reportedKind at h
  split at h
  · obtain rfl := Option.some.inj h
    simp [Text.IsPlain]
  · split at h
    · obtain rfl := Option.some.inj h
      simp [Text.IsPlain]
    · split at h
      · simp at h
      · obtain rfl := Option.some.inj h
        exact hkind

theorem isPlain_of_reported {v : Visit} {x : Declaration} (hplain : g.PlainKinds)
    (h : g.reported source v = some x) : Text.IsPlain x.kind.toList := by
  obtain ⟨d, kind, hdeclared, hkind, rfl⟩ := reported_cases h
  obtain ⟨⟨known, hknown, hcases⟩, -⟩ := shape?_cases (declared?_cases hdeclared).1
  refine isPlain_reportedKind ?_ hkind
  -- A kind stems from the table of the grammar, or it is one of the two that types are told apart by.
  rcases hcases with hcase | hcase | hcase
  · obtain ⟨before, after, hkinds, -⟩ := List.lookup_eq_some_iff.mp hknown
    rw [hcase]
    refine hplain (v.node.kind, known) ?_
    rw [hkinds]
    exact List.mem_append_right _ List.mem_cons_self
  · rw [hcase]
    simp [Text.IsPlain]
  · rw [hcase]
    simp [Text.IsPlain]

/-- Whatever the walk finds is reported of some node. -/
theorem exists_reported_of_mem_walk {pending : List Visit} {x : Declaration} (hx : x ∈ g.walk source pending) :
    ∃ v, g.reported source v = some x := by
  induction pending using walk.induct g source with
  | case1 => simp [walk] at hx
  | case2 v rest reported i hvisit ih =>
    rw [walk, hvisit] at hx
    rcases List.mem_append.mp hx with hx | hx
    · refine ⟨v, ?_⟩
      have hreported : g.reported source v = reported := congrArg Prod.fst hvisit
      rw [hreported]
      exact Option.mem_toList.mp hx
    · exact ih hx

/-! ## Declarations as nesting finds them -/

/-- The declarations of a parsed text are laid out in the span of its tree. -/
theorem laid_root (hparsed : root.Parsed text) (halone : g.WrapsAlone (.ofText text) none {} root) :
    Declaration.Laid [] (Source.place text root.startByte) (Source.place text root.stopByte)
      (g.enclosed (.ofText text) none {} [] root) := by
  -- The tree as a whole is laid out between its ends, with nothing around it.
  refine laid_enclosed hparsed (by simp) halone (Int.natCast_nonneg _) (Int.le_refl _) (Int.le_refl _)
    (by simp) ?_
  intro x hx
  obtain ⟨span, hspan, -, -, hstart, hstop⟩ := span_of_reported hparsed hx
  obtain rfl : span = root := by
    rcases hspan with hspan | hspan
    · exact hspan
    · simp at hspan
  rw [hstart, hstop]
  exact ⟨Int.le_refl _, Int.le_refl _⟩

/-- Nesting the declarations of a parsed text by their spans finds what is around them in the tree. -/
theorem nested_declarations (hparsed : root.Parsed text) (halone : g.WrapsAlone (.ofText text) none {} root) :
    nested (g.declarations (.ofText text) root) = g.enclosed (.ofText text) none {} [] root := by
  rw [declarations_eq]
  exact (laid_root hparsed halone).nested_eq

/-- The declarations of a parsed text are listed in the order of the text. -/
theorem listed_declarations (hg : g ∈ builtIn) (hparsed : root.Parsed text)
    (halone : g.WrapsAlone (.ofText text) none {} root) (uri : String) :
    Listed ⟨text, uri⟩ (g.declarations (.ofText text) root) := by
  have hlaid := laid_root hparsed halone
  -- Spans lie in the text, they come in the order of nesting, and their kinds are plain words.
  refine ⟨?_, ?_, ?_⟩
  · intro node hnode
    rw [declarations_eq] at hnode
    obtain ⟨n, hn, rfl⟩ := List.mem_map.mp hnode
    have hwithin := hlaid.within n hn
    have hstart : 0 ≤ Source.place text root.startByte := Int.natCast_nonneg _
    have hend : Source.place text root.stopByte ≤ text.length := Int.ofNat_le.mpr hparsed.stops.offset.1
    refine ⟨by omega, by omega, ?_⟩
    exact Int.le_trans hwithin.2.2 hend
  · rw [declarations_eq]
    exact hlaid.ordered.imp Declaration.nestingLe_iff.mp
  · intro node hnode
    obtain ⟨v, hv⟩ := exists_reported_of_mem_walk hnode
    exact isPlain_of_reported (plainKinds_of_builtIn hg) hv

/-! ## Named scopes -/

/-- The nodes that hold declarations are reported exactly if they are named scopes. -/
inductive ScopesReported (g : Grammar) (source : Source) : Option SyntaxTree → Inherited → SyntaxTree → Prop
  | intro {around : Option SyntaxTree} {i : Inherited} {t : SyntaxTree}
    (scope : (∃ c ∈ t.children, g.walk source [⟨c, some t, g.below source ⟨t, around, i⟩⟩] ≠ []) →
      ((g.reported source ⟨t, around, i⟩).isSome = true ↔ t.isOneOf g.namedScopes = true))
    (children : ∀ c ∈ t.children, ScopesReported g source (some t) (g.below source ⟨t, around, i⟩) c) :
    ScopesReported g source around i t

/-- A named scope that is reported gives its name to what is inside of it. -/
theorem parent_below_of_reported {v : Visit} {x : Declaration} (h : g.reported source v = some x)
    (hscope : v.node.isOneOf g.namedScopes = true) : (g.below source v).parent = some x.name := by
  obtain ⟨d, kind, hdeclared, -, rfl⟩ := reported_cases h
  have hname := (declared?_cases hdeclared).2.1
  unfold below visit bequeath
  simp only [hdeclared, hscope, if_true, firstName, Option.map_some, Option.getD_some]
  rw [List.find?_cons_of_pos (by simpa using hname)]
  rfl

/-- A node that is no named scope hands on the parent that it has itself. -/
theorem parent_below_of_not (v : Visit) (hscope : v.node.isOneOf g.namedScopes = false) :
    (g.below source v).parent = v.inherited.parent := by
  unfold below visit bequeath
  simp only [hscope, Bool.false_eq_true, if_false]

/-- Where the nodes that hold declarations are the named scopes, the parent of each declaration is the declaration
right around it. -/
theorem parent_of_enclosed {around : Option SyntaxTree} {i : Inherited} {outer : List Declaration} {t : SyntaxTree}
    (h : g.ScopesReported source around i t) (hparent : i.parent = outer.head?.map (·.name)) :
    ∀ n ∈ g.enclosed source around i outer t, n.node.parent = n.around.map (·.name) := by
  -- Induction on the tree. What is handed down as the parent changes exactly at the nodes that are reported.
  induction h generalizing outer with
  | @intro around i t scope children ih =>
    intro n hn
    rw [enclosed_eq] at hn
    rcases List.mem_append.mp hn with hn | hn
    · obtain ⟨x, hx, rfl⟩ := List.mem_map.mp hn
      obtain ⟨d, kind, -, -, rfl⟩ := reported_cases (Option.mem_toList.mp hx)
      exact hparent
    · obtain ⟨c, hc, hn⟩ := List.mem_flatMap.mp hn
      have hholds : g.walk source [⟨c, some t, g.below source ⟨t, around, i⟩⟩] ≠ [] := by
        intro hnone
        rw [enclosed_eq_nil _ hnone] at hn
        simp at hn
      have hiff := scope ⟨c, hc, hholds⟩
      refine ih c hc ?_ n hn
      cases hx : g.reported source ⟨t, around, i⟩ with
      | none =>
        have hnot : t.isOneOf g.namedScopes = false := by simpa [hx] using hiff
        rw [parent_below_of_not ⟨t, around, i⟩ hnot]
        exact hparent
      | some x =>
        have hscope : t.isOneOf g.namedScopes = true := by simpa [hx] using hiff
        exact parent_below_of_reported hx hscope

end Grammar

/-! ## Both matches -/

namespace Declaration

/-- Of the declarations of a name and a kind, those that are told to lie in a parent of some name are those that have a
declaration of this name right around them. -/
def SameParent (around : List Nested) (name kind parent : String) : Prop :=
  ∀ n ∈ around, n.node.name = name → Text.sameWord n.node.kind kind = true →
    (n.node.parent = some parent ↔ n.around.map (·.name) = some parent)

instance (around : List Nested) (name kind parent : String) : Decidable (SameParent around name kind parent) :=
  inferInstanceAs (Decidable (∀ n ∈ around, _ → _ → (_ ↔ _)))

/-- A name, a kind and a parent are asked for. -/
theorem accepts_in_parent_iff (name kind parent : String) (occurrence : Int) (f : Facts) :
    ({ name, kind := some kind, parentName := some parent, occurrence } : Criteria).accepts f = true ↔
      f.name = name ∧ Text.sameWord f.kind kind = true ∧ f.parentName = some parent := by
  simp [Criteria.accepts, Criteria.kindFits, and_assoc]

/-- A declaration and its symbol are judged alike by name, kind and parent, if and only if both parents are right or
none is, where the name and the kind are. -/
theorem accepts_facts_eq_iff {n : Nested} (hplain : Text.IsPlain n.node.kind.toList) (name kind parent : String)
    (occurrence : Int) :
    let criteria : Criteria := { name, kind := some kind, parentName := some parent, occurrence }
    criteria.accepts n.node.facts = criteria.accepts n.facts ↔
      (n.node.name = name → Text.sameWord n.node.kind kind = true →
        (n.node.parent = some parent ↔ n.around.map (·.name) = some parent)) := by
  intro criteria
  -- Both sides ask for name and kind, so they differ at most in what they take for the parent.
  have hsymbol : criteria.accepts n.facts = true ↔ n.node.name = name ∧
      Text.sameWord n.node.kind kind = true ∧ n.around.map (·.name) = some parent := by
    rw [← Text.sameWord_capitalize hplain kind]
    exact accepts_in_parent_iff name kind parent occurrence n.facts
  have hdeclaration : criteria.accepts n.node.facts = true ↔ n.node.name = name ∧
      Text.sameWord n.node.kind kind = true ∧ n.node.parent = some parent :=
    accepts_in_parent_iff name kind parent occurrence n.node.facts
  rw [Bool.eq_iff_iff, hsymbol, hdeclaration, and_congr_right_iff]
  exact forall_congr' fun _ => and_congr_right_iff

end Declaration

namespace Context

open Declaration (SameParent)

variable {g : Grammar} {root : SyntaxTree} {h : FileHost} {files : Disk} {path : String} {text : List Char}
  {found : Extraction} {c : Context}

/-- In a parsed file the symbol that is chosen shows the declaration that is chosen by what is right around it in the
tree, and the declaration that is found is the one that is chosen by the parent that was recorded. So for every name,
kind and parent, the two are the same for every number exactly if the declarations of this name and kind have that
parent recorded where the declaration right around them has that name. Then the two matches are both not found, or
they are found in the same range. All declarations have the same parent both ways, if those that hold others are the
named scopes. -/
theorem resolve_in_parent (hg : g ∈ Grammar.builtIn) (hparsed : root.Parsed text)
    (halone : g.WrapsAlone (.ofText text) none {} root) (hserves : h.Serves files path text found)
    (hfound : found.declarations = g.declarations (.ofText text) root) (hdocument : c.document = ⟨text, path⟩)
    (hsymbols : c.symbols = h.symbols files path) (houtline : c.outline = .ok found) :
    let around := g.enclosed (.ofText text) none {} [] root
    ∃ forest, c.symbols.symbols = .ok forest ∧
      (∀ criteria,
        Option.Rel (fun n s => n.node.ShownAs c.document s) (choose Nested.facts criteria around)
          (Symbol.find forest criteria) ∧
        Declaration.find found.declarations criteria
          = (choose (fun n => n.node.facts) criteria around).map (·.node)) ∧
      (∀ name kind parent,
        (SameParent around name kind parent ↔ ∀ occurrence,
          let criteria : Criteria := { name, kind := some kind, parentName := some parent, occurrence }
          choose (fun n => n.node.facts) criteria around = choose Nested.facts criteria around) ∧
        (SameParent around name kind parent → ∀ occurrence openEnd,
          let bySymbol : Match := .symbol name (some kind) (some parent) none occurrence
          let byDeclaration : Match := .declaration kind name none (some parent) occurrence
          (c.resolve openEnd bySymbol = Attempt.refuse (.notFound bySymbol) ∧
            c.resolve openEnd byDeclaration = Attempt.refuse (.notFound byDeclaration)) ∨
          ∃ r, c.resolve openEnd bySymbol = .ok r ∧ c.resolve openEnd byDeclaration = .ok r)) ∧
      (g.ScopesReported (.ofText text) none {} root →
        ∀ n ∈ around, n.node.parent = n.around.map (·.name)) := by
  intro around
  have hlisted := Grammar.listed_declarations hg hparsed halone path
  obtain ⟨forest, hforest⟩ := exists_nest_of_listed hlisted
  have hnested : nested (g.declarations (.ofText text) root) = around := Grammar.nested_declarations hparsed halone
  have hreported : c.symbols.symbols = .ok forest := by rw [hsymbols, hserves.symbols, hfound, hforest]
  have hplain : ∀ n ∈ around, Text.IsPlain n.node.kind.toList := by
    intro n hn
    refine hlisted.plain n.node ?_
    rw [Grammar.declarations_eq]
    exact List.mem_map_of_mem hn
  refine ⟨forest, hreported, ?_, ?_, fun hscopes => Grammar.parent_of_enclosed hscopes rfl⟩
  · intro criteria
    have hselect := Declaration.rel_select hforest criteria
    rw [hnested] at hselect
    rw [hdocument]
    refine ⟨hselect, ?_⟩
    rw [hfound, Grammar.declarations_eq, ← choose_map Declaration.facts criteria Nested.node]
    rfl
  · intro name kind parent
    -- both parents are right or none is, for each declaration that the name and the kind are right for
    have hjudge : ∀ occurrence,
        let criteria : Criteria := { name, kind := some kind, parentName := some parent, occurrence }
        SameParent around name kind parent ↔
          ∀ n ∈ around, criteria.accepts n.node.facts = criteria.accepts n.facts := by
      intro occurrence criteria
      exact forall₂_congr fun n hn =>
        (Declaration.accepts_facts_eq_iff (hplain n hn) name kind parent occurrence).symm
    refine ⟨(hjudge 1).trans forall_choose_eq_iff.symm, ?_⟩
    intro hparent occurrence openEnd bySymbol byDeclaration
    have hrel := Declaration.rel_find hforest hlisted.mergeSort_eq rfl fun n hn =>
      (hjudge occurrence).mp hparent n (hnested ▸ hn)
    rw [← hdocument, ← hfound] at hrel
    have hcomplete : ∀ node ∈ found.declarations, node.isComplete = true := by
      rw [hfound]
      exact fun node => hlisted.isComplete
    rcases resolve_of_rel hreported houtline hcomplete hrel openEnd with ⟨-, hs, hd⟩ | ⟨node, r, -, -, hs, hd⟩
    · exact .inl ⟨hs, hd kind rfl⟩
    · exact .inr ⟨r, hs, hd kind rfl⟩

/-- A class with two methods of one name, the first of which is decorated and spans its decoration. The second one is
found both ways. -/
theorem resolve_in_parent_decorated :
    let text := "class A:\n  @p\n  def f(): 0\n  def f(): 1\n".toList
    let name (start : Nat) : SyntaxTree := ⟨"identifier", true, some "name", start, start + 1, []⟩
    let method (start : Nat) : SyntaxTree :=
      ⟨"function_definition", true, none, start, start + 10, [name (start + 4)]⟩
    let decorated : SyntaxTree :=
      ⟨"decorated_definition", true, none, 11, 26, [⟨"decorator", true, none, 11, 13, []⟩, method 16]⟩
    let body : SyntaxTree := ⟨"block", true, some "body", 11, 39, [decorated, method 29]⟩
    let root : SyntaxTree :=
      ⟨"module", true, none, 0, 40, [⟨"class_definition", true, none, 0, 39, [name 6, body]⟩]⟩
    let extractor := Grammar.python.extractor fun _ _ => .ok ⟨root, false⟩
    let h : FileHost := { root := "/p", registry := ⟨[("python", extractor)], [(".py", "python")]⟩ }
    let files : Disk := { entries := [(["p"], .folder), (["p", "a.py"], .file (Text.encode text))] }
    let found : Extraction := ⟨Grammar.python.declarations (.ofText text) root, []⟩
    let c : Context := ⟨⟨text, "/p/a.py"⟩, h.symbols files "/p/a.py", .ok found⟩
    Grammar.python ∈ Grammar.builtIn ∧ root.Parsed text ∧
      Grammar.python.WrapsAlone (.ofText text) none {} root ∧ h.Serves files "/p/a.py" text found ∧
      SameParent (Grammar.python.enclosed (.ofText text) none {} [] root) "f" "method" "A" ∧
      ∃ r, c.resolve false (.symbol "f" (some "method") (some "A") none 2) = .ok r ∧
        c.resolve false (.declaration "method" "f" none (some "A") 2) = .ok r := by
  intro text name method decorated body root extractor h files found c
  have hg : Grammar.python ∈ Grammar.builtIn := by simp [Grammar.builtIn]
  have hparsed : root.Parsed text := by decide +kernel
  have halone : Grammar.python.WrapsAlone (.ofText text) none {} root := by decide +kernel
  have hread : h.read files "/p/a.py" = .ok text := Attempt.toOption_eq_some.mp (by decide +kernel)
  have hlanguage : h.registry.resolve (h.registry.languageFor (some "/p/a.py") h.language) = some "python" := by
    decide +kernel
  have hserves : h.Serves files "/p/a.py" text found :=
    FileHost.serves_of_lookup (by decide +kernel) hread hlanguage rfl rfl
  have hparent : SameParent (Grammar.python.enclosed (.ofText text) none {} [] root) "f" "method" "A" := by
    decide +kernel
  obtain ⟨forest, -, -, hboth, -⟩ := resolve_in_parent (c := c) hg hparsed halone hserves rfl rfl rfl rfl
  refine ⟨hg, hparsed, halone, hserves, hparent, ?_⟩
  rcases (hboth "f" "method" "A").2 hparent 2 false with ⟨-, hnone⟩ | hfound
  · have hsome : (c.resolve false (.declaration "method" "f" none (some "A") 2)).toOption.isSome = true := by
      decide +kernel
    rw [hnone] at hsome
    exact absurd hsome (by decide)
  · exact hfound

/-- A function inside of a function: the symbol lies in the outer function, and the declaration in no scope that has
a name. So the symbol is found by the name of the outer function, and the declaration is not. -/
theorem resolve_in_function_differs :
    let text := "def f():\n  def g(): 0".toList
    let name (start : Nat) : SyntaxTree := ⟨"identifier", true, some "name", start, start + 1, []⟩
    let body : SyntaxTree :=
      ⟨"block", true, some "body", 11, 21, [⟨"function_definition", true, none, 11, 21, [name 15]⟩]⟩
    let root : SyntaxTree :=
      ⟨"module", true, none, 0, 21, [⟨"function_definition", true, none, 0, 21, [name 4, body]⟩]⟩
    let extractor := Grammar.python.extractor fun _ _ => .ok ⟨root, false⟩
    let h : FileHost := { root := "/p", registry := ⟨[("python", extractor)], [(".py", "python")]⟩ }
    let files : Disk := { entries := [(["p"], .folder), (["p", "a.py"], .file (Text.encode text))] }
    let found : Extraction := ⟨Grammar.python.declarations (.ofText text) root, []⟩
    let c : Context := ⟨⟨text, "/p/a.py"⟩, h.symbols files "/p/a.py", .ok found⟩
    let bySymbol : Match := .symbol "g" (some "function") (some "f") none 1
    let byDeclaration : Match := .declaration "function" "g" none (some "f") 1
    Grammar.python ∈ Grammar.builtIn ∧ root.Parsed text ∧
      Grammar.python.WrapsAlone (.ofText text) none {} root ∧ h.Serves files "/p/a.py" text found ∧
      c.resolve false bySymbol = .ok ⟨⟨1, 2⟩, ⟨1, 12⟩, by decide⟩ ∧
      c.resolve false byDeclaration = Attempt.refuse (.notFound byDeclaration) := by
  intro text name body root extractor h files found c bySymbol byDeclaration
  have hg : Grammar.python ∈ Grammar.builtIn := by simp [Grammar.builtIn]
  have hparsed : root.Parsed text := by decide +kernel
  have halone : Grammar.python.WrapsAlone (.ofText text) none {} root := by decide +kernel
  have hread : h.read files "/p/a.py" = .ok text := Attempt.toOption_eq_some.mp (by decide +kernel)
  have hlanguage : h.registry.resolve (h.registry.languageFor (some "/p/a.py") h.language) = some "python" := by
    decide +kernel
  have hserves : h.Serves files "/p/a.py" text found :=
    FileHost.serves_of_lookup (by decide +kernel) hread hlanguage rfl rfl
  obtain ⟨forest, hforest⟩ := exists_nest_of_listed (Grammar.listed_declarations hg hparsed halone "/p/a.py")
  have hsymbols : c.symbols.symbols = .ok forest := by
    show (h.symbols files "/p/a.py").symbols = .ok forest
    rw [hserves.symbols, hforest]
  let outer : Declaration := ⟨"function", "f", 0, 0, 21, 0, 1, none, none⟩
  let inner : Declaration := ⟨"function", "g", 0, 11, 21, 1, 1, none, none⟩
  have hchosen : choose Nested.facts { name := "g", kind := some "function", parentName := some "f" }
      (nested found.declarations) = some ⟨inner, some outer, 1⟩ := by
    show choose Nested.facts _ (nested (Grammar.python.declarations (.ofText text) root)) = _
    rw [Grammar.nested_declarations hparsed halone]
    decide +kernel
  have hfind : Declaration.find found.declarations
      { name := "g", kind := some "function", parentName := some "f" } = none := by
    decide +kernel
  have houtline : c.outline = .ok ⟨found.declarations, []⟩ := rfl
  refine ⟨hg, hparsed, halone, hserves, ?_, by rw [resolve_declaration houtline, hfind]⟩
  rw [resolve_chosen_of_isComplete hforest hsymbols hchosen rfl false bySymbol]
  exact Attempt.toOption_eq_some.mp (by decide +kernel)

end Context

end Emend
