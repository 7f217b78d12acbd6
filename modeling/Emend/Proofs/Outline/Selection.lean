import Emend.Proofs.Outline.Forest
import Emend.Proofs.Resolve
import Emend.Proofs.Text.Case

/-!
# Selection among symbols and among declarations

What is found in a forest is one of the symbols of its listing that answer to the criteria, by its number
(`Symbol.find_eq_nth`). A symbol that is chosen from the forest of some declarations shows the declaration that is
chosen from where they are nested (`rel_select`). Where declarations are listed in the order of the text and none is
asked for by what is around it, a symbol and a declaration of the same name, kind and number are found in the same
range (`resolve_symbol_agrees`).

Main statements:

* `accepts_visit_iff`, `Symbol.find_eq_nth`: what is found is the one with its number among those that answer.
* `rel_select`, `rel_find`: a symbol and a declaration that are chosen alike.
* `resolve_of_rel`, `resolve_symbol_agrees`: the two matches are found in one range.
-/

namespace Emend

/-! ## Related lists -/

section Related

variable {α β : Type} {R : α → β → Prop} {as : List α} {bs : List β}

/-- In two related lists, the items that qualify at the same number are related. -/
theorem rel_nthWhere {p : α → Bool} {q : β → Bool} (hpq : ∀ a b, R a b → p a = q b)
    (h : List.Forall₂ R as bs) (skip : Nat) : Option.Rel R (nthWhere p skip as) (nthWhere q skip bs) := by
  induction h generalizing skip with
  | nil => exact .none
  | @cons a b as bs hab _ ih =>
    unfold nthWhere
    rw [hpq a b hab]
    split
    · cases skip with
      | zero => exact .some hab
      | succ skip => exact ih skip
    · exact ih skip

/-- What is chosen from two related lists is related, if the criteria judge related items alike. -/
theorem rel_choose {facts : α → Facts} {facts' : β → Facts} {c c' : Criteria}
    (hnumber : c.occurrence = c'.occurrence)
    (hfacts : ∀ a b, R a b → c.accepts (facts a) = c'.accepts (facts' b)) (h : List.Forall₂ R as bs) :
    Option.Rel R (choose facts c as) (choose facts' c' bs) := by
  rw [choose, choose, hnumber]
  split
  · exact .none
  · exact rel_nthWhere hfacts h _

end Related

/-! ## Items that qualify -/

section Qualify

variable {α β : Type} {as : List α} {facts facts' : α → Facts} {c c' : Criteria}

theorem nthWhere_eq (p : α → Bool) (skip : Nat) (as : List α) : nthWhere p skip as = (as.filter p)[skip]? := by
  induction as generalizing skip with
  | nil => rfl
  | cons a rest ih =>
    unfold nthWhere
    by_cases ha : p a = true
    · rw [if_pos ha, List.filter_cons_of_pos ha]
      cases skip with
      | zero => rfl
      | succ skip => exact ih skip
    · rw [if_neg ha, List.filter_cons_of_neg ha]
      exact ih skip

/-- The same is chosen by criteria of the same number that judge the items alike. -/
theorem choose_congr (hnumber : c.occurrence = c'.occurrence)
    (hsame : ∀ a ∈ as, c.accepts (facts a) = c'.accepts (facts' a)) : choose facts c as = choose facts' c' as := by
  rw [choose, choose, hnumber, nthWhere_eq, nthWhere_eq, List.filter_congr hsame]

/-- Criteria choose the same whatever the number is, exactly if they judge each item alike. -/
theorem forall_choose_eq_iff :
    (∀ k, choose facts { c with occurrence := k } as = choose facts' { c with occurrence := k } as) ↔
      ∀ a ∈ as, c.accepts (facts a) = c.accepts (facts' a) := by
  constructor
  · intro h a ha
    -- the numbers tell all the items that qualify
    have hfilter : as.filter (fun a => c.accepts (facts a)) = as.filter (fun a => c.accepts (facts' a)) := by
      refine List.ext_getElem? ?_
      intro skip
      have hnumber := h (skip + 1)
      rw [choose, choose, if_neg (by simp), if_neg (by simp), nthWhere_eq, nthWhere_eq] at hnumber
      simp only [Int.add_sub_cancel, Int.toNat_natCast] at hnumber
      exact hnumber
    have hmem : a ∈ as.filter (fun a => c.accepts (facts a)) ↔ a ∈ as.filter (fun a => c.accepts (facts' a)) := by
      rw [hfilter]
    rw [List.mem_filter, List.mem_filter, and_iff_right ha, and_iff_right ha] at hmem
    exact Bool.eq_iff_iff.mpr hmem
  · intro h k
    exact choose_congr rfl h

theorem choose_map (facts : β → Facts) (c : Criteria) (f : α → β) (as : List α) :
    choose facts c (as.map f) = (choose (fun a => facts (f a)) c as).map f := by
  rw [choose, choose, nthWhere_eq, nthWhere_eq, List.filter_map, List.getElem?_map]
  split <;> rfl

end Qualify

/-! ## Symbols that answer -/

/-- A symbol answers to criteria: it has the name, and, as far as they are asked for, the kind up to case, as many
symbols around it, and right around it a symbol of the name and, up to case, of the kind. -/
structure Criteria.AnsweredBy (c : Criteria) (p : Symbol.Placed) : Prop where
  name : p.symbol.name = c.name
  kind : ∀ k ∈ c.kind, Text.lower p.symbol.kind = Text.lower k
  depth : ∀ n ∈ c.depth, (p.around.length : Int) = n
  parent : ∀ name ∈ c.parentName, ∃ around ∈ p.around.head?, around.name = name ∧
    ∀ k ∈ c.parentKind, Text.lower around.kind = Text.lower k

namespace Criteria

theorem kindFits_some_iff {wanted : Option String} {kind : String} :
    kindFits wanted (some kind) = true ↔ ∀ k ∈ wanted, Text.lower kind = Text.lower k := by
  cases wanted with
  | none => simp [kindFits]
  | some w => simp [kindFits, Text.sameWord]

/-- What is around is judged only if a name is asked for. -/
theorem accepts_eq (c : Criteria) (f : Facts) :
    c.accepts f = (f.name == c.name && kindFits c.kind (some f.kind) && c.depth.all (· == f.depth) &&
      c.parentName.all fun name => f.parentName == some name && kindFits c.parentKind f.parentKind) := by
  rw [accepts]
  cases c.parentName with
  | none => rfl
  | some name => rfl

/-- A visit is judged as the symbol answers. -/
theorem accepts_visit_iff {c : Criteria} {p : Symbol.Placed} :
    c.accepts p.visit.facts = true ↔ c.AnsweredBy p := by
  obtain ⟨symbol, around⟩ := p
  -- Each criterion that is not given holds of everything.
  have hdepth : c.depth.all (· == (around.length : Int)) = true ↔ ∀ n ∈ c.depth, (around.length : Int) = n := by
    cases c.depth with
    | none => simp
    | some n => simpa using eq_comm
  have hparent : (c.parentName.all fun name =>
        around.head?.map (·.name) == some name && kindFits c.parentKind (around.head?.map (·.kind))) = true ↔
      ∀ name ∈ c.parentName, ∃ parent ∈ around.head?, parent.name = name ∧
        ∀ k ∈ c.parentKind, Text.lower parent.kind = Text.lower k := by
    cases c.parentName with
    | none => simp
    | some name =>
      cases around with
      | nil => simp
      | cons parent rest => simp [kindFits_some_iff]
  constructor
  · intro h
    simp only [accepts_eq, Symbol.Placed.visit, Symbol.Visit.facts, Bool.and_eq_true, beq_iff_eq] at h
    obtain ⟨⟨⟨hname, hkind⟩, hnumber⟩, haround⟩ := h
    exact ⟨hname, kindFits_some_iff.mp hkind, hdepth.mp hnumber, hparent.mp haround⟩
  · rintro ⟨hname, hkind, hnumber, haround⟩
    simp only [accepts_eq, Symbol.Placed.visit, Symbol.Visit.facts, Bool.and_eq_true, beq_iff_eq]
    exact ⟨⟨⟨hname, kindFits_some_iff.mpr hkind⟩, hdepth.mpr hnumber⟩, hparent.mpr haround⟩

instance (c : Criteria) : DecidablePred c.AnsweredBy := fun _ => decidable_of_iff _ accepts_visit_iff

end Criteria

/-- The symbol that is found is, counted from one, the one of the given number among those of the listing of the
forest that answer to the criteria. None is found for a number below one, or above how many there are. -/
theorem Symbol.find_eq_nth (forest : List Symbol) (c : Criteria) :
    find forest c = if c.occurrence < 1 then none
      else (((preorderAll [] forest).filter fun p => c.AnsweredBy p)[(c.occurrence - 1).toNat]?).map (·.symbol) := by
  -- The stack visits what the recursive listing lists, and it judges it alike.
  have hjudge : (preorderAll [] forest).filter (fun p => c.AnsweredBy p)
      = (preorderAll [] forest).filter (fun p => c.accepts p.visit.facts) := by
    refine List.filter_congr ?_
    intro p _
    rw [Bool.eq_iff_iff, decide_eq_true_iff]
    exact Criteria.accepts_visit_iff.symm
  rw [find, visits_eq_map_preorderAll, choose_map, choose, nthWhere_eq, hjudge]
  split
  · rfl
  · rw [Option.map_map]
    rfl

/-! ## Declarations that are shown -/

namespace Declaration

variable {d : Document} {node : Declaration} {s : Symbol}

theorem toSymbol_eq_ok_iff : node.toSymbol d = .ok s ↔
    ∃ r, Context.offsetRange d node.start node.nestingStop = .ok r ∧
      s = { name := node.name, kind := Text.capitalize node.kind, range := r, detail := node.parent.getD "" } := by
  -- The two ends are looked up one after the other, here and for the range.
  constructor
  · intro h
    obtain ⟨p, hp, h⟩ := Attempt.bind_eq_ok.mp h
    obtain ⟨q, hq, h⟩ := Attempt.bind_eq_ok.mp h
    obtain ⟨r, hr, h⟩ := Attempt.bind_eq_ok.mp h
    exact ⟨r, Attempt.bind_eq_ok.mpr ⟨p, hp, Attempt.bind_eq_ok.mpr ⟨q, hq, hr⟩⟩, (Attempt.pure_eq_ok.mp h).symm⟩
  · rintro ⟨r, hrange, rfl⟩
    obtain ⟨p, hp, h⟩ := Attempt.bind_eq_ok.mp hrange
    obtain ⟨q, hq, hr⟩ := Attempt.bind_eq_ok.mp h
    exact Attempt.bind_eq_ok.mpr ⟨p, hp, Attempt.bind_eq_ok.mpr ⟨q, hq, Attempt.bind_eq_ok.mpr ⟨r, hr, rfl⟩⟩⟩

theorem ShownAs.name (h : node.ShownAs d s) : s.name = node.name := by
  obtain ⟨r, -, hs⟩ := toSymbol_eq_ok_iff.mp h
  exact congrArg Symbol.name hs

theorem ShownAs.kind (h : node.ShownAs d s) : s.kind = Text.capitalize node.kind := by
  obtain ⟨r, -, hs⟩ := toSymbol_eq_ok_iff.mp h
  exact congrArg Symbol.kind hs

theorem ShownAs.range (h : node.ShownAs d s) :
    Context.offsetRange d node.start node.nestingStop = .ok s.range := by
  obtain ⟨r, hr, hs⟩ := toSymbol_eq_ok_iff.mp h
  have hrange : s.range = r := congrArg Symbol.range hs
  rw [hrange]
  exact hr

/-- The facts of a nested declaration are those of its symbol, so its kind has a capital. -/
def Nested.facts (n : Nested) : Facts where
  name := n.node.name
  kind := Text.capitalize n.node.kind
  parentName := n.around.map (·.name)
  parentKind := n.around.map fun around => Text.capitalize around.kind
  depth := n.depth

theorem Nested.MetAs.facts {n : Nested} {v : Symbol.Visit} (h : n.MetAs d v) : v.facts = n.facts := by
  obtain ⟨symbol, parent, depth⟩ := v
  obtain ⟨node, around, depth'⟩ := n
  have hdepth : depth = depth' := h.depth
  have hsymbol : node.ShownAs d symbol := h.symbol
  have hparent : Option.Rel (ShownAs d) around parent := h.parent
  simp only [Symbol.Visit.facts, Nested.facts, hsymbol.name, hsymbol.kind, hdepth]
  cases hparent with
  | none => rfl
  | some haround => simp [haround.name, haround.kind]

/-- The symbol that the criteria choose from the forest of some declarations shows the nested declaration that they
choose. -/
theorem rel_select {nodes : List Declaration} {forest : List Symbol} (h : nest d nodes = .ok forest)
    (c : Criteria) :
    Option.Rel (fun n s => n.node.ShownAs d s) (choose Nested.facts c (nested nodes))
      (Symbol.find forest c) := by
  refine rel_map_right (fun n v hn => Nested.MetAs.symbol hn) (rel_choose rfl ?_ (metAs_visits_nest h))
  intro n v hn
  rw [hn.facts]

/-- The nested declaration that is chosen is the declaration that is found for other criteria of the same number, if
these judge each declaration as it is nested, and the declarations stand in the order of nesting. -/
theorem map_node_choose {nodes : List Declaration} {c c' : Criteria} (hsorted : nodes.mergeSort nestingLe = nodes)
    (hnumber : c.occurrence = c'.occurrence)
    (hagree : ∀ n ∈ nested nodes, c'.accepts n.node.facts = c.accepts n.facts) :
    (choose Nested.facts c (nested nodes)).map (·.node) = find nodes c' := by
  have hnodes : (nested nodes).map (·.node) = nodes := by rw [nested, map_node_nestedFrom, hsorted]
  have hsame : choose Nested.facts c (nested nodes) = choose (fun n => n.node.facts) c' (nested nodes) :=
    choose_congr hnumber fun n hn => (hagree n hn).symm
  rw [hsame, ← choose_map facts c' Nested.node, hnodes]
  rfl

/-- So the symbol of a forest shows the declaration that is found. -/
theorem rel_find {nodes : List Declaration} {forest : List Symbol} {c c' : Criteria}
    (h : nest d nodes = .ok forest) (hsorted : nodes.mergeSort nestingLe = nodes)
    (hnumber : c.occurrence = c'.occurrence)
    (hagree : ∀ n ∈ nested nodes, c'.accepts n.node.facts = c.accepts n.facts) :
    Option.Rel (fun node s => node ∈ nodes ∧ node.ShownAs d s) (find nodes c') (Symbol.find forest c) := by
  -- Nesting shows the declarations in the order in which they are given, so the same number picks the same one.
  have hrel := rel_select h c
  rw [← map_node_choose hsorted hnumber hagree]
  cases hchosen : choose Nested.facts c (nested nodes) with
  | none =>
    rw [hchosen, rel_none_left_iff] at hrel
    rw [hrel]
    exact .none
  | some n =>
    rw [hchosen, rel_some_left_iff] at hrel
    obtain ⟨s, hs, hshown⟩ := hrel
    rw [hs]
    exact .some ⟨node_mem_of_mem_nested (Symbol.mem_of_choose hchosen), hshown⟩

/-- A kind is the same word with a capital. -/
theorem kindFits_capitalize {kind : String} (hplain : Text.IsPlain kind.toList) (wanted : Option String) :
    Criteria.kindFits wanted (some (Text.capitalize kind)) = Criteria.kindFits wanted (some kind) := by
  cases wanted with
  | none => rfl
  | some w => exact Text.sameWord_capitalize hplain w

/-! ## Declarations in the order of the text -/

/-- Declarations as they are listed for a document: they lie in it, none ends before it starts, they come in the
order of the text, of two that start together the longer one first, and their kinds are plain words. -/
structure Listed (d : Document) (nodes : List Declaration) : Prop where
  spans : ∀ node ∈ nodes, 0 ≤ node.start ∧ node.start ≤ node.stop ∧ node.stop ≤ d.length
  ordered : nodes.Pairwise fun a b => a.start < b.start ∨ (a.start = b.start ∧ b.stop ≤ a.stop)
  plain : ∀ node ∈ nodes, Text.IsPlain node.kind.toList

variable {nodes : List Declaration}

theorem nestingLe_iff {a b : Declaration} :
    nestingLe a b = true ↔ a.start < b.start ∨ (a.start = b.start ∧ b.stop ≤ a.stop) := by
  simp [nestingLe]

theorem Listed.isComplete (h : Listed d nodes) (hnode : node ∈ nodes) : node.isComplete = true := by
  have hspan := h.spans node hnode
  exact decide_eq_true (by omega)

/-- Listed declarations stand in the order of nesting already. -/
theorem Listed.mergeSort_eq (h : Listed d nodes) : nodes.mergeSort nestingLe = nodes :=
  List.mergeSort_of_pairwise (h.ordered.imp nestingLe_iff.mpr)

theorem Listed.nestingStop_eq (h : Listed d nodes) (hnode : node ∈ nodes) : node.nestingStop = node.stop :=
  if_pos (h.isComplete hnode)

end Declaration

namespace Context

open Declaration (Listed)

/-- Listed declarations are nested to a forest. -/
theorem exists_nest_of_listed {d : Document} {nodes : List Declaration} (h : Listed d nodes) :
    ∃ forest, Declaration.nest d nodes = .ok forest := by
  refine Declaration.exists_nest ?_
  intro node hnode
  obtain ⟨hstart, hle, hstop⟩ := h.spans node hnode
  obtain ⟨r, hr⟩ := exists_offsetRange hstart hle hstop
  refine ⟨_, Declaration.toSymbol_eq_ok_iff.mpr ⟨r, ?_, rfl⟩⟩
  rw [h.nestingStop_eq hnode]
  exact hr

/-- The symbol of a name, a kind and a number shows the declaration of this name, kind and number. -/
theorem rel_find_of_listed {d : Document} {nodes : List Declaration} {forest : List Symbol} {c : Criteria}
    (h : Listed d nodes) (hforest : Declaration.nest d nodes = .ok forest) (hdepth : c.depth = none)
    (hparent : c.parentName = none) (parentKind : Option String) :
    Option.Rel (fun node s => node ∈ nodes ∧ node.ShownAs d s) (Declaration.find nodes c)
      (Symbol.find forest { c with parentKind }) := by
  refine Declaration.rel_find hforest h.mergeSort_eq rfl ?_
  intro n hn
  have hplain := h.plain n.node (Declaration.node_mem_of_mem_nested hn)
  have hkind := Declaration.kindFits_capitalize hplain c.kind
  simp only [Criteria.accepts, Declaration.facts, Declaration.Nested.facts, hdepth, hparent, hkind]
  rfl

/-- What is known of a declaration and of its symbol is found in the same range. -/
theorem declarationRange_of_shownAs {d : Document} {node : Declaration} {s : Symbol} (hnode : node.ShownAs d s)
    (hcomplete : node.isComplete = true) (m : Match) (openEnd : Bool) :
    declarationRange d m node openEnd = .ok s.range := by
  have hrange := hnode.range
  rw [Declaration.nestingStop, if_pos hcomplete] at hrange
  rw [declarationRange_of_isComplete hcomplete]
  exact hrange

theorem resolve_symbol {c : Context} {forest : List Symbol} (hforest : c.symbols.symbols = .ok forest)
    (openEnd : Bool) (name : String) (kind parentName parentKind : Option String) (occurrence : Int) :
    c.resolve openEnd (.symbol name kind parentName parentKind occurrence)
      = match Symbol.find forest { name, kind, parentName, parentKind, occurrence } with
        | some s => .ok s.range
        | none => Attempt.refuse (.notFound (.symbol name kind parentName parentKind occurrence)) := by
  rw [resolve, hforest]
  rfl

theorem resolve_declaration {c : Context} {nodes : List Declaration} {notes : List Note}
    (houtline : c.outline = .ok ⟨nodes, notes⟩) (openEnd : Bool) (kind name : String) (depth : Option Int)
    (parent : Option String) (occurrence : Int) :
    c.resolve openEnd (.declaration kind name depth parent occurrence)
      = match Declaration.find nodes { name, kind := some kind, parentName := parent, depth, occurrence } with
        | some node =>
          declarationRange c.document (.declaration kind name depth parent occurrence) node openEnd
        | none => Attempt.refuse (.notFound (.declaration kind name depth parent occurrence)) := by
  rw [resolve, houtline]
  rfl

section Chosen

variable {c : Context} {nodes : List Declaration} {forest : List Symbol} {n : Declaration.Nested} {name : String}
  {kind parentName parentKind : Option String} {occurrence : Int}

/-- The symbol that a match chooses shows the declaration that is chosen. -/
theorem exists_shownAs_of_chosen (hnest : Declaration.nest c.document nodes = .ok forest)
    (hsymbols : c.symbols.symbols = .ok forest)
    (hchosen : choose Declaration.Nested.facts { name, kind, parentName, parentKind, occurrence }
      (Declaration.nested nodes) = some n) :
    ∃ s, n.node.ShownAs c.document s ∧
      ∀ openEnd, c.resolve openEnd (.symbol name kind parentName parentKind occurrence) = .ok s.range := by
  have hrel := Declaration.rel_select hnest { name, kind, parentName, parentKind, occurrence }
  rw [hchosen, rel_some_left_iff] at hrel
  obtain ⟨s, hs, hshown⟩ := hrel
  refine ⟨s, hshown, ?_⟩
  intro openEnd
  rw [resolve_symbol hsymbols, hs]

/-- The symbol of a declaration whose end is known is found where the declaration is. -/
theorem resolve_chosen_of_isComplete (hnest : Declaration.nest c.document nodes = .ok forest)
    (hsymbols : c.symbols.symbols = .ok forest)
    (hchosen : choose Declaration.Nested.facts { name, kind, parentName, parentKind, occurrence }
      (Declaration.nested nodes) = some n)
    (hcomplete : n.node.isComplete = true) (openEnd : Bool) (m : Match) :
    c.resolve openEnd (.symbol name kind parentName parentKind occurrence)
      = declarationRange c.document m n.node false := by
  obtain ⟨s, hshown, hresolve⟩ := exists_shownAs_of_chosen hnest hsymbols hchosen
  rw [hresolve, declarationRange_of_shownAs hshown hcomplete]

end Chosen

section Related

variable {c : Context} {nodes : List Declaration} {notes : List Note} {forest : List Symbol} {name : String}
  {kind parent parentKind : Option String} {occurrence : Int}

/-- Where the symbol that is chosen shows the declaration that is chosen, and all ends are known, both are not found
or they are found in the same range. -/
theorem resolve_of_rel (hsymbols : c.symbols.symbols = .ok forest) (houtline : c.outline = .ok ⟨nodes, notes⟩)
    (hcomplete : ∀ node ∈ nodes, node.isComplete = true)
    (hrel : Option.Rel (fun node s => node ∈ nodes ∧ node.ShownAs c.document s)
      (Declaration.find nodes { name, kind, parentName := parent, occurrence })
      (Symbol.find forest { name, kind, parentName := parent, parentKind, occurrence })) (openEnd : Bool) :
    (Declaration.find nodes { name, kind, parentName := parent, occurrence } = none ∧
      c.resolve openEnd (.symbol name kind parent parentKind occurrence)
        = Attempt.refuse (.notFound (.symbol name kind parent parentKind occurrence)) ∧
      ∀ k, kind = some k → c.resolve openEnd (.declaration k name none parent occurrence)
        = Attempt.refuse (.notFound (.declaration k name none parent occurrence))) ∨
    ∃ node r, Declaration.find nodes { name, kind, parentName := parent, occurrence } = some node ∧
      (∀ m, declarationRange c.document m node openEnd = .ok r) ∧
      c.resolve openEnd (.symbol name kind parent parentKind occurrence) = .ok r ∧
      ∀ k, kind = some k → c.resolve openEnd (.declaration k name none parent occurrence) = .ok r := by
  rw [resolve_symbol hsymbols]
  -- What one list finds the other one shows, so both are found or neither is.
  cases hfind : Declaration.find nodes { name, kind, parentName := parent, occurrence } with
  | none =>
    rw [hfind, rel_none_left_iff] at hrel
    refine .inl ⟨rfl, by rw [hrel], ?_⟩
    rintro k rfl
    rw [resolve_declaration houtline, hfind]
  | some node =>
    rw [hfind, rel_some_left_iff] at hrel
    obtain ⟨s, hs, hmem, hshown⟩ := hrel
    have hrange := declarationRange_of_shownAs hshown (hcomplete node hmem)
    refine .inr ⟨node, s.range, rfl, fun m => hrange m openEnd, by rw [hs], ?_⟩
    rintro k rfl
    rw [resolve_declaration houtline, hfind]
    exact hrange _ openEnd

end Related

/-- A symbol and a declaration that are asked for by the same name, kind and number, and by nothing around them, are
both not found, or they are found in the same range. This holds however the listed declarations overlap. -/
theorem resolve_symbol_agrees {c : Context} {nodes : List Declaration} {notes : List Note}
    (hlisted : Listed c.document nodes) (hsymbols : c.symbols.symbols = Declaration.nest c.document nodes)
    (houtline : c.outline = .ok ⟨nodes, notes⟩) (name : String) (kind parentKind : Option String)
    (occurrence : Int) (openEnd : Bool) :
    (Declaration.find nodes { name, kind, occurrence } = none ∧
      c.resolve openEnd (.symbol name kind none parentKind occurrence)
        = Attempt.refuse (.notFound (.symbol name kind none parentKind occurrence)) ∧
      ∀ k, kind = some k → c.resolve openEnd (.declaration k name none none occurrence)
        = Attempt.refuse (.notFound (.declaration k name none none occurrence))) ∨
    ∃ node r, Declaration.find nodes { name, kind, occurrence } = some node ∧
      (∀ m, declarationRange c.document m node openEnd = .ok r) ∧
      c.resolve openEnd (.symbol name kind none parentKind occurrence) = .ok r ∧
      ∀ k, kind = some k → c.resolve openEnd (.declaration k name none none occurrence) = .ok r := by
  obtain ⟨forest, hforest⟩ := exists_nest_of_listed hlisted
  have hrel := rel_find_of_listed (c := { name, kind, occurrence }) hlisted hforest rfl rfl parentKind
  rw [hforest] at hsymbols
  exact resolve_of_rel hsymbols houtline (fun node => hlisted.isComplete) hrel openEnd

/-- Of two methods with one span the second one is asked for, among declarations that overlap and one that is
empty. Both ways find it. -/
theorem resolve_symbol_agrees_overlapping :
    let nodes : List Declaration :=
      [⟨"class", "A", 0, 0, 8, 0, 0, none, none⟩, ⟨"method", "f", 1, 1, 5, 0, 0, some "A", some "class"⟩,
        ⟨"method", "f", 1, 1, 5, 0, 0, some "A", some "class"⟩, ⟨"function", "f", 0, 3, 9, 0, 0, none, none⟩,
        ⟨"type", "f", 0, 4, 4, 0, 0, none, none⟩]
    let d : Document := ⟨"abcd\nfghij".toList, "a.txt"⟩
    let c : Context :=
      { document := d, symbols := { symbols := Declaration.nest d nodes }, outline := .ok ⟨nodes, []⟩ }
    Listed c.document nodes ∧ c.symbols.symbols = Declaration.nest c.document nodes ∧ c.outline = .ok ⟨nodes, []⟩ ∧
      ∃ node r, Declaration.find nodes { name := "f", kind := some "METHOD", occurrence := 2 } = some node ∧
        (∀ m, declarationRange c.document m node false = .ok r) ∧
        c.resolve false (.symbol "f" (some "METHOD") none none 2) = .ok r ∧
        ∀ k, some "METHOD" = some k → c.resolve false (.declaration k "f" none none 2) = .ok r := by
  intro nodes d c
  have hlisted : Listed c.document nodes := ⟨by decide, by decide, by simp [nodes, Text.IsPlain]⟩
  refine ⟨hlisted, rfl, rfl, ?_⟩
  rcases resolve_symbol_agrees hlisted rfl rfl "f" (some "METHOD") none 2 false with ⟨hnone, -⟩ | h
  · exact absurd hnone (by decide)
  · exact h

end Context

end Emend
