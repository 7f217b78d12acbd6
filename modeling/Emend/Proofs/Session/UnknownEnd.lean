import Emend.Proofs.Outline.Selection
import Emend.Proofs.Session.Preview

/-!
# Declarations whose end is not known

A declaration whose end is not known is a symbol without extent. As a declaration it is refused, unless its start is
all that is needed; as a symbol it is found in the empty range at its start (`resolve_chosen_of_not_isComplete`). So a
batch does not fail on such a symbol: every instruction for it makes an edit at this place, which takes nothing away
(`compile_symbol_unknown_end`).

Main statements:

* `declarationRange_of_not_isComplete`, `range_of_not_isComplete`: as a declaration, and as a symbol.
* `resolve_chosen_of_not_isComplete`: the empty range at its start is what is found.
* `range_compile_of_empty`, `compile_insert_iff`: the edits that are made there.
* `compile_symbol_unknown_end`: the whole batch.
-/

namespace Emend

/-! ## Where the symbol of a declaration is found -/

namespace Context

open Declaration (Nested nested)

variable {c : Context} {nodes : List Declaration} {forest : List Symbol} {n : Nested}

/-- Of a declaration whose end is not known no more than its start is found. -/
theorem declarationRange_of_not_isComplete {d : Document} {node : Declaration} {p : Position}
    (hunknown : node.isComplete = false) (hp : d.positionAt node.start = .ok p) (m : Match)
    (openEnd : Bool) :
    declarationRange d m node openEnd
      = if openEnd then .ok (.emptyAt p) else Attempt.refuse (.incomplete m node) := by
  rw [declarationRange, hp]
  simp only [hunknown, Bool.false_eq_true, if_false]
  rfl

/-- A declaration whose end is not known is shown in the empty range at its start. -/
theorem range_of_not_isComplete {d : Document} {node : Declaration} {s : Symbol} (hnode : node.ShownAs d s)
    (hunknown : node.isComplete = false) :
    ∃ p, d.positionAt node.start = .ok p ∧ s.range = .emptyAt p := by
  -- for nesting, a declaration without an end stops where it starts
  have hstop : node.nestingStop = node.start := by
    rw [Declaration.nestingStop, hunknown]
    rfl
  have hrange := hnode.range
  rw [hstop] at hrange
  obtain ⟨p, hp, hrange⟩ := Attempt.bind_eq_ok.mp hrange
  obtain ⟨q, hq, hrange⟩ := Attempt.bind_eq_ok.mp hrange
  rw [hp] at hq
  obtain rfl := Except.ok.inj (Attempt.ofRange_eq_ok.mp hq)
  rw [Range.between_of_le p.le_refl] at hrange
  exact ⟨p, Attempt.ofRange_eq_ok.mp hp, (Except.ok.inj (Attempt.ofOrder_eq_ok.mp hrange)).symm⟩

section Chosen

variable {name : String} {kind parentName parentKind : Option String} {occurrence : Int}

/-- The symbol of a declaration whose end is not known is found in the empty range at its start. -/
theorem resolve_chosen_of_not_isComplete (hnest : Declaration.nest c.document nodes = .ok forest)
    (hsymbols : c.symbols.symbols = .ok forest)
    (hchosen : choose Nested.facts { name, kind, parentName, parentKind, occurrence } (nested nodes) = some n)
    (hunknown : n.node.isComplete = false) :
    ∃ p, c.document.positionAt n.node.start = .ok p ∧
      ∀ openEnd, c.resolve openEnd (.symbol name kind parentName parentKind occurrence) = .ok (.emptyAt p) := by
  obtain ⟨s, hshown, hresolve⟩ := exists_shownAs_of_chosen hnest hsymbols hchosen
  obtain ⟨p, hp, hrange⟩ := range_of_not_isComplete hshown hunknown
  rw [hrange] at hresolve
  exact ⟨p, hp, hresolve⟩

end Chosen

end Context

/-! ## Edits on nothing -/

namespace Instruction

variable {i : Instruction} {d : Document} {normalize : Bool} {p : Position} {e : Edit}

/-- What is done with a symbol that is found in an empty range is done at this place. Nothing is deleted there. -/
theorem range_compile_of_empty (htarget : i.target.kind = .symbol)
    (h : i.compile d normalize (.emptyAt p) = .ok e) :
    e.range = .emptyAt p ∧ (i.action = .delete → e.newText = []) := by
  obtain ⟨hpaired, hcases⟩ := compile_cases h
  rw [htarget] at hpaired
  rcases hcases with ⟨haction, text, -, rfl⟩ | ⟨haction, h⟩ | ⟨haction, h⟩ | ⟨haction, h⟩ | ⟨haction, -⟩ |
    ⟨haction, -⟩
  · exact ⟨rfl, by simp [haction]⟩
  · have hlines : ¬ (i.target.kind = .lines ∧ (Range.emptyAt p).stop.line + 1 < d.lineCount) := by
      simp [htarget]
    rw [deleteEdit_of_not hlines] at h
    obtain rfl := Except.ok.inj h
    exact ⟨rfl, fun _ => rfl⟩
  · exact ⟨range_insertBeforeEdit h, by simp [haction]⟩
  · exact ⟨range_insertAfterEdit h, by simp [haction]⟩
  -- the other two actions take lines only
  · rw [haction] at hpaired
    exact absurd hpaired (by decide)
  · rw [haction] at hpaired
    exact absurd hpaired (by decide)

end Instruction

namespace Context

variable {c : Context} {i : Instruction} {before after : List Instruction} {normalize : Bool}

/-- An instruction whose match is found does not keep the others from being compiled. -/
theorem compile_insert_iff {r : Range} (hsymbols : c.SymbolsWithin) (hfinds : c.Finds i r)
    (hpaired : ∀ j ∈ before ++ i :: after, j.action.accepts j.target.kind = true) :
    (∃ edits, c.compile normalize (before ++ i :: after) = .ok edits) ↔
      ∃ edits, c.compile normalize (before ++ after) = .ok edits := by
  have hpaired' : ∀ j ∈ before ++ after, j.action.accepts j.target.kind = true := by
    intro j hj
    refine hpaired j ?_
    rcases List.mem_append.mp hj with hj | hj
    · exact List.mem_append_left _ hj
    · exact List.mem_append_right _ (List.mem_cons_of_mem i hj)
  -- a batch compiles if each of its targets is found, and this one is
  rw [exists_compile_iff hsymbols hpaired, exists_compile_iff hsymbols hpaired']
  simp only [List.forall_mem_append, List.forall_mem_cons]
  constructor
  · rintro ⟨hbefore, -, hafter⟩
    exact ⟨hbefore, hafter⟩
  · rintro ⟨hbefore, hafter⟩
    exact ⟨hbefore, ⟨r, hfinds⟩, hafter⟩

/-- An instruction for a symbol that is found in an empty range makes an edit at this place, whatever it does, and
does not keep the others from being compiled. -/
theorem makes_of_finds_empty {p : Position} (hsymbols : c.SymbolsWithin) (htarget : i.target.kind = .symbol)
    (hfinds : c.Finds i (.emptyAt p)) (haction : i.action.accepts .symbol = true) (normalize : Bool) :
    (∃ e, c.Makes normalize i e) ∧
    (∀ e, c.Makes normalize i e → e.range = .emptyAt p ∧ (i.action = .delete → e.newText = [])) ∧
    ∀ before after, (∀ j ∈ before ++ after, j.action.accepts j.target.kind = true) →
      ((∃ edits, c.compile normalize (before ++ i :: after) = .ok edits) ↔
        ∃ edits, c.compile normalize (before ++ after) = .ok edits) := by
  have hpaired : i.action.accepts i.target.kind = true := by
    rw [htarget]
    exact haction
  refine ⟨(exists_makes_iff hsymbols hpaired normalize).mpr ⟨_, hfinds⟩, ?_, ?_⟩
  -- an edit on an empty range stays there, whatever the action
  · rintro e ⟨r, hr, he⟩
    obtain rfl : Range.emptyAt p = r := by
      rw [Finds, hfinds] at hr
      exact Except.ok.inj hr
    exact Instruction.range_compile_of_empty htarget he
  · intro before after hothers
    refine compile_insert_iff hsymbols hfinds ?_
    rw [List.forall_mem_append] at hothers
    rw [List.forall_mem_append, List.forall_mem_cons]
    exact ⟨hothers.1, hpaired, hothers.2⟩

end Context

namespace Session

open Declaration (Nested nested)

variable {s : Session Disk} {h : FileHost} {w : Workspace Disk} {path : String} {text : List Char}
  {found : Extraction} {forest : List Symbol} {n : Nested}

/-- A symbol is found where the declaration that it shows is found, exactly if the end of the declaration is known.
If it is not, the declaration itself is refused, but every instruction for the symbol makes an edit on the empty
range at its start. So a batch compiles with such an instruction if it compiles without it. -/
theorem compile_symbol_unknown_end (hhost : s.host = h.host) (hserves : h.Serves w.files path text found)
    (hnest : Declaration.nest ⟨text, path⟩ found.declarations = .ok forest) {name : String}
    {kind parentName parentKind : Option String} {occurrence : Int}
    (hchosen : choose Nested.facts { name, kind, parentName, parentKind, occurrence }
      (nested found.declarations) = some n) :
    let c := s.context w.files ⟨text, path⟩
    let target : Match := .symbol name kind parentName parentKind occurrence
    (∀ openEnd, c.resolve openEnd target = Context.declarationRange c.document target n.node false ↔
      n.node.isComplete = true) ∧
    (n.node.isComplete = false →
      Context.declarationRange c.document target n.node false = Attempt.refuse (.incomplete target n.node) ∧
      ∃ p, c.document.positionAt n.node.start = .ok p ∧
        ∀ (i : Instruction) (normalize : Bool), i.target = target → i.action.accepts .symbol = true →
          (∃ e, c.Makes normalize i e) ∧
          (∀ e, c.Makes normalize i e → e.range = .emptyAt p ∧ (i.action = .delete → e.newText = [])) ∧
          ∀ before after, (∀ j ∈ before ++ after, j.action.accepts j.target.kind = true) →
            ((∃ edits, c.compile normalize (before ++ i :: after) = .ok edits) ↔
              ∃ edits, c.compile normalize (before ++ after) = .ok edits)) := by
  intro c target
  have hsymbols : c.symbols.symbols = .ok forest := by
    have hreport : c.symbols = h.symbols w.files path := by
      show s.host.symbols w.files path = h.symbols w.files path
      rw [hhost]
      rfl
    rw [hreport, hserves.symbols, hnest]
  have hwithin : c.SymbolsWithin := symbolsWithin_context hhost hserves.key hserves.read
  -- with an end the two matches agree; without one only the symbol is found
  by_cases hcomplete : n.node.isComplete = true
  · refine ⟨?_, by simp [hcomplete]⟩
    intro openEnd
    exact iff_of_true (Context.resolve_chosen_of_isComplete (c := c) hnest hsymbols hchosen hcomplete openEnd
      target) hcomplete
  · have hunknown : n.node.isComplete = false := by simpa using hcomplete
    obtain ⟨p, hp, hempty⟩ :=
      Context.resolve_chosen_of_not_isComplete (c := c) hnest hsymbols hchosen hunknown
    have hrefused := Context.declarationRange_of_not_isComplete hunknown hp target false
    refine ⟨?_, fun _ => ⟨hrefused, p, hp, ?_⟩⟩
    · intro openEnd
      rw [hempty openEnd, hrefused]
      simp [hcomplete, Attempt.refuse]
    · intro i normalize htarget haction
      have hkind : i.target.kind = .symbol := by
        rw [htarget]
        rfl
      -- every action that takes a symbol finds it in the empty range
      have hfinds : c.Finds i (.emptyAt p) := by
        rw [Context.Finds, htarget]
        exact hempty i.acceptsOpenEnd
      exact Context.makes_of_finds_empty hwithin hkind hfinds haction normalize

/-- A file in no known language, of whose one function no more is known than where it starts. The function is asked
for as a symbol, to be deleted. -/
theorem compile_symbol_unknown_end_fallback :
    let node : Declaration := ⟨"function", "f", 0, 1, -1, 1, 1, none, none⟩
    let found : Extraction := ⟨[node], [⟨.debug, .outline,
      "[Structure] No extractor for None, using regex fallback"⟩]⟩
    let forest : List Symbol := [{ name := "f", kind := "Function", range := .emptyAt ⟨1, 0⟩ }]
    let h : FileHost := { root := "/p", registry := {} }
    let s : Session Disk := ⟨h.host, { projectRoot := "/p" }, {}, Ledger.strokes, fun d _ => (.ok d, [])⟩
    let w : Workspace Disk := { files := {
      entries := [(["p"], .folder), (["p", "a.txt"], .file (Text.encode "\nfn f()".toList))] } }
    let c := s.context w.files ⟨"\nfn f()".toList, "/p/a.txt"⟩
    s.host = h.host ∧ h.Serves w.files "/p/a.txt" "\nfn f()".toList found ∧
      Declaration.nest ⟨"\nfn f()".toList, "/p/a.txt"⟩ found.declarations = .ok forest ∧
      choose Nested.facts { name := "f" } (nested found.declarations) = some ⟨node, none, 0⟩ ∧
      node.isComplete = false ∧
      ∃ p, c.document.positionAt node.start = .ok p ∧
        ∀ e, c.Makes true ⟨.delete, .symbol "f" none none none 1, []⟩ e → e.range = .emptyAt p ∧ e.newText = [] := by
  intro node found forest h s w c
  have hserves : h.Serves w.files "/p/a.txt" "\nfn f()".toList found := by
    refine ⟨by decide +kernel, Attempt.toOption_eq_some.mp (by decide +kernel), ?_⟩
    have hdeclarations : Fallback.declarations "\nfn f()".toList = [node] := by decide +kernel
    show Except.ok (Extraction.mk (Fallback.declarations "\nfn f()".toList) found.notes) = _
    rw [hdeclarations]
  have hnest : Declaration.nest ⟨"\nfn f()".toList, "/p/a.txt"⟩ found.declarations = .ok forest := by cbv
  have hchosen : choose Nested.facts { name := "f" } (nested found.declarations) = some ⟨node, none, 0⟩ := by cbv
  -- the end is not known, so the second part of the theorem applies
  obtain ⟨-, hunknown⟩ := compile_symbol_unknown_end (s := s) rfl hserves hnest hchosen
  obtain ⟨-, p, hp, hmakes⟩ := hunknown rfl
  refine ⟨rfl, hserves, hnest, hchosen, rfl, p, hp, ?_⟩
  intro e he
  obtain ⟨-, hplace, -⟩ := hmakes ⟨.delete, .symbol "f" none none none 1, []⟩ true rfl rfl
  exact ⟨(hplace e he).1, (hplace e he).2 rfl⟩

/-- A function whose end is not known is to be deleted. As a declaration it is not found; as a symbol it is, and the
request is applied, with an edit that leaves the file as it was. -/
theorem delete_symbol_changes_nothing :
    let text := "fn f()\n".toList
    let around : Command.Surroundings := {
      home := "/", environment := fun _ => none, registry := {}, names := Ledger.strokes, time := "" }
    let disk : Disk := { entries := [(["p"], .folder), (["p", "a.txt"], .file (Text.encode text))] }
    let s := Command.sessionOf around disk { projectRoot := "/p", metricsEnabled := false }
    let w : Workspace Disk := { files := disk }
    let node : Declaration := ⟨"function", "f", 0, 0, -1, 0, 0, none, none⟩
    let declaration : Match := .declaration "function" "f" none none 1
    let request : Request := ⟨"a.txt", [⟨.delete, .symbol "f" none none none 1, []⟩], ""⟩
    choose Nested.facts { name := "f" } (nested (Fallback.declarations text)) = some ⟨node, none, 0⟩ ∧
      node.isComplete = false ∧
      (s.context disk ⟨text, "/p/a.txt"⟩).resolve false declaration
        = Attempt.refuse (.incomplete declaration node) ∧
      ∃ done w', s.apply w request true = (.ok done, w') ∧ done.edits = [⟨.emptyAt ⟨0, 0⟩, []⟩] ∧
        s.host.read w'.files "/p/a.txt" = .ok text := by
  intro text around disk s w node declaration request
  let h : FileHost := { root := FileHost.rootOf disk "/p", registry := {} }
  have hdeclarations : Fallback.declarations text = [node] := by decide +kernel
  have hchosen : choose Nested.facts { name := "f" } (nested (Fallback.declarations text))
      = some ⟨node, none, 0⟩ := by
    rw [hdeclarations]
    cbv
  have houtline : (s.context disk ⟨text, "/p/a.txt"⟩).outline = .ok ⟨[node], [⟨.debug, .outline,
      "[Structure] No extractor for None, using regex fallback"⟩]⟩ := by
    rw [← hdeclarations]
    rfl
  -- the declaration of the same name is refused
  have hrefused : (s.context disk ⟨text, "/p/a.txt"⟩).resolve false declaration
      = Attempt.refuse (.incomplete declaration node) := by
    have hfind : Declaration.find [node] { name := "f", kind := some "function" } = some node := by cbv
    rw [Context.resolve_declaration houtline, hfind]
    exact Context.declarationRange_of_not_isComplete rfl rfl declaration false
  have hkey : s.host.key request.filePath = "/p/a.txt" := by decide +kernel
  have hread : s.host.read w.files "/p/a.txt" = .ok text := Attempt.toOption_eq_some.mp (by decide +kernel)
  have hcompile : s.compile w.files "/p/a.txt" request
      = .ok (⟨text, "/p/a.txt"⟩, [⟨.emptyAt ⟨0, 0⟩, []⟩]) :=
    (compile_eq_ok_iff hread).mpr ⟨rfl, Attempt.toOption_eq_some.mp (by decide +kernel),
      Attempt.toOption_eq_some.mp (by decide +kernel)⟩
  -- the edit that is made of the symbol takes nothing away
  have happly : applyEdits text [⟨.emptyAt ⟨0, 0⟩, []⟩] s.settings.rejectOverlaps = .ok text := by
    show applyEdits "fn f()\n".toList [⟨.emptyAt ⟨0, 0⟩, []⟩] true = .ok "fn f()\n".toList
    cbv
  have hreplace : (disk.replace "/p/a.txt".toList (Text.encode text)).1 = .ok () :=
    Attempt.toOption_eq_some.mp (by decide +kernel)
  have hdirect : disk.Direct "/p/a.txt".toList :=
    Disk.direct_of_noLinks (Disk.noLinks_of_entries (by decide)) (by decide)
  have hhost : s.host = h.host := rfl
  have hpath : h.resolve "/p/a.txt" = "/p/a.txt" := by decide +kernel
  have hread' : h.read w.files "/p/a.txt" = .ok text := hread
  obtain ⟨done, w', happ, hedits, hback⟩ := apply_of_compile true hhost (FileHost.isAbsolute_rootOf disk "/p") rfl
    rfl (List.cons_ne_nil _ _) hkey hpath hread' hcompile happly hreplace
  exact ⟨hchosen, rfl, hrefused, done, w', happ, hedits, hback hdirect⟩

end Session

end Emend
