import Emend.Proofs.Attempt
import Emend.Proofs.Outline.Symbol
import Emend.Proofs.Pattern.Escape
import Emend.Proofs.Pattern.Scan
import Emend.Resolve

/-!
# Where matches are found

A match is found in a range that the document has (`covers_resolve`), if the symbols that the host reports
lie in the document. Declarations need no such assumption, as their offsets are looked up in the
document.

A match that is not found is refused for what it asks (`isEditError_of_resolve`), if symbols and declarations
are there to look it up in and no declaration ends before it starts.

Main statements:

* `linesRange_eq_ok`, `exists_offsetRange`: the ranges of lines and of offsets.
* `covers_resolve`: what is found lies in the document.
* `isEditError_of_resolve`: what is not found is refused.
-/

namespace Emend

namespace Context

variable {d : Document} {r : Range}

/-- Lines are found in the range from the start of the first to the end of the body of the last. -/
theorem linesRange_eq_ok {first last : Int} :
    linesRange d first last = .ok r ↔ ∃ (a b : Nat) (raw : List Char),
      first = a + 1 ∧ last = b + 1 ∧ a ≤ b ∧ d.rawLines[b]? = some raw ∧
        r.start = ⟨a, 0⟩ ∧ r.stop = ⟨b, (Document.body raw).length⟩ := by
  unfold linesRange
  -- The bounds are refused before anything is looked up; within them both lines are there, and they are in order.
  constructor
  · intro h
    by_cases hbad : first - 1 < 0 ∨ last - 1 ≥ d.lineCount ∨ first - 1 > last - 1
    · rw [if_pos hbad] at h
      simp [Attempt.refuse, bind, Except.bind] at h
    · rw [if_neg hbad] at h
      obtain ⟨line, hline, hrange⟩ := Attempt.bind_eq_ok.mp h
      obtain ⟨b, raw, hb, hraw, -, hstop⟩ :=
        Document.lineRange_eq_ok.mp (Attempt.ofRange_eq_ok.mp hline)
      obtain ⟨hfrom, hto⟩ := Range.between_eq_ok (Attempt.ofOrder_eq_ok.mp hrange)
      obtain ⟨a, ha⟩ : ∃ a : Nat, first - 1 = a := ⟨(first - 1).toNat, by omega⟩
      refine ⟨a, b, raw, by omega, by omega, by omega, hraw, ?_, hto.trans hstop⟩
      rw [hfrom, ha]
  · rintro ⟨a, b, raw, rfl, rfl, hab, hraw, hstart, hstop⟩
    have hb : b < d.lineCount := (List.getElem?_eq_some_iff.mp hraw).1
    have hin : ¬ ((a : Int) < 0 ∨ (b : Int) ≥ d.lineCount ∨ (a : Int) > b) := by omega
    have hline : (⟨b, 0⟩ : Position) ≤ ⟨b, (Document.body raw).length⟩ := Or.inr ⟨rfl, by simp⟩
    rw [Int.add_sub_cancel, Int.add_sub_cancel, if_neg hin]
    refine Attempt.bind_eq_ok.mpr ⟨⟨_, _, hline⟩, Attempt.ofRange_eq_ok.mpr ?_, ?_⟩
    · exact Document.lineRange_eq_ok.mpr ⟨b, raw, rfl, hraw, rfl, rfl⟩
    · obtain ⟨_, _, hordered⟩ := r
      obtain rfl := hstart
      obtain rfl := hstop
      exact Attempt.ofOrder_eq_ok.mpr (Range.between_of_le hordered)

theorem covers_linesRange {first last : Int} (h : linesRange d first last = .ok r) :
    d.Covers r := by
  obtain ⟨a, b, raw, -, -, hab, hraw, hstart, hstop⟩ := linesRange_eq_ok.mp h
  have hb : b < d.lineCount := (List.getElem?_eq_some_iff.mp hraw).1
  rw [Document.covers_iff, hstart, hstop]
  exact ⟨Document.has_line (by omega) (by omega),
    Document.has_of_rawLine hraw (Document.length_body_le raw)⟩

theorem covers_lineNumberRange {number : Int} (h : lineNumberRange d number = .ok r) :
    d.Covers r := by
  unfold lineNumberRange at h
  split at h
  · exact absurd h Attempt.refuse_ne_ok
  · exact (Document.covers_lineRange (Attempt.ofRange_eq_ok.mp h)).1

/-- The range between two offsets goes from the position of one to the position of the other. -/
theorem positionAt_of_offsetRange {start stop : Int} (h : offsetRange d start stop = .ok r) :
    d.positionAt start = .ok r.start ∧ d.positionAt stop = .ok r.stop := by
  obtain ⟨p, hp, h⟩ := Attempt.bind_eq_ok.mp h
  obtain ⟨q, hq, h⟩ := Attempt.bind_eq_ok.mp h
  obtain ⟨rfl, rfl⟩ := Range.between_eq_ok (Attempt.ofOrder_eq_ok.mp h)
  exact ⟨Attempt.ofRange_eq_ok.mp hp, Attempt.ofRange_eq_ok.mp hq⟩

/-- Offsets of the document in order have a range. -/
theorem exists_offsetRange {start stop : Int} (hstart : 0 ≤ start) (hle : start ≤ stop)
    (hstop : stop ≤ d.length) : ∃ r, offsetRange d start stop = .ok r := by
  have hp : d.positionAt start = .ok (Position.zero.extent (d.text.take start.toNat)) := if_neg (by omega)
  have hq : d.positionAt stop = .ok (Position.zero.extent (d.text.take stop.toNat)) := if_neg (by omega)
  refine ⟨⟨_, _, Document.positionAt_le hle hp hq⟩, Attempt.bind_eq_ok.mpr ⟨_, Attempt.ofRange_eq_ok.mpr hp, ?_⟩⟩
  refine Attempt.bind_eq_ok.mpr ⟨_, Attempt.ofRange_eq_ok.mpr hq, Attempt.ofOrder_eq_ok.mpr ?_⟩
  exact Range.between_of_le _

theorem covers_offsetRange {start stop : Int} (h : offsetRange d start stop = .ok r) :
    d.Covers r := by
  obtain ⟨hstart, hstop⟩ := positionAt_of_offsetRange h
  exact Document.covers_iff.mpr ⟨Document.has_of_positionAt hstart, Document.has_of_positionAt hstop⟩

theorem covers_searchRange {m : Match} {needle : Pattern.Needle} {n : Int}
    (h : searchRange d m needle n = .ok r) : d.Covers r := by
  obtain ⟨found, -, h⟩ := Attempt.bind_eq_ok.mp h
  rcases found with _ | ⟨start, stop⟩
  · exact absurd h Attempt.refuse_ne_ok
  · exact covers_offsetRange h

theorem declarationRange_of_isComplete {node : Declaration} (h : node.isComplete = true)
    (d : Document) (m : Match) (openEnd : Bool) :
    declarationRange d m node openEnd = offsetRange d node.start node.stop := by
  simp only [declarationRange, h, if_true, offsetRange]

theorem covers_declarationRange {m : Match} {node : Declaration} {openEnd : Bool}
    (h : declarationRange d m node openEnd = .ok r) : d.Covers r := by
  by_cases hcomplete : node.isComplete = true
  · rw [declarationRange_of_isComplete hcomplete] at h
    exact covers_offsetRange h
  -- without an end only the start is used, where the action allows for it
  · obtain ⟨p, hp, h⟩ := Attempt.bind_eq_ok.mp h
    rw [if_neg hcomplete] at h
    split at h
    · obtain rfl := Attempt.pure_eq_ok.mp h
      exact Document.covers_emptyAt (Document.has_of_positionAt (Attempt.ofRange_eq_ok.mp hp))
    · exact absurd h Attempt.refuse_ne_ok

/-- The symbols that are reported lie in the document. -/
def SymbolsWithin (c : Context) : Prop :=
  ∀ forest, c.symbols.symbols = .ok forest → ∀ s ∈ forest, s.Within c.document

/-- A match is found in a range that the document has. -/
theorem covers_resolve {c : Context} {openEnd : Bool} {m : Match} (hsymbols : c.SymbolsWithin)
    (h : c.resolve openEnd m = .ok r) : c.document.Covers r := by
  -- One case for each kind of match. Only symbols are taken as the host gives them.
  cases m with
  | lines first last => exact covers_linesRange h
  | line number => exact covers_lineNumberRange h
  | pattern source n => exact covers_searchRange h
  | literal text n => exact covers_searchRange h
  | wholeFile =>
    obtain rfl := Except.ok.inj h
    exact Document.covers_fullRange
  | symbol name kind parentName parentKind occurrence =>
    obtain ⟨forest, hforest, h⟩ := Attempt.bind_eq_ok.mp h
    split at h
    · rename_i s hfind
      obtain rfl := Attempt.pure_eq_ok.mp h
      exact Symbol.covers_find (hsymbols forest hforest) hfind
    · exact absurd h Attempt.refuse_ne_ok
  | declaration kind name depth parent occurrence =>
    obtain ⟨found, -, h⟩ := Attempt.bind_eq_ok.mp h
    split at h
    · exact covers_declarationRange h
    · exact absurd h Attempt.refuse_ne_ok

/-! ## Matches that are not found -/

variable {f : Failure}

theorem isEditError_of_linesRange {first last : Int} (h : linesRange d first last = .error f) :
    f.isEditError = true := by
  unfold linesRange at h
  -- Bounds that are outside of the text or crossed are refused at once, and others fail only for a line that is
  -- missing.
  by_cases hbad : first - 1 < 0 ∨ last - 1 ≥ d.lineCount ∨ first - 1 > last - 1
  · rw [if_pos hbad, Attempt.bind_eq_error] at h
    rcases h with h | ⟨_, h, -⟩
    · exact Attempt.isEditError_of_refuse h
    · exact absurd h Attempt.refuse_ne_ok
  · rw [if_neg hbad] at h
    rcases Attempt.bind_eq_error.mp h with h | ⟨line, hline, h⟩
    · exact Attempt.isEditError_of_ofRange h
    · -- the first line starts before the last one, and so before its end
      have hstart := (Document.covers_lineRange (Attempt.ofRange_eq_ok.mp hline)).2
      have hle : (⟨first - 1, 0⟩ : Position) ≤ line.stop := by
        refine Position.le_trans ?_ line.start_le_stop
        rw [hstart, Position.le_def]
        simp only
        omega
      rw [Range.between_of_le hle] at h
      simp [Attempt.ofOrder] at h

theorem isEditError_of_lineNumberRange {number : Int} (h : lineNumberRange d number = .error f) :
    f.isEditError = true := by
  unfold lineNumberRange at h
  split at h
  · exact Attempt.isEditError_of_refuse h
  · exact Attempt.isEditError_of_ofRange h

/-- The positions of offsets in order are in order, if the document has them. -/
theorem isEditError_of_offsetRange {start stop : Int} (hle : start ≤ stop)
    (h : offsetRange d start stop = .error f) : f.isEditError = true := by
  rcases Attempt.bind_eq_error.mp h with h | ⟨p, hp, h⟩
  · exact Attempt.isEditError_of_ofRange h
  · rcases Attempt.bind_eq_error.mp h with h | ⟨q, hq, h⟩
    · exact Attempt.isEditError_of_ofRange h
    · have hpq := Document.positionAt_le hle (Attempt.ofRange_eq_ok.mp hp)
        (Attempt.ofRange_eq_ok.mp hq)
      rw [Range.between_of_le hpq] at h
      simp [Attempt.ofOrder] at h

theorem isEditError_of_searchRange {m : Match} {needle : Pattern.Needle} {n : Int}
    (hneedle : ∀ f, needle.node = .error f → f.isEditError = true)
    (h : searchRange d m needle n = .error f) : f.isEditError = true := by
  -- The search refuses for its pattern or finds nothing; a span that it finds is in order.
  rcases Attempt.bind_eq_error.mp h with h | ⟨found, hfound, h⟩
  · unfold Pattern.Needle.findNth at h
    split at h
    · simp at h
    · rcases Attempt.bind_eq_error.mp h with h | ⟨node, -, h⟩
      · exact hneedle f h
      · simp [pure, Except.pure] at h
  · rcases found with _ | ⟨start, stop⟩
    · exact Attempt.isEditError_of_refuse h
    · refine isEditError_of_offsetRange ?_ h
      unfold Pattern.Needle.findNth at hfound
      split at hfound
      · simp at hfound
      · obtain ⟨node, -, hfound⟩ := Attempt.bind_eq_ok.mp hfound
        exact Int.ofNat_le.mpr (Pattern.le_of_findNth (Attempt.pure_eq_ok.mp hfound)).1

theorem isEditError_of_declarationRange {m : Match} {node : Declaration} {openEnd : Bool}
    (hle : node.isComplete = true → node.start ≤ node.stop)
    (h : declarationRange d m node openEnd = .error f) : f.isEditError = true := by
  by_cases hcomplete : node.isComplete = true
  · rw [declarationRange_of_isComplete hcomplete] at h
    exact isEditError_of_offsetRange (hle hcomplete) h
  · rcases Attempt.bind_eq_error.mp h with h | ⟨start, -, h⟩
    · exact Attempt.isEditError_of_ofRange h
    · rw [if_neg hcomplete] at h
      split at h
      · simp [pure, Except.pure] at h
      · exact Attempt.isEditError_of_refuse h

/-- The symbols and the declarations are there to be looked up. -/
structure Supplied (c : Context) : Prop where
  symbols : ∃ forest, c.symbols.symbols = .ok forest
  outline : ∃ found, c.outline = .ok found

/-- No declaration ends before it starts, if its end is known. -/
def DeclarationsForward (c : Context) : Prop :=
  ∀ found, c.outline = .ok found → ∀ node ∈ found.declarations,
    node.isComplete = true → node.start ≤ node.stop

end Context

/-- What is wrong with a pattern, if anything is, is wrong with its text. -/
def Match.Readable : Match → Prop
  | .pattern source _ =>
    ∀ rejection, Pattern.compile source = .error rejection →
      ∃ cause position, rejection = .problem cause position
  | _ => True

namespace Context

/-- A match that is not found is refused for what it asks. -/
theorem isEditError_of_resolve {c : Context} {openEnd : Bool} {m : Match} {f : Failure}
    (hsupplied : c.Supplied) (hforward : c.DeclarationsForward) (hreadable : m.Readable)
    (h : c.resolve openEnd m = .error f) : f.isEditError = true := by
  cases m with
  | lines first last => exact isEditError_of_linesRange h
  | line number => exact isEditError_of_lineNumberRange h
  | pattern source n =>
    refine isEditError_of_searchRange ?_ h
    intro f hf
    obtain ⟨rejection, hrejection, rfl⟩ := Attempt.mapError_eq_error.mp hf
    obtain ⟨cause, position, rfl⟩ := hreadable rejection hrejection
    rfl
  | literal text n =>
    refine isEditError_of_searchRange ?_ h
    intro f hf
    -- no text is a bad pattern once it is escaped
    obtain ⟨node, hnode, -⟩ := Pattern.exists_compile_escaped text
    simp [Pattern.Needle.node, Pattern.Needle.source, hnode, Except.mapError] at hf
  | wholeFile => simp [resolve] at h
  | symbol name kind parentName parentKind occurrence =>
    obtain ⟨forest, hforest⟩ := hsupplied.symbols
    simp only [resolve, hforest, bind, Except.bind] at h
    split at h
    · simp [pure, Except.pure] at h
    · exact Attempt.isEditError_of_refuse h
  | declaration kind name depth parent occurrence =>
    obtain ⟨found, hfound⟩ := hsupplied.outline
    simp only [resolve, hfound, bind, Except.bind] at h
    split at h
    · rename_i node hfind
      refine isEditError_of_declarationRange ?_ h
      exact hforward found hfound node (Symbol.mem_of_choose hfind)
    · exact Attempt.isEditError_of_refuse h

end Context

end Emend
