import Emend.Proofs.Document.Coordinates
import Emend.Proofs.Ledger.Baseline
import Emend.Proofs.Outline.Lineage
import Emend.Proofs.Text.Utf8

/-!
# Spans of bytes and spans of characters

A byte of a text belongs to one character, and its offset is the number of this character (`belongsTo_offsetOfByte`).
So offsets are ordered as bytes are, and the lines counted by bytes are those counted by characters
(`lineOfByte_eq`). What is extracted from a text has the characters whose bytes its node has (`extract_spans`).

Main statements:

* `belongsTo_offsetOfByte`, `offsetOfByte_inside`: the character of a byte.
* `encode_slice`: the bytes of a slice are a slice of the bytes.
* `count_feed_take_encode`, `lineOfByte_eq`: lines by bytes and by characters.
* `extract_spans`: the spans of what is extracted.
-/

namespace Emend

/-! ## Bytes of characters -/

namespace Text

theorem encode_append (s t : List Char) : encode (s ++ t) = encode s ++ encode t := List.flatMap_append

/-- No character but the line feed has the byte of a line feed. -/
theorem feed_not_mem_encodeChar {c : Char} (hc : c ≠ '\n') : 10 ∉ encodeChar c := by
  have hvalid : c.toNat < 0xD800 ∨ 0xDFFF < c.toNat ∧ c.toNat < 0x110000 := c.valid
  have hne : c.toNat ≠ 10 := by
    intro h
    exact hc (Char.toNat_inj.mp h)
  have hbyte : ∀ m, m < 256 → m ≠ 10 → ¬ (10 : UInt8) = UInt8.ofNat m := by
    intro m hm hne h
    have hnat := congrArg UInt8.toNat h
    rw [toNat_ofNat_byte hm] at hnat
    exact hne hnat.symm
  unfold encodeChar
  dsimp only
  generalize c.toNat = n at *
  -- one case for each number of bytes: all but the only byte of a character are above those of ASCII
  split
  · rw [List.mem_singleton]
    exact hbyte n (by omega) hne
  · split
    · simp only [List.mem_cons, List.not_mem_nil, or_false, not_or]
      exact ⟨hbyte _ (by omega) (by omega), hbyte _ (by omega) (by omega)⟩
    · split
      · simp only [List.mem_cons, List.not_mem_nil, or_false, not_or]
        exact ⟨hbyte _ (by omega) (by omega), hbyte _ (by omega) (by omega), hbyte _ (by omega) (by omega)⟩
      · simp only [List.mem_cons, List.not_mem_nil, or_false, not_or]
        exact ⟨hbyte _ (by omega) (by omega), hbyte _ (by omega) (by omega), hbyte _ (by omega) (by omega),
          hbyte _ (by omega) (by omega)⟩

theorem count_feed_encodeChar (c : Char) : (encodeChar c).count 10 = if c = '\n' then 1 else 0 := by
  by_cases hc : c = '\n'
  · subst hc
    rfl
  · rw [if_neg hc]
    exact List.count_eq_zero.mpr (feed_not_mem_encodeChar hc)

/-- Inside of a character there is no line feed before. -/
theorem count_feed_take_encodeChar {c : Char} {k : Nat} (hk : k < byteWidth c) :
    ((encodeChar c).take k).count 10 = 0 := by
  by_cases hc : c = '\n'
  · subst hc
    obtain rfl : k = 0 := Nat.lt_one_iff.mp hk
    rfl
  · refine List.count_eq_zero.mpr ?_
    intro hmem
    exact feed_not_mem_encodeChar hc (List.mem_of_mem_take hmem)

end Text

namespace Source

open Text (encode byteWidth)

variable {text : List Char} {a b m n byte : Nat}

theorem bytesBefore_length (text : List Char) : bytesBefore text text.length = (encode text).length := by
  rw [bytesBefore, List.take_length]

theorem bytesBefore_le (hmn : m ≤ n) (hn : n ≤ text.length) : bytesBefore text m ≤ bytesBefore text n := by
  rcases Nat.eq_or_lt_of_le hmn with rfl | hlt
  · exact Nat.le_refl _
  · exact Nat.le_of_lt (bytesBefore_lt hlt hn)

/-! ## The character of a byte -/

/-- A byte belongs to a character: it is not before the first byte of it, and before the first byte of the next one.
The end of the text counts as a character. -/
structure BelongsTo (text : List Char) (byte n : Nat) : Prop where
  within : n ≤ text.length
  behind : bytesBefore text n ≤ byte
  before : n < text.length → byte < bytesBefore text (n + 1)

/-- Characters are ordered as their bytes are. -/
theorem BelongsTo.le (ha : BelongsTo text a m) (hb : BelongsTo text b n) (hab : a ≤ b) : m ≤ n := by
  by_contra hnot
  have hlt : n < m := Nat.lt_of_not_le hnot
  -- the earlier byte would come behind the later character
  have hnext := hb.before (Nat.lt_of_lt_of_le hlt ha.within)
  have hbytes : bytesBefore text (n + 1) ≤ bytesBefore text m := bytesBefore_le hlt ha.within
  have hbehind := ha.behind
  omega

theorem belongsTo_characterOf (h : byte ≤ (encode text).length) : BelongsTo text byte (characterOf text byte) := by
  induction text generalizing byte with
  | nil =>
    refine ⟨Nat.le_refl 0, Nat.zero_le _, ?_⟩
    intro hlt
    exact absurd hlt (Nat.lt_irrefl 0)
  | cons c rest ih =>
    -- the byte belongs to the first character, or behind it to one of the rest
    rw [Text.length_encode_cons] at h
    rw [characterOf]
    split
    · rename_i hinside
      refine ⟨Nat.zero_le _, Nat.zero_le _, ?_⟩
      intro _
      rw [bytesBefore_cons]
      omega
    · rename_i hbehind
      have hbyte : byte - byteWidth c ≤ (encode rest).length := by omega
      obtain ⟨hwithin, hfirst, hnext⟩ := ih hbyte
      constructor
      · exact Nat.succ_le_succ hwithin
      · rw [bytesBefore_cons]
        omega
      · intro hlt
        have hbefore := hnext (Nat.lt_of_succ_lt_succ hlt)
        rw [bytesBefore_cons]
        omega

/-- Where every character is one byte, nothing has to be looked up. -/
theorem offsetOfByte_eq_characterOf (h : byte ≤ (encode text).length) :
    (ofText text).offsetOfByte byte = characterOf text byte := by
  unfold offsetOfByte
  split
  · rename_i hlength
    have hle : byte ≤ text.length := Nat.le_trans h (Nat.le_of_eq hlength)
    have hcharacter := characterOf_bytesBefore hle
    rw [bytesBefore_eq_of_length_eq hlength hle] at hcharacter
    exact hcharacter.symm
  · rfl

/-- The offset of a byte of a text is the number of the character that the byte belongs to. -/
theorem belongsTo_offsetOfByte (h : byte ≤ (encode text).length) :
    BelongsTo text byte ((ofText text).offsetOfByte byte) := by
  rw [offsetOfByte_eq_characterOf h]
  exact belongsTo_characterOf h

/-- A byte inside of a character has the offset of the character. -/
theorem offsetOfByte_inside (hn : n < text.length) (hbehind : bytesBefore text n ≤ byte)
    (hbefore : byte < bytesBefore text (n + 1)) : (ofText text).offsetOfByte byte = n := by
  have hbyte : byte ≤ (encode text).length := by
    have hend : bytesBefore text (n + 1) ≤ bytesBefore text text.length := bytesBefore_le hn (Nat.le_refl _)
    rw [bytesBefore_length] at hend
    exact Nat.le_trans (Nat.le_of_lt hbefore) hend
  -- a byte belongs to one character only
  have hbelongs : BelongsTo text byte n := ⟨Nat.le_of_lt hn, hbehind, fun _ => hbefore⟩
  have hoffset := belongsTo_offsetOfByte hbyte
  exact Nat.le_antisymm (hoffset.le hbelongs (Nat.le_refl _)) (hbelongs.le hoffset (Nat.le_refl _))

theorem offsetOfByte_mono (hab : a ≤ b) (hb : b ≤ (encode text).length) :
    (ofText text).offsetOfByte a ≤ (ofText text).offsetOfByte b ∧ (ofText text).offsetOfByte b ≤ text.length := by
  have hfirst := belongsTo_offsetOfByte (Nat.le_trans hab hb)
  have hsecond := belongsTo_offsetOfByte hb
  exact ⟨hfirst.le hsecond hab, hsecond.within⟩

/-! ## The characters of a span -/

theorem encode_drop (text : List Char) (n : Nat) :
    (encode text).drop (bytesBefore text n) = encode (text.drop n) := by
  have hsplit : encode text = encode (text.take n) ++ encode (text.drop n) := by
    rw [← Text.encode_append, List.take_append_drop]
  rw [hsplit, bytesBefore, List.drop_left]

/-- Between two boundaries are the bytes of the characters between them. -/
theorem encode_slice (hm : m ≤ text.length) (hn : n ≤ text.length) :
    encode (Text.slice text m n) = Text.slice (encode text) (bytesBefore text m) (bytesBefore text n) := by
  have hmlength := bytesBefore_le hm (Nat.le_refl text.length)
  have hnlength := bytesBefore_le hn (Nat.le_refl text.length)
  rw [bytesBefore_length] at hmlength hnlength
  simp only [Text.slice, clampBound_natCast, Nat.min_eq_left hm, Nat.min_eq_left hn, Nat.min_eq_left hmlength,
    Nat.min_eq_left hnlength, encode_drop]
  -- Slices whose bounds cross are empty, in characters as well as in bytes.
  rcases Nat.le_total m n with hmn | hnm
  · -- what is between the two is a front of what is behind the first one
    have hfront : bytesBefore text n = bytesBefore text m + (encode ((text.drop m).take (n - m))).length := by
      rw [bytesBefore, bytesBefore, ← Text.length_encode_append, ← List.take_add, Nat.add_sub_cancel' hmn]
    have hback : encode (text.drop m) = encode ((text.drop m).take (n - m)) ++ encode ((text.drop m).drop (n - m)) := by
      rw [← Text.encode_append, List.take_append_drop]
    rw [hfront, Nat.add_sub_cancel_left, hback, List.take_left]
  · -- the two cross, and nothing is between them
    have hbytes := bytesBefore_le hnm hm
    rw [Nat.sub_eq_zero_of_le hnm, Nat.sub_eq_zero_of_le hbytes, List.take_zero, List.take_zero]
    rfl

/-! ## Lines -/

theorem count_feed_take_encode (h : byte ≤ (encode text).length) :
    ((encode text).take byte).count 10 = Text.countLineFeeds (text.take (characterOf text byte)) := by
  -- Induction on the text: a line feed is one byte, and no other character has that byte in it.
  induction text generalizing byte with
  | nil =>
    obtain rfl : byte = 0 := Nat.le_zero.mp h
    rfl
  | cons c rest ih =>
    have hcons : encode (c :: rest) = Text.encodeChar c ++ encode rest := rfl
    rw [Text.length_encode_cons] at h
    rw [hcons, List.take_append, List.count_append, Text.length_encodeChar, characterOf]
    split
    · -- no line feed is before a byte inside of the first character
      rename_i hinside
      rw [Text.count_feed_take_encodeChar hinside, Nat.sub_eq_zero_of_le (Nat.le_of_lt hinside), List.take_zero]
      rfl
    · rename_i hbehind
      have hwhole : (Text.encodeChar c).take byte = Text.encodeChar c := by
        refine List.take_of_length_le ?_
        rw [Text.length_encodeChar]
        omega
      rw [hwhole, Text.count_feed_encodeChar, ih (by omega), List.take_succ_cons, Text.countLineFeeds,
        Text.countLineFeeds, List.count_cons, Nat.add_comm]
      simp only [beq_iff_eq]

/-- The line of a byte is the line of its character. -/
theorem lineOfByte_eq (h : byte ≤ (encode text).length) (uri : String) :
    ∃ p, (Document.mk text uri).positionAt ((ofText text).offsetOfByte byte : Nat) = .ok p ∧
      p.line = ((ofText text).lineOfByte byte : Nat) := by
  have hwithin := (belongsTo_offsetOfByte h).within
  refine ⟨Position.zero.extent (text.take ((ofText text).offsetOfByte byte)), ?_, ?_⟩
  · exact Document.positionAt_eq_ok.mpr ⟨_, rfl, Document.offsetAt_eq_ok_iff.mpr ⟨hwithin, rfl⟩⟩
  · have hcount := count_feed_take_encode h
    rw [← offsetOfByte_eq_characterOf h] at hcount
    rw [Position.line_extent, ← hcount, Position.zero, Int.zero_add]
    rfl

end Source

/-! ## What is extracted -/

namespace SyntaxTree

/-- A node around another one in a tree is in the tree, with those around it. -/
theorem tail_mem_lineages {lineage around : List SyntaxTree} {t : SyntaxTree} (h : lineage ∈ t.lineages around) :
    lineage = t :: around ∨ lineage.tail ∈ t.lineages around := by
  -- The lineage without its first node is that of the parent, which is listed before its children.
  rw [lineages_eq] at h ⊢
  rcases List.mem_cons.mp h with rfl | h
  · exact .inl rfl
  · obtain ⟨c, hc, hinside⟩ := List.mem_flatMap.mp h
    refine .inr ?_
    rcases tail_mem_lineages hinside with rfl | htail
    · exact List.mem_cons_self
    · exact List.mem_cons_of_mem _ (List.mem_flatMap.mpr ⟨c, hc, htail⟩)
termination_by t.size
decreasing_by
  have hsize := size_le_sizeOfAll hc
  rw [size_eq t]
  omega

/-- All spans of a tree end by some number of bytes. -/
def EndsBy (t : SyntaxTree) (bytes : Nat) : Prop :=
  ∀ lineage ∈ t.lineages [], ∀ node ∈ lineage.head?, node.startByte ≤ bytes ∧ node.stopByte ≤ bytes

instance (t : SyntaxTree) (bytes : Nat) : Decidable (t.EndsBy bytes) :=
  inferInstanceAs (Decidable (∀ lineage ∈ t.lineages [], ∀ node ∈ lineage.head?, _))

end SyntaxTree

namespace Grammar

open Source (IsBoundary bytesBefore)

variable {g : Grammar} {source : Source} {text : List Char} {t root : SyntaxTree} {around : List SyntaxTree}
  {x : Declaration}

/-- The declaration of a node tells the span of the node, or of the one around it. -/
theorem exists_declared_of_declarationIn (h : g.declarationIn source (t :: around) = some x) :
    ∃ d, g.declared? source t around.head? = some d ∧ (d.span = t ∨ around.head? = some d.span) ∧
      x.start = source.offsetOfByte d.span.startByte ∧ x.stop = source.offsetOfByte d.span.stopByte ∧
      x.startLine = source.lineOfByte d.span.startByte := by
  obtain ⟨d, hdeclared, h⟩ := Option.bind_eq_some_iff.mp h
  obtain ⟨kind, -, rfl⟩ := Option.map_eq_some_iff.mp h
  obtain ⟨-, hspan⟩ := shape?_cases (declared?_cases hdeclared).1
  exact ⟨d, hdeclared, hspan, rfl, rfl, rfl⟩

theorem span_endsBy {bytes : Nat} (hends : root.EndsBy bytes) (hmem : t :: around ∈ root.lineages [])
    {span : SyntaxTree} (hspan : span = t ∨ around.head? = some span) :
    span.startByte ≤ bytes ∧ span.stopByte ≤ bytes := by
  rcases hspan with rfl | hspan
  · exact hends _ hmem span rfl
  · rcases SyntaxTree.tail_mem_lineages hmem with hroot | htail
    · -- nothing is around the root
      obtain ⟨-, rfl⟩ := List.cons.inj hroot
      simp at hspan
    · exact hends around htail span hspan

/-- A declaration that is extracted has the span of a node of the tree, or of the one around it, in characters: where
both ends are boundaries, the characters have the bytes of the span, and the declaration starts on the line of its first
character. A byte inside of a character has the offset of the character, and offsets are ordered as bytes are, up to
the length of the text. -/
theorem extract_spans {parse : Parser} {p : Parse} (hparse : parse g text = .ok p)
    (hends : p.root.EndsBy (Text.encode text).length) (language uri : String) :
    ∃ found, (g.extractor parse).extract text language = .ok found ∧
      (∀ x ∈ found.declarations, ∃ t around d, t :: around ∈ p.root.lineages [] ∧
        g.declarationIn (.ofText text) (t :: around) = some x ∧
        g.declared? (.ofText text) t around.head? = some d ∧ (d.span = t ∨ around.head? = some d.span) ∧
        x.start = (Source.ofText text).offsetOfByte d.span.startByte ∧
        x.stop = (Source.ofText text).offsetOfByte d.span.stopByte ∧
        (IsBoundary text d.span.startByte → IsBoundary text d.span.stopByte →
          Text.encode (Text.slice text x.start x.stop)
            = Text.slice (Text.encode text) d.span.startByte d.span.stopByte) ∧
        ∃ position, (Document.mk text uri).positionAt x.start = .ok position ∧ position.line = x.startLine) ∧
      (∀ n byte, n < text.length → bytesBefore text n ≤ byte → byte < bytesBefore text (n + 1) →
        (Source.ofText text).offsetOfByte byte = n) ∧
      ∀ a b, a ≤ b → b ≤ (Text.encode text).length →
        (Source.ofText text).offsetOfByte a ≤ (Source.ofText text).offsetOfByte b ∧
          (Source.ofText text).offsetOfByte b ≤ text.length := by
  obtain ⟨found, hfound, hdeclarations⟩ := exists_extract hparse language
  refine ⟨found, hfound, ?_, fun n byte => Source.offsetOfByte_inside, fun a b => Source.offsetOfByte_mono⟩
  -- A declaration stems from a place of the tree, and its span from the node there or from the one around it.
  intro x hx
  rw [hdeclarations] at hx
  obtain ⟨lineage, hmem, hx⟩ := List.mem_filterMap.mp hx
  rcases lineage with _ | ⟨t, around⟩
  · simp [declarationIn] at hx
  · obtain ⟨d, hdeclared, hspan, hstart, hstop, hline⟩ := exists_declared_of_declarationIn hx
    have hbytes := span_endsBy hends hmem hspan
    refine ⟨t, around, d, hmem, hx, hdeclared, hspan, hstart, hstop, ?_, ?_⟩
    · -- a boundary is where its offset starts
      intro hfirst hlast
      obtain ⟨hm, hstartByte⟩ := hfirst.offset
      obtain ⟨hn, hstopByte⟩ := hlast.offset
      rw [hstart, hstop, Source.encode_slice hm hn, ← hstartByte, ← hstopByte]
    · rw [hstart, hline]
      exact Source.lineOfByte_eq hbytes.1 uri

/-- A function whose span is cut out of the middle of two characters, and a variable that has all of its own. -/
theorem extract_spans_cut :
    let text := "# €\né = '𝄞'\n".toList
    let name (role : String) : SyntaxTree := ⟨"identifier", true, some role, 6, 8, []⟩
    let function : SyntaxTree := ⟨"function_definition", true, none, 3, 14, [name "name"]⟩
    let statement : SyntaxTree :=
      ⟨"expression_statement", true, none, 6, 17, [⟨"assignment", true, none, 6, 17, [name "left"]⟩]⟩
    let p : Parse := ⟨⟨"module", true, none, 0, 18, [function, statement]⟩, false⟩
    let parse : Parser := fun _ _ => .ok p
    parse python text = .ok p ∧ p.root.EndsBy (Text.encode text).length ∧
      ∃ found, (python.extractor parse).extract text "python" = .ok found ∧
        (∀ x ∈ found.declarations, ∃ t around d, t :: around ∈ p.root.lineages [] ∧
          python.declared? (.ofText text) t around.head? = some d ∧
          (IsBoundary text d.span.startByte → IsBoundary text d.span.stopByte →
            Text.encode (Text.slice text x.start x.stop)
              = Text.slice (Text.encode text) d.span.startByte d.span.stopByte) ∧
          ∃ position, (Document.mk text "a.py").positionAt x.start = .ok position ∧ position.line = x.startLine) ∧
        (Source.ofText text).offsetOfByte 3 = 2 ∧ (Source.ofText text).offsetOfByte 14 = 9 := by
  intro text name function statement p parse
  have hends : p.root.EndsBy (Text.encode text).length := by decide +kernel
  have hparse : parse python text = .ok p := rfl
  obtain ⟨found, hfound, hspans, hinside, -⟩ := extract_spans hparse hends "python" "a.py"
  refine ⟨hparse, hends, found, hfound, ?_, ?_, ?_⟩
  · intro x hx
    obtain ⟨t, around, d, hmem, -, hdeclared, -, -, -, hbytes, hline⟩ := hspans x hx
    exact ⟨t, around, d, hmem, hdeclared, hbytes, hline⟩
  · exact hinside 2 3 (by decide +kernel) (by decide +kernel) (by decide +kernel)
  · exact hinside 9 14 (by decide +kernel) (by decide +kernel) (by decide +kernel)

end Grammar

end Emend
