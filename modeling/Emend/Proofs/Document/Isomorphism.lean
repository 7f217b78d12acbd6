import Emend.Proofs.Document.Inside

/-!
# Two systems of coordinates

Offsets and positions name the same places of a document, in the same order (`coordinates_isomorphic`). The line
of an offset is the last one that starts by it (`positionAt_lastStart`).
-/

namespace Emend.Document

variable {d : Document} {p q : Position} {o : Int}

/-- The document has a position for each offset from its start up to its end. -/
theorem exists_positionAt : (∃ p, d.positionAt o = .ok p) ↔ 0 ≤ o ∧ o ≤ d.length := by
  constructor
  · rintro ⟨p, h⟩
    obtain ⟨n, rfl, hn⟩ := positionAt_eq_ok.mp h
    obtain ⟨text, uri⟩ := d
    have hle : n ≤ text.length := (offsetAt_eq_ok_iff.mp hn).1
    exact ⟨Int.natCast_nonneg n, Int.ofNat_le.mpr hle⟩
  · rintro ⟨hnonneg, hle⟩
    have hin : ¬ (o < 0 ∨ o > d.length) := by omega
    exact ⟨_, if_neg hin⟩

/-- A position of a document is a character of one of its lines, or the place where that line ends. -/
theorem has_iff : d.Has p ↔ (0 ≤ p.line ∧ p.line < d.lineCount) ∧
    ∃ raw, d.rawLines[p.line.toNat]? = some raw ∧ 0 ≤ p.character ∧ p.character ≤ raw.length := by
  -- The document has a position if it has the line, and if the column is in the line or right behind it.
  constructor
  · rintro ⟨o, h⟩
    obtain ⟨line, character, raw, rfl, hraw, hle, -⟩ := offsetAt_eq_ok.mp h
    have hline : line < d.lineCount := (List.getElem?_eq_some_iff.mp hraw).1
    refine ⟨⟨Int.natCast_nonneg line, Int.ofNat_lt.mpr hline⟩, raw, hraw, ?_⟩
    exact ⟨Int.natCast_nonneg character, Int.ofNat_le.mpr hle⟩
  · rintro ⟨⟨hline, -⟩, raw, hraw, hcharacter, hle⟩
    obtain ⟨line, character⟩ := p
    obtain ⟨l, rfl⟩ := Int.eq_ofNat_of_zero_le hline
    obtain ⟨c, rfl⟩ := Int.eq_ofNat_of_zero_le hcharacter
    exact has_of_rawLine hraw (Int.ofNat_le.mp hle)

/-- A line is the last one of the document that starts by an offset. -/
structure LastStart (d : Document) (n line : Nat) : Prop where
  within : line < d.lineCount
  starts : d.lineStart line ≤ n
  last : ∀ m, m < d.lineCount → d.lineStart m ≤ n → m ≤ line

/-- The position of an offset stands on the last line that starts by the offset, as many characters behind
the start of that line. -/
theorem positionAt_lastStart {n : Nat} (h : d.positionAt n = .ok p) :
    ∃ line : Nat, d.LastStart n line ∧ p = ⟨line, (n - d.lineStart line : Nat)⟩ := by
  obtain ⟨_, hn, hoffset⟩ := positionAt_eq_ok.mp h
  obtain rfl := Int.ofNat.inj hn
  obtain ⟨line, character, raw, rfl, hraw, hle, rfl⟩ := offsetAt_eq_ok.mp hoffset
  refine ⟨line, ⟨(List.getElem?_eq_some_iff.mp hraw).1, Nat.le_add_right _ _, ?_⟩, ?_⟩
  · intro m hm hstart
    -- a later line starts behind every character of this one
    by_contra hlater
    have hlt := d.offset_lt_of_line_lt hraw hle (Nat.lt_of_not_le hlater)
    omega
  · rw [Nat.add_sub_cancel_left]

/-- Offsets and positions are two names for the places of a document: each system names exactly the places
within its bounds, an offset stands on the last line that starts by it, the two conversions undo each other, and
both systems have one order. -/
theorem coordinates_isomorphic (d : Document) :
    (∀ o : Int, (∃ p, d.positionAt o = .ok p) ↔ 0 ≤ o ∧ o ≤ d.length) ∧
    (∀ p : Position, (∃ o, d.offsetAt p = .ok o) ↔ (0 ≤ p.line ∧ p.line < d.lineCount) ∧
      ∃ raw, d.rawLines[p.line.toNat]? = some raw ∧
        0 ≤ p.character ∧ p.character ≤ raw.length) ∧
    (∀ (o : Nat) p, d.positionAt o = .ok p →
      ∃ line : Nat, d.LastStart o line ∧ p = ⟨line, (o - d.lineStart line : Nat)⟩) ∧
    (∀ o : Nat, o ≤ d.length → (d.positionAt o >>= d.offsetAt) = .ok o) ∧
    (∀ p, (∃ o, d.offsetAt p = .ok o) → (d.offsetAt p >>= fun o => d.positionAt o) = .ok p) ∧
    ∀ p q a b, d.offsetAt p = .ok a → d.offsetAt q = .ok b → (p < q ↔ a < b) := by
  refine ⟨fun o => exists_positionAt, fun p => has_iff, fun o p => positionAt_lastStart, ?_, ?_, ?_⟩
  -- Either way round goes through the one offset that a position has.
  · intro o ho
    obtain ⟨p, hp⟩ := exists_positionAt.mpr ⟨Int.natCast_nonneg o, Int.ofNat_le.mpr ho⟩
    obtain ⟨n, hn, hoffset⟩ := positionAt_eq_ok.mp hp
    obtain rfl := Int.ofNat.inj hn
    rw [hp]
    exact hoffset
  · rintro p ⟨o, ho⟩
    rw [ho]
    exact positionAt_eq_ok.mpr ⟨o, rfl, ho⟩
  · intro p q a b hp hq
    exact (offsetAt_lt_iff hp hq).symm

/-- The return and the line feed of a terminator have offsets of their own, and so do an empty line and the
place behind a last line feed. -/
theorem coordinates_isomorphic_terminators :
    let d : Document := ⟨"a\r\n\nb\n".toList, ""⟩
    let feed : Position := ⟨0, 2⟩
    let final : Position := ⟨3, 0⟩
    (2 ≤ d.length ∧ (d.positionAt 2 >>= d.offsetAt) = .ok 2 ∧ d.positionAt 2 = .ok feed) ∧
      (d.offsetAt final = .ok 6 ∧ (d.offsetAt final >>= fun o => d.positionAt o) = .ok final) ∧
      (feed < final ↔ 2 < 6) ∧ (¬ ∃ p, d.positionAt 7 = .ok p) ∧
      ¬ ∃ o, d.offsetAt ⟨0, 3⟩ = .ok o := by
  intro d feed final
  obtain ⟨hoffsets, hpositions, -, hthere, hback, horder⟩ := coordinates_isomorphic d
  have hfeed : d.offsetAt feed = .ok 2 := by rfl
  have hfinal : d.offsetAt final = .ok 6 := by rfl
  refine ⟨⟨by decide, hthere 2 (by decide), by rfl⟩, ⟨hfinal, hback final ⟨6, hfinal⟩⟩,
    horder feed final 2 6 hfeed hfinal, ?_, ?_⟩
  · rw [hoffsets]
    decide
  · rw [hpositions]
    rintro ⟨-, raw, hraw, -, hle⟩
    obtain rfl : ['a', '\r'] = raw := Option.some.inj hraw
    exact absurd hle (by decide)

end Emend.Document
