import TemplateIR.Proofs.Source.LineLookup

/-!
Positions are ordered as the offsets they stand for. An offset on a later line lies behind the start
of that line, and on one line the character grows with the offset, so no two offsets share a position.
-/
namespace TemplateIR

theorem Position.order_eq_lt_iff {left right : Position} :
    left.order right = .lt ↔
      left.line < right.line ∨ left.line = right.line ∧ left.character < right.character := by
  rw [order, Ordering.then_eq_lt, Std.compare_eq_lt, Std.compare_eq_iff_eq, Std.compare_eq_lt]

namespace LineIndex

variable {bytes : List UInt8} {first second : UInt32} {left right : Position} {begun start : Nat}

theorem Locates.lt_of_line_lt (located : Locates bytes first left begun)
    (placed : Locates bytes second right start) (earlier : left.line < right.line) :
    first < second := by
  have passed := located.beyond _ start (UInt32.lt_iff_toNat_lt.mp earlier) placed.stands
  have counted := placed.reached
  rw [UInt32.lt_iff_toNat_lt]
  omega

theorem Locates.start_eq (located : Locates bytes first left begun)
    (placed : Locates bytes second right start) (same : left.line = right.line) : begun = start := by
  have stands := located.stands
  rw [same, placed.stands, Option.some_inj] at stands
  exact stands.symm

theorem Locates.offset_eq (located : Locates bytes first left begun)
    (placed : Locates bytes second left start) : first = second := by
  have same := located.start_eq placed rfl
  have counted := located.reached
  have reached := placed.reached
  exact UInt32.toNat.inj (by omega)

theorem Locates.character_lt_iff (located : Locates bytes first left begun)
    (placed : Locates bytes second right start) (same : left.line = right.line) :
    left.character < right.character ↔ first < second := by
  have together := located.start_eq placed same
  have counted := located.reached
  have reached := placed.reached
  rw [UInt32.lt_iff_toNat_lt, UInt32.lt_iff_toNat_lt]
  omega

theorem Locates.lt_iff (located : Locates bytes first left begun)
    (placed : Locates bytes second right start) : first < second ↔ left.order right = .lt := by
  rw [Position.order_eq_lt_iff]
  constructor
  · intro before
    rcases Std.lt_trichotomy left.line right.line with earlier | same | later
    · exact .inl earlier
    · exact .inr ⟨same, (located.character_lt_iff placed same).mpr before⟩
    · exact absurd (placed.lt_of_line_lt located later) (UInt32.lt_asymm before)
  · rintro (earlier | ⟨same, less⟩)
    · exact located.lt_of_line_lt placed earlier
    · exact (located.character_lt_iff placed same).mp less

/-- Offsets and their positions are ordered alike, so a position belongs to one offset only: the start
of its line and its character make up the offset. -/
theorem lt_iff_order (text : String) (first second : UInt32)
    (short : (utf8Bytes text).length < UInt32.size) :
    ∃ left right, (ofText text).position first = .ok left ∧
      (ofText text).position second = .ok right ∧
      (first < second ↔ left.order right = .lt) ∧ (first ≠ second → left ≠ right) ∧
      ∃ start, (ofText text).starts[left.line.toNat]? = some start ∧
        start.toNat + left.character.toNat = first.toNat := by
  obtain ⟨left, begun, found, located⟩ := exists_position short first
  obtain ⟨right, start, standing, placed⟩ := exists_position short second
  have bound := lineStarts_le begun (List.mem_of_getElem? located.stands)
  refine ⟨left, right, found, standing, located.lt_iff placed, ?_, begun.toUInt32, ?_, ?_⟩
  · rintro apart rfl
    exact apart (located.offset_eq placed)
  · rw [ofText, starts_ofBytes, located.stands, Option.map_some]
  · rw [toNat_toUInt32 (by omega), located.reached]

/-- The carriage return of a line break, and an offset past the end of the text. -/
theorem lt_iff_order_crossing : ∃ left right,
    (ofText "a\r\nb").position 1 = .ok left ∧ (ofText "a\r\nb").position 9 = .ok right ∧
      left.order right = .lt := by
  obtain ⟨left, right, found, standing, ordered, -⟩ := lt_iff_order "a\r\nb" 1 9 (by decide)
  exact ⟨left, right, found, standing, ordered.mp (by decide)⟩

end LineIndex
end TemplateIR
