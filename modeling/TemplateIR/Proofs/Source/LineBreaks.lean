import Mathlib.Data.Finset.Lattice.Fold
import Mathlib.Order.Interval.Finset.Nat
import Mathlib.Order.Lattice.Nat
import TemplateIR.Proofs.Source.LineLookup

/-!
Line breaks said of the bytes of a text one by one. A line starts right behind every byte that ends
one and nowhere else, so the line of an offset is the number of breaks up to it, and its character
counts from the last of them.
-/
namespace TemplateIR

/-- Whether the byte at `index` ends a line. A carriage return before a line feed leaves this to the
line feed. -/
def EndsLine (bytes : List UInt8) (index : Nat) : Prop :=
  bytes[index]? = some 10 ∨ bytes[index]? = some 13 ∧ bytes[index + 1]? ≠ some 10

instance (bytes : List UInt8) : DecidablePred (EndsLine bytes) := fun index =>
  inferInstanceAs (Decidable (bytes[index]? = some 10 ∨
    bytes[index]? = some 13 ∧ bytes[index + 1]? ≠ some 10))

/-- The places up to `limit`, but not past the end, that stand right behind the end of a line. -/
def lineBreaks (bytes : List UInt8) (limit : Nat) : Finset Nat :=
  {place ∈ Finset.Icc 1 (min limit bytes.length) | EndsLine bytes (place - 1)}

variable {bytes rest : List UInt8} {byte : UInt8} {offset start line limit place index : Nat}

theorem endsLine_zero_iff :
    EndsLine (byte :: rest) 0 ↔ byte = 10 ∨ byte = 13 ∧ rest.head? ≠ some 10 := by
  simp [EndsLine, List.head?_eq_getElem?]

theorem EndsLine.lt_length (ends : EndsLine bytes index) : index < bytes.length := by
  obtain feed | ⟨carriage, -⟩ := ends
  · exact (List.getElem?_eq_some_iff.mp feed).1
  · exact (List.getElem?_eq_some_iff.mp carriage).1

theorem exists_endsLine_cons_iff :
    (∃ index, EndsLine (byte :: rest) index ∧ start = offset + (index + 1)) ↔
      EndsLine (byte :: rest) 0 ∧ start = offset + 1 ∨
        ∃ index, EndsLine rest index ∧ start = offset + 1 + (index + 1) := by
  rw [← Nat.or_exists_add_one]
  refine or_congr Iff.rfl (exists_congr fun index => and_congr Iff.rfl ?_)
  omega

theorem mem_breaksFrom_iff :
    start ∈ breaksFrom offset bytes ↔ ∃ index, EndsLine bytes index ∧ start = offset + (index + 1) := by
  fun_induction breaksFrom offset bytes with
  | case1 offset => simp [EndsLine]
  | case2 offset rest ih =>
      -- The pair is passed in one step, so the byte behind its carriage return is looked at here.
      have carriage : ¬EndsLine (13 :: 10 :: rest) 0 := by simp [endsLine_zero_iff]
      have feed : EndsLine (10 :: rest) 0 := by simp [endsLine_zero_iff]
      rw [List.mem_cons, ih, exists_endsLine_cons_iff, exists_endsLine_cons_iff]
      simp only [carriage, feed, false_and, true_and, false_or]
  | case3 offset byte rest unpaired breaks ih =>
      have ends : EndsLine (byte :: rest) 0 := by
        rw [Bool.or_eq_true, decide_eq_true_eq, decide_eq_true_eq] at breaks
        refine endsLine_zero_iff.mpr (breaks.symm.imp_right fun carriage => ⟨carriage, ?_⟩)
        intro feed
        obtain ⟨behind, rfl⟩ := List.head?_eq_some_iff.mp feed
        exact unpaired behind carriage rfl
      rw [List.mem_cons, ih, exists_endsLine_cons_iff]
      simp only [ends, true_and]
  | case4 offset byte rest unpaired passes ih =>
      have ends : ¬EndsLine (byte :: rest) 0 := by
        rw [Bool.or_eq_true, decide_eq_true_eq, decide_eq_true_eq, not_or] at passes
        intro feed
        rcases endsLine_zero_iff.mp feed with feed | ⟨carriage, -⟩
        · exact passes.2 feed
        · exact passes.1 carriage
      rw [ih, exists_endsLine_cons_iff]
      simp only [ends, false_and, false_or]

theorem mem_lineBreaks_iff :
    place ∈ lineBreaks bytes limit ↔ place ∈ breaksFrom 0 bytes ∧ place ≤ limit := by
  rw [lineBreaks, Finset.mem_filter, Finset.mem_Icc, mem_breaksFrom_iff]
  constructor
  · rintro ⟨⟨positive, below⟩, ends⟩
    exact ⟨⟨place - 1, ends, by omega⟩, by omega⟩
  · rintro ⟨⟨index, ends, rfl⟩, reached⟩
    have inside := ends.lt_length
    rw [Nat.zero_add, Nat.add_sub_cancel]
    exact ⟨by omega, ends⟩

theorem lineBreaks_eq (bytes : List UInt8) (limit : Nat) :
    lineBreaks bytes limit = ((breaksFrom 0 bytes).filter (· ≤ limit)).toFinset := by
  ext place
  rw [mem_lineBreaks_iff, List.mem_toFinset, List.mem_filter, decide_eq_true_eq]

theorem card_lineBreaks (bytes : List UInt8) (limit : Nat) :
    (lineBreaks bytes limit).card = ((breaksFrom 0 bytes).filter (· ≤ limit)).length := by
  have distinct : (breaksFrom 0 bytes).Nodup :=
    (List.pairwise_cons.mp (breaksFrom_ascending 0 bytes)).2.imp Nat.ne_of_lt
  rw [lineBreaks_eq, List.toFinset_card_of_nodup (distinct.filter _)]

/-- If just the first entries pass the test, filtering takes them. -/
theorem filter_eq_take {α : Type} {test : α → Bool} {list : List α} {count : Nat}
    (passes : ∀ (index : Nat) (entry : α), list[index]? = some entry →
      (test entry = true ↔ index < count)) :
    list.filter test = list.take count := by
  induction list generalizing count with
  | nil => rw [List.filter_nil, List.take_nil]
  | cons entry rest ih =>
      have foremost := passes 0 entry rfl
      have others (index : Nat) (other : α) (stands : rest[index]? = some other) :=
        passes (index + 1) other stands
      cases count with
      | zero =>
          have nothing : rest.filter test = rest.take 0 :=
            ih fun index other stands => (others index other stands).trans (by omega)
          rw [List.filter_cons_of_neg (by simp [foremost]), nothing, List.take_zero, List.take_zero]
      | succ count =>
          rw [List.filter_cons_of_pos (foremost.mpr (Nat.succ_pos count)), List.take_succ_cons,
            ih fun index other stands => (others index other stands).trans Nat.succ_lt_succ_iff]

namespace LineIndex

variable {offset : UInt32} {position : Position}

theorem Locates.le_start (located : Locates bytes offset position start) {first : Nat}
    (stands : (lineStarts bytes)[line]? = some first) (reached : first ≤ offset.toNat) :
    first ≤ start := by
  rcases Nat.lt_or_eq_of_le ((located.le_iff stands).mp reached) with before | rfl
  · exact Nat.le_of_lt (lineStarts_lt before stands located.stands)
  · exact Nat.le_of_eq (Option.some.inj (stands.symm.trans located.stands))

theorem Locates.card_eq (located : Locates bytes offset position start) :
    (lineBreaks bytes offset.toNat).card = position.line.toNat := by
  have inside := (List.getElem?_eq_some_iff.mp located.stands).1
  have upTo : (lineStarts bytes).filter (· ≤ offset.toNat) =
      (lineStarts bytes).take (position.line.toNat + 1) := by
    refine filter_eq_take fun index first stands => ?_
    rw [decide_eq_true_eq, Nat.lt_succ_iff]
    exact located.le_iff stands
  have count := congrArg List.length upTo
  rw [List.length_take_of_le inside, lineStarts, List.filter_cons_of_pos (by simp),
    List.length_cons, ← card_lineBreaks] at count
  exact Nat.succ.inj count

theorem Locates.sup_eq (located : Locates bytes offset position start) :
    (lineBreaks bytes offset.toNat).sup id = start := by
  apply Nat.le_antisymm
  · refine Finset.sup_le fun place member => ?_
    obtain ⟨broken, reached⟩ := mem_lineBreaks_iff.mp member
    obtain ⟨line, stands⟩ := List.getElem?_of_mem (List.mem_cons_of_mem 0 broken)
    exact located.le_start stands reached
  · have stands := located.stands
    cases line : position.line.toNat with
    | zero =>
        -- No break leads to the first line.
        rw [line] at stands
        obtain rfl : 0 = start := Option.some.inj stands
        exact Nat.zero_le _
    | succ before =>
        rw [line] at stands
        have broken : start ∈ breaksFrom 0 bytes := List.mem_of_getElem? stands
        have reached : start ≤ offset.toNat := by
          rw [← located.reached]
          exact Nat.le_add_right _ _
        exact Finset.le_sup (f := id) (mem_lineBreaks_iff.mpr ⟨broken, reached⟩)

/-- There is one line more than there are breaks, and the position of an offset counts the breaks up
to it and the bytes since the last of them, or since the beginning of the text. -/
theorem position_eq_breaks (text : String) (offset : UInt32)
    (short : (utf8Bytes text).length < UInt32.size) :
    (ofText text).lineCount =
        (lineBreaks (utf8Bytes text) (utf8Bytes text).length).card + 1 ∧
      ∃ position, (ofText text).position offset = .ok position ∧
        position.line.toNat = (lineBreaks (utf8Bytes text) offset.toNat).card ∧
        position.character.toNat =
          offset.toNat - (lineBreaks (utf8Bytes text) offset.toNat).sup id := by
  obtain ⟨position, start, found, located⟩ := exists_position short offset
  have counted := located.reached
  have all : (breaksFrom 0 (utf8Bytes text)).filter (· ≤ (utf8Bytes text).length) =
      breaksFrom 0 (utf8Bytes text) :=
    List.filter_eq_self.mpr fun start broken =>
      decide_eq_true (lineStarts_le start (List.mem_cons_of_mem 0 broken))
  refine ⟨?_, position, found, located.card_eq.symm, ?_⟩
  · rw [ofText, lineCount_ofBytes, card_lineBreaks, all, lineStarts, List.length_cons]
  · rw [located.sup_eq]
    omega

/-- A carriage return on its own, then one with its line feed, then a line feed on its own: the
offset stands between the two bytes of the pair. -/
theorem position_eq_breaks_mixed :
    (ofText "a\r\r\nb\n").lineCount = 4 ∧
      ∃ position, (ofText "a\r\r\nb\n").position 3 = .ok position ∧
        position.line.toNat = 1 ∧ position.character.toNat = 1 :=
  position_eq_breaks "a\r\r\nb\n" 3 (by decide)

end LineIndex
end TemplateIR
