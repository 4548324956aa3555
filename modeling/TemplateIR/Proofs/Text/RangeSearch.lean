import Mathlib.Data.List.Basic
import Mathlib.Tactic.ByContra
import Mathlib.Tactic.SplitIfs
import TemplateIR.Proofs.Search
import TemplateIR.Text.FormatChar

/-!
Searching a table of ranges. If its ranges ascend and are disjoint, then of two ranges the first lies
before a code point or the second behind it, so the search finds a range whenever one holds the code
point. The table of the format characters is of this kind.
-/
namespace TemplateIR

namespace CodeRange

variable {range left right : CodeRange} {table : Array CodeRange} {code : Nat}

def Holds (range : CodeRange) (code : Nat) : Prop :=
  range.first ≤ code ∧ code ≤ range.last

theorem order_of_last_lt (before : range.last < code) : order code range = .lt :=
  if_pos before

theorem order_of_lt_first (filled : range.first ≤ range.last) (behind : code < range.first) :
    order code range = .gt := by
  rw [order, if_neg (by omega), if_pos behind]

theorem order_eq_iff : order code range = .eq ↔ range.Holds code := by
  unfold order Holds
  split_ifs with before behind <;> simp <;> omega

/-- Ranges that are not empty, in ascending order, of which no two share a code point. -/
structure Sorted (table : Array CodeRange) : Prop where
  filled : ∀ range ∈ table.toList, range.first ≤ range.last
  ascending : table.toList.Pairwise (·.first ≤ ·.first)
  disjoint : table.toList.Pairwise fun left right => ∀ code, ¬(left.Holds code ∧ right.Holds code)

theorem last_lt_first_iff (filled : left.first ≤ left.last) (sound : right.first ≤ right.last) :
    left.last < right.first ↔
      left.first ≤ right.first ∧ ∀ code, ¬(left.Holds code ∧ right.Holds code) := by
  constructor
  · intro apart
    refine ⟨by omega, fun code held => ?_⟩
    obtain ⟨⟨-, reached⟩, begun, -⟩ := held
    omega
  · intro separate
    obtain ⟨ascending, disjoint⟩ := separate
    by_contra overlap
    exact disjoint right.first ⟨⟨ascending, by omega⟩, Nat.le_refl _, sound⟩

theorem sorted_iff :
    Sorted table ↔ (∀ range ∈ table.toList, range.first ≤ range.last) ∧
      table.toList.Pairwise (·.last < ·.first) := by
  have apart (filled : ∀ range ∈ table.toList, range.first ≤ range.last) :=
    List.Pairwise.iff_of_mem (l := table.toList) fun {left right} member other =>
      last_lt_first_iff (filled left member) (filled right other)
  constructor
  · intro sorted
    exact ⟨sorted.filled, (apart sorted.filled).mpr (sorted.ascending.and sorted.disjoint)⟩
  · intro separated
    obtain ⟨filled, separate⟩ := separated
    obtain ⟨ascending, disjoint⟩ := List.pairwise_and_iff.mp ((apart filled).mp separate)
    exact ⟨filled, ascending, disjoint⟩

theorem Sorted.ascends (sorted : Sorted table) (code : Nat) : Ascends (order code) table := by
  obtain ⟨filled, separate⟩ := sorted_iff.mp sorted
  intro first second left right before left_stands right_stands
  rw [← Array.getElem?_toList, List.getElem?_eq_some_iff] at left_stands right_stands
  obtain ⟨_, rfl⟩ := left_stands
  obtain ⟨inside, rfl⟩ := right_stands
  have apart : table.toList[first].last < table.toList[second].first :=
    List.pairwise_iff_getElem.mp separate first second _ _ before
  have sound := filled table.toList[second] (List.getElem_mem inside)
  rcases Nat.lt_or_ge table.toList[first].last code with passed | upTo
  · exact .inl (order_of_last_lt passed)
  · exact .inr (order_of_lt_first sound (Nat.lt_of_le_of_lt upTo apart))

theorem inTable_iff (sorted : Sorted table) (code : Nat) :
    inTable table code = true ↔ ∃ range ∈ table, range.Holds code := by
  have splits := search_splits (sorted.ascends code)
  rw [inTable]
  generalize search (order code) table = result at splits ⊢
  cases result with
  | found index =>
      obtain ⟨range, stands, equal⟩ := splits
      exact iff_of_true rfl ⟨range, Array.mem_of_getElem? stands, order_eq_iff.mp equal⟩
  | missing index =>
      refine iff_of_false Bool.false_ne_true ?_
      intro holding
      obtain ⟨range, member, held⟩ := holding
      obtain ⟨place, stands⟩ := Array.mem_iff_getElem?.mp member
      have sides := splits.2 place range stands
      rw [order_eq_iff.mpr held] at sides
      split at sides <;> cases sides

end CodeRange

theorem sorted_formatTable : CodeRange.Sorted formatTable :=
  CodeRange.sorted_iff.mpr (by simp [formatTable])

theorem first_of_mem_formatTable : ∀ range ∈ formatTable, 0xAD ≤ range.first := by
  simp [formatTable]

theorem isFormatCode_iff {code : Nat} :
    isFormatCode code = true ↔ ∃ range ∈ formatTable, range.Holds code := by
  rw [isFormatCode]
  split
  · next low =>
      refine iff_of_false Bool.false_ne_true ?_
      intro holding
      obtain ⟨range, member, begun, -⟩ := holding
      exact absurd (first_of_mem_formatTable range member) (by omega)
  · exact CodeRange.inTable_iff sorted_formatTable code

/-- The search in a sorted table of disjoint ranges answers whether one of them holds the code point.
The format characters have such a table, and none of its ranges starts where the search is skipped. -/
theorem isFormat_iff_holds :
    (∀ table, CodeRange.Sorted table → ∀ code,
        CodeRange.inTable table code = true ↔ ∃ range ∈ table, range.Holds code) ∧
      CodeRange.Sorted formatTable ∧ (∀ range ∈ formatTable, 0xAD ≤ range.first) ∧
      ∀ c : Char, isFormat c = true ↔ ∃ range ∈ formatTable, range.Holds c.toNat := by
  refine ⟨?_, sorted_formatTable, first_of_mem_formatTable, fun c => isFormatCode_iff⟩
  intro table sorted code
  exact CodeRange.inTable_iff sorted code

end TemplateIR
