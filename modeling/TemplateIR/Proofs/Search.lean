import TemplateIR.Search

/-!
What binary search finds. If the comparison agrees with the order of the table, the result splits
the table: what stands before it lies before what is sought, and what stands behind it lies behind.
-/
namespace TemplateIR

variable {α : Type} {order : α → Ordering} {table : Array α}

/-- Of two entries, the first lies before what is sought or the second behind it. -/
def Ascends (order : α → Ordering) (table : Array α) : Prop :=
  ∀ (first second : Nat) (left right : α), first < second → table[first]? = some left →
    table[second]? = some right → order left = .lt ∨ order right = .gt

/-- What the result of a search says about the entries. -/
def SearchResult.Splits (order : α → Ordering) (table : Array α) : SearchResult → Prop
  | .found index => ∃ entry, table[index]? = some entry ∧ order entry = .eq
  | .missing index => index ≤ table.size ∧
      ∀ (place : Nat) (entry : α), table[place]? = some entry →
        if place < index then order entry = .lt else order entry = .gt

theorem searchBetween_splits (ascends : Ascends order table) {low high : Nat}
    {inside : high ≤ table.size}
    (before : ∀ (place : Nat) (entry : α), table[place]? = some entry → place < low →
      order entry = .lt)
    (behind : ∀ (place : Nat) (entry : α), table[place]? = some entry → high ≤ place →
      order entry = .gt) (within : low ≤ high) :
    (searchBetween order table low high inside).Splits order table := by
  fun_induction searchBetween order table low high inside with
  | case1 low high inside nonempty middle equal =>
      exact ⟨_, Array.getElem?_eq_getElem (by omega), equal⟩
  | case2 low high inside nonempty middle less ih =>
      apply ih _ behind (by omega)
      intro place entry stands upTo
      rcases Nat.lt_or_eq_of_le (Nat.le_of_lt_succ upTo) with earlier | rfl
      · have standing : table[middle]? = some table[middle] := Array.getElem?_eq_getElem (by omega)
        exact (ascends place middle entry _ earlier stands standing).resolve_right (by simp [less])
      · obtain ⟨_, rfl⟩ := Array.getElem?_eq_some_iff.mp stands
        exact less
  | case3 low high inside nonempty middle greater ih =>
      apply ih before _ (by omega)
      intro place entry stands from_middle
      rcases Nat.lt_or_eq_of_le from_middle with later | rfl
      · have standing : table[middle]? = some table[middle] := Array.getElem?_eq_getElem (by omega)
        exact (ascends middle place _ entry later standing stands).resolve_left (by simp [greater])
      · obtain ⟨_, rfl⟩ := Array.getElem?_eq_some_iff.mp stands
        exact greater
  | case4 low high inside empty =>
      refine ⟨by omega, fun place entry stands => ?_⟩
      split
      · next sooner => exact before place entry stands sooner
      · next later => exact behind place entry stands (by omega)

theorem search_splits (ascends : Ascends order table) : (search order table).Splits order table := by
  apply searchBetween_splits ascends
  · intro place entry stands sooner
    omega
  · intro place entry stands later
    obtain ⟨inside, -⟩ := Array.getElem?_eq_some_iff.mp stands
    omega
  · exact Nat.zero_le _

end TemplateIR
