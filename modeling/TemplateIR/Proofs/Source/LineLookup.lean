import Mathlib.Data.List.Basic
import TemplateIR.Proofs.Search
import TemplateIR.Source.LineIndex

/-!
Where an offset lies in a text. The starts of the lines ascend and fit into the map, so the search
ends at the last line that starts no later than the offset.
-/
namespace TemplateIR

/-- The offsets at which a line starts, the first one included. -/
def lineStarts (bytes : List UInt8) : List Nat :=
  0 :: breaksFrom 0 bytes

theorem breaksFrom_bounds {offset : Nat} {bytes : List UInt8} :
    ∀ start ∈ breaksFrom offset bytes, offset < start ∧ start ≤ offset + bytes.length := by
  fun_induction breaksFrom offset bytes with
  | case1 => simp
  | case2 offset rest ih =>
      simp only [List.forall_mem_cons, List.length_cons]
      refine ⟨by omega, fun start member => ?_⟩
      have bounds := ih start member
      omega
  | case3 offset byte rest _ _ ih =>
      simp only [List.forall_mem_cons, List.length_cons]
      refine ⟨by omega, fun start member => ?_⟩
      have bounds := ih start member
      omega
  | case4 offset byte rest _ _ ih =>
      intro start member
      have bounds := ih start member
      simp only [List.length_cons]
      omega

theorem breaksFrom_ascending (offset : Nat) (bytes : List UInt8) :
    (offset :: breaksFrom offset bytes).Pairwise (· < ·) := by
  have head {front offset : Nat} {bytes : List UInt8} (earlier : front ≤ offset) :
      ∀ start ∈ breaksFrom offset bytes, front < start := fun start member =>
    Nat.lt_of_le_of_lt earlier (breaksFrom_bounds start member).1
  fun_induction breaksFrom offset bytes with
  | case1 => simp
  | case2 offset rest ih =>
      refine List.pairwise_cons.mpr ⟨?_, ih⟩
      exact List.forall_mem_cons.mpr ⟨by omega, head (by omega)⟩
  | case3 offset byte rest _ _ ih =>
      refine List.pairwise_cons.mpr ⟨?_, ih⟩
      exact List.forall_mem_cons.mpr ⟨by omega, head (by omega)⟩
  | case4 offset byte rest _ _ ih =>
      exact List.pairwise_cons.mpr ⟨head (by omega), (List.pairwise_cons.mp ih).2⟩

theorem lineStarts_ascending (bytes : List UInt8) : (lineStarts bytes).Pairwise (· < ·) :=
  breaksFrom_ascending 0 bytes

theorem lineStarts_le {bytes : List UInt8} : ∀ start ∈ lineStarts bytes, start ≤ bytes.length := by
  refine List.forall_mem_cons.mpr ⟨Nat.zero_le _, fun start member => ?_⟩
  have bounds := breaksFrom_bounds start member
  omega

theorem lineStarts_lt {bytes : List UInt8} {first second left right : Nat} (before : first < second)
    (left_stands : (lineStarts bytes)[first]? = some left)
    (right_stands : (lineStarts bytes)[second]? = some right) : left < right := by
  obtain ⟨_, rfl⟩ := List.getElem?_eq_some_iff.mp left_stands
  obtain ⟨_, rfl⟩ := List.getElem?_eq_some_iff.mp right_stands
  exact List.pairwise_iff_getElem.mp (lineStarts_ascending bytes) first second _ _ before

/-- A line does not start before as many bytes as there are lines before it. -/
theorem index_le_lineStart {bytes : List UInt8} {line start : Nat}
    (stands : (lineStarts bytes)[line]? = some start) : line ≤ start := by
  induction line generalizing start with
  | zero => exact Nat.zero_le _
  | succ line ih =>
      obtain ⟨inside, -⟩ := List.getElem?_eq_some_iff.mp stands
      have earlier : (lineStarts bytes)[line]? = some (lineStarts bytes)[line] :=
        List.getElem?_eq_getElem (by omega)
      have bound := ih earlier
      have ascending := lineStarts_lt (Nat.lt_succ_self line) earlier stands
      omega

namespace LineIndex

variable {bytes : List UInt8} {offset : UInt32} {line start : Nat}

theorem starts_ofBytes (bytes : List UInt8) (line : Nat) :
    (ofBytes bytes).starts[line]? = (lineStarts bytes)[line]?.map Nat.toUInt32 := by
  rw [ofBytes, List.getElem?_toArray, List.getElem?_map, lineStarts]

theorem lineCount_ofBytes (bytes : List UInt8) :
    (ofBytes bytes).lineCount = (lineStarts bytes).length := by
  simp [lineCount, ofBytes, lineStarts]

theorem toNat_toUInt32 {value : Nat} (small : value < UInt32.size) : value.toUInt32.toNat = value :=
  UInt32.toNat_ofNat_of_lt' small

theorem toNat_of_starts (short : bytes.length < UInt32.size) {entry : UInt32}
    (stands : (ofBytes bytes).starts[line]? = some entry) :
    (lineStarts bytes)[line]? = some entry.toNat := by
  rw [starts_ofBytes, Option.map_eq_some_iff] at stands
  obtain ⟨start, found, rfl⟩ := stands
  have bound := lineStarts_le start (List.mem_of_getElem? found)
  rw [found, toNat_toUInt32 (by omega)]

theorem exists_entry (short : bytes.length < UInt32.size)
    (stands : (lineStarts bytes)[line]? = some start) :
    ∃ entry, (ofBytes bytes).starts[line]? = some entry ∧ entry.toNat = start := by
  have bound := lineStarts_le start (List.mem_of_getElem? stands)
  refine ⟨start.toUInt32, ?_, toNat_toUInt32 (by omega)⟩
  rw [starts_ofBytes, stands, Option.map_some]

theorem ascends_starts (short : bytes.length < UInt32.size) (offset : UInt32) :
    Ascends (compare · offset) (ofBytes bytes).starts := by
  intro first second left right before left_stands right_stands
  have ascending := lineStarts_lt before (toNat_of_starts short left_stands)
    (toNat_of_starts short right_stands)
  rw [Std.compare_eq_lt, Std.compare_eq_gt, UInt32.lt_iff_toNat_lt, UInt32.lt_iff_toNat_lt]
  omega

/-- The line of an offset is the last one that starts no later. -/
theorem exists_lineAt? (short : bytes.length < UInt32.size) (offset : UInt32) :
    ∃ line start, (ofBytes bytes).lineAt? offset = some line ∧
      (lineStarts bytes)[line]? = some start ∧ start ≤ offset.toNat ∧
      ∀ (behind later : Nat), line < behind → (lineStarts bytes)[behind]? = some later →
        offset.toNat < later := by
  have ascends := ascends_starts short offset
  have splits := search_splits ascends
  rw [lineAt?]
  generalize search (compare · offset) (ofBytes bytes).starts = result at splits ⊢
  cases result with
  | found index =>
      obtain ⟨entry, found, equal⟩ := splits
      obtain rfl := Std.compare_eq_iff_eq.mp equal
      refine ⟨index, entry.toNat, rfl, toNat_of_starts short found, Nat.le_refl _, ?_⟩
      intro behind later after stands
      obtain ⟨other, standing, rfl⟩ := exists_entry short stands
      have greater := (ascends index behind entry other after found standing).resolve_left
        (by simp)
      exact UInt32.lt_iff_toNat_lt.mp (Std.compare_eq_gt.mp greater)
  | missing index =>
      obtain ⟨within, sides⟩ := splits
      cases index with
      | zero =>
          have foremost : (lineStarts bytes)[0]? = some 0 := rfl
          obtain ⟨entry, found, value⟩ := exists_entry short foremost
          have beyond := sides 0 entry found
          rw [if_neg (Nat.lt_irrefl 0), Std.compare_eq_gt, UInt32.lt_iff_toNat_lt] at beyond
          omega
      | succ index =>
          have found : (ofBytes bytes).starts[index]? = some (ofBytes bytes).starts[index] :=
            Array.getElem?_eq_getElem within
          have reached := sides index _ found
          rw [if_pos (Nat.lt_succ_self _), Std.compare_eq_lt, UInt32.lt_iff_toNat_lt] at reached
          refine ⟨index, _, rfl, toNat_of_starts short found, Nat.le_of_lt reached, ?_⟩
          intro behind later after stands
          obtain ⟨other, standing, rfl⟩ := exists_entry short stands
          have beyond := sides behind other standing
          rw [if_neg (by omega), Std.compare_eq_gt, UInt32.lt_iff_toNat_lt] at beyond
          exact beyond

/-- What `position` says of `offset`: its line starts at `start` and is the last one that starts no
later than the offset, and its character counts the bytes from there. -/
structure Locates (bytes : List UInt8) (offset : UInt32) (position : Position) (start : Nat) :
    Prop where
  stands : (lineStarts bytes)[position.line.toNat]? = some start
  reached : start + position.character.toNat = offset.toNat
  beyond : ∀ (behind later : Nat), position.line.toNat < behind →
    (lineStarts bytes)[behind]? = some later → offset.toNat < later

/-- Every offset has a position, also between the two bytes of a line break and past the end. -/
theorem exists_position (short : bytes.length < UInt32.size) (offset : UInt32) :
    ∃ position start, (ofBytes bytes).position offset = .ok position ∧
      Locates bytes offset position start := by
  obtain ⟨line, start, found, stands, begun, beyond⟩ := exists_lineAt? short offset
  have bound := lineStarts_le start (List.mem_of_getElem? stands)
  have count := index_le_lineStart stands
  have narrow_start : start.toUInt32.toNat = start := toNat_toUInt32 (by omega)
  have narrow_line : line.toUInt32.toNat = line := toNat_toUInt32 (by omega)
  have first : (ofBytes bytes).starts[line]?.getD 0 = start.toUInt32 := by
    rw [starts_ofBytes, stands, Option.map_some, Option.getD_some]
  have character : (offset - start.toUInt32).toNat = offset.toNat - start := by
    rw [UInt32.toNat_sub_of_le _ _ (by rw [UInt32.le_iff_toNat_le]; omega), narrow_start]
  have placed : (ofBytes bytes).position offset =
      .ok ⟨line.toUInt32, offset - start.toUInt32⟩ := by
    simp only [position, found, first]
  refine ⟨_, start, placed, ?_, ?_, ?_⟩
  · rw [narrow_line, stands]
  · rw [character, Nat.add_sub_cancel' begun]
  · rw [narrow_line]
    exact beyond

theorem Locates.le_iff {position : Position} {first : Nat}
    (located : Locates bytes offset position start)
    (stands : (lineStarts bytes)[line]? = some first) :
    first ≤ offset.toNat ↔ line ≤ position.line.toNat := by
  have counted := located.reached
  rcases Nat.lt_trichotomy line position.line.toNat with before | rfl | behind
  · have ascending := lineStarts_lt before stands located.stands
    omega
  · obtain rfl := Option.some.inj (stands.symm.trans located.stands)
    omega
  · have beyond := located.beyond line first behind stands
    omega

theorem Locates.line_eq {position : Position} {first : Nat}
    (located : Locates bytes offset position first)
    (stands : (lineStarts bytes)[line]? = some start) (reached : start ≤ offset.toNat)
    (unpassed : ∀ later, (lineStarts bytes)[line + 1]? = some later → offset.toNat < later) :
    position.line.toNat = line := by
  apply Nat.le_antisymm _ ((located.le_iff stands).mp reached)
  by_contra behind
  obtain ⟨inside, -⟩ := List.getElem?_eq_some_iff.mp located.stands
  have next : (lineStarts bytes)[line + 1]? = some (lineStarts bytes)[line + 1] :=
    List.getElem?_eq_getElem (by omega)
  have passed := (located.le_iff next).mpr (by omega)
  exact absurd (unpassed _ next) (Nat.not_lt.mpr passed)

theorem position_ofBytes (short : bytes.length < UInt32.size)
    (stands : (lineStarts bytes)[line]? = some start) (reached : start ≤ offset.toNat)
    (unpassed : ∀ later, (lineStarts bytes)[line + 1]? = some later → offset.toNat < later) :
    ∃ position, (ofBytes bytes).position offset = .ok position ∧ position.line.toNat = line ∧
      position.character.toNat = offset.toNat - start := by
  obtain ⟨position, first, found, located⟩ := exists_position short offset
  have same := located.line_eq stands reached unpassed
  have standing := located.stands
  rw [same, stands, Option.some_inj] at standing
  have counted := located.reached
  exact ⟨position, found, same, by omega⟩

end LineIndex
end TemplateIR
