import TemplateIR.Proofs.Tree.Allotment

/-!
What a copy leaves behind, however it ends. A copy that breaks off keeps the identities that it has
taken and the pairs that it has entered, but all of these are new, so no later copy meets them.
-/
namespace TemplateIR

open CopyM CopyStep

namespace CopyScope

variable {scope : CopyScope} {pairs : List (NodeId × NodeId)}
  {first second copy since next later : NodeId}

def copies (scope : CopyScope) : List NodeId :=
  scope.counterparts.pairs.map Prod.snd

/-- The copies differ from each other, and their identities were taken from `since` on and before
`next`. -/
structure CopiesApart (scope : CopyScope) (since next : NodeId) : Prop where
  distinct : scope.copies.Nodup
  between : ∀ copy ∈ scope.copies, since.number ≤ copy.number ∧ copy.number < next.number

theorem CopiesApart.of_size (empty : scope.size = 0) : scope.CopiesApart since next := by
  have none : scope.copies = [] := by
    rw [copies, List.length_eq_zero_iff.mp empty, List.map_nil]
  constructor
  · rw [none]
    exact List.nodup_nil
  · rw [none]
    exact List.forall_mem_nil _

theorem mem_pairs_of_copyOf? {old : NodeId} (found : scope.copyOf? old = some copy) :
    (old, copy) ∈ scope.counterparts.pairs := by
  obtain ⟨front, rest, split, -⟩ := List.lookup_eq_some_iff.mp found
  rw [split]
  exact List.mem_append_right _ List.mem_cons_self

theorem mem_copies_of_copyOf? {old : NodeId} (found : scope.copyOf? old = some copy) :
    copy ∈ scope.copies :=
  List.mem_map_of_mem (mem_pairs_of_copyOf? found)

/-- Two nodes that share their copy are one. -/
theorem CopiesApart.injective (apart : scope.CopiesApart since next)
    (left : scope.copyOf? first = some copy) (right : scope.copyOf? second = some copy) :
    first = second := by
  have entered := List.inj_on_of_nodup_map apart.distinct
  exact congrArg Prod.fst (entered (mem_pairs_of_copyOf? left) (mem_pairs_of_copyOf? right) rfl)

theorem CopiesApart.until (apart : scope.CopiesApart since next) (le : next.number ≤ later.number) :
    scope.CopiesApart since later where
  distinct := apart.distinct
  between copy member := by
    obtain ⟨above, below⟩ := apart.between copy member
    exact ⟨above, Nat.lt_of_lt_of_le below le⟩

/-- A pair that replaces another one is still added at the end. -/
theorem copies_enterAll_sublist (scope : CopyScope) (pairs : List (NodeId × NodeId)) :
    (scope.enterAll pairs).copies.Sublist (scope.copies ++ pairs.map Prod.snd) := by
  induction pairs generalizing scope with
  | nil => simp
  | cons pair rest ih =>
      have kept : (scope.enter pair.1 pair.2).copies.Sublist (scope.copies ++ [pair.2]) := by
        have untouched : (scope.counterparts.pairs.filter (·.1 ≠ pair.1)).Sublist
            scope.counterparts.pairs := List.filter_sublist
        have entered : (scope.enter pair.1 pair.2).copies =
            (scope.counterparts.pairs.filter (·.1 ≠ pair.1)).map Prod.snd ++ [pair.2] :=
          List.map_append
        rw [entered]
        exact (untouched.map Prod.snd).append_right [pair.2]
      have others := (ih (scope.enter pair.1 pair.2)).trans (kept.append_right (rest.map Prod.snd))
      rwa [List.append_assoc] at others

theorem CopiesApart.enterAll (apart : scope.CopiesApart since next)
    (begun : since.number ≤ next.number) (le : next.number ≤ later.number)
    (distinct : (pairs.map Prod.snd).Nodup)
    (fresh : ∀ copy ∈ pairs.map Prod.snd, next.number ≤ copy.number ∧ copy.number < later.number) :
    (scope.enterAll pairs).CopiesApart since later := by
  have sublist := copies_enterAll_sublist scope pairs
  constructor
  · refine List.Nodup.sublist sublist (List.nodup_append.mpr ⟨apart.distinct, distinct, ?_⟩)
    intro known member new entered same
    have old := (apart.between known member).2
    have young := (fresh new entered).1
    rw [same] at old
    omega
  · intro copy member
    rcases List.mem_append.mp (sublist.subset member) with known | new
    · have bounds := apart.between copy known
      omega
    · have bounds := fresh copy new
      omega

end CopyScope

namespace CopyStep

variable {next : NodeId} {steps made : List CopyStep}

/-- Whichever of the first steps are made, they enter different new identities. -/
theorem Allots.ofFirst (allots : Allots next steps) (first : made <+: steps) :
    ((entries made).map Prod.snd).Nodup ∧
      ∀ copy ∈ (entries made).map Prod.snd, next.number ≤ copy.number ∧
        copy.number < next.number + taken made := by
  obtain ⟨rest, rfl⟩ := first
  have numbers := allots.gapless
  rw [entries_append, List.map_append] at numbers
  have distinct := List.Nodup.of_append_left (numbers.nodup_iff.mpr List.nodup_range')
  constructor
  · apply List.Nodup.of_map NodeId.number
    rwa [List.map_map]
  · intro copy member
    obtain ⟨pair, entered, rfl⟩ := List.mem_map.mp member
    have numbered := numbers.mem_iff.mp (List.mem_append_left _ (List.mem_map_of_mem entered))
    exact ⟨(List.mem_range'_1.mp numbered).1, (inTime_append.mp allots.inTime).1.lt pair entered⟩

end CopyStep

namespace Node

theorem next_le_copy (node : Node) (run : CopyRun) :
    run.next.number ≤ (node.copy.exec run).2.next.number := by
  obtain ⟨made, -, -, next⟩ := (node.copy_follows run).ends.reaches
  rw [next]
  exact Nat.le_add_right _ _

/-- A copy keeps the copies of its scope apart, also when it breaks off. -/
theorem copiesApart_copy (node : Node) {run : CopyRun} {since : NodeId}
    (apart : run.scope.CopiesApart since run.next) (begun : since.number ≤ run.next.number) :
    (node.copy.exec run).2.scope.CopiesApart since (node.copy.exec run).2.next := by
  obtain ⟨made, first, scope, next⟩ := (node.copy_follows run).ends.reaches
  obtain ⟨distinct, fresh⟩ := (node.allots run.next).ofFirst first
  rw [scope, next]
  exact apart.enterAll begun (Nat.le_add_right _ _) distinct fresh

theorem copy_new {node copy : Node} {run after : CopyRun}
    (done : node.copy.exec run = (.ok copy, after)) :
    copy = node.copied run ∧ copy.ids.Nodup ∧
      ∀ id ∈ copy.ids, run.next.number ≤ id.number ∧ id.number < after.next.number := by
  obtain ⟨-, rfl, rfl⟩ := (node.copy_follows run).ok_iff.mp done
  exact ⟨rfl, node.nodup_ids_copied run, node.ids_copied_bounds run⟩

/-- A tree whose identities differ is copied into an empty scope unless a reference leads out of
what is copied so far. -/
theorem copy_error_dangling {node : Node} {run after : CopyRun} {fault : CopyFault}
    (distinct : node.ids.Nodup) (empty : run.scope.copied = [])
    (failed : node.copy.exec run = (.error fault, after)) :
    ∃ target span, fault = .dangling target span := by
  have entered := node.entered_perm run.next
  have ends := (node.copy_follows run).ends
  rw [failed] at ends
  apply ends.error_dangling (entered.nodup_iff.mpr distinct)
  intro old member
  rw [empty]
  exact List.not_mem_nil

theorem exec_copyAndReport (node : Node) (run : CopyRun) :
    (node.copyAndReport.exec run).1 = (node.copy.exec run).1 ∧
      (node.copyAndReport.exec run).2.next = (node.copy.exec run).2.next := by
  rw [copyAndReport, exec_bind]
  cases copied : node.copy.exec run with
  | mk outcome after =>
      cases outcome with
      | error fault => exact ⟨rfl, rfl⟩
      | ok copy => exact ⟨rfl, rfl⟩

end Node
end TemplateIR
