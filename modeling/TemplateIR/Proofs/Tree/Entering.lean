import Mathlib.Data.List.Basic
import TemplateIR.Tree.CopyScope

/-!
Entering copies into a scope, one after the other. New nodes are added behind what the scope knows,
and a node that is not entered keeps the copy that it has.
-/
namespace TemplateIR

namespace CopyScope

def enter (scope : CopyScope) (old copy : NodeId) : CopyScope :=
  { scope with counterparts := scope.counterparts.insert old copy }

def enterAll (scope : CopyScope) (pairs : List (NodeId × NodeId)) : CopyScope :=
  pairs.foldl (fun scope pair => scope.enter pair.1 pair.2) scope

/-- The nodes that have a copy. -/
def copied (scope : CopyScope) : List NodeId :=
  scope.counterparts.keys

/-- Where a reference to `old` leads: to the copy, if there is one. -/
def target (scope : CopyScope) (old : NodeId) : NodeId :=
  (scope.copyOf? old).getD old

/-- Whether a reference to `old` can be copied. -/
def Reaches (scope : CopyScope) (old : NodeId) : Prop :=
  old ∈ scope.copied ∨ old ∈ scope.external

variable {scope : CopyScope} {old copy other : NodeId}

theorem copyOf?_enter (scope : CopyScope) (old copy other : NodeId) :
    (scope.enter old copy).copyOf? other = if other = old then some copy else scope.copyOf? other :=
  scope.counterparts.find?_insert old copy other

theorem copyOf?_isSome_iff : (scope.copyOf? old).isSome ↔ old ∈ scope.copied :=
  Counterparts.find?_isSome_iff

theorem copyOf?_eq_none_iff : scope.copyOf? old = none ↔ old ∉ scope.copied := by
  rw [← copyOf?_isSome_iff, Option.not_isSome_iff_eq_none]

theorem mem_copied_enter :
    other ∈ (scope.enter old copy).copied ↔ other = old ∨ other ∈ scope.copied := by
  rw [← copyOf?_isSome_iff, copyOf?_enter, ← copyOf?_isSome_iff]
  by_cases same : other = old
  · simp [same]
  · simp [same]

theorem reaches_enter :
    (scope.enter old copy).Reaches other ↔ other = old ∨ scope.Reaches other := by
  rw [Reaches, Reaches, mem_copied_enter, or_assoc]
  rfl

theorem pairs_enter (new : old ∉ scope.copied) :
    (scope.enter old copy).counterparts.pairs = scope.counterparts.pairs ++ [(old, copy)] := by
  have untouched : scope.counterparts.pairs.filter (·.1 ≠ old) = scope.counterparts.pairs := by
    rw [List.filter_eq_self]
    intro pair member
    have key : pair.1 ∈ scope.copied := List.mem_map_of_mem member
    simpa using fun same : pair.1 = old => new (same ▸ key)
  change scope.counterparts.pairs.filter (·.1 ≠ old) ++ [(old, copy)] = _
  rw [untouched]

variable {pairs first second : List (NodeId × NodeId)}

@[simp]
theorem enterAll_nil (scope : CopyScope) : scope.enterAll [] = scope := rfl

@[simp]
theorem enterAll_cons (scope : CopyScope) (pair : NodeId × NodeId) (pairs : List (NodeId × NodeId)) :
    scope.enterAll (pair :: pairs) = (scope.enter pair.1 pair.2).enterAll pairs := rfl

theorem enterAll_append (scope : CopyScope) (first second : List (NodeId × NodeId)) :
    scope.enterAll (first ++ second) = (scope.enterAll first).enterAll second :=
  List.foldl_append

@[simp]
theorem external_enterAll (scope : CopyScope) (pairs : List (NodeId × NodeId)) :
    (scope.enterAll pairs).external = scope.external := by
  induction pairs generalizing scope with
  | nil => rfl
  | cons pair rest ih => exact ih (scope.enter pair.1 pair.2)

theorem mem_copied_enterAll :
    old ∈ (scope.enterAll pairs).copied ↔ old ∈ pairs.map Prod.fst ∨ old ∈ scope.copied := by
  induction pairs generalizing scope with
  | nil => simp
  | cons pair rest ih =>
      rw [enterAll_cons, ih, mem_copied_enter, List.map_cons, List.mem_cons]
      tauto

theorem copyOf?_enterAll_of_not_mem (untouched : old ∉ pairs.map Prod.fst) :
    (scope.enterAll pairs).copyOf? old = scope.copyOf? old := by
  induction pairs generalizing scope with
  | nil => rfl
  | cons pair rest ih =>
      simp only [List.map_cons, List.mem_cons, not_or] at untouched
      rw [enterAll_cons, ih untouched.2, copyOf?_enter, if_neg untouched.1]

theorem copyOf?_enterAll_of_mem (once : (pairs.map Prod.fst).Nodup) (member : (old, copy) ∈ pairs) :
    (scope.enterAll pairs).copyOf? old = some copy := by
  induction pairs generalizing scope with
  | nil => cases member
  | cons pair rest ih =>
      rw [List.map_cons, List.nodup_cons] at once
      rw [enterAll_cons]
      rcases List.mem_cons.mp member with rfl | later
      · rw [copyOf?_enterAll_of_not_mem once.1, copyOf?_enter, if_pos rfl]
      · exact ih once.2 later

/-- New nodes are added behind what is known. -/
theorem pairs_enterAll (once : (pairs.map Prod.fst).Nodup)
    (new : ∀ old ∈ pairs.map Prod.fst, old ∉ scope.copied) :
    (scope.enterAll pairs).counterparts.pairs = scope.counterparts.pairs ++ pairs := by
  induction pairs generalizing scope with
  | nil => simp
  | cons pair rest ih =>
      rw [List.map_cons, List.nodup_cons] at once
      have headNew : pair.1 ∉ scope.copied := new pair.1 (by simp)
      have tailNew : ∀ old ∈ rest.map Prod.fst, old ∉ (scope.enter pair.1 pair.2).copied := by
        intro old member
        rw [mem_copied_enter, not_or]
        exact ⟨fun same => once.1 (same ▸ member), new old (by simp [member])⟩
      rw [enterAll_cons, ih once.2 tailNew, pairs_enter headNew, List.append_assoc]
      rfl

end CopyScope

end TemplateIR
