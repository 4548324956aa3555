import Mathlib.Data.List.Nodup
import TemplateIR.Proofs.Tree.Remains

/-!
What a copy leaves of the scope that it is made in, however it ends. Nothing that the scope knew is
lost, and only the entry of a node that the copy stops at is ever replaced.
-/
namespace TemplateIR

open CopyM CopyStep

namespace CopyScope

/-- What was known before is known after, but for nodes in `replaced`, and the same nodes are
allowed. -/
structure Keeps (before after : CopyScope) (replaced : List NodeId) : Prop where
  external : after.external = before.external
  copied : ∀ old ∈ before.copied, old ∈ after.copied
  copyOf : ∀ old ∈ before.copied, old ∉ replaced → after.copyOf? old = before.copyOf? old

variable {scope before after : CopyScope} {replaced others : List NodeId}

theorem Keeps.mono (keeps : before.Keeps after replaced)
    (part : ∀ old ∈ before.copied, old ∈ replaced → old ∈ others) : before.Keeps after others where
  external := keeps.external
  copied := keeps.copied
  copyOf old known apart := keeps.copyOf old known fun member => apart (part old known member)

theorem Keeps.reaches {old : NodeId} (keeps : before.Keeps after replaced)
    (reached : before.Reaches old) : after.Reaches old := by
  rcases reached with known | allowed
  · exact .inl (keeps.copied old known)
  · exact .inr (keeps.external ▸ allowed)

theorem keeps_enterAll (scope : CopyScope) (pairs : List (NodeId × NodeId)) :
    scope.Keeps (scope.enterAll pairs) (pairs.map Prod.fst) where
  external := scope.external_enterAll pairs
  copied _ known := mem_copied_enterAll.mpr (.inr known)
  copyOf _ _ apart := copyOf?_enterAll_of_not_mem apart

/-- An entry that takes the place of another one does not add to the scope. -/
theorem size_enter_of_copied {old : NodeId} (known : old ∈ scope.copied) (copy : NodeId) :
    (scope.enter old copy).size = scope.size := by
  -- The old entry is taken out where it stands, and the new one is put at the end.
  have distinct : scope.copied.Nodup := scope.counterparts.distinct
  have others : (scope.counterparts.pairs.filter (·.1 ≠ old)).map Prod.fst =
      scope.copied.erase old := by
    rw [distinct.erase_eq_filter, copied, Counterparts.keys, List.filter_map]
    congr 2
    funext pair
    exact Bool.eq_iff_iff.mpr (by simp)
  have kept := congrArg List.length others
  have some := List.length_pos_of_mem known
  have size : scope.size = scope.copied.length := (List.length_map _).symm
  have added : (scope.enter old copy).size =
      (scope.counterparts.pairs.filter (·.1 ≠ old)).length + 1 := List.length_append
  rw [List.length_map, List.length_erase_of_mem known] at kept
  omega

end CopyScope

namespace Node

/-- What a copy of `node` leaves, whatever comes of it. -/
structure CopyFrame (node : Node) (outcome : Except CopyFault Node) (before after : CopyRun) :
    Prop where
  outside : before.scope.Keeps after.scope node.ids
  unreplaced : (∀ old, outcome ≠ .error (.copiedTwice old)) → before.scope.Keeps after.scope []
  replaced : ∀ old, outcome = .error (.copiedTwice old) → old ∈ before.scope.copied ∧
    before.scope.Keeps after.scope [old] ∧
    ∃ copy, after.scope.copyOf? old = some copy ∧ before.next.number ≤ copy.number ∧
      copy.number < after.next.number

variable {node : Node} {before after again : CopyRun} {outcome : Except CopyFault Node}

theorem CopyFrame.of_admits {made : List CopyStep} (admitted : before.scope.Admits made)
    (scope : after.scope = (before.after made).scope)
    (other : ∀ old, outcome ≠ .error (.copiedTwice old)) : node.CopyFrame outcome before after := by
  have new := (admits_iff.mp admitted).2.1
  have keeps := before.scope.keeps_enterAll (entries made)
  rw [← CopyRun.scope_after, ← scope] at keeps
  constructor
  case outside => exact keeps.mono fun old known member => absurd known (new old member)
  case unreplaced => exact fun _ => keeps.mono fun old known member => absurd known (new old member)
  case replaced => exact fun old failed => absurd failed (other old)

theorem CopyFrame.of_copiedTwice {made behind : List CopyStep} {old copy : NodeId}
    (once : (entered (node.steps before.next)).Nodup)
    (split : node.steps before.next = made ++ .enter old copy :: behind)
    (admitted : before.scope.Admits made) (known : old ∈ (before.after made).scope.copied) :
    node.CopyFrame (.error (.copiedTwice old)) before (before.after (made ++ [.enter old copy])) := by
  have new := (admits_iff.mp admitted).2.1
  have first : made ++ [.enter old copy] <+: node.steps before.next :=
    split ▸ ⟨behind, List.append_assoc _ _ _⟩
  have part := entered_sublist first
  have keeps := before.scope.keeps_enterAll (entries (made ++ [.enter old copy]))
  rw [← CopyRun.scope_after] at keeps
  constructor
  case outside =>
    exact keeps.mono fun other _ member =>
      (node.entered_perm before.next).subset (part.subset member)
  case unreplaced => exact fun other => absurd rfl (other old)
  case replaced =>
    intro other failed
    cases failed
    refine ⟨Ends.known_of_once (split ▸ once) known, ?_, copy, ?_, ?_⟩
    · refine keeps.mono fun other present member => ?_
      change other ∈ entered (made ++ [.enter old copy]) at member
      rw [entered_append] at member
      exact (List.mem_append.mp member).resolve_left fun sooner => new other sooner present
    · rw [CopyRun.scope_after]
      apply CopyScope.copyOf?_enterAll_of_mem (once.sublist part)
      rw [entries_append]
      exact List.mem_append_right _ List.mem_cons_self
    · rw [CopyRun.next_after]
      apply ((node.allots before.next).ofFirst first).2
      rw [entries_append, List.map_append]
      exact List.mem_append_right _ List.mem_cons_self

theorem copyFrame (distinct : node.ids.Nodup) (before : CopyRun) :
    node.CopyFrame (node.copy.exec before).1 before (node.copy.exec before).2 := by
  have once := (node.entered_perm before.next).nodup_iff.mpr distinct
  have ends := (node.copy_follows before).ends
  generalize node.copy.exec before = result at ends ⊢
  cases ends with
  | completed admitted => exact .of_admits admitted rfl fun _ => nofun
  | copiedTwice split admitted known => exact .of_copiedTwice once split admitted known
  | dangling split admitted unreached => exact .of_admits admitted rfl fun _ => nofun

end Node
end TemplateIR
