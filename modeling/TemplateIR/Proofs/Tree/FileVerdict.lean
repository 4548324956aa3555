import TemplateIR.Proofs.Tree.Allotment

/-!
When a file can be copied. A reference may lead to any part of any import of the file, wherever
that import stands, but only to prints that stand before it.
-/
namespace TemplateIR

open CopyStep

/-- The reference that a statement holds. Only prints hold one, as their expression. -/
def Statement.reference? : Statement → Option Reference
  | .printing { expr := .reference node, .. } => some node
  | _ => none

def Statement.importIds : Statement → List NodeId
  | .importing node => node.ids
  | .printing _ => []

def Statement.printIds : Statement → List NodeId
  | .importing _ => []
  | .printing node => node.ids

namespace File

/-- The reference in the statement at `index`. -/
def referenceAt? (node : File) (index : Nat) : Option Reference :=
  node.statements[index]?.bind Statement.reference?

/-- The nodes of the file that have a copy when the statement at `index` is copied: those of all
imports and those of the prints before it. -/
def inView (node : File) (index : Nat) : List NodeId :=
  node.statements.flatMap Statement.importIds ++
    (node.statements.take index).flatMap Statement.printIds

end File

/-- What is linked in turn is linked by one of the items, after all that the items before it enter. -/
theorem mem_linkings_inTurn {α : Type} {steps : α → NodeId → List CopyStep} {next : NodeId}
    {items : List α} {linking : Reference × List NodeId} :
    linking ∈ linkings (stepsInTurn steps next items) ↔
      ∃ index item, items[index]? = some item ∧
        ∃ inner ∈ linkings (steps item (next.plus (taken (stepsInTurn steps next (items.take index))))),
          linking = (inner.1, entered (stepsInTurn steps next (items.take index)) ++ inner.2) := by
  induction items generalizing next linking with
  | nil => simp [stepsInTurn, linkings]
  | cons item rest ih =>
      rw [stepsInTurn, linkings_append, List.mem_append, List.mem_map]
      constructor
      · rintro (first | ⟨later, member, rfl⟩)
        · exact ⟨0, item, rfl, linking, first, rfl⟩
        · obtain ⟨index, found, at_index, inner, linked, rfl⟩ := ih.mp member
          refine ⟨index + 1, found, at_index, inner, ?_, ?_⟩
          · simpa only [List.take_succ_cons, stepsInTurn, taken_append, NodeId.plus_plus] using linked
          · simp only [List.take_succ_cons, stepsInTurn, entered_append, List.append_assoc]
      · rintro ⟨index, found, at_index, inner, linked, rfl⟩
        cases index with
        | zero =>
            cases at_index
            exact .inl linked
        | succ index =>
            right
            simp only [List.take_succ_cons, stepsInTurn, taken_append, ← NodeId.plus_plus] at linked
            refine ⟨_, ih.mpr ⟨index, found, at_index, inner, linked, rfl⟩, ?_⟩
            simp only [List.take_succ_cons, stepsInTurn, entered_append, List.append_assoc]

theorem Import.linkings_steps (node : Import) (next : NodeId) : linkings (node.steps next) = [] := by
  have bindings : linkings (node.bindingSteps next) = [] := by
    apply List.eq_nil_iff_forall_not_mem.mpr
    intro linking member
    obtain ⟨_, _, _, inner, linked, _⟩ := mem_linkings_inTurn.mp member
    cases linked
  rw [steps, linkings_append, bindings]
  rfl

theorem Statement.linkings_printSteps (statement : Statement) (next : NodeId) :
    linkings (statement.printSteps next) = statement.reference?.toList.map (·, []) := by
  cases statement with
  | importing node => rfl
  | printing node =>
      obtain ⟨id, span, expr⟩ := node
      cases expr <;> rfl

theorem entered_inTurn_perm {α : Type} {steps : α → NodeId → List CopyStep} {ids : α → List NodeId}
    (each : ∀ item next, (entered (steps item next)).Perm (ids item)) (next : NodeId)
    (items : List α) : (entered (stepsInTurn steps next items)).Perm (items.flatMap ids) := by
  induction items generalizing next with
  | nil => exact .refl _
  | cons item rest ih =>
      rw [stepsInTurn, entered_append, List.flatMap_cons]
      exact (each item next).append (ih _)

theorem Statement.entered_importSteps (statement : Statement) (next : NodeId) :
    (entered (statement.importSteps next)).Perm statement.importIds := by
  cases statement with
  | importing node => exact (Node.importing node).entered_perm next
  | printing node => exact .refl _

theorem Statement.entered_printSteps (statement : Statement) (next : NodeId) :
    (entered (statement.printSteps next)).Perm statement.printIds := by
  cases statement with
  | importing node => exact .refl _
  | printing node => exact (Node.printing node).entered_perm next

namespace File

theorem linkings_importSteps (node : File) (next : NodeId) :
    linkings (node.importSteps next) = [] := by
  apply List.eq_nil_iff_forall_not_mem.mpr
  intro linking member
  obtain ⟨_, statement, _, inner, linked, _⟩ := mem_linkings_inTurn.mp member
  cases statement with
  | importing child =>
      rw [Statement.importSteps, Import.linkings_steps] at linked
      cases linked
  | printing child => cases linked

/-- The nodes that are entered before the statement at `index` is linked are those in view of it. -/
theorem entered_before_perm (node : File) (first second : NodeId) (index : Nat) :
    (entered (node.importSteps first) ++
        entered (stepsInTurn Statement.printSteps second (node.statements.take index))).Perm
      (node.inView index) :=
  (entered_inTurn_perm Statement.entered_importSteps first node.statements).append
    (entered_inTurn_perm Statement.entered_printSteps second (node.statements.take index))

theorem mem_linkings_printSteps {node : File} {next : NodeId} {linking : Reference × List NodeId} :
    linking ∈ linkings (node.printSteps next) ↔
      ∃ index, node.referenceAt? index = some linking.1 ∧
        linking.2 = entered (stepsInTurn Statement.printSteps next (node.statements.take index)) := by
  obtain ⟨reference, known⟩ := linking
  simp only [printSteps, mem_linkings_inTurn, Statement.linkings_printSteps, referenceAt?,
    Option.bind_eq_some_iff, List.mem_map, Option.mem_toList, Prod.mk.injEq]
  constructor
  · rintro ⟨index, statement, found, inner, ⟨held, holds, rfl⟩, rfl, rfl⟩
    exact ⟨index, ⟨statement, found, holds⟩, List.append_nil _⟩
  · rintro ⟨index, ⟨statement, found, holds⟩, rfl⟩
    exact ⟨index, statement, found, (reference, []), ⟨reference, holds, rfl⟩, rfl,
      (List.append_nil _).symm⟩

/-- The references of a file are linked when the nodes in view of them have been entered. -/
theorem forall_linkings_iff (node : File) (next : NodeId) (scope : CopyScope) :
    (∀ linking ∈ linkings (node.steps next),
        scope.Reaches linking.1.target ∨ linking.1.target ∈ linking.2) ↔
      ∀ index reference, node.referenceAt? index = some reference →
        scope.Reaches reference.target ∨ reference.target ∈ node.inView index := by
  have linked : linkings (node.steps next) =
      (linkings (node.printSteps (next.plus (taken (node.importSteps next))))).map fun linking =>
        (linking.1, entered (node.importSteps next) ++ linking.2) := by
    simp [steps, linkings_append, linkings_importSteps, linkings]
  rw [linked, List.forall_mem_map]
  constructor
  · intro all index reference found
    have reached := all (reference, _) (mem_linkings_printSteps.mpr ⟨index, found, rfl⟩)
    exact reached.imp_right (node.entered_before_perm _ _ index).mem_iff.mp
  · intro all linking member
    obtain ⟨index, found, known⟩ := mem_linkings_printSteps.mp member
    rw [known]
    exact (all index linking.1 found).imp_right (node.entered_before_perm _ _ index).mem_iff.mpr

/-- The steps of a file before those of the statement at `index`, if that is a print. -/
def stepsBefore (node : File) (next : NodeId) (index : Nat) : List CopyStep :=
  node.importSteps next ++
    stepsInTurn Statement.printSteps (next.plus (taken (node.importSteps next)))
      (node.statements.take index)

theorem stepsBefore_prefix (node : File) (next : NodeId) (index : Nat) :
    node.stepsBefore next index <+: node.steps next := by
  obtain ⟨others, split⟩ := stepsInTurn_take_prefix Statement.printSteps
    (next.plus (taken (node.importSteps next))) node.statements index
  simp only [steps, stepsBefore, printSteps, ← split, List.append_assoc]
  exact ⟨_, List.append_assoc _ _ _⟩

theorem entered_stepsBefore_perm (node : File) (next : NodeId) (index : Nat) :
    (entered (node.stepsBefore next index)).Perm (node.inView index) := by
  rw [stepsBefore, entered_append]
  exact node.entered_before_perm next _ index

theorem admits_steps_iff (node : File) (next : NodeId) (scope : CopyScope) :
    scope.Admits (node.steps next) ↔
      node.ids.Nodup ∧ (∀ id ∈ node.ids, id ∉ scope.copied) ∧
        ∀ index reference, node.referenceAt? index = some reference →
          scope.Reaches reference.target ∨ reference.target ∈ node.inView index := by
  have entered := (Node.file node).entered_perm next
  rw [admits_iff, forall_linkings_iff]
  refine and_congr entered.nodup_iff (and_congr_left fun _ => ?_)
  exact forall_congr' fun id => imp_congr_left entered.mem_iff

/-- A file can be copied exactly if its nodes are distinct and new to the scope, and each of its
references leads to a node that the scope knows or allows or that is in view of the reference. -/
theorem copy_ok_iff (node : File) (run : CopyRun) :
    (∃ copy after, node.copy.exec run = (.ok copy, after)) ↔
      node.ids.Nodup ∧ (∀ id ∈ node.ids, id ∉ run.scope.copied) ∧
        ∀ index reference, node.referenceAt? index = some reference →
          (reference.target ∈ run.scope.copied ∨ reference.target ∈ run.scope.external) ∨
            reference.target ∈ node.inView index :=
  (node.copy_follows run).succeeds_iff.trans (node.admits_steps_iff run.next run.scope)

end File
end TemplateIR
