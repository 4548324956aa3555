import TemplateIR.Proofs.Tree.FileVerdict

/-!
The order in which the nodes of a tree are given their new identities. It is not the one in which
they are entered: a print is numbered before its expression, and an import before its path, but both
are entered behind it.
-/
namespace TemplateIR

open CopyStep

/-- The nodes, each with an identity, from `next` on and without a gap. -/
def numberedFrom (next : NodeId) : List NodeId → List (NodeId × NodeId)
  | [] => []
  | old :: rest => (old, next) :: numberedFrom next.succ rest

theorem numberedFrom_append (next : NodeId) (first second : List NodeId) :
    numberedFrom next (first ++ second) =
      numberedFrom next first ++ numberedFrom (next.plus first.length) second := by
  induction first generalizing next with
  | nil => rfl
  | cons old rest ih =>
      have shift : next.succ.plus rest.length = next.plus (rest.length + 1) := by
        simp only [NodeId.plus, NodeId.succ, NodeId.mk.injEq]
        omega
      rw [List.cons_append, numberedFrom, numberedFrom, ih, shift]
      rfl

/-- The steps give the nodes identities in this order, and enter each with the one that it got. -/
structure CopyStep.Numbers (next : NodeId) (steps : List CopyStep) (order : List NodeId) :
    Prop where
  entries : (entries steps).Perm (numberedFrom next order)
  taken : taken steps = order.length

namespace CopyStep.Numbers

variable {next : NodeId} {first second : List CopyStep} {before behind : List NodeId}

theorem none (next : NodeId) : Numbers next [] [] := ⟨.refl _, rfl⟩

theorem append (begun : Numbers next first before)
    (continued : Numbers (next.plus (CopyStep.taken first)) second behind) :
    Numbers next (first ++ second) (before ++ behind) where
  entries := by
    rw [entries_append, numberedFrom_append, ← begun.taken]
    exact begun.entries.append continued.entries
  taken := by rw [taken_append, List.length_append, begun.taken, continued.taken]

theorem inTurn {α : Type} {steps : α → NodeId → List CopyStep} {order : α → List NodeId}
    (each : ∀ item next, Numbers next (steps item next) (order item)) (next : NodeId)
    (items : List α) : Numbers next (stepsInTurn steps next items) (items.flatMap order) := by
  induction items generalizing next with
  | nil => exact none next
  | cons item rest ih => exact (each item next).append (ih _)

end CopyStep.Numbers

theorem Binding.numbers (node : Binding) (next : NodeId) :
    Numbers next (node.steps next) [node.id] :=
  ⟨.refl _, rfl⟩

/-- The nodes of an import in the order in which they are numbered. -/
def Import.numberedIds (node : Import) : List NodeId :=
  node.bindings.map (·.id) ++ [node.id, node.path.id]

theorem Import.numbers (node : Import) (next : NodeId) :
    Numbers next (node.steps next) node.numberedIds := by
  rw [numberedIds, List.map_eq_flatMap]
  apply (Numbers.inTurn Binding.numbers next node.bindings).append
  exact ⟨.swap _ _ [], rfl⟩

theorem Print.numbers (node : Print) (next : NodeId) : Numbers next (node.steps next) node.ids := by
  obtain ⟨id, span, expr⟩ := node
  cases expr with
  | literal node => exact ⟨.swap _ _ [], rfl⟩
  | reference node => exact ⟨.swap _ _ [], rfl⟩

def Statement.numberedImportIds : Statement → List NodeId
  | .importing node => node.numberedIds
  | .printing _ => []

theorem Statement.importSteps_numbers (statement : Statement) (next : NodeId) :
    Numbers next (statement.importSteps next) statement.numberedImportIds := by
  cases statement with
  | importing node => exact node.numbers next
  | printing node => exact .none next

theorem Statement.printSteps_numbers (statement : Statement) (next : NodeId) :
    Numbers next (statement.printSteps next) statement.printIds := by
  cases statement with
  | importing node => exact .none next
  | printing node => exact node.numbers next

/-- The nodes that are numbered before the statement at `index` is: those of all imports, then those
of the prints before it. -/
def File.numberedBefore (node : File) (index : Nat) : List NodeId :=
  node.statements.flatMap Statement.numberedImportIds ++
    (node.statements.take index).flatMap Statement.printIds

theorem File.stepsBefore_numbers (node : File) (next : NodeId) (index : Nat) :
    Numbers next (node.stepsBefore next index) (node.numberedBefore index) := by
  apply (Numbers.inTurn Statement.importSteps_numbers next node.statements).append
  exact Numbers.inTurn Statement.printSteps_numbers _ (node.statements.take index)

end TemplateIR
