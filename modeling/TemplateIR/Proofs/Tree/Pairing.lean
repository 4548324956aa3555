import Mathlib.Data.List.Perm.Basic
import TemplateIR.Proofs.Tree.Content

/-!
Which identities a copy hands out and what it enters. The pairs that are entered are, in another
order, those of the two preorders place by place, and the new identities are the ones that follow
the last one given.
-/
namespace TemplateIR

open CopyStep

def Import.ids (node : Import) : List NodeId :=
  node.preorder.map Node.id

def Print.ids (node : Print) : List NodeId :=
  node.preorder.map Node.id

def Statement.ids (statement : Statement) : List NodeId :=
  statement.preorder.map Node.id

def File.ids (node : File) : List NodeId :=
  node.preorder.map Node.id

theorem Import.ids_eq (node : Import) :
    node.ids = node.id :: node.bindings.map (·.id) ++ [node.path.id] := by
  simp only [ids, preorder, List.map_cons, List.map_append, List.map_map]
  rfl

theorem Print.ids_eq (node : Print) : node.ids = [node.id, node.expr.node.id] := rfl

theorem File.ids_eq (node : File) : node.ids = node.id :: node.statements.flatMap Statement.ids := by
  rw [ids, preorder, List.map_cons, List.map_flatMap]
  rfl

/-- Trees with the same facts are of one size. -/
theorem length_ids_of_facts {left right : List Node}
    (same : left.map Node.facts = right.map Node.facts) :
    (left.map Node.id).length = (right.map Node.id).length := by
  simpa only [List.length_map] using congrArg List.length same

theorem Binding.entries_copies (bindings : List Binding) (run : CopyRun) :
    entries (stepsInTurn Binding.steps run.next bindings) =
      (bindings.map (·.id)).zip
        ((copiesInTurn Binding.steps Binding.copied run bindings).map (·.id)) := by
  induction bindings generalizing run with
  | nil => rfl
  | cons binding rest ih =>
      have others := ih (run.after (binding.steps run.next))
      rw [CopyRun.next_after] at others
      rw [stepsInTurn, entries_append, others]
      rfl

theorem Expr.entries_steps (node : Expr) (next : NodeId) :
    entries (node.steps next) = [(node.node.id, next)] := by
  cases node <;> rfl

theorem Expr.id_copied (node : Expr) (run : CopyRun) : (node.copied run).node.id = run.next := by
  cases node <;> rfl

theorem Import.entries_perm (node : Import) (run : CopyRun) :
    (entries (node.steps run.next)).Perm (node.ids.zip (node.copied run).ids) := by
  have sizes : (node.bindings.map (·.id)).length =
      ((copiesInTurn Binding.steps Binding.copied run node.bindings).map (·.id)).length := by
    rw [List.length_map, List.length_map, length_copiesInTurn]
  have entered : entries (node.steps run.next) =
      (entries (node.bindingSteps run.next) ++ [(node.path.id, (node.copied run).path.id)]) ++
        [(node.id, (node.copied run).id)] := by
    simp only [steps, StringLiteral.steps, entries_append, entries, copied, StringLiteral.copied,
      CopyRun.next_after, CopyRun.advance, List.append_assoc]
  have paired : node.ids.zip (node.copied run).ids =
      (node.id, (node.copied run).id) :: (entries (node.bindingSteps run.next) ++
        [(node.path.id, (node.copied run).path.id)]) := by
    rw [ids_eq, ids_eq, bindingSteps, Binding.entries_copies]
    simp only [copied, List.cons_append, List.zip_cons_cons, List.zip_append sizes]
    rfl
  rw [entered, paired]
  exact List.perm_append_singleton _ _

theorem Print.entries_steps (node : Print) (next : NodeId) :
    entries (node.steps next) = [(node.expr.node.id, next.succ), (node.id, next)] := by
  simp only [steps, entries_append, entries, Expr.entries_steps, List.cons_append, List.nil_append]

theorem Print.entries_perm (node : Print) (run : CopyRun) :
    (entries (node.steps run.next)).Perm (node.ids.zip (node.copied run).ids) := by
  have expr : (node.expr.copied run.advance).node.id = run.next.succ := node.expr.id_copied _
  rw [entries_steps, ids_eq, ids_eq, copied, expr]
  exact .swap _ _ []

/-- The first pass enters the imports and the second the prints; together they enter each statement
with its copy. -/
theorem entries_copiedStatements_perm (statements : List Statement) (run imported : CopyRun) :
    (entries (stepsInTurn Statement.importSteps run.next statements) ++
        entries (stepsInTurn Statement.printSteps imported.next statements)).Perm
      ((statements.flatMap Statement.ids).zip
        ((copiedStatements run imported statements).flatMap Statement.ids)) := by
  induction statements generalizing run imported with
  | nil => exact .refl _
  | cons statement rest ih =>
      cases statement with
      | importing node =>
          have others := ih (run.after (node.steps run.next)) imported
          rw [CopyRun.next_after] at others
          have sizes : (Statement.importing node).ids.length =
              (Statement.importing (node.copied run)).ids.length :=
            length_ids_of_facts (node.facts_copied run).symm
          rw [copiedStatements_importing, List.flatMap_cons, List.flatMap_cons, List.zip_append sizes,
            stepsInTurn, entries_append, List.append_assoc]
          exact (node.entries_perm run).append others
      | printing node =>
          have others := ih run (imported.after (node.steps imported.next))
          rw [CopyRun.next_after] at others
          have sizes : (Statement.printing node).ids.length =
              (Statement.printing (node.copied imported)).ids.length :=
            length_ids_of_facts (node.facts_copied imported).symm
          rw [copiedStatements_printing, List.flatMap_cons, List.flatMap_cons, List.zip_append sizes]
          change (_ ++ (entries (node.steps imported.next ++ _))).Perm _
          rw [entries_append]
          have both := (node.entries_perm imported).append others
          exact (List.perm_append_comm_assoc _ _ _).trans both

theorem File.entries_perm (node : File) (run : CopyRun) :
    (entries (node.steps run.next)).Perm (node.ids.zip (node.copied run).ids) := by
  let imported := run.after (node.importSteps run.next)
  have statements := entries_copiedStatements_perm node.statements run imported
  have entered : entries (node.steps run.next) =
      (entries (node.importSteps run.next) ++ entries (node.printSteps imported.next)) ++
        [(node.id, (node.copied run).id)] := by
    simp only [steps, entries_append, entries, copied, CopyRun.next_after, imported, List.append_assoc]
  rw [entered, ids_eq, ids_eq, List.zip_cons_cons]
  exact (List.perm_append_singleton _ _).trans (statements.cons _)

theorem Node.entries_perm (node : Node) (run : CopyRun) :
    (entries (node.steps run.next)).Perm (node.ids.zip (node.copied run).ids) := by
  cases node with
  | file node => exact node.entries_perm run
  | importing node => exact node.entries_perm run
  | printing node => exact node.entries_perm run
  | literal node => exact .refl _
  | reference node => exact .refl _
  | binding node => exact .refl _

end TemplateIR
