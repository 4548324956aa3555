import TemplateIR.Proofs.Tree.Content

/-!
The two passes over a file, seen apart. The first one copies the imports in turn and the second the
prints in turn, and the copy of the file has the copies of either kind in this order.
-/
namespace TemplateIR

open CopyStep

def Statement.print? : Statement → Option Print
  | .importing _ => none
  | .printing node => some node

def File.prints (node : File) : List Print :=
  node.statements.filterMap Statement.print?

/-- Each item is copied in the state that the items before it leave. -/
theorem getElem?_copiesInTurn {α β : Type} (steps : α → NodeId → List CopyStep)
    (copied : α → CopyRun → β) (run : CopyRun) (items : List α) (index : Nat) :
    (copiesInTurn steps copied run items)[index]? = items[index]?.map fun item =>
      copied item (run.after (stepsInTurn steps run.next (items.take index))) := by
  induction items generalizing run index with
  | nil => rfl
  | cons item rest ih =>
      cases index with
      | zero => rfl
      | succ index =>
          have later := ih (run.after (steps item run.next)) index
          rw [CopyRun.next_after] at later
          simp only [copiesInTurn, stepsInTurn, List.getElem?_cons_succ, List.take_succ_cons, later,
            CopyRun.after_append]

section Statements

variable (statements : List Statement)

theorem importSteps_eq (next : NodeId) :
    stepsInTurn Statement.importSteps next statements =
      stepsInTurn Import.steps next (statements.filterMap Statement.import?) := by
  induction statements generalizing next with
  | nil => rfl
  | cons statement rest ih =>
      cases statement with
      | importing node => exact congrArg (node.steps next ++ ·) (ih _)
      | printing node => exact ih next

theorem printSteps_eq (next : NodeId) :
    stepsInTurn Statement.printSteps next statements =
      stepsInTurn Print.steps next (statements.filterMap Statement.print?) := by
  induction statements generalizing next with
  | nil => rfl
  | cons statement rest ih =>
      cases statement with
      | importing node => exact ih next
      | printing node => exact congrArg (node.steps next ++ ·) (ih _)

theorem imports_copiedStatements (run imported : CopyRun) :
    (copiedStatements run imported statements).filterMap Statement.import? =
      copiesInTurn Import.steps Import.copied run (statements.filterMap Statement.import?) := by
  induction statements generalizing run imported with
  | nil => rfl
  | cons statement rest ih =>
      cases statement with
      | importing node => exact congrArg (node.copied run :: ·) (ih _ imported)
      | printing node => exact ih run _

theorem prints_copiedStatements (run imported : CopyRun) :
    (copiedStatements run imported statements).filterMap Statement.print? =
      copiesInTurn Print.steps Print.copied imported (statements.filterMap Statement.print?) := by
  induction statements generalizing run imported with
  | nil => rfl
  | cons statement rest ih =>
      cases statement with
      | importing node => exact ih _ imported
      | printing node => exact congrArg (node.copied imported :: ·) (ih run _)

end Statements

namespace File

variable (node : File)

theorem importSteps_imports (next : NodeId) :
    node.importSteps next = stepsInTurn Import.steps next node.imports :=
  importSteps_eq node.statements next

theorem printSteps_prints (next : NodeId) :
    node.printSteps next = stepsInTurn Print.steps next node.prints :=
  printSteps_eq node.statements next

theorem imports_copied (run : CopyRun) :
    (node.copied run).imports = copiesInTurn Import.steps Import.copied run node.imports :=
  imports_copiedStatements node.statements run _

theorem prints_copied (run : CopyRun) :
    (node.copied run).prints = copiesInTurn Print.steps Print.copied
      (run.after (node.importSteps run.next)) node.prints :=
  prints_copiedStatements node.statements run _

end File
end TemplateIR
