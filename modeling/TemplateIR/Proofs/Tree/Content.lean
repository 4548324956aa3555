import TemplateIR.Proofs.Tree.Schedule
import TemplateIR.Tree.Source

/-!
What a copy has in common with its original: everything but identities and the targets of
references. The facts about the nodes agree place by place in preorder, and the source form is the
same.
-/
namespace TemplateIR

open CopyStep

/-- What is known of a node by itself, without its identity and its parts. -/
structure NodeFacts where
  kind : NodeKind
  span : Span
  /-- The name, the value or the path. -/
  label : Option String
  importTarget : Option ImportTarget
deriving DecidableEq, Repr

namespace Node

def label? : Node → Option String
  | .file node => some node.path
  | .importing node => some node.path.value
  | .printing _ => none
  | .literal node => some node.value
  | .reference node => some node.name
  | .binding node => some node.name

def importTarget? : Node → Option ImportTarget
  | .importing node => some node.importTarget
  | _ => none

def facts (node : Node) : NodeFacts :=
  ⟨node.kind, node.span, node.label?, node.importTarget?⟩

end Node

theorem Binding.map_copies {γ : Type} (view : Binding → γ)
    (same : ∀ node run, view (Binding.copied node run) = view node) (run : CopyRun)
    (bindings : List Binding) :
    (copiesInTurn Binding.steps Binding.copied run bindings).map view = bindings.map view := by
  induction bindings generalizing run with
  | nil => rfl
  | cons binding rest ih => simp only [copiesInTurn, List.map_cons, same, ih]

/-- The copies of statements, when the first pass starts at `run` and the second at `imported`. -/
def copiedStatements (run imported : CopyRun) (statements : List Statement) : List Statement :=
  copiesInTurn Slot.steps Slot.statement imported
    (copiesInTurn Statement.importSteps Statement.slot run statements)

section Statements

variable (run imported : CopyRun) (rest : List Statement)

theorem copiedStatements_importing (node : Import) :
    copiedStatements run imported (.importing node :: rest) =
      .importing (node.copied run) ::
        copiedStatements (run.after (node.steps run.next)) imported rest := rfl

theorem copiedStatements_printing (node : Print) :
    copiedStatements run imported (.printing node :: rest) =
      .printing (node.copied imported) ::
        copiedStatements run (imported.after (node.steps imported.next)) rest := rfl

theorem map_copiedStatements {γ : Type} (view : Statement → γ)
    (imports : ∀ node run, view (.importing (Import.copied node run)) = view (.importing node))
    (prints : ∀ node run, view (.printing (Print.copied node run)) = view (.printing node))
    (statements : List Statement) :
    (copiedStatements run imported statements).map view = statements.map view := by
  induction statements generalizing run imported with
  | nil => rfl
  | cons statement rest ih =>
      cases statement with
      | importing node =>
          rw [copiedStatements_importing, List.map_cons, List.map_cons, ih, imports]
      | printing node =>
          rw [copiedStatements_printing, List.map_cons, List.map_cons, ih, prints]

end Statements

theorem Expr.facts_copied (node : Expr) (run : CopyRun) :
    (node.copied run).node.facts = node.node.facts := by
  cases node <;> rfl

theorem Import.facts_copied (node : Import) (run : CopyRun) :
    (node.copied run).preorder.map Node.facts = node.preorder.map Node.facts := by
  let view (binding : Binding) := (Node.binding binding).facts
  have bindings := Binding.map_copies view (fun _ _ => rfl) run node.bindings
  simp only [preorder, copied, List.map_cons, List.map_append, List.map_map]
  change _ :: (copiesInTurn Binding.steps Binding.copied run node.bindings).map view ++ _ = _
  rw [bindings]
  rfl

theorem Print.facts_copied (node : Print) (run : CopyRun) :
    (node.copied run).preorder.map Node.facts = node.preorder.map Node.facts := by
  simp only [preorder, copied, List.map_cons, Expr.facts_copied]
  rfl

theorem File.facts_copied (node : File) (run : CopyRun) :
    (node.copied run).preorder.map Node.facts = node.preorder.map Node.facts := by
  have statements := map_copiedStatements run (run.after (node.importSteps run.next))
    (fun statement => statement.preorder.map Node.facts) Import.facts_copied Print.facts_copied
    node.statements
  rw [preorder, preorder, List.map_cons, List.map_cons, List.map_flatMap, List.map_flatMap]
  exact congrArg₂ List.cons rfl (congrArg List.flatten statements)

theorem Node.facts_copied (node : Node) (run : CopyRun) :
    (node.copied run).preorder.map Node.facts = node.preorder.map Node.facts := by
  cases node with
  | file node => exact node.facts_copied run
  | importing node => exact node.facts_copied run
  | printing node => exact node.facts_copied run
  | literal node => rfl
  | reference node => rfl
  | binding node => rfl

theorem Import.written_copied (node : Import) (run : CopyRun) :
    (node.copied run).written = node.written := by
  have names := Binding.map_copies (·.name.toList)
    (fun _ _ => by simp only [Binding.copied]) run node.bindings
  have nameless : (copiesInTurn Binding.steps Binding.copied run node.bindings).isEmpty =
      node.bindings.isEmpty := by
    rw [← List.isEmpty_map, names, List.isEmpty_map]
  have bound : (node.copied run).writtenBindings = node.writtenBindings := by
    simp only [writtenBindings, copied, nameless, names]
  have path : (node.copied run).path.value = node.path.value := rfl
  unfold written
  rw [bound, path]

theorem Print.written_copied (node : Print) (run : CopyRun) :
    (node.copied run).written = node.written := by
  obtain ⟨id, span, expr⟩ := node
  cases expr <;> rfl

theorem File.written_copied (node : File) (run : CopyRun) :
    (node.copied run).written = node.written := by
  have statements := map_copiedStatements run (run.after (node.importSteps run.next))
    Statement.written Import.written_copied Print.written_copied node.statements
  exact congrArg (['\n'].intercalate ·) statements

end TemplateIR
