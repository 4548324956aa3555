import TemplateIR.Proofs.Tree.FileVerdict

/-!
A copy as its original under new labels. When a copy that may not leave its tree has gone well, it is
the original with every identity, and every target of a reference, exchanged for the one that the
scope has for it in the end. In which order the nodes were entered no longer matters then.
-/
namespace TemplateIR

open CopyStep

variable {label other : NodeId → NodeId}

def Binding.relabel (label : NodeId → NodeId) (node : Binding) : Binding :=
  { node with id := label node.id }

def StringLiteral.relabel (label : NodeId → NodeId) (node : StringLiteral) : StringLiteral :=
  { node with id := label node.id }

def Reference.relabel (label : NodeId → NodeId) (node : Reference) : Reference :=
  { node with id := label node.id, target := label node.target }

def Expr.relabel (label : NodeId → NodeId) : Expr → Expr
  | .literal node => .literal (node.relabel label)
  | .reference node => .reference (node.relabel label)

def Import.relabel (label : NodeId → NodeId) (node : Import) : Import :=
  { node with
    id := label node.id
    path := node.path.relabel label
    bindings := node.bindings.map (Binding.relabel label) }

def Print.relabel (label : NodeId → NodeId) (node : Print) : Print :=
  { node with id := label node.id, expr := node.expr.relabel label }

namespace Statement

def relabel (label : NodeId → NodeId) : Statement → Statement
  | .importing node => .importing (node.relabel label)
  | .printing node => .printing (node.relabel label)

theorem relabel_relabel (statement : Statement) :
    (statement.relabel label).relabel other = statement.relabel (other ∘ label) := by
  cases statement with
  | importing node =>
      simp [relabel, Import.relabel, StringLiteral.relabel, Binding.relabel, Function.comp_def]
  | printing node =>
      obtain ⟨id, span, expr⟩ := node
      cases expr <;> rfl

theorem reference?_relabel (statement : Statement) :
    (statement.relabel label).reference? = statement.reference?.map (Reference.relabel label) := by
  cases statement with
  | importing node => rfl
  | printing node =>
      obtain ⟨id, span, expr⟩ := node
      cases expr <;> rfl

/-- Only the labels of the nodes of a statement and of what it refers to matter. -/
theorem relabel_congr {statement : Statement}
    (nodes : ∀ id ∈ statement.ids, label id = other id)
    (target : ∀ reference, statement.reference? = some reference →
      label reference.target = other reference.target) :
    statement.relabel label = statement.relabel other := by
  cases statement with
  | importing node =>
      change ∀ id ∈ node.ids, _ at nodes
      simp only [Import.ids_eq, List.cons_append, List.mem_cons, List.mem_append, List.mem_map,
        List.not_mem_nil, or_false] at nodes
      have bindings : node.bindings.map (Binding.relabel label) =
          node.bindings.map (Binding.relabel other) := by
        apply List.map_congr_left
        intro binding bound
        simp only [Binding.relabel, nodes binding.id (.inr (.inl ⟨binding, bound, rfl⟩))]
      simp only [relabel, Import.relabel, StringLiteral.relabel, bindings,
        nodes node.id (.inl rfl), nodes node.path.id (.inr (.inr rfl))]
  | printing node =>
      obtain ⟨id, span, expr⟩ := node
      change ∀ id ∈ Print.ids _, _ at nodes
      simp only [Print.ids_eq, List.mem_cons, List.not_mem_nil, or_false, forall_eq_or_imp,
        forall_eq] at nodes
      obtain ⟨whole, part⟩ := nodes
      cases expr with
      | literal node =>
          change label node.id = other node.id at part
          simp only [relabel, Print.relabel, Expr.relabel, StringLiteral.relabel, whole, part]
      | reference node =>
          change label node.id = other node.id at part
          simp only [relabel, Print.relabel, Expr.relabel, Reference.relabel, whole, part,
            target node rfl]

end Statement

/-- Whether the label of a node is the identity of its copy, and that of what a reference leads to
the new target. -/
def CopyStep.Labelled (label : NodeId → NodeId) (scope : CopyScope) : CopyStep → Prop
  | .link node => scope.target node.target = label node.target
  | .enter old copy => label old = copy
  | _ => True

def CopyScope.Labels (label : NodeId → NodeId) (scope : CopyScope) : List CopyStep → Prop
  | [] => True
  | step :: rest =>
    step.Labelled label scope ∧ (scope.enterAll (entries [step])).Labels label rest

namespace CopyScope

variable {scope : CopyScope} {run imported : CopyRun} {steps first second : List CopyStep}

theorem labels_append :
    scope.Labels label (first ++ second) ↔
      scope.Labels label first ∧ (scope.enterAll (entries first)).Labels label second := by
  induction first generalizing scope with
  | nil => simp [Labels]
  | cons step rest ih =>
      rw [List.cons_append, Labels, Labels, ih, entries_cons step rest, enterAll_append, and_assoc]

/-- Steps that go well without leaving the tree agree with what the scope knows in the end: an entry
is never replaced, and what a reference leads to has been entered when the reference is linked. -/
theorem Admits.labels (admitted : scope.Admits steps) (closed : scope.external = []) :
    scope.Labels (scope.enterAll (entries steps)).target steps := by
  induction steps generalizing scope with
  | nil => trivial
  | cons step rest ih =>
      obtain ⟨once, new, -⟩ := admits_iff.mp admitted
      have others := ih admitted.2 (by rw [external_enterAll, closed])
      rw [← enterAll_append, ← entries_cons] at others
      refine ⟨?_, others⟩
      cases step with
      | take => trivial
      | announce old copy path => trivial
      | link node =>
          have known : node.target ∈ scope.copied :=
            admitted.1.resolve_right (by simp [closed])
          have later : node.target ∉ entered rest := fun member => new _ member known
          have untouched : (scope.enterAll (entries (.link node :: rest))).copyOf? node.target =
              scope.copyOf? node.target := copyOf?_enterAll_of_not_mem later
          rw [Labelled, target, target, untouched]
      | enter old copy =>
          rw [Labelled, target, copyOf?_enterAll_of_mem once List.mem_cons_self, Option.getD_some]

end CopyScope

open CopyScope

theorem copiesInTurn_eq_map {α β : Type} {steps : α → NodeId → List CopyStep}
    {copied : α → CopyRun → β} {view : α → β} {run : CopyRun} {items : List α}
    (each : ∀ item run, run.scope.Labels label (steps item run.next) → copied item run = view item)
    (labelled : run.scope.Labels label (stepsInTurn steps run.next items)) :
    copiesInTurn steps copied run items = items.map view := by
  induction items generalizing run with
  | nil => rfl
  | cons item rest ih =>
      obtain ⟨head, tail⟩ := labels_append.mp labelled
      rw [← CopyRun.scope_after, ← CopyRun.next_after] at tail
      rw [copiesInTurn, List.map_cons, each item run head, ih tail]

theorem Binding.copied_eq_relabel (node : Binding) (run : CopyRun)
    (labelled : run.scope.Labels label (node.steps run.next)) :
    node.copied run = node.relabel label := by
  obtain ⟨-, same, -⟩ := labelled
  rw [copied, relabel, same]

theorem Expr.copied_eq_relabel (node : Expr) (run : CopyRun)
    (labelled : run.scope.Labels label (node.steps run.next)) :
    node.copied run = node.relabel label := by
  cases node with
  | literal node =>
      obtain ⟨-, same, -⟩ := labelled
      simp only [Labelled] at same
      simp only [copied, relabel, StringLiteral.copied, StringLiteral.relabel, same]
  | reference node =>
      obtain ⟨target, -, same, -⟩ := labelled
      simp only [Labelled] at target same
      simp only [copied, relabel, Reference.copied, Reference.relabel, same, target]

theorem Import.copied_eq_relabel (node : Import) (run : CopyRun)
    (labelled : run.scope.Labels label (node.steps run.next)) :
    node.copied run = node.relabel label := by
  obtain ⟨bound, -, -, path, -, same, -⟩ := labels_append.mp labelled
  simp only [Labelled] at path same
  have bindings := copiesInTurn_eq_map Binding.copied_eq_relabel bound
  simp only [copied, relabel, StringLiteral.copied, StringLiteral.relabel, bindings, same, path,
    CopyRun.next_after, CopyRun.advance]

theorem Print.copied_eq_relabel (node : Print) (run : CopyRun)
    (labelled : run.scope.Labels label (node.steps run.next)) :
    node.copied run = node.relabel label := by
  obtain ⟨-, inner⟩ := labelled
  obtain ⟨expr, same, -⟩ := labels_append.mp inner
  have part := node.expr.copied_eq_relabel run.advance expr
  rw [copied, relabel, same, part]

theorem copiedStatements_eq_map {run imported : CopyRun} {statements : List Statement}
    (imports : run.scope.Labels label (stepsInTurn Statement.importSteps run.next statements))
    (prints : imported.scope.Labels label
      (stepsInTurn Statement.printSteps imported.next statements)) :
    copiedStatements run imported statements = statements.map (Statement.relabel label) := by
  induction statements generalizing run imported with
  | nil => rfl
  | cons statement rest ih =>
      cases statement with
      | importing node =>
          obtain ⟨head, tail⟩ := labels_append.mp imports
          rw [← CopyRun.scope_after, ← CopyRun.next_after] at tail
          have others := ih tail prints
          rw [copiedStatements_importing, node.copied_eq_relabel run head]
          exact congrArg _ others
      | printing node =>
          obtain ⟨head, tail⟩ := labels_append.mp prints
          rw [← CopyRun.scope_after, ← CopyRun.next_after] at tail
          have others := ih imports tail
          rw [copiedStatements_printing, node.copied_eq_relabel imported head]
          exact congrArg _ others

theorem File.statements_copied_eq_map {node : File} {run : CopyRun}
    (labelled : run.scope.Labels label (node.steps run.next)) :
    (node.copied run).statements = node.statements.map (Statement.relabel label) := by
  obtain ⟨imports, later⟩ := labels_append.mp labelled
  rw [← CopyRun.scope_after, ← CopyRun.next_after] at later
  exact copiedStatements_eq_map imports (labels_append.mp later).1

end TemplateIR
