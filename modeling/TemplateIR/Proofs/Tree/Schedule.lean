import TemplateIR.Proofs.Tree.CopySteps
import TemplateIR.Tree.Copy

/-!
The steps in which each node is copied, and the copy that they leave. Copying a node is nothing but
performing its steps: whatever is to be known about the course of a copy can be asked of a list.
-/
namespace TemplateIR

open CopyM CopyStep

/-- From this state the action performs the steps and, if they go well, ends with the value. -/
def CopyM.Follows {α : Type} (action : CopyM α) (run : CopyRun) (steps : List CopyStep)
    (value : α) : Prop :=
  action.exec run = (do performAll steps; return value : CopyM α).exec run

namespace CopyM.Follows

variable {α β : Type} {run after : CopyRun} {steps rest : List CopyStep}

theorem ofPure (value : α) : (pure value : CopyM α).Follows run [] value := rfl

theorem fresh : CopyM.fresh.Follows run [.take] run.next := rfl

theorem step (step : CopyStep) : step.perform.Follows run [step] () := by
  simp [CopyM.Follows, performAll]

theorem link (node : Reference) :
    (do
      let target ← relink node.target node.span
      emit (.referenceCopied node.target target node.name)
      return target : CopyM NodeId).Follows run [.link node] (run.scope.target node.target) := by
  simp only [CopyM.Follows, performAll, perform, bind_assoc, pure_bind, exec_bind, relink]
  cases found : run.scope.copyOf? node.target with
  | some copy => simp [CopyScope.target, found]
  | none =>
      by_cases external : node.target ∈ run.scope.external
      · simp [CopyScope.target, found, external]
      · simp [external]

theorem bind {first : CopyM α} {next : α → CopyM β} {value : α} {result : β}
    (begun : first.Follows run steps value)
    (continued : (next value).Follows (run.after steps) rest result) :
    (first >>= next).Follows run (steps ++ rest) result := by
  rw [CopyM.Follows] at begun continued ⊢
  rw [exec_bind, begun, performAll_append, bind_assoc, exec_bind, exec_bind]
  cases performed : (performAll steps).exec run with
  | mk outcome after =>
      cases outcome with
      | error fault => rfl
      | ok done =>
          obtain ⟨-, rfl⟩ := performAll_ok_iff.mp performed
          exact continued

/-- Every copy ends by entering itself. -/
theorem entering (old copy : NodeId) (value : α) :
    (do register old copy; return value : CopyM α).Follows run [.enter old copy] value := by
  apply (step (.enter old copy)).bind
  exact ofPure value

theorem map {action : CopyM α} {value : α} (followed : action.Follows run steps value)
    (f : α → β) : (do return f (← action) : CopyM β).Follows run steps (f value) := by
  rw [← List.append_nil steps]
  apply followed.bind
  exact ofPure (f value)

theorem ends {action : CopyM α} {value : α} (followed : action.Follows run steps value) :
    Ends run steps value (action.exec run) := by
  have ends := performAll_ends run steps
  rw [followed, exec_bind]
  generalize (performAll steps).exec run = result at ends ⊢
  cases ends with
  | completed admitted => exact .completed admitted
  | copiedTwice split admitted known => exact .copiedTwice split admitted known
  | dangling split admitted unreached => exact .dangling split admitted unreached

theorem ok_iff {action : CopyM α} {value result : α} (followed : action.Follows run steps value) :
    action.exec run = (.ok result, after) ↔
      run.scope.Admits steps ∧ result = value ∧ after = run.after steps := by
  constructor
  · intro performed
    have ends := followed.ends
    rw [performed] at ends
    cases ends with
    | completed admitted => exact ⟨admitted, rfl, rfl⟩
  · rintro ⟨admitted, rfl, rfl⟩
    rw [followed, exec_bind_ok (performAll_of_admits admitted), exec_pure]

theorem error_of {action : CopyM α} {value : α} (followed : action.Follows run steps value)
    {fault : CopyFault} (failed : (performAll steps).exec run = (.error fault, after)) :
    action.exec run = (.error fault, after) := by
  rw [followed, exec_bind_error failed]

theorem succeeds_iff {action : CopyM α} {value : α} (followed : action.Follows run steps value) :
    (∃ result after, action.exec run = (.ok result, after)) ↔ run.scope.Admits steps :=
  ⟨fun ⟨_, _, done⟩ => (followed.ok_iff.mp done).1,
    fun admitted => ⟨value, run.after steps, followed.ok_iff.mpr ⟨admitted, rfl, rfl⟩⟩⟩

end CopyM.Follows

section InTurn

variable {α β : Type}

/-- The steps of items that are copied one after the other. -/
def stepsInTurn (steps : α → NodeId → List CopyStep) (next : NodeId) : List α → List CopyStep
  | [] => []
  | item :: rest =>
    steps item next ++ stepsInTurn steps (next.plus (taken (steps item next))) rest

def copiesInTurn (steps : α → NodeId → List CopyStep) (copied : α → CopyRun → β) (run : CopyRun) :
    List α → List β
  | [] => []
  | item :: rest =>
    copied item run :: copiesInTurn steps copied (run.after (steps item run.next)) rest

theorem CopyM.Follows.mapM {copy : α → CopyM β} {steps : α → NodeId → List CopyStep}
    {copied : α → CopyRun → β}
    (each : ∀ item run, (copy item).Follows run (steps item run.next) (copied item run))
    (items : List α) (run : CopyRun) :
    (items.mapM copy).Follows run (stepsInTurn steps run.next items)
      (copiesInTurn steps copied run items) := by
  induction items generalizing run with
  | nil =>
      rw [List.mapM_nil]
      exact ofPure []
  | cons item rest ih =>
      rw [List.mapM_cons]
      have others := ih (run.after (steps item run.next))
      rw [CopyRun.next_after] at others
      exact (each item run).bind (others.map _)

theorem stepsInTurn_append (steps : α → NodeId → List CopyStep) (next : NodeId)
    (first second : List α) :
    stepsInTurn steps next (first ++ second) =
      stepsInTurn steps next first ++
        stepsInTurn steps (next.plus (taken (stepsInTurn steps next first))) second := by
  induction first generalizing next with
  | nil => rfl
  | cons item rest ih =>
      simp only [List.cons_append, stepsInTurn, ih, List.append_assoc, taken_append, NodeId.plus_plus]

theorem stepsInTurn_take_prefix (steps : α → NodeId → List CopyStep) (next : NodeId)
    (items : List α) (index : Nat) :
    stepsInTurn steps next (items.take index) <+: stepsInTurn steps next items := by
  conv => rhs; rw [← List.take_append_drop index items, stepsInTurn_append]
  exact List.prefix_append _ _

/-- What is collected from steps part by part is collected from them item by item. -/
theorem collect_inTurn {γ : Type} {steps : α → NodeId → List CopyStep}
    {collect : List CopyStep → List γ} {collected : α → List γ} (none : collect [] = [])
    (append : ∀ first second, collect (first ++ second) = collect first ++ collect second)
    (each : ∀ item next, collect (steps item next) = collected item) (next : NodeId)
    (items : List α) : collect (stepsInTurn steps next items) = items.flatMap collected := by
  induction items generalizing next with
  | nil => exact none
  | cons item rest ih => rw [stepsInTurn, append, each, ih, List.flatMap_cons]

theorem length_copiesInTurn (steps : α → NodeId → List CopyStep) (copied : α → CopyRun → β)
    (run : CopyRun) (items : List α) :
    (copiesInTurn steps copied run items).length = items.length := by
  induction items generalizing run with
  | nil => rfl
  | cons item rest ih => simp only [copiesInTurn, List.length_cons, ih]

end InTurn

namespace Binding

def steps (node : Binding) (next : NodeId) : List CopyStep :=
  [.take, .enter node.id next]

def copied (node : Binding) (run : CopyRun) : Binding :=
  { node with id := run.next }

theorem copy_follows (node : Binding) (run : CopyRun) :
    node.copy.Follows run (node.steps run.next) (node.copied run) :=
  Follows.fresh.bind (Follows.entering node.id run.next _)

end Binding

namespace StringLiteral

def steps (node : StringLiteral) (next : NodeId) : List CopyStep :=
  [.take, .enter node.id next]

def copied (node : StringLiteral) (run : CopyRun) : StringLiteral :=
  { node with id := run.next }

theorem copy_follows (node : StringLiteral) (run : CopyRun) :
    node.copy.Follows run (node.steps run.next) (node.copied run) :=
  Follows.fresh.bind (Follows.entering node.id run.next _)

end StringLiteral

namespace Reference

def steps (node : Reference) (next : NodeId) : List CopyStep :=
  [.link node, .take, .enter node.id next]

def copied (node : Reference) (run : CopyRun) : Reference :=
  { node with id := run.next, target := run.scope.target node.target }

theorem copy_follows (node : Reference) (run : CopyRun) :
    node.copy.Follows run (node.steps run.next) (node.copied run) := by
  have linked : node.copy = (do
      let target ← relink node.target node.span
      emit (.referenceCopied node.target target node.name)
      return target) >>= fun target => do
        let id ← fresh
        register node.id id
        return { node with id, target } := by
    simp only [Reference.copy, bind_assoc, pure_bind]
  rw [linked]
  have next : (run.after [.link node]).next = run.next := CopyRun.next_after run _
  refine (Follows.link node).bind (Follows.fresh.bind ?_)
  rw [next]
  exact Follows.entering node.id run.next (node.copied run)

end Reference

namespace Expr

def steps : Expr → NodeId → List CopyStep
  | .literal node => node.steps
  | .reference node => node.steps

def copied : Expr → CopyRun → Expr
  | .literal node, run => .literal (node.copied run)
  | .reference node, run => .reference (node.copied run)

theorem copy_follows (node : Expr) (run : CopyRun) :
    node.copy.Follows run (node.steps run.next) (node.copied run) := by
  cases node with
  | literal node => exact (node.copy_follows run).map _
  | reference node => exact (node.copy_follows run).map _

end Expr

namespace Import

def bindingSteps (node : Import) (next : NodeId) : List CopyStep :=
  stepsInTurn Binding.steps next node.bindings

/-- The import takes its identity between those of its bindings and that of its path, but it is
entered last. -/
def steps (node : Import) (next : NodeId) : List CopyStep :=
  let id := next.plus (taken (node.bindingSteps next))
  node.bindingSteps next ++ .take :: (node.path.steps id.succ ++
    [.announce node.id id node.path.value, .enter node.id id])

def copied (node : Import) (run : CopyRun) : Import :=
  let behind := run.after (node.bindingSteps run.next)
  { node with
    id := behind.next
    path := node.path.copied behind.advance
    bindings := copiesInTurn Binding.steps Binding.copied run node.bindings }

theorem copy_follows (node : Import) (run : CopyRun) :
    node.copy.Follows run (node.steps run.next) (node.copied run) := by
  let behind := run.after (node.bindingSteps run.next)
  have unfolded : node.steps run.next = node.bindingSteps run.next ++ .take ::
      (node.path.steps behind.next.succ ++
        [.announce node.id behind.next node.path.value, .enter node.id behind.next]) := by
    simp only [steps, behind, CopyRun.next_after]
  have bound := Follows.mapM Binding.copy_follows node.bindings run
  have path := node.path.copy_follows behind.advance
  rw [unfolded]
  exact bound.bind (Follows.fresh.bind (path.bind ((Follows.step (.announce _ _ _)).bind
    (Follows.entering node.id behind.next _))))

end Import

namespace Print

/-- The print takes its identity before its expression, but it is entered after it. -/
def steps (node : Print) (next : NodeId) : List CopyStep :=
  .take :: (node.expr.steps next.succ ++ [.enter node.id next])

def copied (node : Print) (run : CopyRun) : Print :=
  { node with id := run.next, expr := node.expr.copied run.advance }

theorem copy_follows (node : Print) (run : CopyRun) :
    node.copy.Follows run (node.steps run.next) (node.copied run) := by
  have expr := node.expr.copy_follows run.advance
  exact Follows.fresh.bind (expr.bind (Follows.entering node.id run.next _))

end Print

namespace Statement

/-- What the first pass over a file does for a statement. -/
def importSteps : Statement → NodeId → List CopyStep
  | .importing node => node.steps
  | .printing _ => fun _ => []

/-- What the second pass over a file does for a statement. -/
def printSteps : Statement → NodeId → List CopyStep
  | .importing _ => fun _ => []
  | .printing node => node.steps

def slot : Statement → CopyRun → Slot
  | .importing node, run => .filled (node.copied run)
  | .printing node, _ => .waiting node

theorem copyImport_follows (statement : Statement) (run : CopyRun) :
    statement.copyImport.Follows run (statement.importSteps run.next) (statement.slot run) := by
  cases statement with
  | importing node => exact (node.copy_follows run).map _
  | printing node => exact Follows.ofPure _

end Statement

namespace Slot

def steps : Slot → NodeId → List CopyStep
  | .filled _ => fun _ => []
  | .waiting node => node.steps

def statement : Slot → CopyRun → Statement
  | .filled copy, _ => .importing copy
  | .waiting node, run => .printing (node.copied run)

theorem fill_follows (slot : Slot) (run : CopyRun) :
    slot.fill.Follows run (slot.steps run.next) (slot.statement run) := by
  cases slot with
  | filled copy => exact Follows.ofPure _
  | waiting node => exact (node.copy_follows run).map _

end Slot

namespace File

def importSteps (node : File) (next : NodeId) : List CopyStep :=
  stepsInTurn Statement.importSteps next node.statements

def printSteps (node : File) (next : NodeId) : List CopyStep :=
  stepsInTurn Statement.printSteps next node.statements

/-- All imports come before the first print, and the file comes last. -/
def steps (node : File) (next : NodeId) : List CopyStep :=
  let prints := next.plus (taken (node.importSteps next))
  let id := prints.plus (taken (node.printSteps prints))
  node.importSteps next ++ (node.printSteps prints ++ [.take, .enter node.id id])

def slots (node : File) (run : CopyRun) : List Slot :=
  copiesInTurn Statement.importSteps Statement.slot run node.statements

def copied (node : File) (run : CopyRun) : File :=
  let imported := run.after (node.importSteps run.next)
  { node with
    id := (imported.after (node.printSteps imported.next)).next
    statements := copiesInTurn Slot.steps Slot.statement imported (node.slots run) }

/-- The places that wait after the first pass are those of the prints. -/
theorem slots_steps (node : File) (run : CopyRun) (next : NodeId) :
    stepsInTurn Slot.steps next (node.slots run) = node.printSteps next := by
  unfold slots printSteps
  induction node.statements generalizing run next with
  | nil => rfl
  | cons statement rest ih =>
      cases statement with
      | importing node => simp only [copiesInTurn, stepsInTurn, ih]; rfl
      | printing node => simp only [copiesInTurn, stepsInTurn, ih]; rfl

theorem copy_follows (node : File) (run : CopyRun) :
    node.copy.Follows run (node.steps run.next) (node.copied run) := by
  let imported := run.after (node.importSteps run.next)
  let printed := imported.after (node.printSteps imported.next)
  have unfolded : node.steps run.next = node.importSteps run.next ++
      (node.printSteps imported.next ++ [.take, .enter node.id printed.next]) := by
    simp only [steps, imported, printed, CopyRun.next_after]
  have imports := Follows.mapM Statement.copyImport_follows node.statements run
  have prints := Follows.mapM Slot.fill_follows (node.slots run) imported
  rw [slots_steps] at prints
  rw [unfolded]
  exact imports.bind (prints.bind (Follows.fresh.bind (Follows.entering node.id printed.next _)))

end File

namespace Node

def steps : Node → NodeId → List CopyStep
  | .file node => node.steps
  | .importing node => node.steps
  | .printing node => node.steps
  | .literal node => node.steps
  | .reference node => node.steps
  | .binding node => node.steps

def copied : Node → CopyRun → Node
  | .file node, run => .file (node.copied run)
  | .importing node, run => .importing (node.copied run)
  | .printing node, run => .printing (node.copied run)
  | .literal node, run => .literal (node.copied run)
  | .reference node, run => .reference (node.copied run)
  | .binding node, run => .binding (node.copied run)

theorem copy_follows (node : Node) (run : CopyRun) :
    node.copy.Follows run (node.steps run.next) (node.copied run) := by
  cases node with
  | file node => exact (node.copy_follows run).map _
  | importing node => exact (node.copy_follows run).map _
  | printing node => exact (node.copy_follows run).map _
  | literal node => exact (node.copy_follows run).map _
  | reference node => exact (node.copy_follows run).map _
  | binding node => exact (node.copy_follows run).map _

end Node
end TemplateIR
