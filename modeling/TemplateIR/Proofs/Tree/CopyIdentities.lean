import Mathlib.Algebra.GroupWithZero.Nat
import TemplateIR.Proofs.Tree.Numbering
import TemplateIR.Proofs.Tree.Passes

/-!
Which identity each node of a copied file has. The imports come first, each with its bindings before
it and its path behind it, then the prints, each before its expression, and then the file, wherever
imports and prints stand among the statements.
-/
namespace TemplateIR

open CopyStep

/-- The number of nodes of an import: its bindings, itself and its path. -/
def Import.size (node : Import) : Nat :=
  node.bindings.length + 2

theorem Import.taken_steps (node : Import) (next : NodeId) : taken (node.steps next) = node.size := by
  rw [(node.numbers next).taken, numberedIds, List.length_append, List.length_map]
  rfl

theorem Print.taken_steps (node : Print) (next : NodeId) : taken (node.steps next) = 2 :=
  (node.numbers next).taken

theorem Node.taken_steps (node : Node) (next : NodeId) :
    taken (node.steps next) = node.preorder.length := by
  have numbered := (node.ids_copied_perm { next }).length_eq
  rw [List.length_map, node.length_ids_copied, List.length_range', ids, List.length_map] at numbered
  exact numbered.symm

theorem taken_inTurn {α : Type} {steps : α → NodeId → List CopyStep} {size : α → Nat}
    (each : ∀ item next, taken (steps item next) = size item) (next : NodeId) (items : List α) :
    taken (stepsInTurn steps next items) = (items.map size).sum := by
  induction items generalizing next with
  | nil => rfl
  | cons item rest ih => rw [stepsInTurn, taken_append, each, ih, List.map_cons, List.sum_cons]

variable {first : NodeId} {start : Nat} {run : CopyRun}

theorem Binding.ids_copies (begun : run.next = first.plus start) (bindings : List Binding) :
    (copiesInTurn Binding.steps Binding.copied run bindings).map (·.id) =
      (List.range' start bindings.length).map first.plus := by
  induction bindings generalizing run start with
  | nil => rfl
  | cons binding rest ih =>
      have continued : (run.after (binding.steps run.next)).next = first.plus (start + 1) := by
        rw [CopyRun.next_after, begun, NodeId.plus_plus]
        rfl
      rw [copiesInTurn, List.map_cons, ih continued, List.length_cons, List.range'_succ,
        List.map_cons, ← begun]
      rfl

theorem Import.ids_copied (begun : run.next = first.plus start) (node : Import) :
    (node.copied run).bindings.map (·.id) =
        (List.range' start node.bindings.length).map first.plus ∧
      (node.copied run).id = first.plus (start + node.bindings.length) ∧
      (node.copied run).path.id = first.plus (start + node.bindings.length + 1) := by
  have each : ∀ (binding : Binding) next, taken (binding.steps next) = 1 := fun _ _ => rfl
  have bound : taken (node.bindingSteps run.next) = node.bindings.length := by
    rw [bindingSteps, taken_inTurn each, List.map_const', List.sum_replicate_nat, Nat.mul_one]
  have id : (node.copied run).id = first.plus (start + node.bindings.length) := by
    rw [copied, CopyRun.next_after, bound, begun, NodeId.plus_plus]
  refine ⟨Binding.ids_copies begun node.bindings, id, ?_⟩
  have path : (node.copied run).path.id = (node.copied run).id.succ := rfl
  rw [path, id]
  rfl

theorem Print.ids_copied (begun : run.next = first.plus start) (node : Print) :
    (node.copied run).id = first.plus start ∧
      (node.copied run).expr.node.id = first.plus (start + 1) := by
  refine ⟨begun, ?_⟩
  have expr : (node.copied run).expr.node.id = run.next.succ := node.expr.id_copied run.advance
  rw [expr, begun]
  rfl

namespace File

/-- The number of nodes of the imports before the one at `index`. -/
def importNodesBefore (node : File) (index : Nat) : Nat :=
  ((node.imports.take index).map Import.size).sum

def importNodes (node : File) : Nat :=
  (node.imports.map Import.size).sum

/-- The identities of `copy`, from `first` on, and the one behind them. -/
structure Numbered (node copy : File) (first later : NodeId) : Prop where
  kinds : copy.statements.map (·.node.kind) = node.statements.map (·.node.kind)
  imports : ∀ (index : Nat) original, node.imports[index]? = some original →
    ∃ made, copy.imports[index]? = some made ∧
      made.bindings.map (·.id) =
        (List.range' (node.importNodesBefore index) original.bindings.length).map first.plus ∧
      made.id = first.plus (node.importNodesBefore index + original.bindings.length) ∧
      made.path.id = first.plus (node.importNodesBefore index + original.bindings.length + 1)
  prints : ∀ (index : Nat) original, node.prints[index]? = some original →
    ∃ made, copy.prints[index]? = some made ∧
      made.id = first.plus (node.importNodes + 2 * index) ∧
      made.expr.node.id = first.plus (node.importNodes + 2 * index + 1)
  file : copy.id = first.plus (node.importNodes + 2 * node.prints.length)
  next : later = first.plus (node.importNodes + 2 * node.prints.length + 1)
  /-- As many identities are taken as there are nodes. -/
  all : later = first.plus node.preorder.length

variable (node : File) (run : CopyRun)

theorem next_importsBefore (index : Nat) :
    (run.after (stepsInTurn Import.steps run.next (node.imports.take index))).next =
      run.next.plus (node.importNodesBefore index) := by
  rw [CopyRun.next_after, taken_inTurn Import.taken_steps, importNodesBefore]

theorem next_imported :
    (run.after (node.importSteps run.next)).next = run.next.plus node.importNodes := by
  rw [CopyRun.next_after, importSteps_imports, taken_inTurn Import.taken_steps, importNodes]

theorem taken_prints (next : NodeId) (prints : List Print) :
    taken (stepsInTurn Print.steps next prints) = 2 * prints.length := by
  rw [taken_inTurn Print.taken_steps, List.map_const', List.sum_replicate_nat, Nat.mul_comm]

/-- The identities of a copied file follow one another without a gap. -/
theorem copy_numbered {node copy : File} {before after : CopyRun}
    (done : node.copy.exec before = (.ok copy, after)) :
    node.Numbered copy before.next after.next := by
  obtain ⟨-, rfl, rfl⟩ := (node.copy_follows before).ok_iff.mp done
  let imported := before.after (node.importSteps before.next)
  have next : imported.next = before.next.plus node.importNodes := node.next_imported before
  have file : (node.copied before).id =
      before.next.plus (node.importNodes + 2 * node.prints.length) := by
    rw [copied, CopyRun.next_after, printSteps_prints, taken_prints, node.next_imported,
      NodeId.plus_plus]
  have all : (before.after (node.steps before.next)).next = before.next.plus node.preorder.length := by
    rw [CopyRun.next_after]
    exact congrArg before.next.plus ((Node.file node).taken_steps before.next)
  constructor
  case kinds =>
    exact map_copiedStatements before imported (·.node.kind) (fun _ _ => rfl) (fun _ _ => rfl) _
  case imports =>
    intro index original found
    refine ⟨_, ?_, original.ids_copied (node.next_importsBefore before index)⟩
    rw [imports_copied, getElem?_copiesInTurn, found]
    rfl
  case prints =>
    intro index original found
    have inside : index < node.prints.length := (List.getElem?_eq_some_iff.mp found).1
    have reached : (imported.after
        (stepsInTurn Print.steps imported.next (node.prints.take index))).next =
          before.next.plus (node.importNodes + 2 * index) := by
      rw [CopyRun.next_after, taken_prints, List.length_take_of_le (Nat.le_of_lt inside), next,
        NodeId.plus_plus]
    refine ⟨_, ?_, original.ids_copied reached⟩
    rw [prints_copied, getElem?_copiesInTurn, found]
    rfl
  case file => exact file
  case next =>
    rw [CopyRun.next_after, steps, taken_append, taken_append, importSteps_imports,
      printSteps_prints, taken_prints, taken_inTurn Import.taken_steps, ← importNodes,
      Nat.add_assoc]
    rfl
  case all => exact all

/-- A print, an import of two names, a print of one of them, and an import of none. -/
def interleaved : File where
  id := ⟨11⟩
  span := .synthetic
  path := "between.soy"
  statements := [
    .printing ⟨⟨6⟩, .synthetic, .literal ⟨⟨5⟩, .synthetic, "first"⟩⟩,
    .importing ⟨⟨4⟩, .synthetic, ⟨⟨3⟩, .synthetic, "m.proto"⟩,
      [⟨⟨1⟩, .synthetic, "A"⟩, ⟨⟨2⟩, .synthetic, "B"⟩], .schema⟩,
    .printing ⟨⟨8⟩, .synthetic, .reference ⟨⟨7⟩, .synthetic, "B", ⟨2⟩⟩⟩,
    .importing ⟨⟨10⟩, .synthetic, ⟨⟨9⟩, .synthetic, "s.gss"⟩, [], .stylesheet⟩]

theorem copy_numbered_interleaved :
    ∃ copy after, interleaved.copy.exec { next := ⟨20⟩ } = (.ok copy, after) ∧
      copy.imports.map (·.id) = [⟨22⟩, ⟨24⟩] ∧ copy.prints.map (·.id) = [⟨26⟩, ⟨28⟩] ∧
      interleaved.Numbered copy ⟨20⟩ after.next :=
  ⟨_, _, rfl, rfl, rfl, @copy_numbered interleaved _ { next := ⟨20⟩ } _ rfl⟩

end File
end TemplateIR
