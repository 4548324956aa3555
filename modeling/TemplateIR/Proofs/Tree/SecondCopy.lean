import TemplateIR.Proofs.Tree.FaultText
import TemplateIR.Proofs.Tree.FileCopy
import TemplateIR.Proofs.Tree.Frame

/-!
Copying a node again in a scope that knows it. All that its references lead to is at hand by then, so
the second copy stops where it first enters a node, and the scope grows no more.
-/
namespace TemplateIR

open CopyM CopyStep

namespace CopyStep

/-- The references that the steps link. -/
def linked (steps : List CopyStep) : List Reference :=
  (linkings steps).map Prod.fst

@[simp]
theorem linked_append (first second : List CopyStep) :
    linked (first ++ second) = linked first ++ linked second := by
  simp [linked, linkings_append, Function.comp_def]

theorem linkings_subset {steps : List CopyStep} :
    ∀ linking ∈ linkings steps, linking.2 ⊆ entered steps := by
  induction steps with
  | nil => exact List.forall_mem_nil _
  | cons step rest ih =>
      cases step with
      | take => exact ih
      | link node => exact List.forall_mem_cons.mpr ⟨List.nil_subset _, ih⟩
      | announce old copy path => exact ih
      | enter old copy =>
          intro linking listed
          obtain ⟨inner, within, rfl⟩ := List.mem_map.mp listed
          exact List.cons_subset_cons old (ih inner within)

theorem head?_entered_inTurn {α : Type} {steps : α → NodeId → List CopyStep}
    {first? : α → Option NodeId}
    (each : ∀ item next, (entered (steps item next)).head? = first? item) (next : NodeId)
    (items : List α) :
    (entered (stepsInTurn steps next items)).head? = items.findSome? first? := by
  induction items generalizing next with
  | nil => rfl
  | cons item rest ih =>
      rw [stepsInTurn, entered_append, List.head?_append, each, ih, List.findSome?_cons]
      cases first? item <;> rfl

variable {α : Type} {run : CopyRun} {steps : List CopyStep} {value : α}
  {result : Except CopyFault α × CopyRun}

/-- Steps whose references are all at hand stop at the first node that they enter, if that has been
copied before. -/
theorem Ends.copiedTwice_of_head {old : NodeId} (ends : Ends run steps value result)
    (first : (entered steps).head? = some old) (known : old ∈ run.scope.copied)
    (reached : ∀ reference ∈ linked steps, run.scope.Reaches reference.target) :
    ∃ copy, result.1 = .error (.copiedTwice old) ∧ result.2.scope = run.scope.enter old copy := by
  cases ends with
  | completed admitted =>
      have new := (admits_iff.mp admitted).2.1
      exact absurd known (new old (List.mem_of_mem_head? first))
  | @copiedTwice before behind other copy split admitted again =>
      subst split
      -- An entry made before this one would be that of `old`, which could not go well.
      cases made : entries before with
      | nil =>
          have same : other = old := by
            rw [entered_append, entered, made] at first
            exact Option.some.inj first
          refine ⟨copy, by rw [same], ?_⟩
          rw [CopyRun.scope_after, entries_append, made, same]
          rfl
      | cons pair rest =>
          have sooner : pair.1 ∈ entered before := by
            rw [entered, made]
            exact List.mem_cons_self
          have same : pair.1 = old := by
            rw [entered_append, entered, made] at first
            exact Option.some.inj first
          exact absurd known ((admits_iff.mp admitted).2.1 old (same ▸ sooner))
  | @dangling before behind node split admitted unreached =>
      subst split
      have member : node ∈ linked (before ++ .link node :: behind) := by
        rw [linked_append]
        exact List.mem_append_right _ List.mem_cons_self
      -- What was at hand at the start still is.
      have keeps := run.scope.keeps_enterAll (entries before)
      rw [CopyRun.scope_after] at unreached
      exact absurd (keeps.reaches (reached node member)) unreached

end CopyStep

/-- The node of an import that is copied first: its first binding, or its path if it binds nothing. -/
def Import.firstEntered (node : Import) : NodeId :=
  (node.bindings.head?.map (·.id)).getD node.path.id

def Statement.firstImported? : Statement → Option NodeId
  | .importing node => some node.firstEntered
  | .printing _ => none

def Statement.firstPrinted? : Statement → Option NodeId
  | .importing _ => none
  | .printing node => some node.expr.node.id

/-- The first import comes before the first print, wherever they stand. -/
def File.firstEntered (node : File) : NodeId :=
  ((node.statements.findSome? Statement.firstImported?).or
    (node.statements.findSome? Statement.firstPrinted?)).getD node.id

/-- The node of the tree that is entered first when the tree is copied. -/
def Node.firstEntered : Node → NodeId
  | .file node => node.firstEntered
  | .importing node => node.firstEntered
  | .printing node => node.expr.node.id
  | .literal node => node.id
  | .reference node => node.id
  | .binding node => node.id

theorem Import.head?_entered (node : Import) (next : NodeId) :
    (entered (node.steps next)).head? = some node.firstEntered := by
  obtain ⟨id, span, path, bindings, importTarget⟩ := node
  cases bindings with
  | nil => rfl
  | cons binding rest => rfl

theorem Print.head?_entered (node : Print) (next : NodeId) :
    (entered (node.steps next)).head? = some node.expr.node.id := by
  rw [entered, entries_steps]
  rfl

theorem Statement.head?_importSteps (statement : Statement) (next : NodeId) :
    (entered (statement.importSteps next)).head? = statement.firstImported? := by
  cases statement with
  | importing node => exact node.head?_entered next
  | printing node => rfl

theorem Statement.head?_printSteps (statement : Statement) (next : NodeId) :
    (entered (statement.printSteps next)).head? = statement.firstPrinted? := by
  cases statement with
  | importing node => rfl
  | printing node => exact node.head?_entered next

theorem File.head?_entered (node : File) (next : NodeId) :
    (entered (node.steps next)).head? = some node.firstEntered := by
  rw [steps, entered_append, entered_append, List.head?_append, List.head?_append, importSteps,
    printSteps, head?_entered_inTurn Statement.head?_importSteps,
    head?_entered_inTurn Statement.head?_printSteps, firstEntered]
  cases node.statements.findSome? Statement.firstImported? with
  | some first => rfl
  | none =>
      cases node.statements.findSome? Statement.firstPrinted? with
      | some first => rfl
      | none => rfl

theorem Node.head?_entered (node : Node) (next : NodeId) :
    (entered (node.steps next)).head? = some node.firstEntered := by
  cases node with
  | file node => exact node.head?_entered next
  | importing node => exact node.head?_entered next
  | printing node => exact node.head?_entered next
  | literal node => rfl
  | reference node => rfl
  | binding node => rfl

def Node.reference? : Node → Option Reference
  | .reference node => some node
  | _ => none

def Node.references (node : Node) : List Reference :=
  node.preorder.filterMap Node.reference?

theorem Import.references_eq_nil (node : Import) :
    node.preorder.filterMap Node.reference? = [] := by
  have bindings : node.bindings.filterMap (fun binding => (Node.binding binding).reference?) = [] :=
    List.filterMap_eq_nil_iff.mpr fun _ _ => rfl
  rw [preorder, List.cons_append, List.filterMap_cons_none rfl, List.filterMap_append,
    List.filterMap_map]
  exact congrArg (· ++ []) bindings

theorem Import.linked_steps (node : Import) (next : NodeId) : linked (node.steps next) = [] := by
  rw [linked, linkings_steps, List.map_nil]

theorem Print.linked_steps (node : Print) (next : NodeId) :
    linked (node.steps next) = node.preorder.filterMap Node.reference? := by
  obtain ⟨id, span, expr⟩ := node
  cases expr <;> rfl

theorem File.linked_steps (node : File) (next : NodeId) :
    linked (node.steps next) = node.preorder.filterMap Node.reference? := by
  have prints (statement : Statement) (next : NodeId) : linked (statement.printSteps next) =
      statement.preorder.filterMap Node.reference? := by
    cases statement with
    | importing node => exact node.references_eq_nil.symm
    | printing node => exact node.linked_steps next
  have imports : linked (node.importSteps next) = [] := by
    rw [linked, linkings_importSteps, List.map_nil]
  rw [steps, linked_append, linked_append, imports, printSteps, collect_inTurn rfl linked_append prints, preorder,
    List.filterMap_cons_none rfl, List.filterMap_flatMap]
  exact List.append_nil _

theorem Node.linked_steps (node : Node) (next : NodeId) :
    linked (node.steps next) = node.references := by
  cases node with
  | file node => exact node.linked_steps next
  | importing node => exact (node.linked_steps next).trans node.references_eq_nil.symm
  | printing node => exact node.linked_steps next
  | literal node => rfl
  | reference node => rfl
  | binding node => rfl

namespace Node

variable {node : Node} {before after again : CopyRun}

/-- Behind a copy that went well, all that the references of the tree lead to is at hand. -/
theorem reaches_of_ok {copy : Node} (done : node.copy.exec before = (.ok copy, after)) :
    ∀ reference ∈ node.references, after.scope.Reaches reference.target := by
  obtain ⟨admitted, -, rfl⟩ := (node.copy_follows before).ok_iff.mp done
  intro reference member
  rw [← node.linked_steps before.next] at member
  obtain ⟨linking, listed, rfl⟩ := List.mem_map.mp member
  have keeps := before.scope.keeps_enterAll (entries (node.steps before.next))
  rw [← CopyRun.scope_after] at keeps
  rcases (admits_iff.mp admitted).2.2 linking listed with reached | sooner
  · exact keeps.reaches reached
  · rw [CopyScope.Reaches, CopyRun.scope_after, CopyScope.mem_copied_enterAll]
    exact .inl (.inl (linkings_subset linking listed sooner))

theorem firstEntered_copied {copy : Node} (done : node.copy.exec before = (.ok copy, after)) :
    node.firstEntered ∈ after.scope.copied := by
  obtain ⟨-, -, rfl⟩ := (node.copy_follows before).ok_iff.mp done
  rw [CopyRun.scope_after, CopyScope.mem_copied_enterAll]
  exact .inl (List.mem_of_mem_head? (node.head?_entered before.next))

/-- A node that was copied is not copied again in the same scope: the first of its nodes is entered
anew in its old place, and that is all. -/
theorem copy_again {copy : Node} (done : node.copy.exec before = (.ok copy, after))
    (same : again.scope = after.scope) :
    ∃ last, node.copy.exec again = (.error (.copiedTwice node.firstEntered), last) ∧
      last.scope.size = again.scope.size := by
  have known : node.firstEntered ∈ again.scope.copied := same ▸ firstEntered_copied done
  have reached : ∀ reference ∈ linked (node.steps again.next),
      again.scope.Reaches reference.target := by
    rw [node.linked_steps, same]
    exact reaches_of_ok done
  obtain ⟨twice, failed, scope⟩ := (node.copy_follows again).ends.copiedTwice_of_head
    (node.head?_entered again.next) known reached
  refine ⟨_, Prod.ext failed rfl, ?_⟩
  rw [scope, CopyScope.size_enter_of_copied known]

/-- However a copy ends, it changes nothing that its scope knew or allowed, but for the entry of the
node that it stops at for being copied twice. And a copy that ends well can not be made again in its
scope: it would stop at the first node that it enters. -/
theorem copy_frame {outcome : Except CopyFault Node} (distinct : node.ids.Nodup)
    (ran : node.copy.exec before = (outcome, after)) :
    node.CopyFrame outcome before after ∧
      ∀ copy, outcome = .ok copy → ∀ again : CopyRun, again.scope = after.scope →
        ∃ fault last, node.copy.exec again = (.error fault, last) ∧
          fault = .copiedTwice node.firstEntered ∧
          fault.message = "node #" ++ toString node.firstEntered.number ++
            " copied twice in one copy operation" ∧
          last.scope.size = again.scope.size := by
  constructor
  · have framed := copyFrame distinct before
    rwa [ran] at framed
  · rintro copy rfl again same
    obtain ⟨last, failed, size⟩ := copy_again ran same
    exact ⟨_, last, failed, rfl, CopyFault.message_copiedTwice _, size⟩

/-- Where the scope knows a print of the file already, the copy stops there with a new entry; where it
does not, the copy goes well once. -/
theorem copy_frame_forwardLinked :
    let node := Node.file .forwardLinked
    let known : CopyRun := { next := ⟨11⟩, scope := (CopyScope.allowing [⟨77⟩]).enter ⟨5⟩ ⟨40⟩ }
    (∃ after, node.copy.exec known = (.error (.copiedTwice ⟨5⟩), after) ∧
      node.CopyFrame (.error (.copiedTwice ⟨5⟩)) known after ∧
      after.scope.copyOf? ⟨5⟩ = some ⟨14⟩) ∧
    ∃ copy after fault last,
      node.copy.exec { next := ⟨11⟩, scope := .allowing [⟨77⟩] } = (.ok copy, after) ∧
      node.copy.exec after = (.error fault, last) ∧ fault = .copiedTwice node.firstEntered ∧
      node.firstEntered = ⟨1⟩ := by
  intro node known
  have distinct : node.ids.Nodup := by decide
  obtain ⟨stopped, ran, entry⟩ : ∃ after,
      node.copy.exec known = (.error (.copiedTwice ⟨5⟩), after) ∧
        after.scope.copyOf? ⟨5⟩ = some ⟨14⟩ := ⟨_, rfl, rfl⟩
  obtain ⟨copy, after, done⟩ : ∃ copy after,
      node.copy.exec { next := ⟨11⟩, scope := .allowing [⟨77⟩] } = (.ok copy, after) := ⟨_, _, rfl⟩
  obtain ⟨fault, last, failed, cause, -⟩ := (copy_frame distinct done).2 copy rfl after rfl
  exact ⟨⟨stopped, ran, (copy_frame distinct ran).1, entry⟩,
    copy, after, fault, last, done, failed, cause, rfl⟩

end Node
end TemplateIR
