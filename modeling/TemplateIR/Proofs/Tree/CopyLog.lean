import TemplateIR.Proofs.Tree.Passes
import TemplateIR.Proofs.Tree.Remains
import TemplateIR.Proofs.Tree.Subtree

/-!
What a copy of a whole tree lets a listener know, in this order. Every node is reported when it is
entered, behind all that is below it.
-/
namespace TemplateIR

open CopyM CopyStep

/-- The node and its copy that the event reports to be entered. -/
def TreeEvent.entry? : TreeEvent → Option (NodeId × NodeId)
  | .registered old copy => some (old, copy)
  | _ => none

/-- What the copy of a reference reports before it enters the reference. -/
def Expr.linkLog : Expr → Expr → List TreeEvent
  | .reference node, .reference copy => [.referenceCopied node.target copy.target node.name]
  | _, _ => []

def Binding.copyLog (node copy : Binding) : List TreeEvent :=
  [.registered node.id copy.id]

def Import.copyLog (node copy : Import) : List TreeEvent :=
  (node.bindings.zip copy.bindings).flatMap (fun pair => pair.1.copyLog pair.2) ++
    [.registered node.path.id copy.path.id, .importCopied node.id copy.id node.path.value,
      .registered node.id copy.id]

def Print.copyLog (node copy : Print) : List TreeEvent :=
  node.expr.linkLog copy.expr ++
    [.registered node.expr.node.id copy.expr.node.id, .registered node.id copy.id]

/-- All imports are reported before the first print, and the file last. -/
def File.copyLog (node copy : File) : List TreeEvent :=
  (node.imports.zip copy.imports).flatMap (fun pair => pair.1.copyLog pair.2) ++
    ((node.prints.zip copy.prints).flatMap (fun pair => pair.1.copyLog pair.2) ++
      [.registered node.id copy.id])

/-- In a scope that allows no reference out of the tree, steps that go well report these events. -/
def CopyRun.Reports (run : CopyRun) (steps : List CopyStep) (events : List TreeEvent) : Prop :=
  run.scope.external = [] → run.scope.Admits steps →
    (run.after steps).events = run.events ++ events

namespace CopyRun.Reports

variable {run : CopyRun} {first second : List CopyStep} {events others : List TreeEvent}

theorem append (begun : run.Reports first events)
    (continued : (run.after first).Reports second others) :
    run.Reports (first ++ second) (events ++ others) := by
  intro closed admitted
  obtain ⟨before, behind⟩ := admits_append.mp admitted
  have scope := run.scope_after first
  have still : (run.after first).scope.external = [] := by
    rw [scope, CopyScope.external_enterAll, closed]
  rw [CopyRun.after_append, continued still (scope ▸ behind), begun closed before,
    List.append_assoc]

theorem inTurn {α β : Type} {steps : α → NodeId → List CopyStep} {copied : α → CopyRun → β}
    {log : α → β → List TreeEvent}
    (each : ∀ item run, CopyRun.Reports run (steps item run.next) (log item (copied item run)))
    (items : List α) (run : CopyRun) :
    run.Reports (stepsInTurn steps run.next items)
      ((items.zip (copiesInTurn steps copied run items)).flatMap fun pair => log pair.1 pair.2) := by
  induction items generalizing run with
  | nil => exact fun _ _ => (List.append_nil _).symm
  | cons item rest ih =>
      have others := ih (run.after (steps item run.next))
      rw [CopyRun.next_after] at others
      exact (each item run).append others

end CopyRun.Reports

theorem CopyRun.reports_take (run : CopyRun) : run.Reports [.take] [] :=
  fun _ _ => (List.append_nil _).symm

theorem Binding.reports (node : Binding) (run : CopyRun) :
    run.Reports (node.steps run.next) (node.copyLog (node.copied run)) :=
  fun _ _ => rfl

theorem StringLiteral.reports (node : StringLiteral) (run : CopyRun) :
    run.Reports (node.steps run.next) [.registered node.id (node.copied run).id] :=
  fun _ _ => rfl

theorem Reference.reports (node : Reference) (run : CopyRun) :
    run.Reports (node.steps run.next)
      [.referenceCopied node.target (node.copied run).target node.name,
        .registered node.id (node.copied run).id] := by
  rintro closed ⟨reached, -⟩
  have known : (run.scope.copyOf? node.target).isSome := by
    rcases reached with copied | allowed
    · exact CopyScope.copyOf?_isSome_iff.mpr copied
    · rw [closed] at allowed
      cases allowed
  simp [steps, CopyRun.after, done, known, copied, CopyRun.log, CopyRun.advance, CopyRun.enter]

theorem Expr.reports (node : Expr) (run : CopyRun) :
    run.Reports (node.steps run.next) (node.linkLog (node.copied run) ++
      [.registered node.node.id (node.copied run).node.id]) := by
  cases node with
  | literal node => exact node.reports run
  | reference node => exact node.reports run

theorem Import.reports (node : Import) (run : CopyRun) :
    run.Reports (node.steps run.next) (node.copyLog (node.copied run)) := by
  let behind := run.after (node.bindingSteps run.next)
  have unfolded : node.steps run.next = node.bindingSteps run.next ++ ([.take] ++
      (node.path.steps behind.next.succ ++
        [.announce node.id behind.next node.path.value, .enter node.id behind.next])) := by
    simp only [steps, behind, CopyRun.next_after]
    rfl
  have bound := CopyRun.Reports.inTurn Binding.reports node.bindings run
  have path := node.path.reports behind.advance
  have last (run : CopyRun) : run.Reports
      [.announce node.id behind.next node.path.value, .enter node.id behind.next]
      [.importCopied node.id behind.next node.path.value, .registered node.id behind.next] :=
    fun _ _ => List.append_assoc _ _ _
  rw [unfolded]
  exact bound.append (behind.reports_take.append (path.append (last _)))

theorem Print.reports (node : Print) (run : CopyRun) :
    run.Reports (node.steps run.next) (node.copyLog (node.copied run)) := by
  have expr := node.expr.reports run.advance
  have last (after : CopyRun) :
      after.Reports [.enter node.id run.next] [.registered node.id run.next] := fun _ _ => rfl
  have reported := run.reports_take.append (expr.append (last _))
  rw [List.nil_append, List.append_assoc] at reported
  exact reported

theorem File.reports (node : File) (run : CopyRun) :
    run.Reports (node.steps run.next) (node.copyLog (node.copied run)) := by
  let imported := run.after (node.importSteps run.next)
  let printed := imported.after (node.printSteps imported.next)
  have unfolded : node.steps run.next = node.importSteps run.next ++
      (node.printSteps imported.next ++ ([.take] ++ [.enter node.id printed.next])) := by
    simp only [steps, imported, printed, CopyRun.next_after]
    rfl
  have imports := CopyRun.Reports.inTurn Import.reports node.imports run
  have prints := CopyRun.Reports.inTurn Print.reports node.prints imported
  have last (after : CopyRun) :
      after.Reports [.enter node.id printed.next] [.registered node.id printed.next] :=
    fun _ _ => rfl
  rw [← importSteps_imports, ← imports_copied] at imports
  rw [← printSteps_prints, ← prints_copied] at prints
  rw [unfolded]
  exact imports.append (prints.append (printed.reports_take.append (last _)))

theorem CopyRun.entries_events_after (run : CopyRun) (steps : List CopyStep) :
    (run.after steps).events.filterMap TreeEvent.entry? =
      run.events.filterMap TreeEvent.entry? ++ entries steps := by
  induction steps generalizing run with
  | nil => exact (List.append_nil _).symm
  | cons step rest ih =>
      have first : (step.done run).events.filterMap TreeEvent.entry? =
          run.events.filterMap TreeEvent.entry? ++ entries [step] := by
        cases step with
        | take => exact (List.append_nil _).symm
        | link node =>
            simp only [done]
            split <;> simp [CopyRun.log, TreeEvent.entry?]
        | announce old copy path => simp [done, CopyRun.log, TreeEvent.entry?]
        | enter old copy => simp [done, CopyRun.log, CopyRun.enter, TreeEvent.entry?]
      rw [after_cons, ih, first, List.append_assoc, ← entries_cons]

def Import.enteredIds (node : Import) : List NodeId :=
  node.bindings.map (·.id) ++ [node.path.id] ++ [node.id]

def Print.enteredIds (node : Print) : List NodeId :=
  [node.expr.node.id, node.id]

def File.enteredIds (node : File) : List NodeId :=
  node.imports.flatMap Import.enteredIds ++ node.prints.flatMap Print.enteredIds ++ [node.id]

theorem Import.entered_steps (node : Import) (next : NodeId) :
    entered (node.steps next) = node.enteredIds := by
  have bound : entered (node.bindingSteps next) = node.bindings.map (·.id) := by
    have each : ∀ (binding : Binding) next, entered (binding.steps next) = [binding.id] :=
      fun _ _ => rfl
    rw [bindingSteps, collect_inTurn rfl entered_append each, List.map_eq_flatMap]
  rw [steps, entered_append, bound, enteredIds, List.append_assoc]
  rfl

theorem Print.entered_steps (node : Print) (next : NodeId) :
    entered (node.steps next) = node.enteredIds := by
  rw [entered, entries_steps]
  rfl

theorem File.entered_steps (node : File) (next : NodeId) :
    entered (node.steps next) = node.enteredIds := by
  rw [steps, entered_append, entered_append, importSteps_imports, printSteps_prints,
    collect_inTurn rfl entered_append Import.entered_steps,
    collect_inTurn rfl entered_append Print.entered_steps, enteredIds, List.append_assoc]
  rfl

/-- The node stands behind all that is below it. -/
def Node.EnteredLast (node : Node) (order : List NodeId) : Prop :=
  ∀ below ∈ node.preorder.tail, [below.id, node.id].Sublist order

theorem Node.EnteredLast.mono {node : Node} {first order : List NodeId}
    (last : node.EnteredLast first) (part : first.Sublist order) : node.EnteredLast order :=
  fun below member => (last below member).trans part

theorem Node.enteredLast_self {node : Node} {next : NodeId} {front : List NodeId}
    (order : entered (node.steps next) = front ++ [node.id]) :
    node.EnteredLast (front ++ [node.id]) := by
  have all : (front ++ [node.id]).Perm (node.id :: node.preorder.tail.map Node.id) := by
    have cons : node.preorder = node :: node.preorder.tail :=
      (List.cons_head?_tail node.head?_preorder).symm
    rw [← order, ← List.map_cons, ← cons]
    exact node.entered_perm next
  -- Without the node itself, what is entered is what is below it.
  have below := ((List.perm_append_singleton _ _).symm.trans all).cons_inv
  intro part member
  have sooner : part.id ∈ front := below.mem_iff.mpr (List.mem_map_of_mem member)
  exact (List.singleton_sublist.mpr sooner).append (.refl [node.id])

theorem Node.enteredLast_of_leaf {node : Node} (leaf : node.preorder = [node])
    (order : List NodeId) : node.EnteredLast order := by
  rw [EnteredLast, leaf]
  exact List.forall_mem_nil _

theorem Import.enteredLast (node : Import) :
    ∀ part ∈ node.preorder, part.EnteredLast node.enteredIds := by
  rw [preorder, List.cons_append, List.forall_mem_cons, List.forall_mem_append,
    List.forall_mem_map, List.forall_mem_singleton]
  refine ⟨?_, fun _ _ => Node.enteredLast_of_leaf rfl _, Node.enteredLast_of_leaf rfl _⟩
  exact @Node.enteredLast_self (.importing node) ⟨0⟩ _ (node.entered_steps ⟨0⟩)

theorem Print.enteredLast (node : Print) :
    ∀ part ∈ node.preorder, part.EnteredLast node.enteredIds := by
  rw [preorder, List.forall_mem_cons, List.forall_mem_singleton]
  constructor
  · exact @Node.enteredLast_self (.printing node) ⟨0⟩ [node.expr.node.id] (node.entered_steps ⟨0⟩)
  · exact Node.enteredLast_of_leaf node.expr.preorder_eq _

theorem enteredLast_flatMap {α : Type} {items : List α} {ids : α → List NodeId} {item : α}
    {part : Node} (listed : item ∈ items) (last : part.EnteredLast (ids item)) :
    part.EnteredLast (items.flatMap ids) := by
  apply last.mono
  rw [List.flatMap_def]
  exact List.sublist_flatten_of_mem (List.mem_map_of_mem listed)

theorem File.enteredLast (node : File) :
    ∀ part ∈ node.preorder, part.EnteredLast node.enteredIds := by
  rw [preorder, List.forall_mem_cons]
  constructor
  · exact @Node.enteredLast_self (.file node) ⟨0⟩ _ (node.entered_steps ⟨0⟩)
  · intro part member
    obtain ⟨statement, listed, below⟩ := List.mem_flatMap.mp member
    cases statement with
    | importing inner =>
        have found : inner ∈ node.imports := List.mem_filterMap.mpr ⟨_, listed, rfl⟩
        have imported := enteredLast_flatMap found (inner.enteredLast part below)
        exact (imported.mono (List.sublist_append_left _ _)).mono (List.sublist_append_left _ _)
    | printing inner =>
        have found : inner ∈ node.prints := List.mem_filterMap.mpr ⟨_, listed, rfl⟩
        have printed := enteredLast_flatMap found (inner.enteredLast part below)
        exact (printed.mono (List.sublist_append_right _ _)).mono (List.sublist_append_left _ _)

namespace Node

theorem size_after {node : Node} {next : NodeId}
    (admitted : (CopyScope.allowing []).Admits (node.steps next)) :
    ((CopyScope.allowing []).enterAll (entries (node.steps next))).size = node.preorder.length := by
  obtain ⟨once, new, -⟩ := admits_iff.mp admitted
  have entered := (node.entered_perm next).length_eq
  rw [CopyScope.size, Counterparts.size, CopyScope.pairs_enterAll once new]
  rwa [CopyStep.entered, List.length_map, ids, List.length_map] at entered

/-- What a copy of a whole tree reports beside its steps is how many nodes the tree has. -/
theorem duplicate_log {node copy : Node} {next : NodeId} {run : CopyRun}
    (done : node.duplicate next = (.ok copy, run)) :
    let alone : CopyRun := { next, scope := .allowing [] }
    alone.scope.Admits (node.steps next) ∧ copy = node.copied alone ∧
      run.events = (alone.after (node.steps next)).events ++
        [.duplicated node.kind node.id copy.id node.preorder.length] := by
  intro alone
  rw [duplicate, copyAndReport, exec_bind] at done
  cases copied : node.copy.exec alone with
  | mk outcome after =>
      rw [copied] at done
      cases outcome with
      | error fault => cases done
      | ok made =>
          obtain ⟨admitted, rfl, rfl⟩ := (node.copy_follows alone).ok_iff.mp copied
          cases done
          have size : (alone.after (node.steps next)).scope.size = node.preorder.length := by
            rw [CopyRun.scope_after]
            exact size_after admitted
          refine ⟨admitted, rfl, ?_⟩
          rw [← size]
          rfl

end Node

namespace File

/-- What is reported while a file is copied as a whole. The nodes of the copy that the events name are
the counterparts of those of the file, place by place. -/
structure DuplicateLog (node copy : File) (events : List TreeEvent) : Prop where
  facts : copy.preorder.map Node.facts = node.preorder.map Node.facts
  course : events = node.copyLog copy ++ [.duplicated .file node.id copy.id node.preorder.length]
  paired : (events.filterMap TreeEvent.entry?).Perm (node.ids.zip copy.ids)
  pairedOnce : (events.filterMap TreeEvent.entry?).Nodup
  enteredOnce : ((events.filterMap TreeEvent.entry?).map Prod.fst).Nodup
  enteredLast : ∀ part ∈ node.preorder,
    part.EnteredLast ((events.filterMap TreeEvent.entry?).map Prod.fst)

/-- Each node of a file that is copied as a whole is reported once, with its counterpart, and behind
all that is below it. -/
theorem duplicate_logged {node : File} {copy : Node} {next : NodeId} {run : CopyRun}
    (done : (Node.file node).duplicate next = (.ok copy, run)) :
    ∃ file, copy = .file file ∧ node.DuplicateLog file run.events := by
  let alone : CopyRun := { next, scope := .allowing [] }
  obtain ⟨admitted, rfl, logged⟩ := Node.duplicate_log done
  refine ⟨node.copied alone, rfl, ?_⟩
  have pairs : run.events.filterMap TreeEvent.entry? = entries (node.steps next) := by
    rw [logged, List.filterMap_append]
    exact (List.append_nil _).trans (alone.entries_events_after (node.steps next))
  have order : (run.events.filterMap TreeEvent.entry?).map Prod.fst = node.enteredIds := by
    rw [pairs]
    exact node.entered_steps next
  have once : (entered (node.steps next)).Nodup := (admits_iff.mp admitted).1
  constructor
  case facts => exact node.facts_copied alone
  case course =>
    rw [logged]
    exact congrArg (· ++ _) (node.reports alone rfl admitted)
  case paired =>
    rw [pairs]
    exact node.entries_perm alone
  case pairedOnce =>
    rw [pairs]
    exact List.Nodup.of_map Prod.fst once
  case enteredOnce =>
    rw [pairs]
    exact once
  case enteredLast =>
    rw [order]
    exact node.enteredLast

/-- A print of a name that the second import binds, an import of none, and that second import. -/
def linkedAhead : File where
  id := ⟨9⟩
  span := .synthetic
  path := "ahead.soy"
  statements := [
    .printing ⟨⟨2⟩, .synthetic, .reference ⟨⟨1⟩, .synthetic, "a", ⟨5⟩⟩⟩,
    .importing ⟨⟨4⟩, .synthetic, ⟨⟨3⟩, .synthetic, "s.gss"⟩, [], .stylesheet⟩,
    .importing ⟨⟨8⟩, .synthetic, ⟨⟨7⟩, .synthetic, "t.proto"⟩,
      [⟨⟨5⟩, .synthetic, "a"⟩, ⟨⟨6⟩, .synthetic, "b"⟩], .schema⟩]

theorem duplicate_logged_linkedAhead :
    ∃ file run, (Node.file linkedAhead).duplicate ⟨20⟩ = (.ok (.file file), run) ∧
      linkedAhead.DuplicateLog file run.events ∧
      run.events = [
        .registered ⟨3⟩ ⟨21⟩, .importCopied ⟨4⟩ ⟨20⟩ "s.gss", .registered ⟨4⟩ ⟨20⟩,
        .registered ⟨5⟩ ⟨22⟩, .registered ⟨6⟩ ⟨23⟩, .registered ⟨7⟩ ⟨25⟩,
        .importCopied ⟨8⟩ ⟨24⟩ "t.proto", .registered ⟨8⟩ ⟨24⟩,
        .referenceCopied ⟨5⟩ ⟨22⟩ "a", .registered ⟨1⟩ ⟨27⟩, .registered ⟨2⟩ ⟨26⟩,
        .registered ⟨9⟩ ⟨28⟩, .duplicated .file ⟨9⟩ ⟨28⟩ 9] := by
  obtain ⟨copy, run, done, events⟩ : ∃ copy run,
      (Node.file linkedAhead).duplicate ⟨20⟩ = (.ok copy, run) ∧ run.events = _ := ⟨_, _, rfl, rfl⟩
  obtain ⟨file, rfl, log⟩ := duplicate_logged done
  exact ⟨file, run, done, log, events⟩

end File

end TemplateIR
