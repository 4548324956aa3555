import TemplateIR.Proofs.Tree.Entering
import TemplateIR.Tree.CopyRun
import TemplateIR.Tree.Node

/-!
A copy as the list of its steps. The steps are what a copy does to its state, one after the other;
which of them fails, and what it leaves behind, can be read off the list without the tree.
-/
namespace TemplateIR

open CopyM

/-- The identity `count` places behind `id`. -/
def NodeId.plus (id : NodeId) (count : Nat) : NodeId :=
  ⟨id.number + count⟩

@[simp]
theorem NodeId.number_plus (id : NodeId) (count : Nat) :
    (id.plus count).number = id.number + count := rfl

theorem NodeId.plus_plus (id : NodeId) (first second : Nat) :
    (id.plus first).plus second = id.plus (first + second) := by
  simp only [NodeId.plus, Nat.add_assoc]

inductive CopyStep where
  | take
  | link (node : Reference)
  | announce (old copy : NodeId) (path : String)
  | enter (old copy : NodeId)
deriving DecidableEq, Repr

namespace CopyStep

def perform : CopyStep → CopyM Unit
  | .take => do
    let _ ← fresh
    return ()
  | .link node => do
    let target ← relink node.target node.span
    emit (.referenceCopied node.target target node.name)
  | .announce old copy path => emit (.importCopied old copy path)
  | .enter old copy => register old copy

def performAll : List CopyStep → CopyM Unit
  | [] => pure ()
  | step :: rest => do
    step.perform
    performAll rest

/-- The state behind a step that goes well. A second entry for one node leaves the same state. -/
def done (run : CopyRun) : CopyStep → CopyRun
  | .take => run.advance
  | .link node =>
    let linked := .referenceCopied node.target (run.scope.target node.target) node.name
    if (run.scope.copyOf? node.target).isSome then run.log linked
    else (run.log (.externalReference node.target)).log linked
  | .announce old copy path => run.log (.importCopied old copy path)
  | .enter old copy => (run.log (.registered old copy)).enter old copy

def Allowed (scope : CopyScope) : CopyStep → Prop
  | .link node => scope.Reaches node.target
  | .enter old _ => old ∉ scope.copied
  | _ => True

/-- The pairs that the steps enter, the earliest first. -/
@[simp]
def entries : List CopyStep → List (NodeId × NodeId)
  | [] => []
  | .enter old copy :: rest => (old, copy) :: entries rest
  | _ :: rest => entries rest

def entered (steps : List CopyStep) : List NodeId :=
  (entries steps).map Prod.fst

/-- The number of identities that the steps take. -/
@[simp]
def taken : List CopyStep → Nat
  | [] => 0
  | .take :: rest => taken rest + 1
  | _ :: rest => taken rest

end CopyStep

/-- The state behind steps that all go well. -/
def CopyRun.after (run : CopyRun) (steps : List CopyStep) : CopyRun :=
  steps.foldl CopyStep.done run

namespace CopyStep

variable {step : CopyStep} {steps first second : List CopyStep}

@[simp]
theorem entries_append (first second : List CopyStep) :
    entries (first ++ second) = entries first ++ entries second := by
  induction first with
  | nil => rfl
  | cons step rest ih => cases step <;> simp [ih]

@[simp]
theorem entered_append (first second : List CopyStep) :
    entered (first ++ second) = entered first ++ entered second := by
  simp only [entered, entries_append, List.map_append]

theorem entered_sublist (part : first <+: second) : (entered first).Sublist (entered second) := by
  obtain ⟨rest, rfl⟩ := part
  rw [entered_append]
  exact List.sublist_append_left _ _

@[simp]
theorem taken_append (first second : List CopyStep) :
    taken (first ++ second) = taken first + taken second := by
  induction first with
  | nil => simp
  | cons step rest ih =>
      cases step <;> simp [ih]
      omega

theorem entries_cons (step : CopyStep) (rest : List CopyStep) :
    entries (step :: rest) = entries [step] ++ entries rest :=
  entries_append [step] rest

theorem taken_cons (step : CopyStep) (rest : List CopyStep) :
    taken (step :: rest) = taken [step] + taken rest :=
  taken_append [step] rest

theorem next_done (run : CopyRun) (step : CopyStep) :
    (step.done run).next = run.next.plus (taken [step]) := by
  cases step with
  | take => rfl
  | link node => simp only [done]; split <;> rfl
  | announce old copy path => rfl
  | enter old copy => rfl

theorem scope_done (run : CopyRun) (step : CopyStep) :
    (step.done run).scope = run.scope.enterAll (entries [step]) := by
  cases step with
  | take => rfl
  | link node => simp only [done]; split <;> rfl
  | announce old copy path => rfl
  | enter old copy => rfl

end CopyStep

open CopyStep

namespace CopyRun

@[simp]
theorem after_nil (run : CopyRun) : run.after [] = run := rfl

theorem after_cons (run : CopyRun) (step : CopyStep) (rest : List CopyStep) :
    run.after (step :: rest) = (step.done run).after rest := rfl

theorem after_append (run : CopyRun) (first second : List CopyStep) :
    run.after (first ++ second) = (run.after first).after second :=
  List.foldl_append

theorem next_after (run : CopyRun) (steps : List CopyStep) :
    (run.after steps).next = run.next.plus (taken steps) := by
  induction steps generalizing run with
  | nil => rfl
  | cons step rest ih =>
      rw [after_cons, ih, next_done, NodeId.plus_plus, ← taken_cons]

theorem scope_after (run : CopyRun) (steps : List CopyStep) :
    (run.after steps).scope = run.scope.enterAll (entries steps) := by
  induction steps generalizing run with
  | nil => rfl
  | cons step rest ih =>
      rw [after_cons, ih, scope_done, ← CopyScope.enterAll_append, ← entries_cons]

end CopyRun

namespace CopyStep

variable {step : CopyStep} {steps first second : List CopyStep}

theorem perform_of_allowed {run : CopyRun} (allowed : step.Allowed run.scope) :
    step.perform.exec run = (.ok (), step.done run) := by
  cases step with
  | take => rfl
  | link node =>
      cases found : run.scope.copyOf? node.target with
      | some copy =>
          simp [perform, exec_bind, relink, done, CopyScope.target, found]
      | none =>
          have external : node.target ∈ run.scope.external :=
            allowed.resolve_left (CopyScope.copyOf?_eq_none_iff.mp found)
          simp [perform, exec_bind, relink, done, CopyScope.target, found, external]
  | announce old copy path => rfl
  | enter old copy =>
      have absent := CopyScope.copyOf?_eq_none_iff.mpr allowed
      simp [perform, register, done, absent]

/-- A second copy of a node is entered before the fault is noticed. -/
theorem perform_enter_of_copied {run : CopyRun} {old copy : NodeId} (known : old ∈ run.scope.copied) :
    (enter old copy).perform.exec run = (.error (.copiedTwice old), (enter old copy).done run) := by
  have present := CopyScope.copyOf?_isSome_iff.mpr known
  simp [perform, register, done, present]

/-- A dangling reference leaves nothing but its report. -/
theorem perform_link_of_unreached {run : CopyRun} {node : Reference}
    (dangling : ¬run.scope.Reaches node.target) :
    (link node).perform.exec run =
      (.error (.dangling node.target node.span),
        run.log (.internalError (danglingReport node.target node.span))) := by
  rw [CopyScope.Reaches, not_or] at dangling
  have absent := CopyScope.copyOf?_eq_none_iff.mpr dangling.1
  simp [perform, exec_bind, relink, absent, dangling.2]

theorem not_allowed_cases {scope : CopyScope} (refused : ¬step.Allowed scope) :
    (∃ old copy, step = .enter old copy ∧ old ∈ scope.copied) ∨
      ∃ node, step = .link node ∧ ¬scope.Reaches node.target := by
  cases step with
  | take => exact absurd trivial refused
  | link node => exact .inr ⟨node, rfl, refused⟩
  | announce old copy path => exact absurd trivial refused
  | enter old copy => exact .inl ⟨old, copy, rfl, not_not.mp refused⟩

theorem performAll_append (first second : List CopyStep) :
    performAll (first ++ second) = (do performAll first; performAll second) := by
  induction first with
  | nil => rfl
  | cons step rest ih => simp only [List.cons_append, performAll, ih, bind_assoc]

end CopyStep

def CopyScope.Admits (scope : CopyScope) : List CopyStep → Prop
  | [] => True
  | step :: rest => step.Allowed scope ∧ (scope.enterAll (entries [step])).Admits rest

namespace CopyStep

variable {steps first second : List CopyStep}

theorem admits_append {scope : CopyScope} :
    scope.Admits (first ++ second) ↔
      scope.Admits first ∧ (scope.enterAll (entries first)).Admits second := by
  induction first generalizing scope with
  | nil => simp [CopyScope.Admits]
  | cons step rest ih =>
      rw [List.cons_append, CopyScope.Admits, CopyScope.Admits, ih, entries_cons step rest,
        CopyScope.enterAll_append, and_assoc]

theorem performAll_of_admits {run : CopyRun} (admitted : run.scope.Admits steps) :
    (performAll steps).exec run = (.ok (), run.after steps) := by
  induction steps generalizing run with
  | nil => rfl
  | cons step rest ih =>
      obtain ⟨allowed, others⟩ := admitted
      rw [performAll, exec_bind_ok (perform_of_allowed allowed), CopyRun.after_cons]
      exact ih (scope_done run step ▸ others)

/-- What an action comes to that performs the steps and, if they go well, ends with the value. The
first step that is not allowed stops it: an entry for a node that has one already, which is made all
the same, or a reference to nowhere, which leaves nothing but its report. -/
inductive Ends {α : Type} (run : CopyRun) (steps : List CopyStep) (value : α) :
    Except CopyFault α × CopyRun → Prop where
  | completed (admitted : run.scope.Admits steps) : Ends run steps value (.ok value, run.after steps)
  | copiedTwice {before behind : List CopyStep} {old copy : NodeId}
      (split : steps = before ++ .enter old copy :: behind) (admitted : run.scope.Admits before)
      (known : old ∈ (run.after before).scope.copied) :
      Ends run steps value (.error (.copiedTwice old), run.after (before ++ [.enter old copy]))
  | dangling {before behind : List CopyStep} {node : Reference}
      (split : steps = before ++ .link node :: behind) (admitted : run.scope.Admits before)
      (unreached : ¬(run.after before).scope.Reaches node.target) :
      Ends run steps value (.error (.dangling node.target node.span),
        (run.after before).log (.internalError (danglingReport node.target node.span)))

theorem performAll_ends (run : CopyRun) (steps : List CopyStep) :
    Ends run steps () ((performAll steps).exec run) := by
  induction steps generalizing run with
  | nil => exact .completed trivial
  | cons step rest ih =>
      by_cases allowed : step.Allowed run.scope
      · rw [performAll, exec_bind_ok (perform_of_allowed allowed)]
        have others := ih (step.done run)
        have admits {made : List CopyStep} (admitted : (step.done run).scope.Admits made) :
            run.scope.Admits (step :: made) := ⟨allowed, scope_done run step ▸ admitted⟩
        generalize (performAll rest).exec (step.done run) = result at others ⊢
        cases others with
        | completed admitted => exact .completed (admits admitted)
        | copiedTwice split admitted known =>
            exact .copiedTwice (congrArg (step :: ·) split) (admits admitted) known
        | dangling split admitted unreached =>
            exact .dangling (congrArg (step :: ·) split) (admits admitted) unreached
      · rw [performAll, exec_bind]
        obtain ⟨old, copy, rfl, known⟩ | ⟨node, rfl, unreached⟩ := not_allowed_cases allowed
        · rw [perform_enter_of_copied known]
          exact .copiedTwice (List.nil_append _).symm trivial known
        · rw [perform_link_of_unreached unreached]
          exact .dangling (List.nil_append _).symm trivial unreached

theorem performAll_ok_iff {run after : CopyRun} :
    (performAll steps).exec run = (.ok (), after) ↔
      run.scope.Admits steps ∧ after = run.after steps := by
  constructor
  · intro performed
    have ends := performAll_ends run steps
    rw [performed] at ends
    cases ends with
    | completed admitted => exact ⟨admitted, rfl⟩
  · rintro ⟨admitted, rfl⟩
    exact performAll_of_admits admitted

namespace Ends

variable {α : Type} {run : CopyRun} {value : α} {result : Except CopyFault α × CopyRun}

/-- However the steps end, what they have entered and taken is that of some first steps of them. -/
theorem reaches (ends : Ends run steps value result) :
    ∃ made, made <+: steps ∧ result.2.scope = run.scope.enterAll (entries made) ∧
      result.2.next = run.next.plus (taken made) := by
  cases ends with
  | completed admitted =>
      exact ⟨steps, List.prefix_rfl, run.scope_after steps, run.next_after steps⟩
  | copiedTwice split admitted known =>
      subst split
      exact ⟨_, ⟨_, List.append_assoc _ _ _⟩, run.scope_after _, run.next_after _⟩
  | dangling split admitted unreached =>
      subst split
      exact ⟨_, List.prefix_append _ _, run.scope_after _, run.next_after _⟩

/-- Steps that enter each node once stop only at one that was entered before them. -/
theorem known_of_once {before behind : List CopyStep} {old copy : NodeId}
    (once : (entered (before ++ .enter old copy :: behind)).Nodup)
    (known : old ∈ (run.after before).scope.copied) : old ∈ run.scope.copied := by
  rw [CopyRun.scope_after, CopyScope.mem_copied_enterAll] at known
  rw [entered_append] at once
  have head : old ∈ entered (enter old copy :: behind) := List.mem_cons_self
  exact known.resolve_left fun earlier => (List.nodup_append.mp once).2.2 old earlier old head rfl

/-- Steps that enter new nodes, each of them once, can only fail at a dangling reference. -/
theorem error_dangling {fault : CopyFault} {after : CopyRun}
    (ends : Ends run steps value (.error fault, after)) (once : (entered steps).Nodup)
    (new : ∀ old ∈ entered steps, old ∉ run.scope.copied) :
    ∃ target span, fault = .dangling target span := by
  cases ends with
  | copiedTwice split admitted known =>
      subst split
      rw [entered_append] at new
      exact absurd (known_of_once once known) (new _ (List.mem_append_right _ List.mem_cons_self))
  | @dangling before behind node split admitted unreached => exact ⟨node.target, node.span, rfl⟩

end Ends

/-- The references that the steps link, each with the nodes that were entered before it. -/
def linkings : List CopyStep → List (Reference × List NodeId)
  | [] => []
  | .link node :: rest => (node, []) :: linkings rest
  | .enter old _ :: rest => (linkings rest).map fun linking => (linking.1, old :: linking.2)
  | _ :: rest => linkings rest

theorem linkings_append (first second : List CopyStep) :
    linkings (first ++ second) =
      linkings first ++
        (linkings second).map fun linking => (linking.1, entered first ++ linking.2) := by
  induction first with
  | nil => simp [linkings, entered]
  | cons step rest ih => cases step <;> simp [linkings, ih, entered]

/-- Steps all go well exactly if they enter new nodes, each of them once, and each reference that
they link leads to a node that is copied or allowed by then. -/
theorem admits_iff {scope : CopyScope} :
    scope.Admits steps ↔ (entered steps).Nodup ∧ (∀ old ∈ entered steps, old ∉ scope.copied) ∧
      ∀ linking ∈ linkings steps, scope.Reaches linking.1.target ∨ linking.1.target ∈ linking.2 := by
  induction steps generalizing scope with
  | nil => simp [CopyScope.Admits, entered, linkings]
  | cons step rest ih =>
      rw [CopyScope.Admits, ih]
      cases step with
      | take => simp [Allowed, linkings, entered]
      | announce old copy path => simp [Allowed, linkings, entered]
      | link node =>
          simp only [Allowed, linkings, entered, entries, CopyScope.enterAll_nil,
            List.forall_mem_cons, List.not_mem_nil, or_false]
          tauto
      | enter old copy =>
          have outside : (∀ other ∈ entered rest, other ∉ (scope.enter old copy).copied) ↔
              old ∉ entered rest ∧ ∀ other ∈ entered rest, other ∉ scope.copied := by
            simp only [CopyScope.mem_copied_enter, not_or, forall_and]
            exact and_congr_left fun _ => ⟨fun apart member => apart old member rfl,
              fun absent other member same => absent (same ▸ member)⟩
          have linked : (∀ linking ∈ linkings (enter old copy :: rest),
                scope.Reaches linking.1.target ∨ linking.1.target ∈ linking.2) ↔
              ∀ linking ∈ linkings rest,
                (scope.enter old copy).Reaches linking.1.target ∨ linking.1.target ∈ linking.2 := by
            simp only [linkings, List.forall_mem_map, CopyScope.reaches_enter, List.mem_cons,
              or_left_comm, or_assoc]
          rw [linked]
          simp only [Allowed, entered, entries, CopyScope.enterAll_cons, CopyScope.enterAll_nil,
            List.map_cons, List.nodup_cons, List.forall_mem_cons] at outside ⊢
          rw [outside]
          tauto

end CopyStep

end TemplateIR
