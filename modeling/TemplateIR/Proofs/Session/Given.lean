import TemplateIR.Proofs.Session.Step

/-!
The identities that calls give. A call that makes a node answers with the identity of that node. A
copy gives as many as its steps take, and one that breaks off has given those that were taken until
then, also to nodes that nobody will ever see.
-/
namespace TemplateIR

open CopyM CopyStep

namespace NodeId

variable {first middle last id : NodeId}

/-- The identities from `first` on and before `last`. -/
def upTo (first last : NodeId) : List NodeId :=
  (List.range' first.number (last.number - first.number)).map NodeId.mk

@[simp]
theorem upTo_self (first : NodeId) : first.upTo first = [] := by
  rw [upTo, Nat.sub_self]
  rfl

@[simp]
theorem upTo_succ (first : NodeId) : first.upTo first.succ = [first] := by
  rw [upTo, succ, Nat.add_sub_cancel_left]
  rfl

theorem upTo_append (begun : first.number ≤ middle.number) (continued : middle.number ≤ last.number) :
    first.upTo middle ++ middle.upTo last = first.upTo last := by
  have size : last.number - first.number =
      (middle.number - first.number) + (last.number - middle.number) := by omega
  have start : middle.number = first.number + (middle.number - first.number) := by omega
  rw [upTo, upTo, upTo, ← List.map_append, size, ← List.range'_append_1, ← start]

theorem mem_upTo_iff : id ∈ first.upTo last ↔ first.number ≤ id.number ∧ id.number < last.number := by
  rw [upTo, List.mem_map]
  constructor
  · rintro ⟨number, listed, rfl⟩
    rw [List.mem_range'_1] at listed
    change first.number ≤ number ∧ number < last.number
    omega
  · rintro ⟨above, below⟩
    exact ⟨id.number, List.mem_range'_1.mpr ⟨above, by omega⟩, rfl⟩

theorem nodup_upTo (first last : NodeId) : (first.upTo last).Nodup :=
  List.Nodup.map (fun _ _ same => congrArg NodeId.number same) List.nodup_range'

end NodeId

namespace CopyStep

/-- The identities that the steps take, one after the other, up to the first step that fails. -/
def given : List CopyStep → CopyRun → List NodeId
  | [], _ => []
  | step :: rest, run =>
    match step.perform.exec run with
    | (.error _, _) => []
    | (.ok _, later) => if step = .take then run.next :: given rest later else given rest later

theorem next_perform (step : CopyStep) (run : CopyRun) :
    (step.perform.exec run).2.next = run.next.plus (taken [step]) := by
  by_cases allowed : step.Allowed run.scope
  · rw [perform_of_allowed allowed, next_done]
  · obtain ⟨old, copy, rfl, known⟩ | ⟨node, rfl, unreached⟩ := not_allowed_cases allowed
    · rw [perform_enter_of_copied known, next_done]
    · rw [perform_link_of_unreached unreached]
      rfl

theorem next_le_performAll (steps : List CopyStep) (run : CopyRun) :
    run.next.number ≤ ((performAll steps).exec run).2.next.number := by
  obtain ⟨made, -, -, next⟩ := (performAll_ends run steps).reaches
  rw [next]
  exact Nat.le_add_right _ _

/-- The counter moves by one for each identity that is taken. -/
theorem given_eq (steps : List CopyStep) (run : CopyRun) :
    given steps run = run.next.upTo ((performAll steps).exec run).2.next := by
  induction steps generalizing run with
  | nil => exact run.next.upTo_self.symm
  | cons step rest ih =>
      have moved := step.next_perform run
      rw [given, performAll, exec_bind]
      cases performed : step.perform.exec run with
      | mk outcome later =>
          rw [performed] at moved
          replace moved : later.next = run.next.plus (taken [step]) := moved
          cases outcome with
          | error fault =>
              cases step with
              | take => cases performed
              | _ =>
                  replace moved : later.next = run.next := moved
                  simp only [moved, NodeId.upTo_self]
          | ok _ =>
              simp only [ih]
              cases step with
              | take =>
                  replace moved : later.next = run.next.succ := moved
                  have continued := next_le_performAll rest later
                  have begun : run.next.number ≤ later.next.number := by
                    rw [moved]
                    exact Nat.le_succ _
                  rw [if_pos rfl, ← NodeId.upTo_append begun continued, moved, NodeId.upTo_succ]
                  rfl
              | _ =>
                  replace moved : later.next = run.next := moved
                  rw [if_neg (by simp), moved]

end CopyStep

/-- The identities that a copy of the node takes in this state. -/
def Node.given (node : Node) (run : CopyRun) : List NodeId :=
  CopyStep.given (node.steps run.next) run

theorem Node.given_eq (node : Node) (run : CopyRun) :
    node.given run = run.next.upTo (node.copy.exec run).2.next := by
  rw [given, CopyStep.given_eq, node.copy_follows run, exec_bind]
  cases (performAll (node.steps run.next)).exec run with
  | mk outcome later => cases outcome <;> rfl

def Reply.identity? : Reply → Option NodeId
  | .identity id => some id
  | _ => none

namespace Session

/-- The identities that the call gives. -/
def given (session : Session) (call : Call) : List NodeId :=
  match call with
  | .fresh | .makeBinding .. | .makeLiteral .. | .makeReference .. | .makeReferenceTo ..
  | .makeImport .. | .makeImportOfExpr .. | .makePrint .. | .makeFile .. =>
    (session.step call).reply.identity?.toList
  | .copyIn _ path name =>
    let ids := (session.node? path).bind fun node =>
      (session.scopes.find? name).map fun scope => node.given { next := session.next, scope }
    ids.getD []
  | .duplicate _ path =>
    let ids := (session.node? path).map fun node =>
      node.given { next := session.next, scope := .allowing [] }
    ids.getD []
  | _ => []

variable {session rest : Session} {register : String}

/-- The call answers with the identity that the counter has passed, if it has passed one. -/
def Answers (session : Session) (outcome : Outcome) : Prop :=
  outcome.reply.identity?.toList = session.next.upTo outcome.session.next

theorem answers_of_kept {outcome : Outcome} (silent : outcome.reply.identity? = none)
    (kept : outcome.session.next = session.next) : session.Answers outcome := by
  rw [Answers, silent, kept, NodeId.upTo_self]
  rfl

theorem withSpan_answers {request : SpanRequest} {proceed : Span → Outcome}
    (each : ∀ span, session.Answers (proceed span)) :
    session.Answers (session.withSpan request proceed) :=
  withSpan_cases each fun _ => answers_of_kept rfl rfl

theorem withFound_answers {α : Type} {found : Option α} {proceed : α → Outcome}
    (each : ∀ value, found = some value → session.Answers (proceed value)) :
    session.Answers (session.withFound found proceed) :=
  withFound_cases each (answers_of_kept rfl rfl)

theorem make_answers {build : NodeId → Node} (same : rest.next = session.next)
    (named : (build rest.next).id = rest.next) : session.Answers (rest.make register build) := by
  have passed : (rest.make register build).session.next = session.next.succ :=
    congrArg NodeId.succ same
  rw [Answers, passed, NodeId.upTo_succ, ← same, ← named]
  rfl

theorem makeImport_answers {span : Span} {literal : StringLiteral} {bindings : List Binding}
    (same : rest.next = session.next) :
    session.Answers (rest.makeImport register span literal bindings) := by
  let build (_ : NodeId) : Node := .importing (Import.make rest.next span literal bindings)
  have made : session.Answers (rest.make register build) := make_answers same rfl
  exact made

theorem withSpan_next {request : SpanRequest} {proceed : Span → Outcome}
    (each : ∀ span, (proceed span).session.next = session.next) :
    (session.withSpan request proceed).session.next = session.next :=
  withSpan_cases (motive := fun outcome => outcome.session.next = session.next) each fun _ => rfl

theorem withFound_next {α : Type} {found : Option α} {proceed : α → Outcome}
    (each : ∀ value, found = some value → (proceed value).session.next = session.next) :
    (session.withFound found proceed).session.next = session.next :=
  withFound_cases (motive := fun outcome => outcome.session.next = session.next) each rfl

theorem copyIn_given (session : Session) (register path name : String) :
    session.given (.copyIn register path name) =
      session.next.upTo (session.step (.copyIn register path name)).session.next := by
  simp only [given, step]
  cases session.node? path with
  | none => exact session.next.upTo_self.symm
  | some node =>
      cases session.scopes.find? name with
      | none => exact session.next.upTo_self.symm
      | some scope =>
          simp only [withFound, next_afterCopy]
          exact node.given_eq { next := session.next, scope }

theorem duplicate_given (session : Session) (register path : String) :
    session.given (.duplicate register path) =
      session.next.upTo (session.step (.duplicate register path)).session.next := by
  simp only [given, step]
  cases session.node? path with
  | none => exact session.next.upTo_self.symm
  | some node =>
      simp only [withFound, next_afterCopy]
      rw [Option.map_some, Option.getD_some, node.given_eq, ← (node.exec_copyAndReport _).2]
      rfl

/-- A call gives the identities that the counter passes, and no others. -/
theorem given_step (session : Session) (call : Call) :
    session.given call = session.next.upTo (session.step call).session.next := by
  have none (kept : (session.step call).session.next = session.next) :
      [] = session.next.upTo (session.step call).session.next := by
    rw [kept, NodeId.upTo_self]
  cases call with
  | fresh => exact session.next.upTo_succ.symm
  | makeBinding | makeLiteral =>
      apply withSpan_answers
      intro span
      exact make_answers rfl rfl
  | makeReference | makeReferenceTo =>
      apply withSpan_answers
      intro span
      apply withFound_answers
      intro declaration _
      exact make_answers rfl rfl
  | asExpr register node =>
      apply none
      apply withFound_next
      intro ⟨expr, rest⟩ moved
      exact (take?_yields Expr.pick_preorder moved).next
  | asStatement register node =>
      apply none
      apply withFound_next
      intro ⟨statement, rest⟩ moved
      exact (take?_yields Statement.pick_preorder moved).next
  | makeImport register path bindings span =>
      apply withSpan_answers
      intro span
      apply withFound_answers
      intro ⟨path, rest⟩ moved
      apply withFound_answers
      intro ⟨bindings, last⟩ others
      have first := take?_yields StringLiteral.pick_preorder moved
      have taken := first.trans (takeAll?_yields Binding.pick_preorder others)
      exact makeImport_answers taken.next
  | makeImportOfExpr register path bindings span =>
      apply withSpan_answers
      intro span
      apply withFound_answers
      intro ⟨path, rest⟩ moved
      apply withFound_answers
      intro ⟨bindings, last⟩ others
      have first := take?_yields Expr.pick_preorder moved
      have taken := first.trans (takeAll?_yields Binding.pick_preorder others)
      cases path with
      | literal path => exact makeImport_answers taken.next
      | reference node => exact answers_of_kept rfl taken.next
  | makePrint register expr span =>
      apply withSpan_answers
      intro span
      apply withFound_answers
      intro ⟨expr, rest⟩ moved
      exact make_answers (take?_yields Expr.pick_preorder moved).next rfl
  | makeFile register path statements span =>
      apply withSpan_answers
      intro span
      apply withFound_answers
      intro ⟨statements, rest⟩ moved
      exact make_answers (takeAll?_yields Statement.pick_preorder moved).next rfl
  | copyIn register path name => exact session.copyIn_given register path name
  | duplicate register path => exact session.duplicate_given register path
  -- All the others leave the counter alone, whatever they find.
  | drop | literalValue | source | head | tree | walk | openScope | scopeSize | emitParts =>
      apply none
      apply withFound_next
      intro value _
      rfl
  | allow | copyOf =>
      apply none
      apply withFound_next
      intro scope _
      apply withFound_next
      intro id _
      rfl
  | register name old copy =>
      apply none
      apply withFound_next
      intro scope _
      apply withFound_next
      intro old _
      apply withFound_next
      intro copy _
      rfl
  | relink name target span =>
      apply none
      apply withSpan_next
      intro span
      apply withFound_next
      intro scope _
      apply withFound_next
      intro target _
      rfl

end Session
end TemplateIR
