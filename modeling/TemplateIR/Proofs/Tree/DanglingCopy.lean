import TemplateIR.Proofs.Tree.FaultText
import TemplateIR.Proofs.Tree.Numbering
import TemplateIR.Proofs.Tree.Remains

/-!
The copy of a file that meets a reference to nowhere. It stops at the first such reference, when all
imports and all prints before that one are copied, and it says so in its last event.
-/
namespace TemplateIR

open CopyM CopyStep

namespace CopyStep

theorem quiet_done (run : CopyRun) (step : CopyStep) :
    ∃ quiet, (step.done run).events = run.events ++ quiet ∧
      ∀ event ∈ quiet, event.record.level ≠ .error := by
  cases step with
  | take => exact ⟨[], by simp [done, CopyRun.advance]⟩
  | link node =>
      simp only [done]
      split
      · exact ⟨[_], rfl, by simp [TreeEvent.record]⟩
      · exact ⟨[_, _], List.append_assoc _ _ _, by simp [TreeEvent.record]⟩
  | announce old copy path => exact ⟨[_], rfl, by simp [TreeEvent.record]⟩
  | enter old copy => exact ⟨[_], rfl, by simp [TreeEvent.record]⟩

/-- Steps that go well report no error. -/
theorem quiet_after (run : CopyRun) (steps : List CopyStep) :
    ∃ quiet, (run.after steps).events = run.events ++ quiet ∧
      ∀ event ∈ quiet, event.record.level ≠ .error := by
  induction steps generalizing run with
  | nil => exact ⟨[], by simp⟩
  | cons step rest ih =>
      obtain ⟨first, begun, silent⟩ := quiet_done run step
      obtain ⟨others, continued, still⟩ := ih (step.done run)
      refine ⟨first ++ others, ?_, List.forall_mem_append.mpr ⟨silent, still⟩⟩
      rw [CopyRun.after_cons, continued, begun, List.append_assoc]

theorem performAll_of_dangling {before behind : List CopyStep} {node : Reference} {run : CopyRun}
    (admitted : run.scope.Admits before) (dangling : ¬(run.after before).scope.Reaches node.target) :
    (performAll (before ++ .link node :: behind)).exec run =
      (.error (.dangling node.target node.span),
        (run.after before).log (.internalError (danglingReport node.target node.span))) := by
  rw [performAll_append, exec_bind_ok (performAll_of_admits admitted), performAll,
    exec_bind_error (perform_link_of_unreached dangling)]

end CopyStep

theorem Statement.eq_of_reference? {statement : Statement} {reference : Reference}
    (held : statement.reference? = some reference) :
    ∃ id span, statement = .printing ⟨id, span, .reference reference⟩ := by
  cases statement with
  | importing node => cases held
  | printing node =>
      obtain ⟨id, span, expr⟩ := node
      cases expr with
      | literal node => cases held
      | reference node =>
          cases held
          exact ⟨id, span, rfl⟩

namespace File

/-- Whether `reference`, in the statement at `index`, leads to a node that the scope knows or allows
or that is in view. -/
def Resolves (node : File) (scope : CopyScope) (index : Nat) (reference : Reference) : Prop :=
  (reference.target ∈ scope.copied ∨ reference.target ∈ scope.external) ∨
    reference.target ∈ node.inView index

/-- The print at `index` is the first one whose reference leads nowhere. -/
structure FirstDangling (node : File) (scope : CopyScope) (index : Nat) (reference : Reference) :
    Prop where
  held : node.referenceAt? index = some reference
  dangling : ¬node.Resolves scope index reference
  others : ∀ earlier < index, ∀ other, node.referenceAt? earlier = some other →
    node.Resolves scope earlier other

/-- What a copy leaves that stops at `reference` in the print at `index`. -/
structure Abandoned (node : File) (index : Nat) (reference : Reference) (before after : CopyRun) :
    Prop where
  /-- All imports and the prints before this one have their copies. -/
  counterparts : after.scope.counterparts.pairs.Perm
    (before.scope.counterparts.pairs ++ numberedFrom before.next (node.numberedBefore index))
  external : after.scope.external = before.scope.external
  /-- The print itself has taken an identity in vain. -/
  next : after.next = before.next.plus ((node.numberedBefore index).length + 1)
  events : ∃ quiet report, (∀ event ∈ quiet, event.record.level ≠ .error) ∧
    report = .internalError (danglingReport reference.target reference.span) ∧
    report.record.level = .error ∧ after.events = before.events ++ quiet ++ [report]

variable {node : File} {scope : CopyScope} {index : Nat} {reference : Reference}

theorem printSteps_eq_of_referenceAt? (next : NodeId)
    (held : node.referenceAt? index = some reference) :
    ∃ behind, node.printSteps next =
      stepsInTurn Statement.printSteps next (node.statements.take index) ++
        .take :: .link reference :: behind := by
  obtain ⟨statement, listed, holds⟩ := Option.bind_eq_some_iff.mp held
  obtain ⟨inside, rfl⟩ := List.getElem?_eq_some_iff.mp listed
  have split := List.take_append_drop index node.statements
  rw [List.drop_eq_getElem_cons inside] at split
  obtain ⟨id, span, child⟩ := Statement.eq_of_reference? holds
  rw [child] at split
  have steps := stepsInTurn_append Statement.printSteps next (node.statements.take index)
    (.printing ⟨id, span, .reference reference⟩ :: node.statements.drop (index + 1))
  rw [split] at steps
  exact ⟨_, steps⟩

theorem steps_eq_of_referenceAt? (next : NodeId) (held : node.referenceAt? index = some reference) :
    ∃ behind, node.steps next =
      (node.stepsBefore next index ++ [.take]) ++ .link reference :: behind := by
  let prints := next.plus (taken (node.importSteps next))
  obtain ⟨behind, split⟩ := printSteps_eq_of_referenceAt? prints held
  have whole : node.steps next = node.importSteps next ++ (node.printSteps prints ++
      [.take, .enter node.id (prints.plus (taken (node.printSteps prints)))]) := rfl
  rw [whole, split]
  refine ⟨behind ++ [.take, .enter node.id (prints.plus (taken (node.printSteps prints)))], ?_⟩
  simp only [stepsBefore, prints, split, List.append_assoc, List.cons_append, List.nil_append]

/-- The references before the statement at `index` are linked with the same nodes in view as in the
whole file. -/
theorem forall_linkings_stepsBefore
    (resolved : ∀ earlier < index, ∀ other, node.referenceAt? earlier = some other →
      node.Resolves scope earlier other) (next : NodeId) :
    ∀ linking ∈ linkings (node.stepsBefore next index),
      scope.Reaches linking.1.target ∨ linking.1.target ∈ linking.2 := by
  -- These are the prints of a file that ends there, but the imports behind it are in view too.
  let front : File := { node with statements := node.statements.take index }
  let prints := next.plus (taken (node.importSteps next))
  have linked : linkings (node.stepsBefore next index) =
      (linkings (front.printSteps prints)).map fun linking =>
        (linking.1, entered (node.importSteps next) ++ linking.2) := by
    rw [stepsBefore, linkings_append, linkings_importSteps, List.nil_append]
    rfl
  rw [linked, List.forall_mem_map]
  intro linking member
  obtain ⟨earlier, held, known⟩ := mem_linkings_printSteps.mp member
  have before : earlier < index ∧ node.referenceAt? earlier = some linking.1 := by
    have held : (node.statements.take index)[earlier]?.bind Statement.reference? =
      some linking.1 := held
    rw [List.getElem?_take] at held
    split_ifs at held with before
    · exact ⟨before, held⟩
    · cases held
  have shorter : front.statements.take earlier = node.statements.take earlier := by
    rw [List.take_take, Nat.min_eq_left (Nat.le_of_lt before.1)]
  rw [known, shorter]
  exact (resolved earlier before.1 linking.1 before.2).imp_right
    (node.entered_before_perm next prints earlier).mem_iff.mpr

theorem admits_stepsBefore (distinct : node.ids.Nodup) (new : ∀ id ∈ node.ids, id ∉ scope.copied)
    (resolved : ∀ earlier < index, ∀ other, node.referenceAt? earlier = some other →
      node.Resolves scope earlier other) (next : NodeId) :
    scope.Admits (node.stepsBefore next index) := by
  have part := entered_sublist (node.stepsBefore_prefix next index)
  have all := (Node.file node).entered_perm next
  refine admits_iff.mpr ⟨?_, ?_, forall_linkings_stepsBefore resolved next⟩
  · exact (all.nodup_iff.mpr distinct).sublist part
  · intro old member
    exact new old (all.mem_iff.mp (part.subset member))

theorem reaches_after_stepsBefore {run : CopyRun} {old : NodeId} :
    (run.after (node.stepsBefore run.next index)).scope.Reaches old ↔
      (old ∈ run.scope.copied ∨ old ∈ run.scope.external) ∨ old ∈ node.inView index := by
  have keys : old ∈ (entries (node.stepsBefore run.next index)).map Prod.fst ↔
      old ∈ node.inView index := (node.entered_stepsBefore_perm run.next index).mem_iff
  rw [CopyScope.Reaches, CopyRun.scope_after, CopyScope.mem_copied_enterAll,
    CopyScope.external_enterAll, keys]
  tauto

theorem abandoned_stepsBefore {run : CopyRun} (distinct : node.ids.Nodup)
    (new : ∀ id ∈ node.ids, id ∉ run.scope.copied) (index : Nat) (reference : Reference) :
    node.Abandoned index reference run
      ((run.after (node.stepsBefore run.next index)).advance.log
        (.internalError (danglingReport reference.target reference.span))) := by
  have numbers := node.stepsBefore_numbers run.next index
  have part := entered_sublist (node.stepsBefore_prefix run.next index)
  have all := (Node.file node).entered_perm run.next
  have once := (all.nodup_iff.mpr distinct).sublist part
  have unknown := fun old member => new old (all.mem_iff.mp (part.subset member))
  obtain ⟨quiet, logged, silent⟩ := quiet_after run (node.stepsBefore run.next index)
  constructor
  case counterparts =>
    change (run.after _).scope.counterparts.pairs.Perm _
    rw [CopyRun.scope_after, CopyScope.pairs_enterAll once unknown]
    exact numbers.entries.append_left _
  case external =>
    change (run.after _).scope.external = _
    rw [CopyRun.scope_after, CopyScope.external_enterAll]
  case next =>
    change (run.after _).next.succ = _
    rw [CopyRun.next_after, numbers.taken]
    rfl
  case events =>
    refine ⟨quiet, _, silent, rfl, rfl, ?_⟩
    rw [← logged]
    rfl

/-- A file whose nodes are distinct and new is copied up to the first reference that leads nowhere,
and no further. -/
theorem copy_firstDangling {run : CopyRun} (distinct : node.ids.Nodup)
    (new : ∀ id ∈ node.ids, id ∉ run.scope.copied)
    (first : node.FirstDangling run.scope index reference) :
    ∃ fault after, node.copy.exec run = (.error fault, after) ∧
      fault = .dangling reference.target reference.span ∧
      fault.message = "Internal compiler error: reference to node #" ++
        toString reference.target.number ++ " which is not part of the copied tree (file " ++
        toString reference.span.file.index.toNat ++ ", " ++
        toString reference.span.start.toNat ++ ".." ++
        toString reference.span.stop.toNat ++ ")" ∧
      node.Abandoned index reference run after := by
  obtain ⟨behind, split⟩ := steps_eq_of_referenceAt? run.next first.held
  have admitted : run.scope.Admits (node.stepsBefore run.next index ++ [.take]) :=
    admits_append.mpr ⟨admits_stepsBefore distinct new first.others run.next, trivial, trivial⟩
  have reached : run.after (node.stepsBefore run.next index ++ [.take]) =
      (run.after (node.stepsBefore run.next index)).advance := CopyRun.after_append _ _ _
  have dangling :
      ¬(run.after (node.stepsBefore run.next index ++ [.take])).scope.Reaches reference.target := by
    rw [reached]
    exact fun found => first.dangling (reaches_after_stepsBefore.mp found)
  have stopped := split ▸ performAll_of_dangling admitted dangling
  rw [reached] at stopped
  refine ⟨_, _, (node.copy_follows run).error_of stopped, rfl, ?_, ?_⟩
  · exact CopyFault.message_dangling reference.target reference.span
  · exact abandoned_stepsBefore distinct new index reference

/-- The second print refers to a node that is not there, and so does the last, behind the import. -/
def looseEnded : File where
  id := ⟨10⟩
  span := .synthetic
  path := "loose.soy"
  statements := [
    .printing ⟨⟨2⟩, .synthetic, .reference ⟨⟨1⟩, .synthetic, "Message", ⟨5⟩⟩⟩,
    .printing ⟨⟨4⟩, .synthetic, .reference ⟨⟨3⟩, .synthetic, "gone", ⟨77⟩⟩⟩,
    .importing ⟨⟨7⟩, .synthetic, ⟨⟨6⟩, .synthetic, "m.proto"⟩, [⟨⟨5⟩, .synthetic, "Message"⟩], .schema⟩,
    .printing ⟨⟨9⟩, .synthetic, .reference ⟨⟨8⟩, .synthetic, "lost", ⟨99⟩⟩⟩]

theorem firstDangling_looseEnded :
    looseEnded.FirstDangling {} 1 ⟨⟨3⟩, .synthetic, "gone", ⟨77⟩⟩ where
  held := rfl
  dangling := by simp [Resolves, CopyScope.copied, Counterparts.keys]; decide
  others := by
    intro earlier before other held
    obtain rfl : earlier = 0 := by omega
    cases held
    exact .inr (by decide)

theorem copy_firstDangling_looseEnded :
    ∃ fault after, looseEnded.copy.exec { next := ⟨11⟩ } = (.error fault, after) ∧
      after.next = ⟨17⟩ ∧ after.scope.counterparts.pairs = [
        (⟨5⟩, ⟨11⟩), (⟨6⟩, ⟨13⟩), (⟨7⟩, ⟨12⟩), (⟨1⟩, ⟨15⟩), (⟨2⟩, ⟨14⟩)] ∧
      looseEnded.Abandoned 1 ⟨⟨3⟩, .synthetic, "gone", ⟨77⟩⟩ { next := ⟨11⟩ } after := by
  have distinct : looseEnded.ids.Nodup := by decide
  have new : ∀ id ∈ looseEnded.ids, id ∉ ({} : CopyScope).copied := fun _ _ => List.not_mem_nil
  have first : looseEnded.FirstDangling ({ next := ⟨11⟩ } : CopyRun).scope 1 _ :=
    firstDangling_looseEnded
  obtain ⟨fault, after, failed, -, -, abandoned⟩ := copy_firstDangling distinct new first
  refine ⟨fault, after, failed, ?_, ?_, abandoned⟩
  · exact (Prod.mk.inj failed).2 ▸ rfl
  · exact (Prod.mk.inj failed).2 ▸ rfl

end File
end TemplateIR
