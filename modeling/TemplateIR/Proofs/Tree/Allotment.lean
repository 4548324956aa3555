import Mathlib.Data.List.Nodup
import TemplateIR.Proofs.Tree.Pairing

/-!
The identities that a copy hands out. They are the ones behind the last one given, without a gap,
and none is entered before it is taken, so also a copy that breaks off has entered nothing but new
identities.
-/
namespace TemplateIR

open CopyStep

/-- Whether every copy is entered under a number below `limit` or one taken in time. -/
def CopyStep.InTime (limit : Nat) : List CopyStep → Prop
  | [] => True
  | .take :: rest => InTime (limit + 1) rest
  | .enter _ copy :: rest => copy.number < limit ∧ InTime limit rest
  | _ :: rest => InTime limit rest

theorem CopyStep.inTime_append {limit : Nat} {first second : List CopyStep} :
    InTime limit (first ++ second) ↔ InTime limit first ∧ InTime (limit + taken first) second := by
  induction first generalizing limit with
  | nil => simp [InTime]
  | cons step rest ih =>
      cases step with
      | take =>
          have shift : limit + 1 + taken rest = limit + (taken rest + 1) := by omega
          simp only [List.cons_append, InTime, ih, taken, shift]
      | link node => simp only [List.cons_append, InTime, ih, taken]
      | announce old copy path => simp only [List.cons_append, InTime, ih, taken]
      | enter old copy => simp only [List.cons_append, InTime, ih, taken, and_assoc]

theorem CopyStep.InTime.lt {limit : Nat} {steps : List CopyStep} (inTime : InTime limit steps) :
    ∀ pair ∈ entries steps, pair.2.number < limit + taken steps := by
  induction steps generalizing limit with
  | nil => simp
  | cons step rest ih =>
      intro pair member
      cases step with
      | take =>
          have bound := ih inTime pair member
          simp only [taken]
          omega
      | link node => exact ih inTime pair member
      | announce old copy path => exact ih inTime pair member
      | enter old copy =>
          rcases List.mem_cons.mp member with rfl | later
          · exact Nat.lt_of_lt_of_le inTime.1 (Nat.le_add_right _ _)
          · exact ih inTime.2 pair later

/-- The steps enter each identity that they take as one copy, from `next` on and without a gap. -/
structure CopyStep.Allots (next : NodeId) (steps : List CopyStep) : Prop where
  gapless : ((entries steps).map (·.2.number)).Perm (List.range' next.number (taken steps))
  inTime : InTime next.number steps

namespace CopyStep.Allots

variable {next : NodeId} {first second : List CopyStep}

theorem append (begun : Allots next first) (continued : Allots (next.plus (taken first)) second) :
    Allots next (first ++ second) where
  gapless := by
    rw [entries_append, List.map_append, taken_append, ← List.range'_append_1]
    exact begun.gapless.append continued.gapless
  inTime := inTime_append.mpr ⟨begun.inTime, continued.inTime⟩

theorem inTurn {α : Type} {steps : α → NodeId → List CopyStep}
    (each : ∀ item next, Allots next (steps item next)) (next : NodeId) (items : List α) :
    Allots next (stepsInTurn steps next items) := by
  induction items generalizing next with
  | nil => exact ⟨.refl _, trivial⟩
  | cons item rest ih => exact (each item next).append (ih _)

end CopyStep.Allots

theorem Binding.allots (node : Binding) (next : NodeId) : Allots next (node.steps next) where
  gapless := .refl _
  inTime := ⟨Nat.lt_succ_self _, trivial⟩

theorem StringLiteral.allots (node : StringLiteral) (next : NodeId) :
    Allots next (node.steps next) where
  gapless := .refl _
  inTime := ⟨Nat.lt_succ_self _, trivial⟩

theorem Reference.allots (node : Reference) (next : NodeId) : Allots next (node.steps next) where
  gapless := .refl _
  inTime := ⟨Nat.lt_succ_self _, trivial⟩

theorem Import.allots (node : Import) (next : NodeId) : Allots next (node.steps next) := by
  apply (Allots.inTurn Binding.allots next node.bindings).append
  constructor
  · exact .swap _ _ []
  · simp only [InTime, StringLiteral.steps, bindingSteps, NodeId.succ, NodeId.number_plus,
      List.cons_append, List.nil_append, and_true]
    omega

theorem Print.allots (node : Print) (next : NodeId) : Allots next (node.steps next) := by
  obtain ⟨id, span, expr⟩ := node
  have early : next.number < next.number + 1 + 1 := by omega
  cases expr with
  | literal node => exact ⟨.swap _ _ [], Nat.lt_succ_self _, early, trivial⟩
  | reference node => exact ⟨.swap _ _ [], Nat.lt_succ_self _, early, trivial⟩

theorem Statement.importSteps_allots (statement : Statement) (next : NodeId) :
    Allots next (statement.importSteps next) := by
  cases statement with
  | importing node => exact node.allots next
  | printing node => exact ⟨.refl _, trivial⟩

theorem Statement.printSteps_allots (statement : Statement) (next : NodeId) :
    Allots next (statement.printSteps next) := by
  cases statement with
  | importing node => exact ⟨.refl _, trivial⟩
  | printing node => exact node.allots next

theorem File.allots (node : File) (next : NodeId) : Allots next (node.steps next) := by
  apply (Allots.inTurn Statement.importSteps_allots next node.statements).append
  apply (Allots.inTurn Statement.printSteps_allots _ node.statements).append
  exact ⟨.refl _, Nat.lt_succ_self _, trivial⟩

theorem Node.allots (node : Node) (next : NodeId) : Allots next (node.steps next) := by
  cases node with
  | file node => exact node.allots next
  | importing node => exact node.allots next
  | printing node => exact node.allots next
  | literal node => exact node.allots next
  | reference node => exact node.allots next
  | binding node => exact node.allots next

namespace Node

theorem length_ids_copied (node : Node) (run : CopyRun) :
    (node.copied run).ids.length = node.ids.length :=
  length_ids_of_facts (node.facts_copied run)

theorem entered_perm (node : Node) (next : NodeId) : (entered (node.steps next)).Perm node.ids := by
  have paired := (node.entries_perm { next }).map Prod.fst
  rwa [List.map_fst_zip (Nat.le_of_eq (node.length_ids_copied _).symm)] at paired

theorem ids_copied_perm (node : Node) (run : CopyRun) :
    ((node.copied run).ids.map NodeId.number).Perm
      (List.range' run.next.number (taken (node.steps run.next))) := by
  have paired := (node.entries_perm run).map Prod.snd
  rw [List.map_snd_zip (Nat.le_of_eq (node.length_ids_copied run))] at paired
  have numbered := (paired.map NodeId.number).symm
  rw [List.map_map] at numbered
  exact numbered.trans (node.allots run.next).gapless

theorem nodup_ids_copied (node : Node) (run : CopyRun) : (node.copied run).ids.Nodup :=
  List.Nodup.of_map NodeId.number ((node.ids_copied_perm run).nodup_iff.mpr List.nodup_range')

theorem ids_copied_bounds (node : Node) (run : CopyRun) :
    ∀ id ∈ (node.copied run).ids, run.next.number ≤ id.number ∧
      id.number < (run.after (node.steps run.next)).next.number := by
  intro id member
  have ranged := (node.ids_copied_perm run).mem_iff.mp (List.mem_map_of_mem member)
  rw [CopyRun.next_after]
  exact List.mem_range'_1.mp ranged

end Node
end TemplateIR
