import TemplateIR.Proofs.Tree.FileCopy

/-!
What is in view of a reference, in a file and in its copy. A node in view has its counterpart in view
of the copied reference.
-/
namespace TemplateIR

open CopyM CopyStep

theorem take_copiesInTurn {α β : Type} (steps : α → NodeId → List CopyStep)
    (copied : α → CopyRun → β) (run : CopyRun) (items : List α) (index : Nat) :
    (copiesInTurn steps copied run items).take index =
      copiesInTurn steps copied run (items.take index) := by
  induction items generalizing run index with
  | nil => simp [copiesInTurn]
  | cons item rest ih =>
      cases index with
      | zero => rfl
      | succ index => simp only [copiesInTurn, List.take_succ_cons, ih]

theorem mem_zip_iff {α β : Type} {left : List α} {right : List β} {first : α} {second : β} :
    (first, second) ∈ left.zip right ↔
      ∃ position : Nat, left[position]? = some first ∧ right[position]? = some second := by
  simp only [List.mem_iff_getElem?, List.getElem?_zip_eq_some]

theorem position_unique {α : Type} {items : List α} {item : α} {first second : Nat}
    (distinct : items.Nodup) (left : items[first]? = some item)
    (right : items[second]? = some item) : first = second :=
  (List.getElem?_inj (List.getElem?_eq_some_iff.mp left).1 distinct).mp (left.trans right.symm)

-- One pass copies the imports and one the prints, so each of the two lists is followed by itself.
theorem entries_importSteps_perm (statements : List Statement) (run imported : CopyRun) :
    (entries (stepsInTurn Statement.importSteps run.next statements)).Perm
      ((statements.flatMap Statement.importIds).zip
        ((copiedStatements run imported statements).flatMap Statement.importIds)) := by
  induction statements generalizing run imported with
  | nil => exact .refl _
  | cons statement rest ih =>
      cases statement with
      | importing node =>
          have others := ih (run.after (node.steps run.next)) imported
          rw [CopyRun.next_after] at others
          have sizes : node.ids.length = (node.copied run).ids.length :=
            length_ids_of_facts (node.facts_copied run).symm
          rw [copiedStatements_importing, stepsInTurn, entries_append, List.flatMap_cons,
            List.flatMap_cons, Statement.importIds, Statement.importIds, List.zip_append sizes]
          exact (node.entries_perm run).append others
      | printing node => exact ih run (imported.after (node.steps imported.next))

theorem entries_printSteps_perm (statements : List Statement) (run imported : CopyRun) :
    (entries (stepsInTurn Statement.printSteps imported.next statements)).Perm
      ((statements.flatMap Statement.printIds).zip
        ((copiedStatements run imported statements).flatMap Statement.printIds)) := by
  induction statements generalizing run imported with
  | nil => exact .refl _
  | cons statement rest ih =>
      cases statement with
      | importing node => exact ih (run.after (node.steps run.next)) imported
      | printing node =>
          have others := ih run (imported.after (node.steps imported.next))
          rw [CopyRun.next_after] at others
          have sizes : node.ids.length = (node.copied imported).ids.length :=
            length_ids_of_facts (node.facts_copied imported).symm
          rw [copiedStatements_printing, stepsInTurn, entries_append, List.flatMap_cons,
            List.flatMap_cons, Statement.printIds, Statement.printIds, List.zip_append sizes]
          exact (node.entries_perm imported).append others

theorem length_importIds_copied (run imported : CopyRun) (statements : List Statement) :
    (statements.flatMap Statement.importIds).length =
      ((copiedStatements run imported statements).flatMap Statement.importIds).length := by
  have each := map_copiedStatements run imported (fun statement => statement.importIds.length)
    (fun node run => length_ids_of_facts (node.facts_copied run)) (fun _ _ => rfl) statements
  rw [List.length_flatMap, List.length_flatMap, each]

namespace File

/-- What is entered before the statement at `index` pairs the nodes in view there with those in view
of its copy. -/
theorem entriesBefore_perm (node : File) (run : CopyRun) (index : Nat) :
    (node.entriesBefore run.next index).Perm
      ((node.inView index).zip ((node.copied run).inView index)) := by
  let imported := run.after (node.importSteps run.next)
  have imports := entries_importSteps_perm node.statements run imported
  have prints := entries_printSteps_perm (node.statements.take index) run imported
  have sizes := length_importIds_copied run imported node.statements
  have view : (node.copied run).inView index =
      (copiedStatements run imported node.statements).flatMap Statement.importIds ++
        (copiedStatements run imported (node.statements.take index)).flatMap
          Statement.printIds := by
    rw [copiedStatements, copiedStatements, ← take_copiesInTurn, ← take_copiesInTurn]
    rfl
  rw [view, inView, List.zip_append sizes, entriesBefore, ← CopyRun.next_after]
  exact imports.append prints

theorem counterpart_inView {node : File} {run : CopyRun} {index : Nat} {old new : NodeId}
    (distinct : node.ids.Nodup) (paired : (old, new) ∈ node.ids.zip (node.copied run).ids)
    (viewed : old ∈ node.inView index) : new ∈ (node.copied run).inView index := by
  obtain ⟨pair, entered, rfl⟩ :=
    List.mem_map.mp ((node.keys_entriesBefore run.next index).mem_iff.mpr viewed)
  have within := (node.entries_perm run).subset
    ((node.entriesBefore_prefix run.next index).subset entered)
  have placed := (node.entriesBefore_perm run index).subset entered
  -- A node has one place in its tree, so both pairings give it the same counterpart.
  obtain ⟨first, from_old, to_new⟩ := mem_zip_iff.mp paired
  obtain ⟨second, from_key, to_copy⟩ := mem_zip_iff.mp within
  obtain rfl := position_unique distinct from_old from_key
  have same : new = pair.2 := Option.some.inj (to_new.symm.trans to_copy)
  exact same ▸ (List.of_mem_zip placed).2

theorem inView_subset (node : File) (index : Nat) : node.inView index ⊆ node.ids := by
  have part := entered_sublist (node.stepsBefore_prefix ⟨0⟩ index)
  intro old member
  exact ((Node.file node).entered_perm ⟨0⟩).subset
    (part.subset ((node.entered_stepsBefore_perm ⟨0⟩ index).mem_iff.mpr member))

end File
end TemplateIR
