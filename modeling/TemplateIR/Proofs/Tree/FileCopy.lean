import TemplateIR.Proofs.Tree.FileVerdict

/-!
What a successful copy of a file is: a tree of the same shape and content under new identities,
whose references lead to the copies of what they led to.
-/
namespace TemplateIR

open CopyStep

/-- The reference of a print is copied in the state that the prints before it leave. -/
theorem reference?_copiedStatements (statements : List Statement) (run imported : CopyRun)
    (index : Nat) :
    (copiedStatements run imported statements)[index]?.bind Statement.reference? =
      (statements[index]?.bind Statement.reference?).map fun reference =>
        reference.copied (imported.after
          (stepsInTurn Statement.printSteps imported.next (statements.take index))).advance := by
  induction statements generalizing run imported index with
  | nil => rfl
  | cons statement rest ih =>
      cases statement with
      | importing node =>
          rw [copiedStatements_importing]
          cases index with
          | zero => rfl
          | succ index => exact ih (run.after (node.steps run.next)) imported index
      | printing node =>
          rw [copiedStatements_printing]
          cases index with
          | zero =>
              obtain ⟨id, span, expr⟩ := node
              cases expr <;> rfl
          | succ index =>
              have later := ih run (imported.after (node.steps imported.next)) index
              rw [CopyRun.next_after] at later
              simp only [List.getElem?_cons_succ, List.take_succ_cons, stepsInTurn,
                CopyRun.after_append, later]
              rfl

namespace File

/-- The pairs that are entered before the statement at `index` is linked. -/
def entriesBefore (node : File) (next : NodeId) (index : Nat) : List (NodeId × NodeId) :=
  entries (node.importSteps next) ++
    entries (stepsInTurn Statement.printSteps (next.plus (taken (node.importSteps next)))
      (node.statements.take index))

theorem entriesBefore_eq (node : File) (next : NodeId) (index : Nat) :
    node.entriesBefore next index = entries (node.stepsBefore next index) := by
  rw [stepsBefore, entries_append]
  rfl

theorem keys_entriesBefore (node : File) (next : NodeId) (index : Nat) :
    ((node.entriesBefore next index).map Prod.fst).Perm (node.inView index) := by
  rw [entriesBefore_eq]
  exact node.entered_stepsBefore_perm next index

theorem entriesBefore_prefix (node : File) (next : NodeId) (index : Nat) :
    node.entriesBefore next index <+: entries (node.steps next) := by
  obtain ⟨others, split⟩ := node.stepsBefore_prefix next index
  rw [entriesBefore_eq, ← split, entries_append]
  exact List.prefix_append _ _

theorem referenceAt?_copied (node : File) (run : CopyRun) (index : Nat) :
    ∃ linked : CopyRun, linked.scope = run.scope.enterAll (node.entriesBefore run.next index) ∧
      (node.copied run).referenceAt? index =
        (node.referenceAt? index).map fun reference => reference.copied linked := by
  refine ⟨_, ?_, reference?_copiedStatements node.statements run _ index⟩
  rw [CopyRun.advance, CopyRun.scope_after, CopyRun.scope_after, CopyRun.next_after,
    ← CopyScope.enterAll_append]
  rfl

/-- A reference into view leads to the counterpart of its target. Any other leads to where the scope
leads it, which is its target itself unless the scope knew a copy before. -/
theorem target_enterAll {node : File} {run : CopyRun} {index : Nat} {old : NodeId}
    (distinct : node.ids.Nodup) :
    if old ∈ node.inView index then
      (old, (run.scope.enterAll (node.entriesBefore run.next index)).target old) ∈
        node.ids.zip (node.copied run).ids
    else
      (run.scope.enterAll (node.entriesBefore run.next index)).target old =
        run.scope.target old := by
  have keys := node.keys_entriesBefore run.next index
  have part := node.entriesBefore_prefix run.next index
  split
  · next inView =>
      obtain ⟨⟨_, copy⟩, member, rfl⟩ := List.mem_map.mp (keys.mem_iff.mpr inView)
      have once : ((node.entriesBefore run.next index).map Prod.fst).Nodup := by
        have all := ((Node.file node).entered_perm run.next).nodup_iff.mpr distinct
        exact all.sublist (part.sublist.map Prod.fst)
      rw [CopyScope.target, CopyScope.copyOf?_enterAll_of_mem once member]
      exact ((Node.file node).entries_perm run).mem_iff.mp (part.subset member)
  · next outside =>
      have untouched : old ∉ (node.entriesBefore run.next index).map Prod.fst :=
        fun member => outside (keys.mem_iff.mp member)
      rw [CopyScope.target, CopyScope.copyOf?_enterAll_of_not_mem untouched]
      rfl

/-- What `copy`, made from `before` to `after`, has to do with `node`. -/
structure IsomorphicCopy (node copy : File) (before after : CopyRun) : Prop where
  /-- Place by place in preorder: kind, span, name or value or path, and type of import. -/
  facts : copy.preorder.map Node.facts = node.preorder.map Node.facts
  source : (Node.file copy).source = (Node.file node).source
  distinct : copy.ids.Nodup
  new : ∀ id ∈ copy.ids, before.next.number ≤ id.number ∧ id.number < after.next.number
  /-- The scope knows the pairs of the two preorders in addition to what it knew. -/
  counterparts : after.scope.counterparts.pairs.Perm
    (before.scope.counterparts.pairs ++ node.ids.zip copy.ids)
  external : after.scope.external = before.scope.external
  /-- A reference leads to the counterpart of its target, if that is in view, else to the copy that
  the scope knew before, if there was one, and else to the same target. -/
  references : ∀ index relinked, copy.referenceAt? index = some relinked →
    ∃ reference, node.referenceAt? index = some reference ∧
      if reference.target ∈ node.inView index then
        (reference.target, relinked.target) ∈ node.ids.zip copy.ids
      else relinked.target = (before.scope.copyOf? reference.target).getD reference.target

theorem copied_isomorphic {node : File} {run : CopyRun}
    (admitted : run.scope.Admits (node.steps run.next)) :
    node.IsomorphicCopy (node.copied run) run (run.after (node.steps run.next)) := by
  obtain ⟨once, new, -⟩ := admits_iff.mp admitted
  have distinct : node.ids.Nodup := ((Node.file node).entered_perm run.next).nodup_iff.mp once
  constructor
  case facts => exact node.facts_copied run
  case source => exact congrArg String.ofList (node.written_copied run)
  case distinct => exact (Node.file node).nodup_ids_copied run
  case new => exact (Node.file node).ids_copied_bounds run
  case counterparts =>
    rw [CopyRun.scope_after, CopyScope.pairs_enterAll once new]
    exact (node.entries_perm run).append_left _
  case external => rw [CopyRun.scope_after, CopyScope.external_enterAll]
  case references =>
    intro index relinked found
    obtain ⟨linked, scope, copied⟩ := node.referenceAt?_copied run index
    rw [copied, Option.map_eq_some_iff] at found
    obtain ⟨reference, held, rfl⟩ := found
    refine ⟨reference, held, ?_⟩
    rw [Reference.copied, scope]
    exact target_enterAll distinct

/-- A copy that ends well is a tree of the same shape and content, correctly linked. -/
theorem copy_isomorphic {node copy : File} {before after : CopyRun}
    (done : node.copy.exec before = (.ok copy, after)) : node.IsomorphicCopy copy before after := by
  obtain ⟨admitted, rfl, rfl⟩ := (node.copy_follows before).ok_iff.mp done
  exact copied_isomorphic admitted

/-- A print of a name that a later import binds, one of that print, and one of a name from outside. -/
def forwardLinked : File where
  id := ⟨10⟩
  span := .synthetic
  path := "forward.soy"
  statements := [
    .printing ⟨⟨5⟩, .synthetic, .reference ⟨⟨4⟩, .synthetic, "Message", ⟨1⟩⟩⟩,
    .printing ⟨⟨7⟩, .synthetic, .reference ⟨⟨6⟩, .synthetic, "again", ⟨5⟩⟩⟩,
    .importing ⟨⟨3⟩, .synthetic, ⟨⟨2⟩, .synthetic, "m.proto"⟩, [⟨⟨1⟩, .synthetic, "Message"⟩], .schema⟩,
    .printing ⟨⟨9⟩, .synthetic, .reference ⟨⟨8⟩, .synthetic, "outer", ⟨77⟩⟩⟩]

theorem copy_isomorphic_forwardLinked :
    ∃ copy after,
      forwardLinked.copy.exec { next := ⟨11⟩, scope := .allowing [⟨1⟩, ⟨77⟩] } = (.ok copy, after) ∧
        forwardLinked.IsomorphicCopy copy { next := ⟨11⟩, scope := .allowing [⟨1⟩, ⟨77⟩] } after :=
  ⟨_, _, rfl, copy_isomorphic rfl⟩

end File
end TemplateIR
