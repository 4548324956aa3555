import Mathlib.Data.List.Rotate
import TemplateIR.Proofs.Tree.Generations
import TemplateIR.Proofs.Tree.Relabel

/-!
The statements of a file copied one by one, with one scope for all of them. As long as every import
is copied before what refers to its bindings, the order does not matter: the copies are those that a
copy of the whole file holds, but for the names of the identities.
-/
namespace TemplateIR

open CopyM CopyStep CopyScope

namespace Statement

def steps : Statement → NodeId → List CopyStep
  | .importing node => node.steps
  | .printing node => node.steps

def copied : Statement → CopyRun → Statement
  | .importing node, run => .importing (node.copied run)
  | .printing node, run => .printing (node.copied run)

/-- The identities of the bindings that a statement declares. -/
def boundIds : Statement → List NodeId
  | .importing node => node.bindings.map (·.id)
  | .printing _ => []

theorem copy_follows (statement : Statement) (run : CopyRun) :
    statement.copy.Follows run (statement.steps run.next) (statement.copied run) := by
  cases statement with
  | importing node => exact (node.copy_follows run).map _
  | printing node => exact (node.copy_follows run).map _

theorem allots (statement : Statement) (next : NodeId) : Allots next (statement.steps next) := by
  cases statement with
  | importing node => exact node.allots next
  | printing node => exact node.allots next

theorem entered_perm (statement : Statement) (next : NodeId) :
    (entered (statement.steps next)).Perm statement.ids := by
  cases statement with
  | importing node => exact (Node.importing node).entered_perm next
  | printing node => exact (Node.printing node).entered_perm next

theorem linkings_steps (statement : Statement) (next : NodeId) :
    linkings (statement.steps next) = statement.reference?.toList.map (·, []) := by
  cases statement with
  | importing node => exact node.linkings_steps next
  | printing node => exact Statement.linkings_printSteps (.printing node) next

theorem copied_eq_relabel {label : NodeId → NodeId} (statement : Statement) (run : CopyRun)
    (labelled : run.scope.Labels label (statement.steps run.next)) :
    statement.copied run = statement.relabel label := by
  cases statement with
  | importing node => exact congrArg Statement.importing (node.copied_eq_relabel run labelled)
  | printing node => exact congrArg Statement.printing (node.copied_eq_relabel run labelled)

theorem boundIds_relabel (label : NodeId → NodeId) (statement : Statement) :
    (statement.relabel label).boundIds = statement.boundIds.map label := by
  cases statement with
  | importing node => simp [relabel, Import.relabel, boundIds, Binding.relabel]
  | printing node => rfl

theorem boundIds_subset_importIds (statement : Statement) :
    statement.boundIds ⊆ statement.importIds := by
  cases statement with
  | importing node =>
      intro id bound
      rw [importIds, Import.ids_eq]
      exact List.mem_append_left _ (List.mem_cons_of_mem _ bound)
  | printing node => exact List.Subset.refl _

theorem importIds_subset_ids (statement : Statement) : statement.importIds ⊆ statement.ids := by
  cases statement with
  | importing node => exact List.Subset.refl _
  | printing node => exact List.nil_subset _

end Statement

/-- Every reference leads to a binding that a statement before it declares. -/
def DeclaredFirst (statements : List Statement) : Prop :=
  ∀ (index : Nat) (reference : Reference),
    statements[index]?.bind Statement.reference? = some reference →
      ∃ (earlier : Nat) (declaring : Statement), earlier < index ∧
        statements[earlier]? = some declaring ∧ reference.target ∈ declaring.boundIds

namespace CopyScope

variable {shared alone : CopyScope} {old copy first second : NodeId}

/-- Leads from a copy in one scope to the copy of the same node in the other. -/
def translate (shared alone : CopyScope) (copy : NodeId) : NodeId :=
  match shared.counterparts.pairs.find? (·.2 = copy) with
  | some (old, _) => alone.target old
  | none => copy

theorem copyOf?_eq_target (known : old ∈ shared.copied) :
    shared.copyOf? old = some (shared.target old) := by
  obtain ⟨copy, found⟩ := Option.isSome_iff_exists.mp (copyOf?_isSome_iff.mpr known)
  simp [target, found]

theorem translate_target (apart : shared.copies.Nodup) (known : old ∈ shared.copied) :
    shared.translate alone (shared.target old) = alone.target old := by
  have entered := mem_pairs_of_copyOf? (copyOf?_eq_target known)
  cases found : shared.counterparts.pairs.find? (·.2 = shared.target old) with
  | none => simpa using List.find?_eq_none.mp found _ entered
  | some pair =>
      have same : pair.2 = shared.target old := by simpa using List.find?_some found
      obtain rfl : pair = (old, shared.target old) :=
        List.inj_on_of_nodup_map apart (List.mem_of_find?_eq_some found) entered same
      simp only [translate, found]

theorem exists_of_mem_copies (member : copy ∈ shared.copies) :
    ∃ old ∈ shared.copied, shared.target old = copy := by
  obtain ⟨pair, entered, rfl⟩ := List.mem_map.mp member
  have known : pair.1 ∈ shared.copied := List.mem_map_of_mem entered
  have found := mem_pairs_of_copyOf? (copyOf?_eq_target known)
  have same := List.inj_on_of_nodup_map shared.counterparts.distinct found entered rfl
  exact ⟨pair.1, known, congrArg Prod.snd same⟩

theorem target_injective (apart : shared.copies.Nodup) (left : first ∈ shared.copied)
    (right : second ∈ shared.copied) (same : shared.target first = shared.target second) :
    first = second := by
  have entered := mem_pairs_of_copyOf? (copyOf?_eq_target left)
  have others := mem_pairs_of_copyOf? (copyOf?_eq_target right)
  exact congrArg Prod.fst (List.inj_on_of_nodup_map apart entered others same)

/-- Where both scopes know the same nodes, none of the translated copies are mixed up. -/
theorem translate_injective (apart : shared.copies.Nodup) (others : alone.copies.Nodup)
    (within : shared.copied ⊆ alone.copied) :
    ∀ first ∈ shared.copies, ∀ second ∈ shared.copies,
      shared.translate alone first = shared.translate alone second → first = second := by
  intro first left second right same
  obtain ⟨old, known, rfl⟩ := exists_of_mem_copies left
  obtain ⟨other, familiar, rfl⟩ := exists_of_mem_copies right
  rw [translate_target apart known, translate_target apart familiar] at same
  rw [target_injective others (within known) (within familiar) same]

/-- Steps that go well in a scope that knows nothing keep the copies apart. -/
theorem nodup_copies_of_admits {next : NodeId} {steps : List CopyStep}
    (admitted : (CopyScope.allowing []).Admits steps) (allots : Allots next steps) :
    ((CopyScope.allowing []).enterAll (entries steps)).copies.Nodup := by
  obtain ⟨once, new, -⟩ := admits_iff.mp admitted
  rw [copies, pairs_enterAll once new]
  exact (allots.ofFirst List.prefix_rfl).1

end CopyScope

theorem Node.duplicate_of_admits {node : Node} {next : NodeId}
    (admitted : (CopyScope.allowing []).Admits (node.steps next)) :
    ∃ run, node.duplicate next = (.ok (node.copied { next, scope := .allowing [] }), run) ∧
      run.scope = (CopyScope.allowing []).enterAll (entries (node.steps next)) := by
  let alone : CopyRun := { next, scope := .allowing [] }
  have done := (node.copy_follows alone).ok_iff.mpr ⟨admitted, rfl, rfl⟩
  rw [duplicate, copyAndReport, exec_bind_ok done]
  exact ⟨_, rfl, CopyRun.scope_after alone _⟩

section InTurn

variable {order : List Statement}

theorem entered_statements_perm (next : NodeId) (statements : List Statement) :
    (entered (stepsInTurn Statement.steps next statements)).Perm
      (statements.flatMap Statement.ids) :=
  entered_inTurn_perm Statement.entered_perm next statements

theorem admits_statements (distinct : (order.flatMap Statement.ids).Nodup)
    (declared : DeclaredFirst order) (next : NodeId) :
    (CopyScope.allowing []).Admits (stepsInTurn Statement.steps next order) := by
  refine admits_iff.mpr ⟨(entered_statements_perm next order).nodup_iff.mpr distinct, ?_, ?_⟩
  · exact fun _ _ => List.not_mem_nil
  · intro linking member
    obtain ⟨index, statement, found, inner, linked, rfl⟩ := mem_linkings_inTurn.mp member
    rw [Statement.linkings_steps, List.mem_map] at linked
    obtain ⟨reference, holds, rfl⟩ := linked
    obtain ⟨earlier, declaring, before, standing, bound⟩ := declared index reference
      (by rw [found, Option.bind_some, Option.mem_toList.mp holds])
    have sooner : declaring ∈ order.take index :=
      List.mem_of_getElem? (by rw [List.getElem?_take_of_lt before, standing])
    have listed : reference.target ∈ (order.take index).flatMap Statement.ids :=
      List.mem_flatMap.mpr ⟨declaring, sooner, declaring.importIds_subset_ids
        (declaring.boundIds_subset_importIds bound)⟩
    exact .inr (List.mem_append_left _ ((entered_statements_perm _ _).mem_iff.mpr listed))

theorem selfContained_of_declaredFirst {node : File} (permuted : order.Perm node.statements)
    (declared : DeclaredFirst order) : node.SelfContained := by
  intro index reference held
  obtain ⟨statement, found, holds⟩ := Option.bind_eq_some_iff.mp held
  obtain ⟨place, standing⟩ :=
    List.mem_iff_getElem?.mp (permuted.mem_iff.mpr (List.mem_of_getElem? found))
  obtain ⟨earlier, declaring, -, listed, bound⟩ := declared place reference
    (by rw [standing, Option.bind_some, holds])
  have member := permuted.mem_iff.mp (List.mem_of_getElem? listed)
  exact List.mem_append_left _
    (List.mem_flatMap.mpr ⟨declaring, member, declaring.boundIds_subset_importIds bound⟩)

end InTurn

namespace File

/-- What the `copies` of statements in this `order`, made with the scope `shared`, have in common
with the copy `whole` of their file, made with the scope `alone`. -/
structure CopiedInTurn (node whole : File) (order copies : List Statement)
    (shared alone : CopyScope) : Prop where
  /-- A copy is the one in the copy of the file but for the names of identities. -/
  same : ∀ (place index : Nat) (statement : Statement), order[place]? = some statement →
    node.statements[index]? = some statement →
      ∃ inTurn atOnce, copies[place]? = some inTurn ∧ whole.statements[index]? = some atOnce ∧
        inTurn.relabel (shared.translate alone) = atOnce
  /-- The names go by the node that was copied. -/
  translates : ∀ old ∈ node.statements.flatMap Statement.ids, ∃ inTurn atOnce,
    shared.copyOf? old = some inTurn ∧ alone.copyOf? old = some atOnce ∧
      shared.translate alone inTurn = atOnce
  injective : ∀ first ∈ shared.copies, ∀ second ∈ shared.copies,
    shared.translate alone first = shared.translate alone second → first = second
  /-- A copied reference leads to the copy of the binding that the reference leads to. -/
  linked : ∀ (place : Nat) (relinked : Reference),
    copies[place]?.bind Statement.reference? = some relinked →
      ∃ (reference : Reference) (earlier position : Nat) (declaring declared : Statement),
        order[place]?.bind Statement.reference? = some reference ∧
        order[earlier]? = some declaring ∧ copies[earlier]? = some declared ∧
        declaring.boundIds[position]? = some reference.target ∧
        declared.boundIds[position]? = some relinked.target

/-- Two copies of the statements under labels of their own, which are the entries of the scopes. -/
theorem CopiedInTurn.of_relabel {node whole : File} {order copies : List Statement}
    {shared alone : CopyScope} (permuted : order.Perm node.statements)
    (declared : DeclaredFirst order)
    (inTurn : copies = order.map (Statement.relabel shared.target))
    (atOnce : whole.statements = node.statements.map (Statement.relabel alone.target))
    (apart : shared.copies.Nodup) (others : alone.copies.Nodup)
    (known : ∀ old, old ∈ shared.copied ↔ old ∈ node.statements.flatMap Statement.ids)
    (within : shared.copied ⊆ alone.copied) :
    node.CopiedInTurn whole order copies shared alone := by
  have targets : ∀ (place : Nat) (statement : Statement), order[place]? = some statement →
      ∀ reference, statement.reference? = some reference → reference.target ∈ shared.copied := by
    intro place statement standing reference holds
    obtain ⟨earlier, declaring, -, listed, bound⟩ := declared place reference
      (by rw [standing, Option.bind_some, holds])
    have member := permuted.mem_iff.mp (List.mem_of_getElem? listed)
    exact (known _).mpr (List.mem_flatMap.mpr ⟨declaring, member,
      declaring.importIds_subset_ids (declaring.boundIds_subset_importIds bound)⟩)
  constructor
  case same =>
    intro place index statement standing found
    have nodes : ∀ id ∈ statement.ids, id ∈ shared.copied := fun id member =>
      (known id).mpr (List.mem_flatMap.mpr ⟨statement, List.mem_of_getElem? found, member⟩)
    refine ⟨statement.relabel shared.target, statement.relabel alone.target, ?_, ?_, ?_⟩
    · simp [inTurn, standing]
    · simp [atOnce, found]
    · rw [Statement.relabel_relabel]
      apply Statement.relabel_congr
      · exact fun id member => translate_target apart (nodes id member)
      · exact fun reference holds =>
          translate_target apart (targets place statement standing reference holds)
  case translates =>
    intro old member
    have entered := (known old).mpr member
    exact ⟨shared.target old, alone.target old, copyOf?_eq_target entered,
      copyOf?_eq_target (within entered), translate_target apart entered⟩
  case injective => exact translate_injective apart others within
  case linked =>
    intro place relinked found
    rw [inTurn, List.getElem?_map, Option.bind_map] at found
    obtain ⟨statement, standing, holds⟩ := Option.bind_eq_some_iff.mp found
    rw [Function.comp, Statement.reference?_relabel, Option.map_eq_some_iff] at holds
    obtain ⟨reference, held, rfl⟩ := holds
    have original : order[place]?.bind Statement.reference? = some reference := by
      rw [standing, Option.bind_some, held]
    obtain ⟨earlier, declaring, -, listed, bound⟩ := declared place reference original
    obtain ⟨position, bound⟩ := List.mem_iff_getElem?.mp bound
    refine ⟨reference, earlier, position, declaring, declaring.relabel shared.target, original,
      listed, ?_, bound, ?_⟩
    · simp [inTurn, listed]
    · simp [Statement.boundIds_relabel, bound, Reference.relabel]

/-- The statements of a file can be copied one by one, in any order in which imports come before
what refers to them, and this comes to the same as copying the file. -/
theorem copy_statementwise {node : File} {order : List Statement} (distinct : node.ids.Nodup)
    (permuted : order.Perm node.statements) (declared : DeclaredFirst order)
    (next other : NodeId) :
    ∃ copies after whole run,
      (order.mapM Statement.copy).exec { next, scope := .allowing [] } = (.ok copies, after) ∧
      (Node.file node).duplicate other = (.ok (.file whole), run) ∧
      node.CopiedInTurn whole order copies after.scope run.scope := by
  have statements : (node.statements.flatMap Statement.ids).Nodup :=
    (List.nodup_cons.mp (node.ids_eq ▸ distinct)).2
  have listed := permuted.flatMap_right Statement.ids
  have shared := admits_statements (listed.nodup_iff.mpr statements) declared next
  have alone : (CopyScope.allowing []).Admits ((Node.file node).steps other) :=
    admits_alone_iff.mpr ⟨distinct, selfContained_of_declaredFirst permuted declared⟩
  have done := (Follows.mapM Statement.copy_follows order { next, scope := .allowing [] }).ok_iff.mpr
    ⟨shared, rfl, rfl⟩
  obtain ⟨run, duplicated, scope⟩ := Node.duplicate_of_admits alone
  refine ⟨_, _, _, run, done, duplicated, ?_⟩
  rw [CopyRun.scope_after, scope]
  have known : ∀ old, old ∈ ((CopyScope.allowing []).enterAll
      (entries (stepsInTurn Statement.steps next order))).copied ↔
        old ∈ node.statements.flatMap Statement.ids := by
    intro old
    have nothing : old ∉ (CopyScope.allowing []).copied := List.not_mem_nil
    rw [mem_copied_enterAll, or_iff_left nothing]
    exact (entered_statements_perm next order).mem_iff.trans listed.mem_iff
  apply CopiedInTurn.of_relabel permuted declared
  case inTurn => exact copiesInTurn_eq_map Statement.copied_eq_relabel (shared.labels rfl)
  case atOnce => exact File.statements_copied_eq_map (alone.labels rfl)
  case apart => exact nodup_copies_of_admits shared (.inTurn Statement.allots next order)
  case others => exact nodup_copies_of_admits alone (node.allots other)
  case known => exact known
  case within =>
    intro old member
    have whole : old ∈ node.ids := node.ids_eq ▸ List.mem_cons_of_mem _ ((known old).mp member)
    exact mem_copied_enterAll.mpr (.inl (((Node.file node).entered_perm other).mem_iff.mpr whole))

/-- Two imports and two prints; the first print refers to the import behind it. -/
def crossLinked : File where
  id := ⟨12⟩
  span := .synthetic
  path := "cross.soy"
  statements := [
    .printing ⟨⟨8⟩, .synthetic, .reference ⟨⟨7⟩, .synthetic, "Late", ⟨4⟩⟩⟩,
    .importing ⟨⟨3⟩, .synthetic, ⟨⟨2⟩, .synthetic, "a.proto"⟩, [⟨⟨1⟩, .synthetic, "Early"⟩], .schema⟩,
    .printing ⟨⟨10⟩, .synthetic, .reference ⟨⟨9⟩, .synthetic, "Early", ⟨1⟩⟩⟩,
    .importing ⟨⟨6⟩, .synthetic, ⟨⟨5⟩, .synthetic, "b.gss"⟩, [⟨⟨4⟩, .synthetic, "Late"⟩], .stylesheet⟩]

theorem declaredFirst_crossLinked : DeclaredFirst (crossLinked.statements.rotate 1) := by
  intro index reference held
  match index with
  | 0 | 2 => cases held
  | 1 =>
      cases held
      exact ⟨0, _, by decide, rfl, by decide⟩
  | 3 =>
      cases held
      exact ⟨2, _, by decide, rfl, by decide⟩
  | _ + 4 => cases held

theorem copy_statementwise_crossLinked :
    ∃ copies after whole run,
      ((crossLinked.statements.rotate 1).mapM Statement.copy).exec
          { next := ⟨13⟩, scope := .allowing [] } = (.ok copies, after) ∧
      (Node.file crossLinked).duplicate ⟨24⟩ = (.ok (.file whole), run) ∧
      crossLinked.CopiedInTurn whole (crossLinked.statements.rotate 1) copies after.scope run.scope :=
  copy_statementwise (by decide) (List.rotate_perm _ 1) declaredFirst_crossLinked ⟨13⟩ ⟨24⟩

end File
end TemplateIR
