import TemplateIR.Proofs.Tree.CopySteps
import TemplateIR.Tree.Copy

/-!
A copy in a scope that allows more than it has to. What a copy asks its scope first is whether a node
has a copy there, and whether it is allowed only where it has none, so a copy that goes well does not
notice what else would be allowed.
-/
namespace TemplateIR

open CopyM

/-- The run with these nodes allowed in place of those that it allows. -/
def CopyRun.widened (run : CopyRun) (ids : List NodeId) : CopyRun :=
  { run with scope := { run.scope with external := ids } }

/-- Where the action goes well it leaves alone what is allowed, and goes the same way, to the same
value, wherever as much is allowed. -/
def CopyM.Widens {α : Type} (action : CopyM α) : Prop :=
  ∀ ⦃before after value⦄, action.exec before = (.ok value, after) →
    after.scope.external = before.scope.external ∧
      ∀ wider, before.scope.external ⊆ wider →
        action.exec (before.widened wider) = (.ok value, after.widened wider)

namespace CopyM.Widens

variable {α β : Type}

theorem ofPure (value : α) : (pure value : CopyM α).Widens := by
  rintro before after _ ⟨⟩
  exact ⟨rfl, fun _ _ => rfl⟩

theorem fresh : CopyM.fresh.Widens := by
  rintro before after _ ⟨⟩
  exact ⟨rfl, fun _ _ => rfl⟩

theorem emit (event : TreeEvent) : (CopyM.emit event).Widens := by
  rintro before after _ ⟨⟩
  exact ⟨rfl, fun _ _ => rfl⟩

theorem register (old copy : NodeId) : (CopyM.register old copy).Widens := by
  intro before after value done
  simp only [CopyM.register] at done
  split at done
  case isTrue known => cases done
  case isFalse new =>
    cases done
    refine ⟨rfl, fun wider part => ?_⟩
    have absent : ¬((before.widened wider).scope.copyOf? old).isSome := new
    simp only [CopyM.register, if_neg absent]
    rfl

/-- A copy is preferred, so only a target without one must be allowed in the wider scope, as it is in
the narrower one. -/
theorem relink (target : NodeId) (span : Span) : (CopyM.relink target span).Widens := by
  intro before after value done
  simp only [CopyM.relink] at done
  split at done
  case h_1 found =>
    cases done
    refine ⟨rfl, fun wider part => ?_⟩
    have known : (before.widened wider).scope.copyOf? target = some value := found
    simp only [CopyM.relink, known]
  case h_2 unknown =>
    split at done
    case isFalse dangling => cases done
    case isTrue allowed =>
      cases done
      refine ⟨rfl, fun wider part => ?_⟩
      have still : (before.widened wider).scope.copyOf? target = none := unknown
      have within : target ∈ (before.widened wider).scope.external := part allowed
      simp only [CopyM.relink, still, if_pos within]
      rfl

theorem bind {first : CopyM α} {next : α → CopyM β} (begun : first.Widens)
    (continued : ∀ value, (next value).Widens) : (first >>= next).Widens := by
  intro before after result done
  rw [exec_bind] at done
  split at done
  case h_2 => cases done
  case h_1 value between reached =>
    obtain ⟨kept, same⟩ := begun reached
    obtain ⟨still, others⟩ := continued value done
    refine ⟨still.trans kept, fun wider part => ?_⟩
    rw [exec_bind_ok (same wider part)]
    exact others wider (kept ▸ part)

theorem map {action : CopyM α} (widens : action.Widens) (f : α → β) :
    (do return f (← action) : CopyM β).Widens :=
  widens.bind fun value => ofPure (f value)

theorem entering (old copy : NodeId) (value : α) :
    (do CopyM.register old copy; return value : CopyM α).Widens :=
  (register old copy).bind fun _ => ofPure value

theorem mapM {copy : α → CopyM β} (each : ∀ item, (copy item).Widens) (items : List α) :
    (items.mapM copy).Widens := by
  induction items with
  | nil =>
      rw [List.mapM_nil]
      exact ofPure []
  | cons item rest ih =>
      rw [List.mapM_cons]
      exact (each item).bind fun made => ih.map (made :: ·)

end CopyM.Widens

theorem Binding.copy_widens (node : Binding) : node.copy.Widens :=
  Widens.fresh.bind fun id => Widens.entering node.id id _

theorem StringLiteral.copy_widens (node : StringLiteral) : node.copy.Widens :=
  Widens.fresh.bind fun id => Widens.entering node.id id _

theorem Reference.copy_widens (node : Reference) : node.copy.Widens :=
  (Widens.relink node.target node.span).bind fun target =>
    (Widens.emit (.referenceCopied node.target target node.name)).bind fun _ =>
      Widens.fresh.bind fun id => Widens.entering node.id id _

theorem Expr.copy_widens (node : Expr) : node.copy.Widens := by
  cases node with
  | literal node => exact node.copy_widens.map _
  | reference node => exact node.copy_widens.map _

theorem Import.copy_widens (node : Import) : node.copy.Widens :=
  (Widens.mapM Binding.copy_widens node.bindings).bind fun _ =>
    Widens.fresh.bind fun id => node.path.copy_widens.bind fun _ =>
      (Widens.emit (.importCopied node.id id node.path.value)).bind fun _ => Widens.entering node.id id _

theorem Print.copy_widens (node : Print) : node.copy.Widens :=
  Widens.fresh.bind fun id => node.expr.copy_widens.bind fun _ => Widens.entering node.id id _

theorem Statement.copyImport_widens (statement : Statement) : statement.copyImport.Widens := by
  cases statement with
  | importing node => exact node.copy_widens.map _
  | printing node => exact Widens.ofPure _

theorem Slot.fill_widens (slot : Slot) : slot.fill.Widens := by
  cases slot with
  | filled copy => exact Widens.ofPure _
  | waiting node => exact node.copy_widens.map _

theorem File.copy_widens (node : File) : node.copy.Widens :=
  (Widens.mapM Statement.copyImport_widens node.statements).bind fun slots =>
    (Widens.mapM Slot.fill_widens slots).bind fun _ => Widens.fresh.bind fun id => Widens.entering node.id id _

namespace Node

theorem copy_widens (node : Node) : node.copy.Widens := by
  cases node with
  | file node => exact node.copy_widens.map _
  | importing node => exact node.copy_widens.map _
  | printing node => exact node.copy_widens.map _
  | literal node => exact node.copy_widens.map _
  | reference node => exact node.copy_widens.map _
  | binding node => exact node.copy_widens.map _

/-- A copy that goes well comes out the same where more is allowed, be it nodes of the tree itself:
the same tree, and the same identities taken, nodes entered and events. -/
theorem copy_widened {node copy : Node} {before after : CopyRun} {wider : List NodeId}
    (part : before.scope.external ⊆ wider) (done : node.copy.exec before = (.ok copy, after)) :
    node.copy.exec (before.widened wider) = (.ok copy, after.widened wider) :=
  (node.copy_widens done).2 wider part

/-- Prints of a name of the file, of a node that has a copy already, and of one that is allowed. -/
def thriceLinked : Node := .file {
  id := ⟨11⟩
  span := .synthetic
  path := "links.soy"
  statements := [
    .importing ⟨⟨3⟩, .synthetic, ⟨⟨2⟩, .synthetic, "m.proto"⟩, [⟨⟨1⟩, .synthetic, "A"⟩], .schema⟩,
    .printing ⟨⟨5⟩, .synthetic, .reference ⟨⟨4⟩, .synthetic, "A", ⟨1⟩⟩⟩,
    .printing ⟨⟨7⟩, .synthetic, .reference ⟨⟨6⟩, .synthetic, "known", ⟨60⟩⟩⟩,
    .printing ⟨⟨9⟩, .synthetic, .reference ⟨⟨8⟩, .synthetic, "outer", ⟨77⟩⟩⟩] }

/-- One node has a copy and another one is allowed. -/
def halfKnown : CopyRun where
  next := ⟨80⟩
  scope := (CopyScope.allowing [⟨77⟩]).enter ⟨60⟩ ⟨61⟩

theorem copy_widened_thriceLinked :
    ∃ copy after, thriceLinked.copy.exec halfKnown = (.ok copy, after) ∧
      thriceLinked.copy.exec (halfKnown.widened [⟨1⟩, ⟨11⟩, ⟨60⟩, ⟨77⟩]) =
        (.ok copy, after.widened [⟨1⟩, ⟨11⟩, ⟨60⟩, ⟨77⟩]) ∧
      after.events.filter (· ∈ [.externalReference ⟨1⟩, .externalReference ⟨77⟩]) =
        [.externalReference ⟨77⟩] := by
  have part : halfKnown.scope.external ⊆ [⟨1⟩, ⟨11⟩, ⟨60⟩, ⟨77⟩] := by decide
  have outer : (thriceLinked.copy.exec halfKnown).2.events.filter
      (· ∈ [.externalReference ⟨1⟩, .externalReference ⟨77⟩]) = [.externalReference ⟨77⟩] := by
    decide
  obtain ⟨copy, after, done⟩ : ∃ copy after,
      thriceLinked.copy.exec halfKnown = (.ok copy, after) := ⟨_, _, rfl⟩
  rw [done] at outer
  exact ⟨copy, after, done, copy_widened part done, outer⟩

end Node
end TemplateIR
