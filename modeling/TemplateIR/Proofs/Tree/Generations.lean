import TemplateIR.Proofs.Tree.Remains
import TemplateIR.Proofs.Tree.View

/-!
Copies of copies. A copy of a file that refers to nothing but itself is such a file again, so it can
be copied in its turn, and what holds between a file and its copy holds between a file and all that
descends from it.
-/
namespace TemplateIR

open CopyM CopyStep

namespace File

/-- Every reference of the file leads to a node that is in view of it. -/
def SelfContained (node : File) : Prop :=
  ∀ index reference, node.referenceAt? index = some reference →
    reference.target ∈ node.inView index

/-- What there is in common between a file and one that it descends from. -/
structure Resembles (node ancestor : File) : Prop where
  facts : node.preorder.map Node.facts = ancestor.preorder.map Node.facts
  source : (Node.file node).source = (Node.file ancestor).source
  /-- A reference leads to the place where the one in its own place leads. -/
  references : ∀ index reference, node.referenceAt? index = some reference →
    ∃ (original : Reference) (position : Nat), ancestor.referenceAt? index = some original ∧
      ancestor.ids[position]? = some original.target ∧
      node.ids[position]? = some reference.target

variable {node middle ancestor : File}

theorem SelfContained.resembles_self (closed : node.SelfContained) : node.Resembles node where
  facts := rfl
  source := rfl
  references index reference held := by
    have member := node.inView_subset index (closed index reference held)
    obtain ⟨position, found⟩ := List.mem_iff_getElem?.mp member
    exact ⟨reference, position, held, found, found⟩

theorem Resembles.trans (distinct : middle.ids.Nodup) (later : node.Resembles middle)
    (earlier : middle.Resembles ancestor) : node.Resembles ancestor where
  facts := later.facts.trans earlier.facts
  source := later.source.trans earlier.source
  references index reference held := by
    obtain ⟨between, position, found, target, placed⟩ := later.references index reference held
    obtain ⟨original, other, first, origin, same⟩ := earlier.references index between found
    obtain rfl := position_unique distinct target same
    exact ⟨original, position, first, origin, placed⟩

/-- A file that can be copied by itself, with an identity to spare. -/
structure Copyable (node : File) (next : NodeId) : Prop where
  distinct : node.ids.Nodup
  closed : node.SelfContained
  below : ∀ id ∈ node.ids, id.number < next.number

/-- A copy in a scope of its own refers only to itself, as the file does. -/
theorem Copyable.copied {next : NodeId} {copy : File} {after : CopyRun} (ready : node.Copyable next)
    (done : node.copy.exec { next, scope := .allowing [] } = (.ok copy, after)) :
    copy.Copyable after.next ∧ copy.Resembles node := by
  have isomorphic := copy_isomorphic done
  obtain ⟨-, same, -⟩ := (node.copy_follows _).ok_iff.mp done
  have paired : ∀ index relinked, copy.referenceAt? index = some relinked →
      ∃ reference, node.referenceAt? index = some reference ∧
        (reference.target, relinked.target) ∈ node.ids.zip copy.ids := by
    intro index relinked found
    obtain ⟨reference, held, leads⟩ := isomorphic.references index relinked found
    rw [if_pos (ready.closed index reference held)] at leads
    exact ⟨reference, held, leads⟩
  refine ⟨⟨isomorphic.distinct, ?_, fun id member => (isomorphic.new id member).2⟩,
    ⟨isomorphic.facts, isomorphic.source, ?_⟩⟩
  · intro index relinked found
    obtain ⟨reference, held, leads⟩ := paired index relinked found
    subst same
    exact counterpart_inView ready.distinct leads (ready.closed index reference held)
  · intro index relinked found
    obtain ⟨reference, held, leads⟩ := paired index relinked found
    obtain ⟨position, origin, placed⟩ := mem_zip_iff.mp leads
    exact ⟨reference, position, held, origin, placed⟩

end File

namespace Node

variable {node copy : Node} {next later : NodeId}

theorem duplicate_ok_iff :
    (∃ run, node.duplicate next = (.ok copy, run) ∧ run.next = later) ↔
      ∃ after, node.copy.exec { next, scope := .allowing [] } = (.ok copy, after) ∧
        after.next = later := by
  obtain ⟨outcome, taken⟩ := node.exec_copyAndReport { next, scope := .allowing [] }
  constructor
  · rintro ⟨run, done, rfl⟩
    rw [duplicate] at done
    rw [done] at outcome taken
    exact ⟨(node.copy.exec _).2, Prod.ext outcome.symm rfl, taken.symm⟩
  · rintro ⟨after, done, rfl⟩
    rw [done] at outcome taken
    exact ⟨(node.copyAndReport.exec _).2, Prod.ext outcome rfl, taken⟩

/-- The node after `count` copies, each of the one before, and the next identity then. -/
def descendant (node : Node) (next : NodeId) : Nat → Except CopyFault (Node × NodeId)
  | 0 => .ok (node, next)
  | count + 1 =>
    match node.descendant next count with
    | .error fault => .error fault
    | .ok (parent, next) =>
      match parent.duplicate next with
      | (.ok copy, run) => .ok (copy, run.next)
      | (.error fault, _) => .error fault

theorem descendant_succ_iff {count : Nat} :
    node.descendant next (count + 1) = .ok (copy, later) ↔
      ∃ parent between, node.descendant next count = .ok (parent, between) ∧
        ∃ run, parent.duplicate between = (.ok copy, run) ∧ run.next = later := by
  rw [descendant]
  cases node.descendant next count with
  | error fault => simp
  | ok first =>
      obtain ⟨parent, between⟩ := first
      cases made : parent.duplicate between with
      | mk outcome run => cases outcome <;> simp [made]

theorem duplicate_new {run : CopyRun} (done : node.duplicate next = (.ok copy, run)) :
    next.number ≤ run.next.number ∧ ∀ id ∈ copy.ids, next.number ≤ id.number := by
  obtain ⟨after, copied, taken⟩ := duplicate_ok_iff.mp ⟨run, done, rfl⟩
  constructor
  · have later := node.next_le_copy { next, scope := .allowing [] }
    rwa [copied, taken] at later
  · exact fun id member => ((copy_new copied).2.2 id member).1

/-- Every later generation has only identities that were not taken when the earlier one was there. -/
theorem descendant_new {earlier extra : Nat} {first last : Node × NodeId}
    (begun : node.descendant next earlier = .ok first)
    (ended : node.descendant next (earlier + extra + 1) = .ok last) :
    first.2.number ≤ last.2.number ∧ ∀ id ∈ last.1.ids, first.2.number ≤ id.number := by
  induction extra generalizing last with
  | zero =>
      obtain ⟨parent, between, reached, run, made, taken⟩ := descendant_succ_iff.mp ended
      obtain rfl := Except.ok.inj (begun.symm.trans reached)
      exact taken ▸ duplicate_new made
  | succ extra ih =>
      obtain ⟨parent, between, reached, run, made, taken⟩ := descendant_succ_iff.mp ended
      have sooner := (ih reached).1
      have new := duplicate_new made
      rw [taken] at new
      exact ⟨Nat.le_trans sooner new.1, fun id member => Nat.le_trans sooner (new.2 id member)⟩

end Node

namespace File

variable {node : File} {next : NodeId}

theorem admits_alone_iff :
    (CopyScope.allowing []).Admits (node.steps next) ↔ node.ids.Nodup ∧ node.SelfContained := by
  rw [admits_steps_iff]
  constructor
  · rintro ⟨distinct, -, resolved⟩
    refine ⟨distinct, fun index reference held => ?_⟩
    exact (resolved index reference held).resolve_left fun reached => by
      rcases reached with known | allowed
      · cases known
      · cases allowed
  · rintro ⟨distinct, closed⟩
    exact ⟨distinct, fun _ _ => List.not_mem_nil, fun index reference held =>
      .inr (closed index reference held)⟩

theorem Copyable.of_duplicate {copy : Node} {run : CopyRun}
    (below : ∀ id ∈ node.ids, id.number < next.number)
    (done : (Node.file node).duplicate next = (.ok copy, run)) : node.Copyable next := by
  obtain ⟨after, copied, -⟩ := Node.duplicate_ok_iff.mp ⟨run, done, rfl⟩
  have admitted := (((Node.file node).copy_follows _).ok_iff.mp copied).1
  obtain ⟨distinct, closed⟩ := admits_alone_iff.mp admitted
  exact ⟨distinct, closed, below⟩

theorem Copyable.duplicate (ready : node.Copyable next) :
    ∃ copy run, (Node.file node).duplicate next = (.ok (.file copy), run) ∧
      copy.Copyable run.next ∧ copy.Resembles node := by
  have admitted : (CopyScope.allowing []).Admits (node.steps next) :=
    admits_alone_iff.mpr ⟨ready.distinct, ready.closed⟩
  have done := (node.copy_follows { next, scope := .allowing [] }).ok_iff.mpr ⟨admitted, rfl, rfl⟩
  have whole := ((Node.file node).copy_follows { next, scope := .allowing [] }).ok_iff.mpr
    ⟨admitted, rfl, rfl⟩
  obtain ⟨run, made, taken⟩ := Node.duplicate_ok_iff.mpr ⟨_, whole, rfl⟩
  exact ⟨_, run, made, taken ▸ ready.copied done⟩

theorem Copyable.descendant (ready : node.Copyable next) (count : Nat) :
    ∃ file later, (Node.file node).descendant next count = .ok (.file file, later) ∧
      file.Copyable later ∧ file.Resembles node := by
  induction count with
  | zero => exact ⟨node, next, rfl, ready, ready.closed.resembles_self⟩
  | succ count ih =>
      obtain ⟨parent, between, reached, able, resembles⟩ := ih
      obtain ⟨copy, run, made, ready, alike⟩ := able.duplicate
      have descends := Node.descendant_succ_iff.mpr ⟨_, _, reached, run, made, rfl⟩
      exact ⟨copy, run.next, descends, ready, alike.trans able.distinct resembles⟩

/-- A file that has been copied by itself can be copied on and on. All that descends from it has its
content, source and links, and no two generations share an identity. -/
theorem descendants {copy : Node} {run : CopyRun}
    (below : ∀ id ∈ node.ids, id.number < next.number)
    (done : (Node.file node).duplicate next = (.ok copy, run)) :
    (∀ count, ∃ file later, (Node.file node).descendant next count = .ok (.file file, later) ∧
      file.Resembles node) ∧
    ∀ earlier later first last, earlier < later →
      (Node.file node).descendant next earlier = .ok first →
      (Node.file node).descendant next later = .ok last → first.1.ids.Disjoint last.1.ids := by
  have ready := Copyable.of_duplicate below done
  constructor
  · intro count
    obtain ⟨file, later, descends, -, resembles⟩ := ready.descendant count
    exact ⟨file, later, descends, resembles⟩
  · intro earlier later first last before begun ended id old new
    obtain ⟨file, between, descends, able, -⟩ := ready.descendant earlier
    obtain rfl := Except.ok.inj (begun.symm.trans descends)
    obtain ⟨extra, rfl⟩ := Nat.exists_eq_add_of_lt before
    -- The later generation has only identities that were free when the earlier one was complete.
    have taken : id.number < between.number := able.below id old
    have fresh : between.number ≤ id.number := (Node.descendant_new begun ended).2 id new
    omega

/-- A print of a name that a later import binds, and one of that print. -/
def selfLinked : File where
  id := ⟨8⟩
  span := .synthetic
  path := "self.soy"
  statements := [
    .printing ⟨⟨5⟩, .synthetic, .reference ⟨⟨4⟩, .synthetic, "Message", ⟨1⟩⟩⟩,
    .printing ⟨⟨7⟩, .synthetic, .reference ⟨⟨6⟩, .synthetic, "again", ⟨5⟩⟩⟩,
    .importing ⟨⟨3⟩, .synthetic, ⟨⟨2⟩, .synthetic, "m.proto"⟩, [⟨⟨1⟩, .synthetic, "Message"⟩], .schema⟩]

theorem descendants_selfLinked :
    (∀ id ∈ selfLinked.ids, id.number < 9) ∧
      (∃ copy run, (Node.file selfLinked).duplicate ⟨9⟩ = (.ok copy, run)) ∧
      ∃ file later, (Node.file selfLinked).descendant ⟨9⟩ 3 = .ok (.file file, later) ∧
        file.Resembles selfLinked := by
  have below : ∀ id ∈ selfLinked.ids, id.number < 9 := by decide
  obtain ⟨copy, run, made⟩ : ∃ copy run,
      (Node.file selfLinked).duplicate ⟨9⟩ = (.ok copy, run) := ⟨_, _, rfl⟩
  exact ⟨below, ⟨copy, run, made⟩, (descendants below made).1 3⟩

end File
end TemplateIR
