import TemplateIR.Proofs.Session.Live
import TemplateIR.Proofs.Tree.Remains

/-!
How a session grows. Whatever a call does, and also when it comes to nothing halfway, the nodes that
live afterwards are those that lived before and new ones, whose identities were not taken yet.
-/
namespace TemplateIR

/-- An import has the type that its path decides. -/
def Node.Classified : Node → Prop
  | .importing node => node.importTarget = .ofPath node.path.value
  | _ => True

theorem Node.classified_of_facts {left right : Node} (same : left.facts = right.facts)
    (classified : left.Classified) : right.Classified := by
  cases right with
  | importing node =>
      cases left with
      | importing other =>
          simp only [facts, label?, importTarget?, NodeFacts.mk.injEq, Option.some.injEq] at same
          obtain ⟨-, -, path, target⟩ := same
          rw [Classified, ← path, ← target]
          exact classified
      | file other => simp [facts, kind] at same
      | printing other => simp [facts, kind] at same
      | literal other => simp [facts, kind] at same
      | reference other => simp [facts, kind] at same
      | binding other => simp [facts, kind] at same
  | file node => trivial
  | printing node => trivial
  | literal node => trivial
  | reference node => trivial
  | binding node => trivial

theorem Node.classified_copied {node : Node} (run : CopyRun)
    (classified : ∀ part ∈ node.preorder, part.Classified) :
    ∀ part ∈ (node.copied run).preorder, part.Classified := by
  intro part member
  have listed := List.mem_map_of_mem (f := Node.facts) member
  rw [node.facts_copied] at listed
  obtain ⟨original, below, same⟩ := List.mem_map.mp listed
  exact classified_of_facts same (classified original below)

namespace Session

/-- `born` are the nodes that come to life between the two sessions. -/
structure Births (before : Session) (born : List Node) (after : Session) : Prop where
  later : before.next.number ≤ after.next.number
  lives : after.liveNodes.Subperm (born ++ before.liveNodes)
  distinct : (born.map Node.id).Nodup
  fresh : ∀ node ∈ born,
    before.next.number ≤ node.id.number ∧ node.id.number < after.next.number
  classified : (∀ node ∈ before.liveNodes, node.Classified) → ∀ node ∈ born, node.Classified

/-- If there is a scope of this name, its copies differ and were taken from `since` on. -/
def CopiesApart (session : Session) (since : NodeId) (name : String) : Prop :=
  ∀ scope, session.scopes.find? name = some scope → scope.CopiesApart since session.next

/-- The session has grown by new nodes, and by copies in the scopes that are not among those filled
by hand. -/
structure Grown (before : Session) (filled : List String) (after : Session) : Prop where
  born : ∃ born, before.Births born after
  scopes : ∀ name ∉ filled, ∀ since : NodeId, since.number ≤ before.next.number →
    before.CopiesApart since name → after.CopiesApart since name

variable {before middle after session rest : Session} {first second parts : List Node}
  {filled others : List String} {register name path : String} {node : Node}

theorem Births.none (later : before.next.number ≤ after.next.number)
    (lives : after.liveNodes.Subperm before.liveNodes) : before.Births [] after where
  later := later
  lives := lives
  distinct := List.nodup_nil
  fresh := List.forall_mem_nil _
  classified _ := List.forall_mem_nil _

theorem Births.trans (left : before.Births first middle) (right : middle.Births second after) :
    before.Births (second ++ first) after where
  later := Nat.le_trans left.later right.later
  lives := by
    have moved := (List.subperm_append_left second).mpr left.lives
    rw [← List.append_assoc] at moved
    exact right.lives.trans moved
  distinct := by
    rw [List.map_append]
    refine List.nodup_append.mpr ⟨right.distinct, left.distinct, ?_⟩
    intro young youngMember old oldMember same
    obtain ⟨late, born, rfl⟩ := List.mem_map.mp youngMember
    obtain ⟨early, known, rfl⟩ := List.mem_map.mp oldMember
    have above := (right.fresh late born).1
    have below := (left.fresh early known).2
    rw [same] at above
    omega
  fresh := by
    intro node member
    have passed := left.later
    have goneOn := right.later
    rcases List.mem_append.mp member with late | early
    · have bounds := right.fresh node late
      omega
    · have bounds := left.fresh node early
      omega
  classified known := by
    intro node member
    rcases List.mem_append.mp member with late | early
    · refine right.classified ?_ node late
      intro other lives
      rcases List.mem_append.mp (left.lives.subset lives) with born | old
      · exact left.classified known other born
      · exact known other old
    · exact left.classified known node early

theorem CopiesApart.until {since : NodeId} (apart : before.CopiesApart since name)
    (same : after.scopes = before.scopes) (later : before.next.number ≤ after.next.number) :
    after.CopiesApart since name := by
  intro scope found
  rw [same] at found
  exact (apart scope found).until later

theorem Grown.refl (session : Session) (filled : List String) : session.Grown filled session where
  born := ⟨[], .none (Nat.le_refl _) (.refl _)⟩
  scopes _ _ _ _ apart := apart

theorem Grown.later (grown : before.Grown filled after) : before.next.number ≤ after.next.number :=
  have ⟨_, births⟩ := grown.born
  births.later

theorem Grown.trans (left : before.Grown filled middle) (right : middle.Grown others after) :
    before.Grown (filled ++ others) after where
  born := by
    obtain ⟨first, earlier⟩ := left.born
    obtain ⟨second, later⟩ := right.born
    exact ⟨second ++ first, earlier.trans later⟩
  scopes := by
    intro name untouched since begun apart
    rw [List.mem_append, not_or] at untouched
    have kept := left.scopes name untouched.1 since begun apart
    exact right.scopes name untouched.2 since (Nat.le_trans begun left.later) kept

theorem Births.grown (births : before.Births parts after) (same : after.scopes = before.scopes) :
    before.Grown filled after where
  born := ⟨parts, births⟩
  scopes _ _ _ _ apart := apart.until same births.later

theorem withSpan_cases {motive : Outcome → Prop} {request : SpanRequest} {proceed : Span → Outcome}
    (each : ∀ span, motive (proceed span))
    (refused : ∀ bounds, motive { reply := .fault (.span bounds), session }) :
    motive (session.withSpan request proceed) := by
  rw [withSpan]
  cases request.resolve with
  | ok span => exact each span
  | error bounds => exact refused bounds

theorem withFound_cases {motive : Outcome → Prop} {α : Type} {found : Option α}
    {proceed : α → Outcome} (each : ∀ value, found = some value → motive (proceed value))
    (missing : motive { reply := .unknown, session }) :
    motive (session.withFound found proceed) := by
  cases found with
  | some value => exact each value rfl
  | none => exact missing

theorem withSpan_grown {request : SpanRequest} {proceed : Span → Outcome}
    (each : ∀ span, session.Grown filled (proceed span).session) :
    session.Grown filled (session.withSpan request proceed).session :=
  withSpan_cases (motive := fun outcome => session.Grown filled outcome.session) each
    fun _ => .refl session filled

theorem withFound_grown {α : Type} {found : Option α} {proceed : α → Outcome}
    (each : ∀ value, found = some value → session.Grown filled (proceed value).session) :
    session.Grown filled (session.withFound found proceed).session :=
  withFound_cases (motive := fun outcome => session.Grown filled outcome.session) each
    (.refl session filled)

/-- A node made of parts that were taken out is the only one that is born. -/
theorem make_grown {build : NodeId → Node} (taken : session.Yields parts rest)
    (named : (build rest.next).id = rest.next)
    (tree : (build rest.next).preorder.Perm (build rest.next :: parts))
    (classified : (build rest.next).Classified) :
    session.Grown filled (rest.make register build).session := by
  let made := build rest.next
  have births : session.Births [made] (rest.make register build).session := by
    refine ⟨?_, ?_, List.nodup_singleton _, ?_, ?_⟩
    · rw [← taken.next]
      exact Nat.le_succ _
    · have bound := (liveNodes_bind { rest with next := rest.next.succ } register made).subperm
      refine bound.trans ((List.subperm_append_right _).mpr tree.subperm |>.trans ?_)
      exact (List.subperm_cons made).mpr taken.lives
    · intro node member
      obtain rfl := List.mem_singleton.mp member
      rw [named, ← taken.next]
      exact ⟨Nat.le_refl _, Nat.lt_succ_self _⟩
    · intro _ node member
      obtain rfl := List.mem_singleton.mp member
      exact classified
  exact births.grown taken.scopes

theorem rebind_grown (taken : session.Yields node.preorder rest) :
    session.Grown filled (rest.bind register node) := by
  have next : session.next = (rest.bind register node).next := taken.next.symm
  have births : session.Births [] (rest.bind register node) := by
    apply Births.none (Nat.le_of_eq (congrArg NodeId.number next))
    exact (liveNodes_bind rest register node).subperm.trans taken.lives
  exact births.grown taken.scopes

theorem drop_grown (taken : session.Yields parts rest) : session.Grown filled rest := by
  have births : session.Births [] rest := by
    apply Births.none (Nat.le_of_eq (congrArg NodeId.number taken.next.symm))
    exact (List.sublist_append_right parts rest.liveNodes).subperm.trans taken.lives
  exact births.grown taken.scopes

theorem next_afterCopy (session : Session) (register : String)
    (result : Except CopyFault Node × CopyRun) :
    (session.afterCopy register result).session.next = result.2.next := by
  obtain ⟨outcome, run⟩ := result
  cases outcome <;> rfl

theorem scopes_afterCopy (session : Session) (register : String)
    (result : Except CopyFault Node × CopyRun) :
    (session.afterCopy register result).session.scopes = session.scopes := by
  obtain ⟨outcome, run⟩ := result
  cases outcome <;> rfl

theorem afterCopy_births {run : CopyRun} {result : Except CopyFault Node × CopyRun}
    (lives : node ∈ session.liveNodes) (begun : run.next = session.next)
    (value : result.1 = (node.copy.exec run).1) (next : result.2.next = (node.copy.exec run).2.next) :
    ∃ born, session.Births born (session.afterCopy register result).session := by
  have later := node.next_le_copy run
  rw [begun, ← next] at later
  unfold afterCopy
  cases outcome : result.1 with
  | error fault => exact ⟨[], .none later (.refl _)⟩
  | ok copy =>
      have done : node.copy.exec run = (.ok copy, (node.copy.exec run).2) := by
        rw [← outcome, value]
      obtain ⟨same, distinct, fresh⟩ := Node.copy_new done
      refine ⟨copy.preorder, later, ?_, distinct, ?_, ?_⟩
      · exact (liveNodes_bind _ register copy).subperm
      · intro part member
        have bounds := fresh part.id (List.mem_map_of_mem member)
        rwa [begun, ← next] at bounds
      · intro classified
        rw [same]
        apply Node.classified_copied
        intro part member
        exact classified part ((preorder_sublist lives).subset member)

/-- Putting a scope in its place keeps the copies of all scopes apart if its own are. -/
theorem copiesApart_setScope {scope : CopyScope}
    (placed : after.scopes = before.scopes.insert name scope)
    (later : before.next.number ≤ after.next.number)
    (apart : name ∉ filled → ∀ since : NodeId, since.number ≤ before.next.number →
      before.CopiesApart since name → scope.CopiesApart since after.next) :
    ∀ other ∉ filled, ∀ since : NodeId, since.number ≤ before.next.number →
      before.CopiesApart since other → after.CopiesApart since other := by
  intro other untouched since begun known held found
  rw [placed, Table.find?_insert] at found
  split at found
  · rename_i same
    subst same
    cases found
    exact apart untouched since begun known
  · exact (known held found).until later

theorem setScope_grown {scope : CopyScope}
    (apart : name ∉ filled → ∀ since : NodeId, since.number ≤ session.next.number →
      session.CopiesApart since name → scope.CopiesApart since session.next) :
    session.Grown filled (session.setScope name scope) where
  born := ⟨[], .none (Nat.le_refl _) (.refl _)⟩
  scopes := copiesApart_setScope rfl (Nat.le_refl _) apart

end Session
end TemplateIR
