import TemplateIR.Proofs.Session.Growth

/-!
Every call lets its session grow. The calls fall into a few kinds: those that make a node of parts,
those that copy one, those that work on a scope, and those that only look.
-/
namespace TemplateIR

/-- The scopes that a call fills by hand. -/
def Call.filled : Call → List String
  | .register scope _ _ => [scope]
  | _ => []

theorem Expr.pick_preorder (node : Node) (expr : Expr) (picked : node.expr? = some expr) :
    node.preorder = [expr.node] := by
  cases node <;> cases picked <;> rfl

theorem StringLiteral.pick_preorder (node : Node) (literal : StringLiteral)
    (picked : node.literal? = some literal) : node.preorder = [.literal literal] := by
  cases node <;> cases picked
  rfl

theorem Binding.pick_preorder (node : Node) (binding : Binding)
    (picked : node.binding? = some binding) : node.preorder = [.binding binding] := by
  cases node <;> cases picked
  rfl

theorem Statement.pick_preorder (node : Node) (statement : Statement)
    (picked : node.statement? = some statement) : node.preorder = statement.preorder := by
  cases node <;> cases picked <;> rfl

namespace Session

variable {session rest : Session} {parts : List Node} {filled : List String} {register name : String}
  {node : Node}

theorem makeImport_grown {span : Span} {literal : StringLiteral} {bindings : List Binding}
    (taken :
      session.Yields (.literal literal :: bindings.flatMap fun binding => [.binding binding]) rest) :
    session.Grown filled (rest.makeImport register span literal bindings).session := by
  let build (_ : NodeId) : Node := .importing (Import.make rest.next span literal bindings)
  have tree : (build rest.next).preorder.Perm
      (build rest.next :: .literal literal :: bindings.flatMap fun binding => [.binding binding]) := by
    rw [← List.map_eq_flatMap]
    exact (List.perm_append_singleton _ _).cons _
  have grown : session.Grown filled (rest.make register build).session :=
    make_grown taken rfl tree rfl
  exact grown

theorem makeFile_grown {span : Span} {path : String} {statements : List Statement}
    (taken : session.Yields (statements.flatMap Statement.preorder) rest) :
    session.Grown filled
      (rest.make register fun id => .file { id, span, path, statements }).session :=
  make_grown taken rfl (.refl _) trivial

theorem copyIn_grown {scope : CopyScope} (lives : node ∈ session.liveNodes)
    (found : session.scopes.find? name = some scope) :
    let result := node.copy.exec { next := session.next, scope }
    session.Grown filled
      ((session.setScope name result.2.scope).afterCopy register result).session := by
  intro result
  let placed := session.setScope name result.2.scope
  obtain ⟨born, births⟩ : ∃ born, placed.Births born (placed.afterCopy register result).session :=
    afterCopy_births lives rfl rfl rfl
  -- The scope has no say in what lives, so the births are those of the session itself.
  refine ⟨⟨born, births.later, births.lives, births.distinct, births.fresh, births.classified⟩, ?_⟩
  refine copiesApart_setScope (placed.scopes_afterCopy register result) births.later ?_
  intro _ since begun apart
  rw [next_afterCopy]
  exact node.copiesApart_copy (apart scope found) begun

theorem duplicate_grown (lives : node ∈ session.liveNodes) :
    session.Grown filled (session.afterCopy register (node.duplicate session.next)).session := by
  have same := node.exec_copyAndReport { next := session.next }
  obtain ⟨born, births⟩ : ∃ born, session.Births born
      (session.afterCopy register (node.duplicate session.next)).session :=
    afterCopy_births lives rfl same.1 same.2
  exact births.grown (session.scopes_afterCopy register _)

theorem relink_grown {scope : CopyScope} {target : NodeId} {span : Span}
    {reply : NodeId → CopyScope → Reply} (found : session.scopes.find? name = some scope) :
    session.Grown filled (session.inScope name scope (CopyM.relink target span) reply).session := by
  have kept : ((CopyM.relink target span).exec { next := session.next, scope }).2.scope = scope := by
    simp only [CopyM.relink]
    split
    · rfl
    · split <;> rfl
  have placed : (session.inScope name scope (CopyM.relink target span) reply).session =
      session.setScope name
        ((CopyM.relink target span).exec { next := session.next, scope }).2.scope := rfl
  rw [placed, kept]
  apply setScope_grown
  intro _ since _ apart
  exact apart scope found

theorem step_grown (session : Session) (call : Call) :
    session.Grown call.filled (session.step call).session := by
  cases call with
  | fresh =>
      have births : session.Births [] (session.step .fresh).session :=
        .none (Nat.le_succ _) (.refl _)
      exact births.grown rfl
  | makeBinding register name span =>
      apply withSpan_grown
      intro span
      exact make_grown (.refl session) rfl (.refl _) trivial
  | makeLiteral register value span =>
      apply withSpan_grown
      intro span
      exact make_grown (.refl session) rfl (.refl _) trivial
  | makeReference register name target span =>
      apply withSpan_grown
      intro span
      apply withFound_grown
      intro target found
      exact make_grown (.refl session) rfl (.refl _) trivial
  | makeReferenceTo register declaration span =>
      apply withSpan_grown
      intro span
      apply withFound_grown
      intro declaration found
      exact make_grown (.refl session) rfl (.refl _) trivial
  | asExpr register node =>
      apply withFound_grown
      rintro ⟨expr, rest⟩ moved
      have taken := take?_yields Expr.pick_preorder moved
      rw [← expr.preorder_eq] at taken
      exact rebind_grown taken
  | asStatement register node =>
      apply withFound_grown
      rintro ⟨statement, rest⟩ moved
      have whole : statement.node.preorder = statement.preorder := by
        cases statement <;> rfl
      have taken := take?_yields Statement.pick_preorder moved
      rw [← whole] at taken
      exact rebind_grown taken
  | makeImport register path bindings span =>
      apply withSpan_grown
      intro span
      apply withFound_grown
      rintro ⟨path, rest⟩ moved
      apply withFound_grown
      rintro ⟨bindings, last⟩ others
      have first := take?_yields StringLiteral.pick_preorder moved
      exact makeImport_grown (first.trans (takeAll?_yields Binding.pick_preorder others))
  | makeImportOfExpr register path bindings span =>
      apply withSpan_grown
      intro span
      apply withFound_grown
      rintro ⟨path, rest⟩ moved
      apply withFound_grown
      rintro ⟨bindings, last⟩ others
      have first := take?_yields Expr.pick_preorder moved
      have taken := first.trans (takeAll?_yields Binding.pick_preorder others)
      cases path with
      | literal path => exact makeImport_grown taken
      | reference node => exact drop_grown taken
  | makePrint register expr span =>
      apply withSpan_grown
      intro span
      apply withFound_grown
      rintro ⟨expr, rest⟩ moved
      exact make_grown (take?_yields Expr.pick_preorder moved) rfl (.refl _) trivial
  | makeFile register path statements span =>
      apply withSpan_grown
      intro span
      apply withFound_grown
      rintro ⟨statements, rest⟩ moved
      exact makeFile_grown (takeAll?_yields Statement.pick_preorder moved)
  | copyIn register node name =>
      apply withFound_grown
      intro node path
      apply withFound_grown
      intro scope found
      exact copyIn_grown (mem_liveNodes path) found
  | duplicate register node =>
      apply withFound_grown
      intro node path
      exact duplicate_grown (mem_liveNodes path)
  | drop register =>
      apply withFound_grown
      intro node found
      exact drop_grown (yields_drop found)
  | literalValue node =>
      apply withFound_grown
      intro expr found
      exact .refl session _
  | source node =>
      apply withFound_grown
      intro node found
      exact .refl session _
  | head node =>
      apply withFound_grown
      intro node found
      exact .refl session _
  | tree node =>
      apply withFound_grown
      intro node found
      exact .refl session _
  | walk node =>
      apply withFound_grown
      intro node found
      exact .refl session _
  | openScope name external =>
      apply withFound_grown
      intro external found
      apply setScope_grown
      intro _ since _ _
      exact .of_size rfl
  | allow name id =>
      apply withFound_grown
      intro scope found
      apply withFound_grown
      intro id _
      apply setScope_grown
      intro _ since _ apart
      exact ⟨(apart scope found).distinct, (apart scope found).between⟩
  | register name old copy =>
      apply withFound_grown
      intro scope found
      apply withFound_grown
      intro old _
      apply withFound_grown
      intro copy _
      apply setScope_grown
      intro untouched
      exact absurd List.mem_cons_self untouched
  | copyOf name old =>
      apply withFound_grown
      intro scope found
      apply withFound_grown
      intro old _
      exact .refl session _
  | relink name target span =>
      apply withSpan_grown
      intro span
      apply withFound_grown
      intro scope found
      apply withFound_grown
      intro target _
      exact relink_grown found
  | scopeSize name =>
      apply withFound_grown
      intro scope found
      exact .refl session _
  | emitParts node options quote =>
      apply withFound_grown
      intro node found
      exact .refl session _

end Session
end TemplateIR
