import TemplateIR.Proofs.Tree.SourceText

/-!
What can be told from the source form of a file. Its lines are those of the statements, and each line
can be taken apart again, as long as names and paths do not hold the characters that separate them.
-/
namespace TemplateIR

/-- What the source form of a statement shows. -/
inductive StatementContent where
  | importing (names : List String) (path : String)
  | literal (value : String)
  | reference (name : String)
deriving DecidableEq, Repr

def Statement.content : Statement → StatementContent
  | .importing node => .importing (node.bindings.map (·.name)) node.path.value
  | .printing { expr := .literal node, .. } => .literal node.value
  | .printing { expr := .reference node, .. } => .reference node.name

/-- Nothing that is written as it is ends the line. A bound name holds neither the comma nor the
brace that would end it, and the name of a reference does not begin like a literal. -/
def Statement.Readable : Statement → Prop
  | .importing node =>
    (∀ binding ∈ node.bindings, ',' ∉ binding.name.toList ∧ '}' ∉ binding.name.toList ∧
      '\n' ∉ binding.name.toList) ∧ '\n' ∉ node.path.value.toList
  | .printing { expr := .reference node, .. } =>
    '\n' ∉ node.name.toList ∧ node.name.toList.head? ≠ some '\''
  | .printing { expr := .literal _, .. } => True

instance : DecidablePred Statement.Readable
  | .importing _ => inferInstanceAs (Decidable (_ ∧ _))
  | .printing { expr := .reference _, .. } => inferInstanceAs (Decidable (_ ∧ _))
  | .printing { expr := .literal _, .. } => inferInstanceAs (Decidable True)

theorem map_eq_of_map_eq {α β γ : Type} {left right : List α} {view : α → β} {other : α → γ}
    (each : ∀ first ∈ left, ∀ second ∈ right, view first = view second → other first = other second)
    (same : left.map view = right.map view) : left.map other = right.map other := by
  induction left generalizing right with
  | nil => rw [List.map_eq_nil_iff.mp same.symm]
  | cons first left ih =>
      cases right with
      | nil => cases same
      | cons second right =>
          obtain ⟨head, tail⟩ := List.cons.inj same
          rw [List.map_cons, List.map_cons, each first (by simp) second (by simp) head,
            ih (fun a member b listed => each a (by simp [member]) b (by simp [listed])) tail]

/-- What stands before the first separator and what stands behind it. -/
theorem append_cons_cancel {α : Type} {separator : α} {first second rest others : List α}
    (left : separator ∉ first) (right : separator ∉ second)
    (same : first ++ separator :: rest = second ++ separator :: others) :
    first = second ∧ rest = others := by
  induction first generalizing second with
  | nil =>
      cases second with
      | nil => exact ⟨rfl, (List.cons.inj same).2⟩
      | cons head second =>
          rw [(List.cons.inj same).1] at right
          exact absurd List.mem_cons_self right
  | cons head first ih =>
      cases second with
      | nil =>
          rw [← (List.cons.inj same).1] at left
          exact absurd List.mem_cons_self left
      | cons next second =>
          obtain ⟨rfl, behind⟩ := List.cons.inj same
          rw [List.mem_cons, not_or] at left right
          obtain ⟨rfl, tail⟩ := ih left.2 right.2 behind
          exact ⟨rfl, tail⟩

theorem intercalate_injective {α : Type} [DecidableEq α] {separator : α} {left right : List (List α)}
    (apart : ∀ list ∈ left, separator ∉ list) (others : ∀ list ∈ right, separator ∉ list)
    (filled : left ≠ []) (occupied : right ≠ [])
    (same : [separator].intercalate left = [separator].intercalate right) : left = right := by
  rw [← List.splitOn_intercalate separator apart filled, same,
    List.splitOn_intercalate separator others occupied]

namespace Import

variable {left right : Import} {rest others : List Char}

/-- The list of names ends at its closing brace, and its commas stand between the names. -/
theorem names_of_writtenBindings
    (separable : ∀ binding ∈ left.bindings, ',' ∉ binding.name.toList ∧ '}' ∉ binding.name.toList)
    (apart : ∀ binding ∈ right.bindings, ',' ∉ binding.name.toList ∧ '}' ∉ binding.name.toList)
    (same : left.writtenBindings ++ '\'' :: rest = right.writtenBindings ++ '\'' :: others) :
    left.bindings.map (·.name.toList) = right.bindings.map (·.name.toList) ∧ rest = others := by
  have brace : "\x7d from ".toList = '}' :: " from ".toList := rfl
  have joined (node : Import) (separable : ∀ binding ∈ node.bindings,
      ',' ∉ binding.name.toList ∧ '}' ∉ binding.name.toList) :
      '}' ∉ [','].intercalate (node.bindings.map (·.name.toList)) := by
    intro member
    rcases mem_intercalate member with comma | ⟨_, listed, within⟩
    · exact absurd comma (by decide)
    · obtain ⟨binding, bound, rfl⟩ := List.mem_map.mp listed
      exact (separable binding bound).2 within
  rw [writtenBindings_eq, writtenBindings_eq] at same
  split at same
  · next none =>
    split at same
    · next nothing =>
      rw [List.isEmpty_iff] at none nothing
      rw [none, nothing]
      exact ⟨rfl, (List.cons.inj same).2⟩
    · exact absurd (List.cons.inj same).1 (by decide)
  · next some =>
    split at same
    · exact absurd (List.cons.inj same).1 (by decide)
    · next present =>
      rw [List.cons_append, List.cons_append, List.append_assoc, List.append_assoc, brace,
        List.cons_append, List.cons_append] at same
      obtain ⟨names, behind⟩ := append_cons_cancel (joined left separable) (joined right apart)
        (List.cons.inj same).2
      rw [List.append_right_inj] at behind
      rw [List.isEmpty_iff] at some present
      refine ⟨intercalate_injective ?_ ?_ ?_ ?_ names, (List.cons.inj behind).2⟩
      · exact List.forall_mem_map.mpr fun binding bound => (separable binding bound).1
      · exact List.forall_mem_map.mpr fun binding bound => (apart binding bound).1
      · simpa using some
      · simpa using present

end Import

namespace Statement

variable {left right : Statement}

theorem Readable.unbroken {statement : Statement} (readable : statement.Readable) :
    '\n' ∉ statement.written := by
  apply not_mem_written (by decide)
  cases statement with
  | importing node =>
      simp only [rawTexts, List.forall_mem_append, List.forall_mem_map, List.forall_mem_singleton]
      exact ⟨fun binding bound => (readable.1 binding bound).2.2, readable.2⟩
  | printing node =>
      obtain ⟨id, span, expr⟩ := node
      cases expr with
      | literal node => exact List.forall_mem_nil _
      | reference node => exact List.forall_mem_singleton.mpr readable.1

theorem importing_ne_printing (node : Import) (other : Print) :
    (importing node).written ≠ (printing other).written := by
  rw [written, written, Import.written_eq, Print.written_eq]
  exact fun same => absurd (List.cons.inj same).1 (by decide)

/-- A statement can be read off what is written for it. -/
theorem content_of_written (readable : left.Readable) (legible : right.Readable)
    (same : left.written = right.written) : left.content = right.content := by
  cases left with
  | importing node =>
      cases right with
      | importing other =>
          rw [written, written, Import.written_eq, Import.written_eq, List.append_right_inj] at same
          obtain ⟨names, path⟩ := Import.names_of_writtenBindings
            (fun binding bound => ⟨(readable.1 binding bound).1, (readable.1 binding bound).2.1⟩)
            (fun binding bound => ⟨(legible.1 binding bound).1, (legible.1 binding bound).2.1⟩) same
          rw [List.append_left_inj, String.toList_inj] at path
          rw [content, content, map_eq_of_map_eq (fun _ _ _ _ => String.toList_inj.mp) names, path]
      | printing other => exact absurd same (importing_ne_printing node other)
  | printing node =>
      cases right with
      | importing other => exact absurd same.symm (importing_ne_printing other node)
      | printing other =>
          rw [written, written, Print.written_eq, Print.written_eq, List.append_right_inj,
            List.append_left_inj] at same
          obtain ⟨id, span, expr⟩ := node
          obtain ⟨otherId, otherSpan, otherExpr⟩ := other
          cases expr with
          | literal node =>
              cases otherExpr with
              | literal other =>
                  simp only [Expr.written, StringLiteral.written_eq] at same
                  obtain ⟨value, -⟩ :=
                    literalBody_append_cancel (by decide) (List.cons.inj same).2
                  rw [content, content, String.toList_inj.mp value]
              | reference other =>
                  simp only [Expr.written, StringLiteral.written_eq] at same
                  exact absurd (congrArg List.head? same).symm legible.2
          | reference node =>
              cases otherExpr with
              | literal other =>
                  simp only [Expr.written, StringLiteral.written_eq] at same
                  exact absurd (congrArg List.head? same) readable.2
              | reference other =>
                  rw [content, content, String.toList_inj.mp same]

theorem written_of_content (same : left.content = right.content) : left.written = right.written := by
  cases left with
  | importing node =>
      cases right with
      | importing other =>
          obtain ⟨names, path⟩ := StatementContent.importing.inj same
          have spelled := map_eq_of_map_eq (fun _ _ _ _ => congrArg String.toList) names
          have none : node.bindings.isEmpty = other.bindings.isEmpty := by
            rw [← List.isEmpty_map, names, List.isEmpty_map]
          rw [written, written, Import.written_eq, Import.written_eq, Import.writtenBindings_eq,
            Import.writtenBindings_eq, spelled, none, path]
      | printing other =>
          obtain ⟨id, span, expr⟩ := other
          cases expr <;> cases same
  | printing node =>
      cases right with
      | importing other =>
          obtain ⟨id, span, expr⟩ := node
          cases expr <;> cases same
      | printing other =>
          obtain ⟨id, span, expr⟩ := node
          obtain ⟨otherId, otherSpan, otherExpr⟩ := other
          have inner : expr.written = otherExpr.written := by
            cases expr with
            | literal node =>
                cases otherExpr with
                | literal other =>
                    rw [Expr.written, Expr.written, StringLiteral.written_eq,
                      StringLiteral.written_eq, StatementContent.literal.inj same]
                | reference other => cases same
            | reference node =>
                cases otherExpr with
                | literal other => cases same
                | reference other => exact congrArg String.toList (StatementContent.reference.inj same)
          rw [written, written, Print.written_eq, Print.written_eq, inner]

end Statement

theorem intercalate_ne_nil {separator : Char} {lists : List (List Char)} (filled : lists ≠ [])
    (each : ∀ list ∈ lists, list ≠ []) : [separator].intercalate lists ≠ [] := by
  cases lists with
  | nil => exact absurd rfl filled
  | cons list rest =>
      have head := each list List.mem_cons_self
      cases rest with
      | nil => simpa using head
      | cons next rest => simp [List.intercalate_cons_cons, head]

/-- Two readable files have the same source form exactly if their statements show the same, one by
one: the same names and path, the same value, or the same name. -/
theorem File.source_eq_iff {left right : File}
    (readable : ∀ statement ∈ left.statements, statement.Readable)
    (legible : ∀ statement ∈ right.statements, statement.Readable) :
    (Node.file left).source = (Node.file right).source ↔
      left.statements.map Statement.content = right.statements.map Statement.content := by
  have filled (node : File) : ∀ list ∈ node.statements.map Statement.written, list ≠ [] :=
    List.forall_mem_map.mpr fun statement _ => statement.written_ne_nil
  rw [Node.source, Node.source, String.ofList_inj]
  change ['\n'].intercalate _ = ['\n'].intercalate _ ↔ _
  constructor
  · intro same
    have lines : left.statements.map Statement.written = right.statements.map Statement.written := by
      by_cases none : left.statements.map Statement.written = []
      · rw [none]
        rw [none, List.intercalate_nil] at same
        by_contra some
        exact intercalate_ne_nil (Ne.symm some) (filled right) same.symm
      · refine intercalate_injective ?_ ?_ none ?_ same
        · exact List.forall_mem_map.mpr fun statement member => (readable statement member).unbroken
        · exact List.forall_mem_map.mpr fun statement member => (legible statement member).unbroken
        · intro nothing
          rw [nothing, List.intercalate_nil] at same
          exact intercalate_ne_nil none (filled left) same
    exact map_eq_of_map_eq (fun statement member other listed =>
      Statement.content_of_written (readable statement member) (legible other listed)) lines
  · intro same
    rw [map_eq_of_map_eq (fun _ _ _ _ => Statement.written_of_content) same]

/-- An import, a reference whose name ends like a print, and prints of these literals. -/
def File.withLiterals (values : List String) : File where
  id := ⟨9⟩
  span := .synthetic
  path := "literals.soy"
  statements :=
    .importing ⟨⟨3⟩, .synthetic, ⟨⟨2⟩, .synthetic, "it's.proto"⟩,
      [⟨⟨1⟩, .synthetic, ""⟩, ⟨⟨4⟩, .synthetic, "B from 'x'"⟩], .schema⟩ ::
    .printing ⟨⟨6⟩, .synthetic, .reference ⟨⟨5⟩, .synthetic, "B\x7d", ⟨4⟩⟩⟩ ::
    values.map fun value => .printing ⟨⟨8⟩, .synthetic, .literal ⟨⟨7⟩, .synthetic, value⟩⟩

/-- A literal that holds the text between two prints is still told from the two. -/
theorem File.source_eq_iff_withLiterals :
    (Node.file (withLiterals ["a'\x7d\n\x7bprint 'b"])).source ≠
      (Node.file (withLiterals ["a", "b"])).source := by
  intro same
  exact absurd ((source_eq_iff (by decide) (by decide)).mp same) (by decide)

end TemplateIR
