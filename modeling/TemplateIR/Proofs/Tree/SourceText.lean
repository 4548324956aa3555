import Mathlib.Data.List.Basic
import TemplateIR.Proofs.Emit.LiteralText

/-!
What the source form of a tree is made of. A string literal of a template is written as one of the
emitted code in single quotes, so nothing unseen stands in it; names and import paths are written as
they are.
-/
namespace TemplateIR

variable {quote c d : Char}

/-- The writer of literals asks in two steps what the writer of templates asks in one. -/
theorem isUnseen_eq (c : Char) :
    isUnseen c = ((c.toNat = 0x2028 || c.toNat = 0x2029) ||
      (c.toNat < 0x20 || c.toNat = 0x7F || isFormat c)) := by
  rw [isUnseen]
  ac_rfl

/-- The tables of the two writers list the short escapes in different orders. -/
theorem sourceChar_eq_literalChar (c : Char) : sourceChar c = literalChar '\'' c := by
  have nul : c.toNat = 0 ↔ c = '\x00' :=
    ⟨fun zero => Char.toNat_inj.mp zero, fun same => by rw [same]; rfl⟩
  by_cases listed : c ∈ ['\'', '\\', '\n', '\r', '\t', '\x00']
  · simp only [List.mem_cons, List.not_mem_nil, or_false] at listed
    rcases listed with rfl | rfl | rfl | rfl | rfl | rfl <;> rfl
  · simp only [List.mem_cons, List.not_mem_nil, or_false, not_or] at listed
    obtain ⟨delimiter, backslash, newline, carriage, tab, zero⟩ := listed
    have plain : shortEscapes.lookup c = none := by
      simp [shortEscapes, List.lookup_cons, beq_eq_false_iff_ne.mpr, delimiter, backslash, newline,
        carriage, tab, zero]
    rw [literalChar, if_neg newline, if_neg carriage, if_neg tab, if_neg backslash,
      if_neg (mt nul.mp zero), if_neg delimiter]
    simp only [sourceChar, plain, isUnseen_eq, Bool.or_eq_true (_ || _) (_ || _), ite_or]

theorem StringLiteral.written_eq (node : StringLiteral) :
    node.written = '\'' :: literalBody '\'' node.value.toList ++ ['\''] := by
  have writer : sourceChar = literalChar '\'' := funext sourceChar_eq_literalChar
  rw [written, writer]
  rfl

/-- A string literal of a template is written as the emitted literal in single quotes. -/
theorem StringLiteral.source_eq_quoteLiteral (node : StringLiteral) :
    (Node.literal node).source = quoteLiteral node.value '\'' := by
  rw [Node.source, Node.written, StringLiteral.written_eq, quoteLiteral]

/-- Escaping any one character makes the whole text longer. -/
theorem flatMap_sourceChar_eq_self_iff {text : List Char} :
    text.flatMap sourceChar = text ↔ ∀ c ∈ text, ShownIn '\'' c := by
  have split (c : Char) : [c] = sourceChar c ∧ ShownIn '\'' c ∨
      [c].length < (sourceChar c).length ∧ ¬ShownIn '\'' c := by
    rw [sourceChar_eq_literalChar]
    by_cases shown : ShownIn '\'' c
    · exact .inl ⟨(literalChar_of_shown shown).symm, shown⟩
    · exact .inr ⟨one_lt_length_literalChar shown, shown⟩
  have each (c : Char) : [c] = sourceChar c ↔ ShownIn '\'' c := by
    rcases split c with ⟨same, shown⟩ | ⟨longer, hidden⟩
    · exact iff_of_true same shown
    · refine iff_of_false (fun same => ?_) hidden
      rw [same] at longer
      exact Nat.lt_irrefl _ longer
  calc
    _ ↔ text.flatMap (fun c => [c]) = text.flatMap sourceChar := by
      rw [List.flatMap_singleton', eq_comm]
    _ ↔ ∀ c ∈ text, [c] = sourceChar c :=
      flatMap_eq_flatMap_iff fun c => (split c).imp And.left And.left
    _ ↔ ∀ c ∈ text, ShownIn '\'' c := by
      simp only [each]

theorem StringLiteral.isUnseen_of_mem_written {node : StringLiteral} (member : d ∈ node.written) :
    isUnseen d = false := by
  rw [written_eq, List.mem_append, List.mem_cons, List.mem_singleton, literalBody,
    List.mem_flatMap] at member
  rcases member with (rfl | ⟨c, -, within⟩) | rfl
  · decide
  · exact isUnseen_of_mem_literalChar (by decide) within
  · decide

theorem mem_intercalate {separator : Char} {lists : List (List Char)}
    (member : c ∈ [separator].intercalate lists) : c = separator ∨ ∃ list ∈ lists, c ∈ list := by
  induction lists with
  | nil => simp at member
  | cons list rest ih =>
      cases rest with
      | nil =>
          rw [List.intercalate_singleton] at member
          exact .inr ⟨list, List.mem_cons_self, member⟩
      | cons next rest =>
          rw [List.intercalate_cons_cons, List.append_assoc, List.mem_append, List.mem_append,
            List.mem_singleton] at member
          rcases member with here | separates | behind
          · exact .inr ⟨list, List.mem_cons_self, here⟩
          · exact .inl separates
          · exact (ih behind).imp_right fun ⟨other, listed, within⟩ =>
              ⟨other, List.mem_cons_of_mem _ listed, within⟩

-- The equations of these writers are costly to generate, since they hold texts as literals.
theorem Import.written_eq (node : Import) :
    node.written = "import ".toList ++
      (node.writtenBindings ++ '\'' :: (node.path.value.toList ++ ['\''])) := by
  unfold written
  rw [List.append_assoc, List.append_assoc, List.cons_append]

theorem Import.writtenBindings_eq (node : Import) :
    node.writtenBindings =
      if node.bindings.isEmpty then []
      else '{' :: ([','].intercalate (node.bindings.map (·.name.toList)) ++ "\x7d from ".toList) := by
  unfold writtenBindings
  rw [List.cons_append]

/-- An import is written with its path as the literal of the path would be, if and only if there is
nothing in the path that a literal escapes. -/
theorem Import.source_eq_literal_iff (node : Import) :
    (Node.importing node).source =
        "import " ++
          (if node.bindings = [] then ""
            else "\x7b" ++ ",".intercalate (node.bindings.map (·.name)) ++ "\x7d from ") ++
          (Node.literal node.path).source ↔
      ∀ c ∈ node.path.value.toList, ShownIn '\'' c := by
  have bindings : (if node.bindings = [] then ""
      else "\x7b" ++ ",".intercalate (node.bindings.map (·.name)) ++ "\x7d from ").toList =
        node.writtenBindings := by
    rw [writtenBindings_eq]
    simp only [List.isEmpty_iff]
    split
    · rfl
    · rw [String.toList_append, String.toList_append, String.toList_intercalate, List.map_map,
        List.append_assoc]
      rfl
  have written : (Node.importing node).source.toList = "import ".toList ++
      (node.writtenBindings ++ '\'' :: (node.path.value.toList ++ ['\''])) :=
    String.toList_ofList.trans node.written_eq
  have literal : (Node.literal node.path).source.toList =
      '\'' :: (node.path.value.toList.flatMap sourceChar ++ ['\'']) := String.toList_ofList
  rw [← flatMap_sourceChar_eq_self_iff, ← String.toList_inj, String.toList_append,
    String.toList_append, written, literal, bindings, List.append_assoc,
    List.append_cancel_left_eq, List.append_cancel_left_eq, List.cons_inj_right,
    List.append_left_inj, eq_comm]

theorem Print.written_eq (node : Print) :
    node.written = "\x7bprint ".toList ++ (node.expr.written ++ ['}']) := by
  unfold written
  rw [List.append_assoc]

namespace Statement

/-- The texts that are written as they are: names and import paths. -/
def rawTexts : Statement → List String
  | .importing node => node.bindings.map (·.name) ++ [node.path.value]
  | .printing { expr := .reference node, .. } => [node.name]
  | .printing { expr := .literal _, .. } => []

/-- An unseen character in a statement comes from a text that is written as it is. -/
theorem not_mem_written {statement : Statement} (unseen : isUnseen c = true)
    (raw : ∀ text ∈ statement.rawTexts, c ∉ text.toList) : c ∉ statement.written := by
  have apart (part : List Char) (seen : part.any isUnseen = false) : c ∉ part :=
    fun member => List.any_eq_false.mp seen c member unseen
  have delimiter := apart ['\''] (by decide)
  have word := apart "import ".toList (by decide)
  have from_word := apart "\x7d from ".toList (by decide)
  have marks := apart ['{', ',', '}'] (by decide)
  have print_word := apart "\x7bprint ".toList (by decide)
  simp only [List.mem_cons, List.not_mem_nil, or_false, not_or] at delimiter marks
  cases statement with
  | importing node =>
      simp only [rawTexts, List.forall_mem_append, List.forall_mem_map, List.forall_mem_singleton]
        at raw
      have names : c ∉ [','].intercalate (node.bindings.map (·.name.toList)) := by
        intro member
        rcases mem_intercalate member with comma | ⟨_, listed, within⟩
        · exact marks.2.1 comma
        · obtain ⟨binding, bound, rfl⟩ := List.mem_map.mp listed
          exact raw.1 binding bound within
      have bindings : c ∉ node.writtenBindings := by
        rw [Import.writtenBindings_eq]
        split
        · exact List.not_mem_nil
        · rw [List.mem_cons, List.mem_append, not_or, not_or]
          exact ⟨marks.1, names, from_word⟩
      simp only [written, Import.written_eq, List.mem_append, List.mem_cons, List.not_mem_nil,
        or_false, not_or]
      exact ⟨word, bindings, delimiter, raw.2, delimiter⟩
  | printing node =>
      have expr : c ∉ node.expr.written := by
        obtain ⟨id, span, expr⟩ := node
        cases expr with
        | literal node =>
            intro member
            have seen := StringLiteral.isUnseen_of_mem_written member
            exact Bool.false_ne_true (seen.symm.trans unseen)
        | reference node => exact raw node.name List.mem_cons_self
      simp only [written, Print.written_eq, List.mem_append, List.mem_singleton, not_or]
      exact ⟨print_word, expr, marks.2.2⟩

theorem written_ne_nil (statement : Statement) : statement.written ≠ [] := by
  cases statement with
  | importing node =>
      rw [written, Import.written_eq]
      exact List.append_ne_nil_of_left_ne_nil (by decide) _
  | printing node =>
      rw [written, Print.written_eq]
      exact List.append_ne_nil_of_left_ne_nil (by decide) _

end Statement
end TemplateIR
