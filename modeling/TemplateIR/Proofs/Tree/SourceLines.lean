import TemplateIR.Proofs.Source.UnbrokenText
import TemplateIR.Proofs.Tree.SourceText

/-!
The lines of a rendered file. Nothing in the rendering of a statement breaks the line and there is
one line feed between two of them, so the line map finds each statement on the line of its own.
-/
namespace TemplateIR

theorem breaksFrom_feed (offset : Nat) (rest : List UInt8) :
    breaksFrom offset (10 :: rest) = (offset + 1) :: breaksFrom (offset + 1) rest := by
  rw [breaksFrom]
  · rfl
  · intro _ impossible
    cases impossible

/-- The number of bytes before a line, where a line feed stands behind every line but the last. -/
def lineOffset (lines : List (List Char)) (index : Nat) : Nat :=
  ((lines.take index).flatMap fun line => encoded line ++ [10]).length

theorem lineOffset_succ (line : List Char) (rest : List (List Char)) (index : Nat) :
    lineOffset (line :: rest) (index + 1) =
      (encoded line).length + 1 + lineOffset rest index := by
  rw [lineOffset, List.take_succ_cons, List.flatMap_cons, List.length_append, List.length_append]
  rfl

theorem encoded_joined_cons (line next : List Char) (rest : List (List Char)) :
    encoded (['\n'].intercalate (line :: next :: rest)) =
      encoded line ++ 10 :: encoded (['\n'].intercalate (next :: rest)) := by
  rw [List.intercalate_cons_cons, List.append_assoc, encoded_append, encoded_append]
  rfl

/-- A line starts behind every line feed between two lines and nowhere else. -/
theorem breaksFrom_joined (offset : Nat) {lines : List (List Char)} (filled : lines ≠ [])
    (unbroken : ∀ line ∈ lines, Unbroken line) :
    offset :: breaksFrom offset (encoded (['\n'].intercalate lines)) =
      (List.range lines.length).map fun index => offset + lineOffset lines index := by
  induction lines generalizing offset with
  | nil => exact absurd rfl filled
  | cons line rest ih =>
      rw [List.forall_mem_cons] at unbroken
      have front := unbroken.1.bytes
      cases rest with
      | nil =>
          have last := breaksFrom_append_of_unbroken offset front []
          rw [List.append_nil] at last
          rw [List.intercalate_singleton, last]
          rfl
      | cons next rest =>
          -- The line feed behind the first line is the only break up to the next one.
          have others := ih (offset + (encoded line).length + 1) (List.cons_ne_nil _ _) unbroken.2
          have size : (line :: next :: rest).length = (next :: rest).length + 1 := rfl
          rw [encoded_joined_cons, breaksFrom_append_of_unbroken offset front, breaksFrom_feed, others,
            size, List.range_succ_eq_map, List.map_cons, List.map_map]
          congr 1
          apply List.map_congr_left
          intro index _
          simp only [Function.comp, Nat.succ_eq_add_one, lineOffset_succ]
          omega

theorem encoded_joined {lines : List (List Char)} {index : Nat} {line : List Char}
    (stands : lines[index]? = some line) :
    ∃ before behind, encoded (['\n'].intercalate lines) = before ++ (encoded line ++ behind) ∧
      before.length = lineOffset lines index := by
  induction lines generalizing index with
  | nil => cases stands
  | cons first rest ih =>
      cases index with
      | zero =>
          obtain rfl : first = line := Option.some.inj stands
          cases rest with
          | nil => exact ⟨[], [], by rw [List.intercalate_singleton, List.append_nil]; rfl, rfl⟩
          | cons next rest => exact ⟨[], _, encoded_joined_cons first next rest, rfl⟩
      | succ index =>
          cases rest with
          | nil => cases stands
          | cons next rest =>
              obtain ⟨before, behind, split, length⟩ := ih stands
              refine ⟨encoded first ++ 10 :: before, behind, ?_, ?_⟩
              · rw [encoded_joined_cons, split, List.append_assoc, List.cons_append]
              · rw [List.length_append, List.length_cons, length, lineOffset_succ]
                omega

namespace File

/-- The number of bytes before the rendering of the statement at `index`. -/
def statementStart (node : File) (index : Nat) : Nat :=
  ((node.statements.take index).flatMap fun statement =>
    utf8Bytes statement.node.source ++ [10]).length

theorem utf8Bytes_statement (statement : Statement) :
    utf8Bytes statement.node.source = encoded statement.written := by
  cases statement with
  | importing node => exact utf8Bytes_ofList _
  | printing node => exact utf8Bytes_ofList _

theorem statementStart_eq (node : File) (index : Nat) :
    node.statementStart index = lineOffset (node.statements.map Statement.written) index := by
  simp [statementStart, lineOffset, utf8Bytes_statement, ← List.map_take, Function.comp_def]

theorem statementStart_succ {node : File} {index : Nat} {statement : Statement}
    (stands : node.statements[index]? = some statement) :
    node.statementStart (index + 1) =
      node.statementStart index + ((utf8Bytes statement.node.source).length + 1) := by
  simp [statementStart, List.take_add_one, stands]

theorem utf8Bytes_source (node : File) :
    utf8Bytes (Node.file node).source =
      encoded (['\n'].intercalate (node.statements.map Statement.written)) :=
  utf8Bytes_ofList _

variable {node : File} {index : Nat} {statement : Statement}

theorem lineStarts_source (filled : node.statements ≠ [])
    (unbroken : ∀ statement ∈ node.statements, Unbroken statement.written) :
    lineStarts (utf8Bytes (Node.file node).source) =
      (List.range node.statements.length).map node.statementStart := by
  have joined := breaksFrom_joined 0 (by simpa using filled) (List.forall_mem_map.mpr unbroken)
  rw [lineStarts, utf8Bytes_source, joined, List.length_map]
  apply List.map_congr_left
  intro index _
  rw [statementStart_eq, Nat.zero_add]

theorem lineStarts_source_getElem?
    (unbroken : ∀ statement ∈ node.statements, Unbroken statement.written)
    (inside : index < node.statements.length) :
    (lineStarts (utf8Bytes (Node.file node).source))[index]? = some (node.statementStart index) := by
  have filled : node.statements ≠ [] := List.ne_nil_of_length_pos (Nat.zero_lt_of_lt inside)
  rw [lineStarts_source filled unbroken, List.getElem?_map, List.getElem?_range inside,
    Option.map_some]

theorem lineCount_source
    (unbroken : ∀ statement ∈ node.statements, Unbroken statement.written) :
    (lineStarts (utf8Bytes (Node.file node).source)).length = max 1 node.statements.length := by
  by_cases filled : node.statements = []
  · rw [utf8Bytes_source, filled]
    rfl
  · rw [lineStarts_source filled unbroken, List.length_map, List.length_range]
    have some := List.length_pos_iff.mpr filled
    omega

theorem exists_bytes_source (stands : node.statements[index]? = some statement) :
    ∃ before behind,
      utf8Bytes (Node.file node).source = before ++ (utf8Bytes statement.node.source ++ behind) ∧
      before.length = node.statementStart index := by
  have written : (node.statements.map Statement.written)[index]? = some statement.written := by
    rw [List.getElem?_map, stands, Option.map_some]
  rw [utf8Bytes_source, utf8Bytes_statement, statementStart_eq]
  exact encoded_joined written

/-- Each statement of a rendered file has a line for itself, which it fills from its first byte to
its last. -/
theorem line_structure
    (raw : ∀ statement ∈ node.statements, ∀ text ∈ statement.rawTexts, Unbroken text.toList)
    (short : (utf8Bytes (Node.file node).source).length < UInt32.size) :
    (LineIndex.ofText (Node.file node).source).lineCount = max 1 node.statements.length ∧
    ∀ (index : Nat) (statement : Statement), node.statements[index]? = some statement →
      ((utf8Bytes (Node.file node).source).drop (node.statementStart index)).take
          (utf8Bytes statement.node.source).length = utf8Bytes statement.node.source ∧
      ∀ byte ≤ (utf8Bytes statement.node.source).length, ∃ position,
        (LineIndex.ofText (Node.file node).source).position
            (node.statementStart index + byte).toUInt32 = .ok position ∧
          position.line.toNat = index ∧ position.character.toNat = byte := by
  have unbroken : ∀ statement ∈ node.statements, Unbroken statement.written :=
    fun statement member =>
      ⟨statement.not_mem_written (by decide) fun text listed => (raw statement member text listed).1,
        statement.not_mem_written (by decide) fun text listed => (raw statement member text listed).2⟩
  refine ⟨(LineIndex.lineCount_ofBytes _).trans (lineCount_source unbroken), ?_⟩
  intro index statement stands
  have inside := (List.getElem?_eq_some_iff.mp stands).1
  obtain ⟨before, behind, split, length⟩ := exists_bytes_source stands
  constructor
  · rw [split, ← length, List.drop_left, List.take_left]
  · intro byte within
    have total := congrArg List.length split
    rw [List.length_append, List.length_append] at total
    have narrow : (node.statementStart index + byte).toUInt32.toNat =
        node.statementStart index + byte := LineIndex.toNat_toUInt32 (by omega)
    have reached : node.statementStart index ≤ (node.statementStart index + byte).toUInt32.toNat :=
      by omega
    have found := LineIndex.position_ofBytes short (lineStarts_source_getElem? unbroken inside)
      reached fun later next => by
        have further : index + 1 < node.statements.length := by
          have bound := (List.getElem?_eq_some_iff.mp next).1
          rw [lineCount_source unbroken] at bound
          omega
        rw [lineStarts_source_getElem? unbroken further, statementStart_succ stands,
          Option.some_inj] at next
        omega
    rwa [narrow, Nat.add_sub_cancel_left] at found

/-- A print of a literal with a line feed between two statements outside ASCII. -/
def withLineFeed : File where
  id := ⟨8⟩
  span := .synthetic
  path := "lines.soy"
  statements := [
    .importing ⟨⟨3⟩, .synthetic, ⟨⟨2⟩, .synthetic, "é.proto"⟩, [⟨⟨1⟩, .synthetic, "Ω"⟩], .schema⟩,
    .printing ⟨⟨5⟩, .synthetic, .literal ⟨⟨4⟩, .synthetic, "a\nb"⟩⟩,
    .printing ⟨⟨7⟩, .synthetic, .reference ⟨⟨6⟩, .synthetic, "Ω", ⟨1⟩⟩⟩]

/-- The last byte of the reference stands on the third line. -/
theorem line_structure_withLineFeed : ∃ position,
    (LineIndex.ofText (Node.file withLineFeed).source).position 52 = .ok position ∧
      position.line.toNat = 2 ∧ position.character.toNat = 9 :=
  ((line_structure (by decide) (by decide)).2 2 _ rfl).2 9 (by decide)

end File
end TemplateIR
