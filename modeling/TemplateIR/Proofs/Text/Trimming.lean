import Mathlib.Data.List.TakeWhile
import TemplateIR.Text.Blank

/-!
What trimming leaves of a text: all that stands between the blanks at its two ends.
-/
namespace TemplateIR

variable {text core front : List Char} {c : Char}

/-- `core` is `text` without the blanks at its ends. -/
structure Stripped (text core : List Char) : Prop where
  between : ∃ front back, text = front ++ core ++ back ∧ (∀ c ∈ front, isBlank c = true) ∧
    ∀ c ∈ back, isBlank c = true
  head : ∀ c ∈ core.head?, isBlank c = false
  last : ∀ c ∈ core.getLast?, isBlank c = false

theorem trimStart_splits (text : List Char) :
    ∃ front, text = front ++ trimStart text ∧ ∀ c ∈ front, isBlank c = true :=
  ⟨text.takeWhile isBlank, List.takeWhile_append_dropWhile.symm, fun _ => List.mem_takeWhile_imp⟩

theorem head?_trimStart (member : c ∈ (trimStart text).head?) : isBlank c = false := by
  have kept := List.head?_dropWhile_not isBlank text
  rw [trimStart, Option.mem_def] at member
  rwa [member] at kept

theorem trimStart_append (blanks : ∀ c ∈ front, isBlank c = true) :
    trimStart (front ++ text) = trimStart text :=
  List.dropWhile_append_of_pos blanks

theorem trimStart_eq_self (head : ∀ c ∈ text.head?, isBlank c = false) : trimStart text = text := by
  cases text with
  | nil => rfl
  | cons c rest => exact List.dropWhile_cons_of_neg (by simp [head c rfl])

theorem stripped_trim (text : List Char) : Stripped text (trim text) := by
  obtain ⟨front, whole, blanks⟩ := trimStart_splits text
  obtain ⟨back, behind, others⟩ := trimStart_splits (trimStart text).reverse
  have rest : trimStart text = trim text ++ back.reverse := by
    rw [trim, ← List.reverse_append, ← behind, List.reverse_reverse]
  refine ⟨⟨front, back.reverse, ?_, blanks, ?_⟩, ?_, ?_⟩
  · rw [List.append_assoc, ← rest]
    exact whole
  · simpa using others
  · intro c member
    have first : c ∈ (trimStart text).head? := by
      rw [rest, List.head?_append, Option.mem_def.mp member]
      rfl
    exact head?_trimStart first
  · intro c member
    rw [trim, List.getLast?_reverse] at member
    exact head?_trimStart member

theorem Stripped.trim_eq (stripped : Stripped text core) : trim text = core := by
  obtain ⟨⟨front, back, rfl, blanks, others⟩, head, last⟩ := stripped
  rw [trim, List.append_assoc, trimStart_append blanks]
  cases core with
  | nil =>
      have nothing : trimStart back = [] := List.dropWhile_eq_nil_iff.mpr others
      rw [List.nil_append, nothing]
      rfl
  | cons c core =>
      have begun : trimStart (c :: core ++ back) = c :: core ++ back := trimStart_eq_self head
      have ended : trimStart (c :: core).reverse = (c :: core).reverse :=
        trimStart_eq_self (by rwa [List.head?_reverse])
      rw [begun, List.reverse_append, trimStart_append (by simpa using others), ended,
        List.reverse_reverse]

theorem trim_eq_iff : trim text = core ↔ Stripped text core := by
  refine ⟨?_, Stripped.trim_eq⟩
  rintro rfl
  exact stripped_trim text

end TemplateIR
