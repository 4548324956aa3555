import Mathlib.Data.List.Infix
import Mathlib.Data.List.Nodup
import TemplateIR.Diagnostic.Template

/-!
Filling a template in one go: every placeholder in it gives way to its argument, and what an argument
brings along is left alone.
-/
namespace TemplateIR

def placeholder (index : Nat) : List Char :=
  '{' :: placeholderTail index

/-- The argument, with its index, whose placeholder stands at the beginning of the text. -/
def argumentAt? (arguments : List (List Char × Nat)) (text : List Char) : Option (List Char × Nat) :=
  arguments.find? fun argument => (placeholder argument.2).isPrefixOf text

/-- Puts all arguments in place of their placeholders, in one pass from the left. The first `skip`
characters belong to a placeholder that is already replaced. -/
def substituteFrom (arguments : List (List Char × Nat)) : Nat → List Char → List Char
  | _, [] => []
  | skip + 1, _ :: rest => substituteFrom arguments skip rest
  | 0, c :: rest =>
    match argumentAt? arguments (c :: rest) with
    | some (argument, index) =>
      argument ++ substituteFrom arguments (placeholderTail index).length rest
    | none => c :: substituteFrom arguments 0 rest

def substitute (arguments : List (List Char × Nat)) (text : List Char) : List Char :=
  substituteFrom arguments 0 text

/-- What is to become of the template: the arguments stand where their placeholders stood. -/
def substituted (template : String) (arguments : List String) : String :=
  String.ofList (substitute (arguments.map String.toList).zipIdx template.toList)

/-- How often the placeholder of argument `index` occurs in the text. -/
def occurrences (index : Nat) (text : List Char) : Nat :=
  text.tails.countP (placeholder index).isPrefixOf

variable {index other skip : Nat} {argument text before behind plain : List Char}
  {arguments : List (List Char × Nat)}

theorem digits_placeholderTail (index : Nat) (behind : List Char) :
    (placeholderTail index ++ behind).takeWhile Char.isDigit = Nat.toDigits 10 index := by
  have digits : ∀ c ∈ Nat.toDigits 10 index, c.isDigit = true :=
    fun c member => Nat.isDigit_of_mem_toDigits (by decide) (by decide) member
  rw [placeholderTail, List.append_assoc, List.takeWhile_append_of_pos digits]
  exact List.append_nil _

/-- No placeholder is the beginning of another one. -/
theorem index_eq_of_prefix (first : placeholder index <+: placeholder other ++ behind) :
    index = other := by
  obtain ⟨rest, same⟩ := first
  have tails : placeholderTail index ++ rest = placeholderTail other ++ behind :=
    (List.cons.inj same).2
  have digits : Nat.toDigits 10 index = Nat.toDigits 10 other := by
    rw [← digits_placeholderTail index rest, tails, digits_placeholderTail]
  rw [← @Nat.ofDigitChars_ten_toDigits index, digits, Nat.ofDigitChars_ten_toDigits]

theorem brace_not_mem_placeholderTail (index : Nat) : '{' ∉ placeholderTail index := by
  rw [placeholderTail, List.mem_append, List.mem_singleton, not_or]
  refine ⟨fun member => ?_, by decide⟩
  have digit := Nat.isDigit_of_mem_toDigits (by decide) (by decide) member
  exact absurd digit (by decide)

theorem not_prefix_of_ne {c : Char} (apart : c ≠ '{') : ¬placeholder index <+: c :: text :=
  fun first => apart (List.cons_prefix_cons.mp first).1.symm

/-- A placeholder that begins before a brace also ends before it. -/
theorem prefix_append_brace_iff {c : Char} :
    placeholder index <+: (c :: before) ++ '{' :: behind ↔ placeholder index <+: c :: before := by
  refine ⟨fun first => ?_, fun first => first.trans (List.prefix_append _ _)⟩
  obtain within | ⟨rest, split⟩ :=
    List.prefix_or_prefix_of_prefix first (List.prefix_append (c :: before) _)
  · exact within
  · rw [← split, List.prefix_append_right_inj] at first
    cases rest with
    | nil => rw [← split, List.append_nil]
    | cons next rest =>
        obtain rfl := (List.cons_prefix_cons.mp first).1
        have member : '{' ∈ placeholderTail index := by
          rw [← (List.cons.inj split).2]
          exact List.mem_append_right _ List.mem_cons_self
        exact absurd member (brace_not_mem_placeholderTail index)

theorem argumentAt?_append_brace (arguments : List (List Char × Nat)) (c : Char)
    (before behind : List Char) :
    argumentAt? arguments ((c :: before) ++ '{' :: behind) = argumentAt? arguments (c :: before) := by
  unfold argumentAt?
  congr 1
  funext argument
  rw [Bool.eq_iff_iff, List.isPrefixOf_iff_prefix, List.isPrefixOf_iff_prefix]
  exact prefix_append_brace_iff

theorem argumentAt?_some {found : List Char × Nat} (here : argumentAt? arguments text = some found) :
    placeholder found.2 <+: text :=
  List.isPrefixOf_iff_prefix.mp (List.find?_some (p := fun argument : List Char × Nat =>
    (placeholder argument.2).isPrefixOf text) here)

theorem argumentAt?_of_ne {c : Char} (apart : c ≠ '{') : argumentAt? arguments (c :: text) = none := by
  rw [argumentAt?, List.find?_eq_none]
  intro argument _ first
  exact not_prefix_of_ne apart (List.isPrefixOf_iff_prefix.mp first)

namespace Substitution

theorem from_append_brace (inside : skip ≤ before.length) :
    substituteFrom arguments skip (before ++ '{' :: behind) =
      substituteFrom arguments skip before ++ substitute arguments ('{' :: behind) := by
  induction before generalizing skip with
  | nil =>
      obtain rfl := Nat.le_zero.mp inside
      rfl
  | cons c rest ih =>
      cases skip with
      | succ skip => exact ih (Nat.le_of_succ_le_succ inside)
      | zero =>
          simp only [List.cons_append, substituteFrom]
          rw [← List.cons_append, argumentAt?_append_brace]
          cases here : argumentAt? arguments (c :: rest) with
          | none => exact congrArg (c :: ·) (ih (Nat.zero_le _))
          | some found =>
              have long := (argumentAt?_some here).length_le
              simp only [placeholder, List.length_cons] at long
              simp only [ih (Nat.le_of_succ_le_succ long), List.append_assoc]

theorem append_brace (arguments : List (List Char × Nat)) (before behind : List Char) :
    substitute arguments (before ++ '{' :: behind) =
      substitute arguments before ++ substitute arguments ('{' :: behind) :=
  from_append_brace (Nat.zero_le _)

theorem from_length_append (arguments : List (List Char × Nat)) (before behind : List Char) :
    substituteFrom arguments before.length (before ++ behind) = substitute arguments behind := by
  induction before with
  | nil => rfl
  | cons c rest ih => exact ih

theorem plain_append (unbraced : '{' ∉ plain) (behind : List Char) :
    substitute arguments (plain ++ behind) = plain ++ substitute arguments behind := by
  induction plain with
  | nil => rfl
  | cons c rest ih =>
      rw [List.mem_cons, not_or] at unbraced
      rw [List.cons_append, substitute, substituteFrom, argumentAt?_of_ne (Ne.symm unbraced.1)]
      exact congrArg (c :: ·) (ih unbraced.2)

theorem placeholder_append (distinct : (arguments.map Prod.snd).Nodup)
    (member : (argument, index) ∈ arguments) (behind : List Char) :
    substitute arguments (placeholder index ++ behind) =
      argument ++ substitute arguments behind := by
  have here : argumentAt? arguments (placeholder index ++ behind) = some (argument, index) := by
    cases found : argumentAt? arguments (placeholder index ++ behind) with
    | none =>
        have absent := List.find?_eq_none.mp found _ member
        exact absurd (List.isPrefixOf_iff_prefix.mpr (List.prefix_append _ _)) absent
    | some other =>
        have same : other.2 = index := index_eq_of_prefix (argumentAt?_some found)
        have listed : other ∈ arguments := List.mem_of_find?_eq_some found
        rw [List.inj_on_of_nodup_map distinct listed member same]
  rw [placeholder, List.cons_append, substitute, substituteFrom, ← List.cons_append, ← placeholder,
    here]
  exact congrArg (argument ++ ·) (from_length_append _ _ _)

theorem foreign_append (foreign : index ∉ arguments.map Prod.snd) (behind : List Char) :
    substitute arguments (placeholder index ++ behind) =
      placeholder index ++ substitute arguments behind := by
  have here : argumentAt? arguments (placeholder index ++ behind) = none := by
    rw [argumentAt?, List.find?_eq_none]
    intro other listed first
    obtain rfl := index_eq_of_prefix (List.isPrefixOf_iff_prefix.mp first)
    exact foreign (List.mem_map_of_mem listed)
  rw [placeholder, List.cons_append, substitute, substituteFrom, ← List.cons_append, ← placeholder,
    here]
  exact congrArg ('{' :: ·) (plain_append (brace_not_mem_placeholderTail index) behind)

theorem append_placeholder (distinct : (arguments.map Prod.snd).Nodup)
    (member : (argument, index) ∈ arguments) (before behind : List Char) :
    substitute arguments (before ++ (placeholder index ++ behind)) =
      substitute arguments before ++ (argument ++ substitute arguments behind) := by
  rw [← placeholder_append distinct member]
  exact append_brace arguments before (placeholderTail index ++ behind)

theorem append_foreign (foreign : index ∉ arguments.map Prod.snd) (before behind : List Char) :
    substitute arguments (before ++ (placeholder index ++ behind)) =
      substitute arguments before ++ (placeholder index ++ substitute arguments behind) := by
  rw [← foreign_append foreign]
  exact append_brace arguments before (placeholderTail index ++ behind)

end Substitution

namespace Occurrences

theorem of_cons (index : Nat) (c : Char) (text : List Char) :
    occurrences index (c :: text) =
      occurrences index text + if placeholder index <+: c :: text then 1 else 0 := by
  simp only [occurrences, List.tails_cons, List.countP_cons, List.isPrefixOf_iff_prefix]

theorem of_cons_eq_zero_iff {c : Char} :
    occurrences index (c :: text) = 0 ↔
      occurrences index text = 0 ∧ ¬placeholder index <+: c :: text := by
  rw [of_cons]
  split <;> simp_all

theorem append_brace (index : Nat) (before behind : List Char) :
    occurrences index (before ++ '{' :: behind) =
      occurrences index before + occurrences index ('{' :: behind) := by
  induction before with
  | nil => exact (Nat.zero_add _).symm
  | cons c rest ih =>
      rw [List.cons_append, of_cons, of_cons, ih, ← List.cons_append]
      simp only [prefix_append_brace_iff]
      omega

theorem plain_append (unbraced : '{' ∉ plain) (behind : List Char) :
    occurrences index (plain ++ behind) = occurrences index behind := by
  induction plain with
  | nil => rfl
  | cons c rest ih =>
      rw [List.mem_cons, not_or] at unbraced
      rw [List.cons_append, of_cons, ih unbraced.2, if_neg (not_prefix_of_ne (Ne.symm unbraced.1))]
      rfl

theorem placeholder_append (index : Nat) (behind : List Char) :
    occurrences index (placeholder index ++ behind) = occurrences index behind + 1 := by
  have here : placeholder index <+: '{' :: (placeholderTail index ++ behind) :=
    List.prefix_append _ behind
  rw [placeholder, List.cons_append, of_cons, if_pos here,
    plain_append (brace_not_mem_placeholderTail index)]

theorem append_placeholder (index : Nat) (before behind : List Char) :
    occurrences index (before ++ (placeholder index ++ behind)) =
      occurrences index before + (occurrences index behind + 1) := by
  rw [← placeholder_append]
  exact append_brace index before (placeholderTail index ++ behind)

theorem exists_first (some : occurrences index text ≠ 0) :
    ∃ before behind, text = before ++ (placeholder index ++ behind) ∧
      occurrences index before = 0 := by
  induction text with
  | nil => exact absurd rfl some
  | cons c rest ih =>
      by_cases here : placeholder index <+: c :: rest
      · obtain ⟨behind, split⟩ := here
        exact ⟨[], behind, split.symm, rfl⟩
      · have later : occurrences index rest ≠ 0 :=
          fun none => some (of_cons_eq_zero_iff.mpr ⟨none, here⟩)
        obtain ⟨before, behind, rfl, none⟩ := ih later
        refine ⟨c :: before, behind, rfl, of_cons_eq_zero_iff.mpr ⟨none, fun first => here ?_⟩⟩
        exact first.trans (List.prefix_append (c :: before) _)

end Occurrences

/-- An argument whose placeholder does not occur can be left out. -/
theorem Substitution.from_append_unused (unused : occurrences index text = 0) (skip : Nat) :
    substituteFrom (arguments ++ [(argument, index)]) skip text =
      substituteFrom arguments skip text := by
  induction text generalizing skip with
  | nil => rfl
  | cons c rest ih =>
      obtain ⟨later, here⟩ := Occurrences.of_cons_eq_zero_iff.mp unused
      cases skip with
      | succ skip => exact ih later skip
      | zero =>
          have same : argumentAt? (arguments ++ [(argument, index)]) (c :: rest) =
              argumentAt? arguments (c :: rest) := by
            have none : argumentAt? [(argument, index)] (c :: rest) = none := by
              simpa [argumentAt?] using here
            rw [argumentAt?, List.find?_append]
            exact (congrArg _ none).trans Option.or_none
          simp only [substituteFrom, same, ih later]

theorem Substitution.nil (text : List Char) : substitute [] text = text := by
  unfold substitute
  induction text with
  | nil => rfl
  | cons c rest ih => exact congrArg (c :: ·) ih

end TemplateIR
