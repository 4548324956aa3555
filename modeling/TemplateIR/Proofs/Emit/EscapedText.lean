import TemplateIR.Emit.FormatEscape
import TemplateIR.Proofs.Text.EscapeSpelling
import TemplateIR.Proofs.Text.FormatCode

/-!
Texts whose format characters are escaped. The search for the first of them only saves work: the
result is that of writing one character after the other.
-/
namespace TemplateIR

variable {c d : Char} {text : String}

theorem formatEscape_of_format (format : isFormat c = true) : formatEscape c = unicodeEscape c :=
  if_pos format

theorem formatEscape_of_plain (plain : isFormat c = false) : formatEscape c = [c] :=
  if_neg (by simp [plain])

theorem flatMap_formatEscape_of_plain {list : List Char}
    (plain : ∀ c ∈ list, isFormat c = false) : list.flatMap formatEscape = list := by
  induction list with
  | nil => rfl
  | cons c rest ih =>
      rw [List.forall_mem_cons] at plain
      rw [List.flatMap_cons, formatEscape_of_plain plain.1, ih plain.2, List.singleton_append]

theorem find?_isFormat_eq_none_iff :
    text.find? isFormat = none ↔ ∀ c ∈ text.toList, isFormat c = false := by
  rw [String.find?_eq_find?_toSlice, Option.map_eq_none_iff, String.Slice.find?_eq_none_iff,
    String.Slice.contains_bool_eq, String.copy_toSlice, List.any_eq_false]
  simp only [Bool.not_eq_true]

/-- Escaping is character by character, also where the bytes in front are taken over unread. -/
theorem toList_escapeFormat (text : String) :
    (escapeFormat text).text.toList = text.toList.flatMap formatEscape := by
  rw [escapeFormat]
  cases found : text.find? isFormat with
  | none =>
      rw [find?_isFormat_eq_none_iff] at found
      exact (flatMap_formatEscape_of_plain found).symm
  | some first =>
      -- The position falls between two characters, so the bytes on each side of it are a text.
      obtain ⟨clean, c, rest, splits, -, plain⟩ := String.find?_bool_eq_some_iff_splits.mp found
      have front : (text.sliceTo first).copy = clean := splits.copy_sliceTo_eq
      have whole : text.toList = clean.toList ++ (text.sliceFrom first).copy.toList := by
        rw [← String.toList_append, ← front, String.sliceTo_append_sliceFrom]
      rw [Revision.text, String.toList_append, String.toList_ofList, front, whole,
        List.flatMap_append, flatMap_formatEscape_of_plain plain]

theorem escapeFormat_of_plain (plain : ∀ c ∈ text.toList, isFormat c = false) :
    escapeFormat text = .kept text := by
  rw [escapeFormat, find?_isFormat_eq_none_iff.mpr plain]

theorem plain_of_isKept (kept : (escapeFormat text).isKept = true) :
    ∀ c ∈ text.toList, isFormat c = false := by
  rw [escapeFormat] at kept
  cases found : text.find? isFormat with
  | none => exact find?_isFormat_eq_none_iff.mp found
  | some first =>
      rw [found] at kept
      cases kept

theorem isFormat_of_mem_formatEscape (member : d ∈ formatEscape c) : isFormat d = false := by
  cases format : isFormat c with
  | false =>
      rw [formatEscape_of_plain format, List.mem_singleton] at member
      rw [member, format]
  | true =>
      rw [formatEscape_of_format format] at member
      have bounds := bounds_of_mem_unicodeEscape member
      exact isFormat_of_lt (by omega)

theorem isFormat_of_mem_escapeFormat (member : d ∈ (escapeFormat text).text.toList) :
    isFormat d = false := by
  rw [toList_escapeFormat, List.mem_flatMap] at member
  obtain ⟨c, -, within⟩ := member
  exact isFormat_of_mem_formatEscape within

/-- A text is escaped character by character, and kept if and only if it has no format character.
So the escaped text of a whole is that of its parts, and there is nothing left to escape in it. -/
theorem escapeFormat_charwise (text : String) :
    (escapeFormat text).text.toList =
        text.toList.flatMap (fun c => if isFormat c then spelledEscape c else [c]) ∧
      ((escapeFormat text).isKept = true ↔ ∀ c ∈ text.toList, isFormat c = false) ∧
      (∀ behind, (escapeFormat (text ++ behind)).text =
        (escapeFormat text).text ++ (escapeFormat behind).text) ∧
      (∀ c ∈ (escapeFormat text).text.toList, isFormat c = false) ∧
      escapeFormat (escapeFormat text).text = .kept (escapeFormat text).text := by
  have spelled : formatEscape = fun c => if isFormat c then spelledEscape c else [c] := by
    funext c
    rw [formatEscape, unicodeEscape_eq_spelledEscape]
  have clean : ∀ c ∈ (escapeFormat text).text.toList, isFormat c = false :=
    fun c member => isFormat_of_mem_escapeFormat member
  refine ⟨?_, ⟨plain_of_isKept, fun plain => ?_⟩, fun behind => ?_, clean,
    escapeFormat_of_plain clean⟩
  · rw [toList_escapeFormat, spelled]
  · rw [escapeFormat_of_plain plain]
    rfl
  · apply String.toList_injective
    rw [toList_escapeFormat, String.toList_append, String.toList_append, toList_escapeFormat,
      toList_escapeFormat, List.flatMap_append]

end TemplateIR
