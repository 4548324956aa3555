import Mathlib.Algebra.Order.BigOperators.Group.List
import Mathlib.Algebra.Order.Group.Nat
import TemplateIR.Proofs.Emit.EscapedText
import TemplateIR.Proofs.Emit.LiteralCode
import TemplateIR.Proofs.Source.UnbrokenText
import TemplateIR.Tree.Source

/-!
The text of a literal, beside that of its value. Nothing unseen stands in it, so it fills one line
and leaves no format character to escape. It is the value with its format characters escaped if and
only if there is nothing else in the value that a literal escapes.
-/
namespace TemplateIR

variable {quote c d : Char} {value : String}

theorem isUnseen_of_bounds (above : 0x20 ≤ c.toNat) (below : c.toNat < 0x7F) :
    isUnseen c = false := by
  have control : ¬c.toNat < 0x20 := by omega
  have delete : c.toNat ≠ 0x7F := by omega
  have separators : c.toNat ≠ 0x2028 ∧ c.toNat ≠ 0x2029 := by omega
  simp [isUnseen, control, delete, separators, isFormat_of_lt (show c.toNat < 0xAD by omega)]

theorem isUnseen_of_mem_literalChar (seen : isUnseen quote = false)
    (member : d ∈ literalChar quote c) : isUnseen d = false := by
  obtain ⟨letter, listed, written⟩ | ⟨-, written⟩ | ⟨shown, written⟩ := literalChar_cases quote c
  · rw [written, List.mem_cons, List.mem_singleton] at member
    have letters : ∀ pair ∈ shortForms quote, isUnseen pair.2 = false := by
      simp only [shortForms, List.forall_mem_cons, seen]
      decide
    rcases member with rfl | rfl
    · decide
    · exact letters _ listed
  · rw [written] at member
    have bounds := bounds_of_mem_unicodeEscape member
    exact isUnseen_of_bounds bounds.1 bounds.2
  · rw [written, List.mem_singleton] at member
    subst member
    simp [isUnseen, shown.visible, shown.separator]

theorem toList_quoteLiteral (value : String) (quote : Char) :
    (quoteLiteral value quote).toList = quote :: (literalBody quote value.toList ++ [quote]) :=
  String.toList_ofList

theorem isUnseen_of_mem_quoteLiteral (seen : isUnseen quote = false)
    (member : d ∈ (quoteLiteral value quote).toList) : isUnseen d = false := by
  rw [toList_quoteLiteral, List.mem_cons, List.mem_append, List.mem_singleton, literalBody,
    List.mem_flatMap] at member
  rcases member with rfl | ⟨c, -, within⟩ | rfl
  · exact seen
  · exact isUnseen_of_mem_literalChar seen within
  · exact seen

/-- If the quote can be seen, so can the whole literal: it has no control, no separator of lines or
paragraphs and no format character. So it has one line, and there is nothing in it to escape. -/
theorem quoteLiteral_seen (value : String) (seen : isUnseen quote = false) :
    (∀ c ∈ (quoteLiteral value quote).toList, isUnseen c = false) ∧
      (LineIndex.ofText (quoteLiteral value quote)).lineCount = 1 ∧
      escapeFormat (quoteLiteral value quote) = .kept (quoteLiteral value quote) := by
  have all (c : Char) (member : c ∈ (quoteLiteral value quote).toList) : isUnseen c = false :=
    isUnseen_of_mem_quoteLiteral seen member
  have absent {c : Char} (unseen : isUnseen c = true) : c ∉ (quoteLiteral value quote).toList :=
    fun member => Bool.false_ne_true ((all c member).symm.trans unseen)
  have plain (c : Char) (member : c ∈ (quoteLiteral value quote).toList) : isFormat c = false := by
    have visible := all c member
    rw [isUnseen, Bool.or_eq_false_iff] at visible
    exact visible.2
  exact ⟨all, LineIndex.lineCount_of_unbroken ⟨absent (by decide), absent (by decide)⟩,
    escapeFormat_of_plain plain⟩

/-- Also where the quote is a character of the escapes, and with every kind of unseen character in
the value. -/
theorem quoteLiteral_seen_backslash :
    isUnseen '\\' = false ∧
      (LineIndex.ofText (quoteLiteral "\n\x01\x7F\u2028\u202E" '\\')).lineCount = 1 :=
  ⟨by decide, (quoteLiteral_seen "\n\x01\x7F\u2028\u202E" (by decide)).2.1⟩

/-- A character that stands in a literal as in any text: its own escape, if it has one, is that of a
format character. -/
structure Inert (quote c : Char) : Prop where
  backslash : c ≠ '\\'
  delimiter : c ≠ quote
  visible : 0x20 ≤ c.toNat ∧ c.toNat ≠ 0x7F
  separator : c.toNat ≠ 0x2028 ∧ c.toNat ≠ 0x2029

theorem inert_of_isFormat (quotable : isFormat quote = false) (format : isFormat c = true) :
    Inert quote c := by
  obtain ⟨code, line, paragraph⟩ := toNat_of_isFormat format
  have delimiter : c ≠ quote := by
    intro same
    rw [same, quotable] at format
    cases format
  exact ⟨ne_of_isFormat format (by decide), delimiter, ⟨by omega, by omega⟩, line, paragraph⟩

theorem shownIn_iff : ShownIn quote c ↔ Inert quote c ∧ isFormat c = false := by
  refine ⟨?_, ?_⟩
  · intro shown
    obtain ⟨backslash, delimiter, ⟨control, delete, plain⟩, separator⟩ := shown
    exact ⟨⟨backslash, delimiter, ⟨control, delete⟩, separator⟩, plain⟩
  · intro both
    obtain ⟨⟨backslash, delimiter, ⟨control, delete⟩, separator⟩, plain⟩ := both
    exact ⟨backslash, delimiter, ⟨control, delete, plain⟩, separator⟩

theorem literalChar_of_isFormat (quotable : isFormat quote = false) (format : isFormat c = true) :
    literalChar quote c = unicodeEscape c := by
  obtain ⟨letter, listed, -⟩ | ⟨-, written⟩ | ⟨shown, -⟩ := literalChar_cases quote c
  · have plain : ∀ pair ∈ shortForms quote, isFormat pair.1 = false := by
      simp only [shortForms, List.forall_mem_cons, quotable]
      decide
    exact absurd ((plain _ listed).symm.trans format) (by simp)
  · exact written
  · exact absurd ((shownIn_iff.mp shown).2.symm.trans format) (by simp)

theorem one_lt_length_literalChar (hidden : ¬ShownIn quote c) :
    1 < (literalChar quote c).length := by
  obtain ⟨behind, escape⟩ := exists_unicodeEscape c
  obtain ⟨letter, -, written⟩ | ⟨-, written⟩ | ⟨shown, -⟩ := literalChar_cases quote c
  · simp [written]
  · simp [written, escape]
  · exact absurd shown hidden

/-- A literal escapes whatever a text escapes, and where it escapes more it is longer. -/
theorem literalChar_longer (quotable : isFormat quote = false) (c : Char) :
    Inert quote c ∧ formatEscape c = literalChar quote c ∨
      ¬Inert quote c ∧ (formatEscape c).length < (literalChar quote c).length := by
  cases format : isFormat c with
  | true =>
      rw [formatEscape_of_format format, literalChar_of_isFormat quotable format]
      exact .inl ⟨inert_of_isFormat quotable format, rfl⟩
  | false =>
      rw [formatEscape_of_plain format]
      by_cases inert : Inert quote c
      · exact .inl ⟨inert, (literalChar_of_shown (shownIn_iff.mpr ⟨inert, format⟩)).symm⟩
      · exact .inr ⟨inert, one_lt_length_literalChar fun shown => inert (shownIn_iff.mp shown).1⟩

/-- Pieces that are equal or longer, one by one, make the same whole only if all are equal. -/
theorem flatMap_eq_flatMap_iff {α β : Type} {list : List α} {first second : α → List β}
    (grows : ∀ entry, first entry = second entry ∨ (first entry).length < (second entry).length) :
    list.flatMap first = list.flatMap second ↔ ∀ entry ∈ list, first entry = second entry := by
  refine ⟨?_, ?_⟩
  · intro same entry listed
    refine (grows entry).resolve_right fun longer => ?_
    have upTo (other : α) (_ : other ∈ list) : (first other).length ≤ (second other).length := by
      rcases grows other with equal | longer
      · rw [equal]
      · exact Nat.le_of_lt longer
    have lengths := List.sum_lt_sum _ _ upTo ⟨entry, listed, longer⟩
    rw [← List.length_flatMap, ← List.length_flatMap, same] at lengths
    exact Nat.lt_irrefl _ lengths
  · intro equal
    exact List.flatMap_congr equal

/-- A literal is its value between the quotes, with the format characters escaped, if and only if
the value has no backslash, no quote, no control and no separator of lines or paragraphs. -/
theorem quoteLiteral_eq_escapeFormat_iff (value : String) (quotable : isFormat quote = false) :
    quoteLiteral value quote =
        String.singleton quote ++ (escapeFormat value).text ++ String.singleton quote ↔
      ∀ c ∈ value.toList, Inert quote c := by
  have grows (c : Char) : formatEscape c = literalChar quote c ∨
      (formatEscape c).length < (literalChar quote c).length := by
    rcases literalChar_longer quotable c with ⟨-, same⟩ | ⟨-, longer⟩
    · exact .inl same
    · exact .inr longer
  have each (c : Char) : formatEscape c = literalChar quote c ↔ Inert quote c := by
    rcases literalChar_longer quotable c with ⟨inert, same⟩ | ⟨special, longer⟩
    · exact iff_of_true same inert
    · refine iff_of_false ?_ special
      intro same
      rw [same] at longer
      exact Nat.lt_irrefl _ longer
  calc
    _ ↔ literalBody quote value.toList = value.toList.flatMap formatEscape := by
      rw [← String.toList_inj, toList_quoteLiteral, String.toList_append, String.toList_append,
        String.toList_singleton, toList_escapeFormat, List.singleton_append, List.cons_append,
        List.cons_inj_right, List.append_left_inj]
    _ ↔ ∀ c ∈ value.toList, formatEscape c = literalChar quote c := by
      rw [eq_comm, literalBody, flatMap_eq_flatMap_iff grows]
    _ ↔ ∀ c ∈ value.toList, Inert quote c := by
      simp only [each]

/-- Format characters alone make no difference, a backslash beside them does. -/
theorem quoteLiteral_eq_escapeFormat_iff_override :
    isFormat '\'' = false ∧
      quoteLiteral "a\u202E" '\'' =
        String.singleton '\'' ++ (escapeFormat "a\u202E").text ++ String.singleton '\'' ∧
      quoteLiteral "\\\u202E" '\'' ≠
        String.singleton '\'' ++ (escapeFormat "\\\u202E").text ++ String.singleton '\'' := by
  have quotable : isFormat '\'' = false := by decide
  refine ⟨quotable, (quoteLiteral_eq_escapeFormat_iff "a\u202E" quotable).mpr ?_, ?_⟩
  · intro c member
    have listed : c = 'a' ∨ c = '\u202E' := by simpa using member
    rcases listed with rfl | rfl
    · exact ⟨by decide, by decide, by decide, by decide⟩
    · exact inert_of_isFormat quotable (by decide +kernel)
  · intro same
    have inert := (quoteLiteral_eq_escapeFormat_iff "\\\u202E" quotable).mp same '\\' (by decide)
    exact inert.backslash rfl

end TemplateIR
