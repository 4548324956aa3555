import TemplateIR.Proofs.Source.LineBreaks
import TemplateIR.Proofs.Source.UnbrokenText

/-!
Characters of a line. A line starts where a character does, since a byte that ends a line is a
character of its own. So the bytes from the start of a line to a character behind it are those of the
characters between: one for each in ASCII, and more for the others.
-/
namespace TemplateIR

variable {text front back before rest : List Char} {c : Char} {byte : UInt8} {index start : Nat}

theorem utf8Size_eq_one_iff : c.utf8Size = 1 ↔ c.toNat < 0x80 := by
  rw [Char.utf8Size_eq_one_iff, UInt32.le_iff_toNat_le, Char.toNat_val]
  exact Nat.lt_succ_iff.symm

theorem length_encoded_cons (c : Char) (text : List Char) :
    (encoded (c :: text)).length = c.utf8Size + (encoded text).length := by
  rw [encoded, List.flatMap_cons, List.length_append, String.length_utf8EncodeChar, encoded]

theorem length_le_encoded (text : List Char) : text.length ≤ (encoded text).length := by
  induction text with
  | nil => exact Nat.le_refl 0
  | cons c rest ih =>
      have positive := c.utf8Size_pos
      rw [length_encoded_cons, List.length_cons]
      omega

theorem length_eq_encoded_iff (text : List Char) :
    text.length = (encoded text).length ↔ ∀ c ∈ text, c.toNat < 0x80 := by
  induction text with
  | nil => simp [encoded]
  | cons c rest ih =>
      have positive := c.utf8Size_pos
      have bound := length_le_encoded rest
      rw [List.forall_mem_cons, ← ih, ← utf8Size_eq_one_iff, length_encoded_cons, List.length_cons]
      omega

theorem length_utf8Bytes (text : String) : (utf8Bytes text).length = text.utf8ByteSize := by
  rw [← String.size_toByteArray, ← String.utf8Encode_toList, List.utf8Encode,
    List.size_toByteArray, utf8Bytes]

theorem utf8ByteSize_ofList (text : List Char) :
    (String.ofList text).utf8ByteSize = (encoded text).length := by
  rw [← length_utf8Bytes, utf8Bytes_ofList]

theorem exists_front {text : String} {offset : Nat}
    (boundary : String.Pos.Raw.IsValid text ⟨offset⟩) :
    ∃ front back, text.toList = front ++ back ∧ (encoded front).length = offset := by
  obtain ⟨front, back, rfl, ended⟩ := String.Pos.Raw.isValid_iff_exists_append.mp boundary
  refine ⟨front.toList, back.toList, String.toList_append, ?_⟩
  rw [← utf8ByteSize_ofList, String.ofList_toList]
  exact (String.Pos.Raw.ext_iff.mp ended).symm

/-- What stands in `text` from the byte offset `start` to the byte offset `stop`. -/
def Between (text : String) (start stop : Nat) (stretch : String) : Prop :=
  ∃ before rest, text = before ++ stretch ++ rest ∧ before.utf8ByteSize = start ∧
    (before ++ stretch).utf8ByteSize = stop

theorem between_of_split {text : String} {stretch : List Char}
    (split : text.toList = before ++ stretch ++ rest) :
    Between text (encoded before).length (encoded (before ++ stretch)).length
      (String.ofList stretch) := by
  refine ⟨String.ofList before, String.ofList rest, ?_, utf8ByteSize_ofList before, ?_⟩
  · rw [← String.ofList_append, ← String.ofList_append, ← split, String.ofList_toList]
  · rw [← String.ofList_append, utf8ByteSize_ofList]

/-- A text can be split behind every byte that only stands for itself. -/
theorem exists_split_of_low (stands : (encoded text)[index]? = some byte) (low : byte.toNat < 0x80) :
    ∃ before rest, text = before ++ rest ∧ (encoded before).length = index + 1 := by
  induction text generalizing index with
  | nil => simp [encoded] at stands
  | cons c text ih =>
      have width : (String.utf8EncodeChar c).length = c.utf8Size := String.length_utf8EncodeChar c
      rw [encoded, List.flatMap_cons, ← encoded] at stands
      rcases Nat.lt_or_ge index (String.utf8EncodeChar c).length with within | behind
      · -- The byte is the code of the whole character, which therefore has no second byte.
        rw [List.getElem?_append_left within] at stands
        have code := toNat_of_mem_utf8EncodeChar (List.mem_of_getElem? stands) low
        have single : c.utf8Size = 1 := utf8Size_eq_one_iff.mpr (by omega)
        refine ⟨[c], text, rfl, ?_⟩
        rw [length_encoded_cons, single]
        simp only [encoded, List.flatMap_nil, List.length_nil]
        omega
      · rw [List.getElem?_append_right behind] at stands
        obtain ⟨before, rest, rfl, reached⟩ := ih stands
        refine ⟨c :: before, rest, rfl, ?_⟩
        rw [length_encoded_cons, reached]
        omega

theorem exists_split_of_lineStart (member : start ∈ lineStarts (encoded text)) :
    ∃ before rest, text = before ++ rest ∧ (encoded before).length = start := by
  rcases List.mem_cons.mp member with rfl | broken
  · exact ⟨[], text, rfl, rfl⟩
  · obtain ⟨index, ends, rfl⟩ := mem_breaksFrom_iff.mp broken
    rw [Nat.zero_add]
    rcases ends with feed | ⟨carriage, -⟩
    · exact exists_split_of_low feed (by decide)
    · exact exists_split_of_low carriage (by decide)

theorem exists_between (same : before ++ rest = front ++ back)
    (earlier : (encoded before).length ≤ (encoded front).length) :
    ∃ stretch, front = before ++ stretch := by
  rcases List.append_eq_append_iff.mp same with ⟨stretch, split, -⟩ | ⟨excess, rfl, -⟩
  · exact ⟨stretch, split⟩
  · rw [encoded_append, List.length_append] at earlier
    have bound := length_le_encoded excess
    obtain rfl : excess = [] := List.eq_nil_of_length_eq_zero (by omega)
    exact ⟨[], by rw [List.append_nil, List.append_nil]⟩

namespace LineIndex

variable {offset : UInt32} {position : Position}

theorem Locates.exists_stretch (located : Locates (encoded (front ++ back)) offset position start)
    (boundary : (encoded front).length = offset.toNat) :
    ∃ before stretch, front = before ++ stretch ∧ (encoded before).length = start ∧
      (encoded stretch).length = position.character.toNat := by
  have counted := located.reached
  obtain ⟨before, rest, same, begun⟩ :=
    exists_split_of_lineStart (List.mem_of_getElem? located.stands)
  obtain ⟨stretch, rfl⟩ := exists_between same.symm (by omega)
  rw [encoded_append, List.length_append] at boundary
  exact ⟨before, stretch, rfl, begun, by omega⟩

/-- The character of an offset at which a character starts is at least the number of characters from
the start of its line, and equal to it just when all of these are ASCII. -/
theorem length_le_character (text : String) (offset : UInt32)
    (short : text.utf8ByteSize < UInt32.size)
    (boundary : String.Pos.Raw.IsValid text ⟨offset.toNat⟩) :
    ∃ position start stretch, (ofText text).position offset = .ok position ∧
      (ofText text).starts[position.line.toNat]? = some start ∧
      Between text start.toNat offset.toNat stretch ∧
      stretch.length ≤ position.character.toNat ∧
      (stretch.length = position.character.toNat ↔ ∀ c ∈ stretch.toList, c.toNat < 0x80) := by
  rw [← length_utf8Bytes] at short
  obtain ⟨position, start, found, located⟩ := exists_position short offset
  obtain ⟨entry, begun, same⟩ := exists_entry short located.stands
  obtain ⟨front, back, split, reached⟩ := exists_front boundary
  rw [utf8Bytes, split, ← encoded] at located
  obtain ⟨before, stretch, rfl, first, count⟩ := located.exists_stretch reached
  have between := between_of_split split
  rw [first, reached, ← same] at between
  refine ⟨position, entry, String.ofList stretch, found, begun, between, ?_, ?_⟩
  · rw [String.length_ofList, ← count]
    exact length_le_encoded stretch
  · rw [String.length_ofList, String.toList_ofList, ← count]
    exact length_eq_encoded_iff stretch

/-- The second line holds a character of two bytes and one of one byte. -/
theorem length_le_character_accented :
    ∃ position start stretch, (ofText "é\nñb").position 6 = .ok position ∧
      (ofText "é\nñb").starts[position.line.toNat]? = some start ∧
      Between "é\nñb" start.toNat 6 stretch ∧ stretch.length ≤ position.character.toNat := by
  obtain ⟨position, start, stretch, found, begun, between, counted, -⟩ :=
    length_le_character "é\nñb" 6 (by decide) (by decide)
  exact ⟨position, start, stretch, found, begun, between, counted⟩

end LineIndex
end TemplateIR
