import TemplateIR.Proofs.Source.LineLookup

/-!
Texts on one line. The bytes of a text end a line only where its characters do, so a text without
line feed and carriage return adds no line, whatever stands before and behind it.
-/
namespace TemplateIR

def encoded (text : List Char) : List UInt8 :=
  text.flatMap String.utf8EncodeChar

theorem utf8Bytes_ofList (text : List Char) : utf8Bytes (String.ofList text) = encoded text := by
  rw [utf8Bytes, String.toList_ofList, encoded]

theorem encoded_append (first second : List Char) :
    encoded (first ++ second) = encoded first ++ encoded second :=
  List.flatMap_append

/-- A byte below the range of the longer codes stands for the character of that code alone. -/
theorem toNat_of_mem_utf8EncodeChar {c : Char} {byte : UInt8}
    (member : byte ∈ String.utf8EncodeChar c) (low : byte.toNat < 0x80) :
    c.toNat = byte.toNat := by
  have code : c.toNat = c.val.toNat := rfl
  simp only [String.utf8EncodeChar] at member
  split_ifs at member <;>
    simp only [List.mem_cons, List.not_mem_nil, or_false] at member <;>
    rcases member with rfl | rfl | rfl | rfl <;>
    simp only [UInt8.toNat_ofNat'] at low ⊢ <;>
    omega

/-- Whether the text ends no line. -/
def Unbroken (text : List Char) : Prop :=
  '\r' ∉ text ∧ '\n' ∉ text

instance (text : List Char) : Decidable (Unbroken text) :=
  inferInstanceAs (Decidable (_ ∧ _))

theorem Unbroken.bytes {text : List Char} (unbroken : Unbroken text) :
    ∀ byte ∈ encoded text, byte ≠ 13 ∧ byte ≠ 10 := by
  intro byte member
  obtain ⟨c, listed, within⟩ := List.mem_flatMap.mp member
  refine ⟨?_, ?_⟩
  · intro carriage
    subst carriage
    have same : c = '\r' := Char.toNat_inj.mp (toNat_of_mem_utf8EncodeChar within (by decide))
    exact unbroken.1 (same ▸ listed)
  · intro feed
    subst feed
    have same : c = '\n' := Char.toNat_inj.mp (toNat_of_mem_utf8EncodeChar within (by decide))
    exact unbroken.2 (same ▸ listed)

theorem breaksFrom_append_of_unbroken (offset : Nat) {front : List UInt8}
    (unbroken : ∀ byte ∈ front, byte ≠ 13 ∧ byte ≠ 10) (rest : List UInt8) :
    breaksFrom offset (front ++ rest) = breaksFrom (offset + front.length) rest := by
  induction front generalizing offset with
  | nil => rfl
  | cons byte front ih =>
      rw [List.forall_mem_cons] at unbroken
      obtain ⟨⟨carriage, feed⟩, others⟩ := unbroken
      have passed : breaksFrom offset (byte :: (front ++ rest)) =
          breaksFrom (offset + 1) (front ++ rest) := by
        rw [breaksFrom]
        · simp [carriage, feed]
        · intro _ equal
          exact absurd equal carriage
      rw [List.cons_append, passed, ih (offset + 1) others, List.length_cons]
      congr 1
      omega

theorem LineIndex.lineCount_of_unbroken {text : String} (unbroken : Unbroken text.toList) :
    (ofText text).lineCount = 1 := by
  have breaks := breaksFrom_append_of_unbroken 0 unbroken.bytes []
  rw [List.append_nil] at breaks
  rw [ofText, lineCount_ofBytes, lineStarts, utf8Bytes, ← encoded, breaks]
  rfl

end TemplateIR
