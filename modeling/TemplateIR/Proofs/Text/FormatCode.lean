import Mathlib.Tactic.ByContra
import TemplateIR.Text.FormatChar

/-!
Where the format characters lie: behind all characters of ASCII, and none of them ends a line.
-/
namespace TemplateIR

variable {c : Char}

theorem isFormat_of_lt (low : c.toNat < 0xAD) : isFormat c = false := by
  rw [isFormat, isFormatCode, if_pos low]

theorem toNat_of_isFormat (format : isFormat c = true) :
    0xAD ≤ c.toNat ∧ c.toNat ≠ 0x2028 ∧ c.toNat ≠ 0x2029 := by
  have apart (code : Nat) (other : isFormatCode code = false) : c.toNat ≠ code := by
    intro same
    rw [isFormat, same, other] at format
    cases format
  refine ⟨?_, apart _ (by decide +kernel), apart _ (by decide +kernel)⟩
  by_contra low
  exact Bool.false_ne_true ((isFormat_of_lt (Nat.not_le.mp low)).symm.trans format)

theorem ne_of_isFormat (format : isFormat c = true) {other : Char} (low : other.toNat < 0xAD) :
    c ≠ other := by
  intro same
  rw [← same] at low
  exact Nat.not_lt.mpr (toNat_of_isFormat format).1 low

theorem not_le_of_isFormat (format : isFormat c = true) {last : Char} (low : last.toNat < 0xAD) :
    ¬c ≤ last := by
  have code := (toNat_of_isFormat format).1
  rw [Char.le_def, UInt32.le_iff_toNat_le]
  change ¬c.toNat ≤ last.toNat
  omega

theorem isDigit_of_isFormat (format : isFormat c = true) : c.isDigit = false := by
  have beyond : ¬c ≤ '9' := not_le_of_isFormat format (by decide)
  rw [Char.isDigit, Bool.and_eq_false_iff]
  exact .inr (decide_eq_false beyond)

end TemplateIR
