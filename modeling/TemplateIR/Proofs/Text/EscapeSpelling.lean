import Mathlib.Data.List.Basic
import TemplateIR.Text.UnicodeEscape

/-!
How an escape is spelled: its digits are those of the code unit, and all of it can be seen.
-/
namespace TemplateIR

/-- The hexadecimal digits of `value` in capitals, with zeros in front up to `width`. -/
def paddedHex (width value : Nat) : List Char :=
  ((Nat.toDigits 16 value).map Char.toUpper).leftpad width '0'

def spelledUnit (unit : Nat) : List Char :=
  '\\' :: 'u' :: paddedHex 4 unit

/-- A character in escapes. Beyond the basic plane there are two of them: the first surrogate counts
the blocks of 0x400 code points, 0x40 of which lie in the basic plane, and the second one says where
in its block the character lies. -/
def spelledEscape (c : Char) : List Char :=
  if c.toNat < 0x10000 then spelledUnit c.toNat
  else spelledUnit (0xD800 - 0x40 + c.toNat / 0x400) ++ spelledUnit (0xDC00 + c.toNat % 0x400)

variable {c d : Char} {value : Nat}

theorem toUpper_digitChar (small : value < 16) :
    (Nat.digitChar value).toUpper = hexDigit value := by
  have each : ∀ value < 16, (Nat.digitChar value).toUpper = hexDigit value := by decide
  exact each value small

theorem paddedHex_of_lt (width : Nat) (small : value < 16) :
    paddedHex (width + 1) value = List.replicate width '0' ++ [hexDigit value] := by
  rw [paddedHex, Nat.toDigits_of_lt_base small, List.map_singleton, toUpper_digitChar small]
  rfl

/-- The zeros in front are the digits of zero, so a place more is one digit more for any value. -/
theorem paddedHex_succ (width value : Nat) :
    paddedHex (width + 1 + 1) value =
      paddedHex (width + 1) (value / 16) ++ [hexDigit (value % 16)] := by
  by_cases small : value < 16
  · have zero : hexDigit 0 = '0' := rfl
    rw [paddedHex_of_lt _ small, Nat.div_eq_of_lt small, Nat.mod_eq_of_lt small,
      paddedHex_of_lt _ (by decide), zero, List.replicate_succ']
  · have last := toUpper_digitChar (Nat.mod_lt value (show 0 < 16 by decide))
    rw [paddedHex, Nat.toDigits_of_base_le (by decide) (Nat.not_lt.mp small), List.map_append,
      List.map_singleton, last, paddedHex, List.leftpad, List.leftpad, List.length_append,
      List.length_singleton, Nat.add_sub_add_right, List.append_assoc]

theorem unitEscape_eq_spelledUnit (narrow : value < 0x10000) :
    unitEscape value = spelledUnit value := by
  have highest : value / 16 / 16 / 16 < 16 := by omega
  have digits : paddedHex 4 value = [hexDigit (value / 16 / 16 / 16),
      hexDigit (value / 16 / 16 % 16), hexDigit (value / 16 % 16), hexDigit (value % 16)] := by
    rw [paddedHex_succ 2, paddedHex_succ 1, paddedHex_succ 0, paddedHex_of_lt 0 highest]
    rfl
  have first : value / 16 / 16 / 16 = value / 0x1000 % 16 := by omega
  have second : value / 16 / 16 % 16 = value / 0x100 % 16 := by omega
  rw [spelledUnit, digits, first, second, unitEscape]

theorem unicodeEscape_eq_spelledEscape (c : Char) : unicodeEscape c = spelledEscape c := by
  have scalar := toNat_scalar c
  rw [unicodeEscape, utf16Units, spelledEscape]
  split
  · next narrow =>
    rw [List.flatMap_singleton, unitEscape_eq_spelledUnit narrow]
  · next wide =>
    have first : 0xD800 + (c.toNat - 0x10000) / 0x400 = 0xD800 - 0x40 + c.toNat / 0x400 := by omega
    have second : 0xDC00 + (c.toNat - 0x10000) % 0x400 = 0xDC00 + c.toNat % 0x400 := by omega
    rw [List.flatMap_cons, List.flatMap_singleton, first, second,
      unitEscape_eq_spelledUnit (by omega), unitEscape_eq_spelledUnit (by omega)]

example : spelledEscape (Char.ofNat 0xE0001) = "\\uDB40\\uDC01".toList := by decide

theorem exists_unicodeEscape (c : Char) :
    ∃ behind, unicodeEscape c = '\\' :: 'u' :: behind := by
  simp only [unicodeEscape, utf16Units]
  split
  · exact ⟨_, rfl⟩
  · exact ⟨_, rfl⟩

theorem hexDigit_bounds (small : value < 16) :
    0x30 ≤ (hexDigit value).toNat ∧ (hexDigit value).toNat ≤ 0x46 := by
  have each : ∀ value < 16,
      0x30 ≤ (hexDigit value).toNat ∧ (hexDigit value).toNat ≤ 0x46 := by decide
  exact each value small

theorem bounds_of_mem_unicodeEscape (member : d ∈ unicodeEscape c) :
    0x20 ≤ d.toNat ∧ d.toNat < 0x7F := by
  obtain ⟨unit, -, within⟩ := List.mem_flatMap.mp member
  simp only [unitEscape, List.mem_cons, List.not_mem_nil, or_false] at within
  have digit (value : Nat) : 0x20 ≤ (hexDigit (value % 16)).toNat ∧
      (hexDigit (value % 16)).toNat < 0x7F := by
    have bounds := hexDigit_bounds (Nat.mod_lt value (show 0 < 16 by decide))
    omega
  rcases within with rfl | rfl | rfl | rfl | rfl | rfl
  · decide
  · decide
  · exact digit _
  · exact digit _
  · exact digit _
  · exact digit _

end TemplateIR
