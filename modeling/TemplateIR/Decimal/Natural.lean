/-!
Natural numbers in decimal digits.
-/
namespace TemplateIR

/-- The number that the digits denote, or nothing if there are none or a character is no digit. -/
def decimalValue? (digits : List Char) : Option Nat :=
  if digits.isEmpty then none
  else digits.foldlM
    (fun value c => if c.isDigit then some (10 * value + (c.toNat - 0x30)) else none) 0

end TemplateIR
