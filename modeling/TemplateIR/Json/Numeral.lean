import TemplateIR.Decimal.Shortest

/-!
Numbers of a JSON text: how they are written, which value they have, and how the value is shown.
-/
namespace TemplateIR

/-- A number as it is written, its parts as texts of digits. A part that is not there is empty. -/
structure Numeral where
  negative : Bool := false
  whole : String := ""
  fraction : String := ""
  exponentNegative : Bool := false
  exponent : String := ""
deriving DecidableEq, Repr

/-- The value of a number: an integer, or a binary64 number when it has a fraction, an exponent or
too many digits. -/
inductive NumberValue where
  | integer (value : Int)
  | float (value : Float)

namespace Numeral

def digitValue (c : Char) : Nat :=
  c.toNat - 0x30

def significandLimit : Nat := Nat.pow 2 64 - 1

/-- Appends digits to a significand as long as it stays within the limit, and says how many were
left over. -/
def absorb (significand : Nat) : List Char → Nat × Nat
  | [] => (significand, 0)
  | c :: rest =>
    let longer := 10 * significand + digitValue c
    if longer ≤ significandLimit then absorb longer rest
    else (significand, rest.length + 1)

/-- The binary64 number nearest to a power of ten. -/
def powerOfTen (exponent : Nat) : Float :=
  Float.ofScientific 1 false exponent

/-- The largest exponent of ten of a binary64 number. -/
def largestPower : Nat := 308

/-- Multiplies by a power of ten. A power without a binary64 number makes all but zero infinite. -/
def scaleUp (value : Float) (exponent : Nat) : Float :=
  if exponent ≤ largestPower then value * powerOfTen exponent
  else if value == 0 then value
  else value / 0

/-- Divides by a power of ten, in steps where the power has no binary64 number. -/
def scaleDown (value : Float) (exponent : Nat) : Float :=
  if exponent ≤ largestPower then value / powerOfTen exponent
  else if value == 0 then value
  else scaleDown (value / powerOfTen largestPower) (exponent - largestPower)
termination_by exponent
decreasing_by
  simp only [largestPower] at *
  omega

/-- The number as binary64: the significand is rounded, then scaled by powers of ten, with a
rounding at each step. Infinite when it is too large. -/
def toFloat (numeral : Numeral) : Float :=
  let (front, dropped) := absorb 0 numeral.whole.toList
  let (significand, unused) := absorb front numeral.fraction.toList
  let places := numeral.fraction.length - unused
  let written : Int := numeral.exponent.toList.foldl (fun value c => 10 * value + digitValue c) 0
  let exponent := dropped - places + (if numeral.exponentNegative then -written else written)
  let value := (Nat.toUInt64 significand).toFloat
  let scaled :=
    if 0 ≤ exponent then scaleUp value exponent.toNat else scaleDown value (-exponent).toNat
  if numeral.negative then -scaled else scaled

/-- Integers keep 64 bits, positive ones without a sign. There is no negative integer zero. -/
def value (numeral : Numeral) : NumberValue :=
  match absorb 0 numeral.whole.toList with
  | (significand, 0) =>
    if !numeral.fraction.isEmpty || !numeral.exponent.isEmpty then .float numeral.toFloat
    else if !numeral.negative then .integer significand
    else if significand = 0 || Nat.pow 2 63 < significand then .float numeral.toFloat
    else .integer (-significand)
  | _ => .float numeral.toFloat

def inRange (numeral : Numeral) : Bool :=
  match numeral.value with
  | .integer _ => true
  | .float value => value.isFinite

end Numeral

/-- The largest number of places before the point in positional notation. -/
def positionalPlaces : Int := 16

/-- The largest number of zeros between the point and the first digit in positional notation. -/
def positionalZeros : Int := 4

/-- Writes an exponent of ten with its sign, a plus too, and with no leading zeros. -/
def exponentText (exponent : Int) : String :=
  if 0 ≤ exponent then "+" ++ toString exponent else toString exponent

/-- Writes a decimal: positionally, with at least one digit on each side of the point, when it is
neither too large nor too small for that, and otherwise with a signed exponent. -/
def DecimalNumber.text (number : DecimalNumber) : String :=
  let digits := Nat.toDigits 10 number.digits
  let point := digits.length + number.exponent
  if 0 ≤ number.exponent && point ≤ positionalPlaces then
    String.ofList (digits ++ List.replicate number.exponent.toNat '0' ++ ['.', '0'])
  else if 0 < point && point ≤ positionalPlaces then
    String.ofList (digits.take point.toNat ++ '.' :: digits.drop point.toNat)
  else if -positionalZeros ≤ point && point ≤ 0 then
    String.ofList (['0', '.'] ++ List.replicate (-point).toNat '0' ++ digits)
  else
    let power := (exponentText (point - 1)).toList
    match digits with
    | [digit] => String.ofList (digit :: 'e' :: power)
    | _ => String.ofList (digits.take 1 ++ '.' :: digits.drop 1 ++ 'e' :: power)

def floatText (value : Float) : String :=
  let bits := value.toBits
  let sign := if bits.toNat < Nat.pow 2 63 then "" else "-"
  let number := BinaryNumber.ofBits bits
  if number.mantissa = 0 then sign ++ "0.0" else sign ++ number.shortest.text

end TemplateIR
