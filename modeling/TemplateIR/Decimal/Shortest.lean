/-!
The shortest decimal of a binary floating-point number: of all decimals that read back as the
number, those with the fewest digits, and of these the nearest. All arithmetic is exact.
-/
namespace TemplateIR

/-- The number `mantissa * 2 ^ exponent`. `narrow` says that the next smaller number is only half
as far away as the next larger one. -/
structure BinaryNumber where
  mantissa : Nat
  exponent : Int
  narrow : Bool
deriving DecidableEq, Repr

/-- The number `digits * 10 ^ exponent`. -/
structure DecimalNumber where
  digits : Nat
  exponent : Int
deriving DecidableEq, Repr

/-- A value and the bounds of what reads back as it, as multiples of `1 / unit`. -/
structure ReadingInterval where
  low : Nat
  value : Nat
  high : Nat
  unit : Nat
  /-- Whether the bounds themselves read back as the value. -/
  closed : Bool
deriving DecidableEq, Repr

namespace BinaryNumber

/-- The bounds lie half-way to the neighbours. Reading goes to the even mantissa at a bound. -/
def interval (number : BinaryNumber) : ReadingInterval :=
  let scale := Nat.pow 2 (number.exponent - 2).toNat
  { low := (4 * number.mantissa - if number.narrow then 1 else 2) * scale
    value := 4 * number.mantissa * scale
    high := (4 * number.mantissa + 2) * scale
    unit := Nat.pow 2 (2 - number.exponent).toNat
    closed := number.mantissa % 2 = 0 }

/-- The finite number with the binary64 encoding `bits`, its sign aside. -/
def ofBits (bits : UInt64) : BinaryNumber :=
  let fraction := bits.toNat % Nat.pow 2 52
  let biased := bits.toNat / Nat.pow 2 52 % Nat.pow 2 11
  if biased = 0 then ⟨fraction, -1074, false⟩
  else ⟨Nat.pow 2 52 + fraction, (biased : Int) - 1075, fraction = 0 && biased ≠ 1⟩

end BinaryNumber

namespace ReadingInterval

/-- Whether `digits` grid steps of the size `step` read back as the value. -/
def holds (interval : ReadingInterval) (step digits : Nat) : Bool :=
  let point := digits * step
  if interval.closed then interval.low ≤ point && point ≤ interval.high
  else interval.low < point && point < interval.high

/-- The multiple of `10 ^ exponent` that reads back as the value and is nearest to it; of two
that are equally near, the even one. -/
def onGrid? (interval : ReadingInterval) (exponent : Int) : Option Nat :=
  let finer := Nat.pow 10 (-exponent).toNat
  let scaled : ReadingInterval :=
    { interval with
      low := interval.low * finer
      value := interval.value * finer
      high := interval.high * finer }
  let step := interval.unit * Nat.pow 10 exponent.toNat
  let below := scaled.value / step
  match scaled.holds step below, scaled.holds step (below + 1) with
  | true, false => some below
  | false, true => some (below + 1)
  | false, false => none
  | true, true =>
    let twice := 2 * (scaled.value - below * step)
    if twice < step then some below
    else if step < twice then some (below + 1)
    else if below % 2 = 0 then some below
    else some (below + 1)

/-- Tries grids from `10 ^ exponent` down, `count` of them. -/
def coarsest? (interval : ReadingInterval) (exponent : Int) : Nat → Option DecimalNumber
  | 0 => none
  | count + 1 =>
    match interval.onGrid? exponent with
    | some digits => some ⟨digits, exponent⟩
    | none => interval.coarsest? (exponent - 1) count

/-- An exponent of ten at or just above that of the value. -/
def magnitude (interval : ReadingInterval) : Int :=
  if interval.unit ≤ interval.value then
    ((Nat.toDigits 10 (interval.value / interval.unit)).length : Int)
  else 1 - ((Nat.toDigits 10 (interval.unit / interval.value)).length : Int)

end ReadingInterval

/-- The shortest decimal of a positive number. Seventeen digits always suffice, so the search ends
with a result. -/
def BinaryNumber.shortest (number : BinaryNumber) : DecimalNumber :=
  (number.interval.coarsest? number.interval.magnitude 20).getD ⟨number.mantissa, 0⟩

end TemplateIR
