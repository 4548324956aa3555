import TemplateIR.Json.Value

/-!
Reading a JSON number, one character after the other. A number has no closing character: it ends
before the first one that cannot continue it.
-/
namespace TemplateIR

inductive NumberPhase where
  | sign
  /-- Behind a zero in front, which no digit may follow. -/
  | zero
  | whole
  | point
  | fraction
  | mark
  | markSign
  | exponent
deriving DecidableEq, Repr

def NumberPhase.isComplete : NumberPhase → Bool
  | .zero | .whole | .fraction | .exponent => true
  | .sign | .point | .mark | .markSign => false

structure NumberScan where
  phase : NumberPhase
  numeral : Numeral
deriving DecidableEq, Repr

namespace NumberScan

/-- The first character of a number: a minus sign or a digit. -/
def start? (c : Char) : Option NumberScan :=
  if c = '-' then some ⟨.sign, { negative := true }⟩
  else if c = '0' then some ⟨.zero, { whole := "0" }⟩
  else if c.isDigit then some ⟨.whole, { whole := String.singleton c }⟩
  else none

def pushWhole (scan : NumberScan) (phase : NumberPhase) (c : Char) : NumberScan :=
  { phase, numeral := { scan.numeral with whole := scan.numeral.whole.push c } }

def pushFraction (scan : NumberScan) (c : Char) : NumberScan :=
  { phase := .fraction, numeral := { scan.numeral with fraction := scan.numeral.fraction.push c } }

def pushExponent (scan : NumberScan) (c : Char) : NumberScan :=
  { phase := .exponent, numeral := { scan.numeral with exponent := scan.numeral.exponent.push c } }

/-- What may follow the digits of the whole part or of the fraction. -/
def afterDigits (scan : NumberScan) (mayPoint : Bool) (c : Char) : Option NumberScan :=
  if c = '.' && mayPoint then some { scan with phase := .point }
  else if c = 'e' || c = 'E' then some { scan with phase := .mark }
  else none

/-- Reads one character. The result is `none` when the number has ended before it. -/
def step (scan : NumberScan) (c : Char) : Except FormFault (Option NumberScan) :=
  match scan.phase with
  | .sign =>
    if c = '0' then .ok (some (scan.pushWhole .zero c))
    else if c.isDigit then .ok (some (scan.pushWhole .whole c))
    else .error .malformed
  | .zero => if c.isDigit then .error .malformed else .ok (scan.afterDigits true c)
  | .whole =>
    if c.isDigit then .ok (some (scan.pushWhole .whole c)) else .ok (scan.afterDigits true c)
  | .point => if c.isDigit then .ok (some (scan.pushFraction c)) else .error .malformed
  | .fraction =>
    if c.isDigit then .ok (some (scan.pushFraction c)) else .ok (scan.afterDigits false c)
  | .mark =>
    if c = '+' then .ok (some { scan with phase := .markSign })
    else if c = '-' then
      .ok (some { phase := .markSign, numeral := { scan.numeral with exponentNegative := true } })
    else if c.isDigit then .ok (some (scan.pushExponent c))
    else .error .malformed
  | .markSign => if c.isDigit then .ok (some (scan.pushExponent c)) else .error .malformed
  | .exponent => if c.isDigit then .ok (some (scan.pushExponent c)) else .ok none

end NumberScan
end TemplateIR
