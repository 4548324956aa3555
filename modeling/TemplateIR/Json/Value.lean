import TemplateIR.Json.Numeral
import TemplateIR.Text.Quoted

/-!
Values of a JSON text, and what can be wrong with its form.
-/
namespace TemplateIR

/-- What is wrong with the form of a text: a character cannot stand where it does, or the text ends
where it must not. -/
inductive FormFault where
  | malformed
  | unfinished
deriving DecidableEq, Repr

/-- A value that was read. What a sequence or a map holds is not kept. -/
inductive JsonValue where
  | null
  | boolean (value : Bool)
  | number (numeral : Numeral)
  | text (value : String)
  | sequence
  | map
deriving DecidableEq, Repr

/-- The value as messages call it. -/
def JsonValue.description : JsonValue → String
  | .null => "null"
  | .boolean true => "boolean \x60true\x60"
  | .boolean false => "boolean \x60false\x60"
  | .number numeral =>
    match numeral.value with
    | .integer value => "integer \x60" ++ toString value ++ "\x60"
    | .float value => "floating point \x60" ++ floatText value ++ "\x60"
  | .text value => "string " ++ quoteText value
  | .sequence => "sequence"
  | .map => "map"

inductive Container where
  | sequence
  | map
deriving DecidableEq, Repr

namespace Container

def value : Container → JsonValue
  | .sequence => .sequence
  | .map => .map

def closing : Container → Char
  | .sequence => ']'
  | .map => '}'

end Container

end TemplateIR
