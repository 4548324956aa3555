import TemplateIR.Text.DefaultIgnorable
import TemplateIR.Text.GraphemeExtend
import TemplateIR.Text.Graphic

/-!
Texts quoted for a message. Quotes, backslashes and the common controls get a backslash and a
letter; what could not be shown as it is gets its code point in lower-case hexadecimal.
-/
namespace TemplateIR

/-- The escape of a character by its code point, in braces. -/
def codePointEscape (c : Char) : List Char :=
  ['\\', 'u', '{'] ++ Nat.toDigits 16 c.toNat ++ ['}']

/-- The half-width sound marks extend the character before them, yet each is drawn in a cell of its
own. -/
def isSpacingSoundMark (c : Char) : Bool :=
  c = '\uFF9E' || c = '\uFF9F'

/-- Whether a reader sees the character wherever it stands. -/
def isVisible (c : Char) : Bool :=
  isGraphic c && !isDefaultIgnorable c && (!isGraphemeExtend c || isSpacingSoundMark c)

def quotedChar (c : Char) : List Char :=
  match c with
  | '\x00' => ['\\', '0']
  | '\t' => ['\\', 't']
  | '\r' => ['\\', 'r']
  | '\n' => ['\\', 'n']
  | '\\' => ['\\', '\\']
  | '\"' => ['\\', '\"']
  | c => if isVisible c then [c] else codePointEscape c

def quoteText (text : String) : String :=
  String.ofList ('\"' :: text.toList.flatMap quotedChar ++ ['\"'])

end TemplateIR
