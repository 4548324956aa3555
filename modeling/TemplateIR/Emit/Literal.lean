import TemplateIR.Text.FormatChar
import TemplateIR.Text.UnicodeEscape

/-!
String literals of the emitted JavaScript. Whatever cannot be seen, or would end the line or the
literal, is written as an escape, so a literal can be pasted into any file.
-/
namespace TemplateIR

/-- How `c` is written in a literal between two `quote` characters. The short escapes go first,
also where the quote itself is one of their characters. -/
def literalChar (quote c : Char) : List Char :=
  if c = '\n' then ['\\', 'n']
  else if c = '\r' then ['\\', 'r']
  else if c = '\t' then ['\\', 't']
  else if c = '\\' then ['\\', '\\']
  else if c.toNat = 0 then ['\\', '0']
  else if c = quote then ['\\', c]
  else if c.toNat = 0x2028 || c.toNat = 0x2029 then unicodeEscape c
  else if c.toNat < 0x20 || c.toNat = 0x7F || isFormat c then unicodeEscape c
  else [c]

def literalBody (quote : Char) (value : List Char) : List Char :=
  value.flatMap (literalChar quote)

def quoteLiteral (value : String) (quote : Char) : String :=
  String.ofList (quote :: literalBody quote value.toList ++ [quote])

end TemplateIR
