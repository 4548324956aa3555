import TemplateIR.Text.FormatChar
import TemplateIR.Text.Revision
import TemplateIR.Text.UnicodeEscape

/-!
Emitted code shows format characters as escapes, since they change what a string literal means but
cannot be seen in a listing.
-/
namespace TemplateIR

/-- One character of the text: its escape if it is a format character, else itself. -/
def formatEscape (c : Char) : List Char :=
  if isFormat c then unicodeEscape c else [c]

/-- Escapes the format characters of `text`. The bytes before the first of them are taken over as a
whole; a text without any is kept. -/
def escapeFormat (text : String) : Revision :=
  match text.find? isFormat with
  | none => .kept text
  | some first =>
    .changed ((text.sliceTo first).copy ++
      String.ofList ((text.sliceFrom first).copy.toList.flatMap formatEscape))

end TemplateIR
