import TemplateIR.Text.Blank
import TemplateIR.Text.LowerCase

/-!
The formats in which a log can be written, and how one is chosen by name.
-/
namespace TemplateIR

inductive LogFormat where
  | text
  | tree
  | json
deriving DecidableEq, Repr

namespace LogFormat

def name : LogFormat → String
  | .text => "Text"
  | .tree => "Tree"
  | .json => "Json"

/-- The format called `value`, whatever blanks stand around it and whatever its case. Every name
that is not known means plain text. -/
def ofName (value : String) : LogFormat :=
  let spelling := String.ofList (lowerCase (trim value.toList))
  if spelling = "tree" then .tree
  else if spelling = "json" then .json
  else .text

end LogFormat
end TemplateIR
