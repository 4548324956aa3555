/-!
The outcome of a function that changes some texts and leaves the others as they are.
-/
namespace TemplateIR

/-- A text that was left alone, or the text that takes its place. -/
inductive Revision where
  | kept (text : String)
  | changed (text : String)
deriving DecidableEq, Repr

namespace Revision

def text : Revision → String
  | .kept text => text
  | .changed text => text

def isKept : Revision → Bool
  | .kept _ => true
  | .changed _ => false

end Revision
end TemplateIR
