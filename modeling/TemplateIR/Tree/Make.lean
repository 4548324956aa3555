import TemplateIR.Tree.Event
import TemplateIR.Tree.Node

/-!
Making nodes whose content is not just what the parser hands over.
-/
namespace TemplateIR

def Binding.reference (declaration : Binding) (id : NodeId) (span : Span) : Reference :=
  { id, span, name := declaration.name, target := declaration.id }

namespace Import

def make (id : NodeId) (span : Span) (path : StringLiteral) (bindings : List Binding) : Import :=
  { id, span, path, bindings, importTarget := .ofPath path.value }

/-- What making the import lets a listener know. -/
def madeEvent (node : Import) : TreeEvent :=
  .classified node.path.value node.importTarget node.bindings.length

/-- The path that a parsed expression denotes. Only a string literal denotes one; anything else is
a mistake at the place of the expression. -/
def pathOfExpr : Expr → Except Diagnostic StringLiteral
  | .literal path => .ok path
  | .reference node => .error (.registered node.span pathNotLiteralCode [])

end Import
end TemplateIR
