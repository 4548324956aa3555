import TemplateIR.Emit.FormatEscape
import TemplateIR.Emit.Literal
import TemplateIR.Emit.Naming
import TemplateIR.Tree.Node

/-!
The parts of an import statement in emitted code: safe names for what it binds and its path as text
and as a literal.
-/
namespace TemplateIR

structure ImportParts where
  names : List Revision
  escapedPath : Revision
  quotedPath : String
deriving DecidableEq, Repr

namespace Import

def parts (node : Import) (options : NamingOptions) (quote : Char) : ImportParts :=
  { names := node.bindings.map (options.emittedName ·.name)
    escapedPath := escapeFormat node.path.value
    quotedPath := quoteLiteral node.path.value quote }

/-- The events of choosing names for the bindings, in their order. -/
def namingEvents (node : Import) (options : NamingOptions) : List NamingEvent :=
  node.bindings.filterMap (options.event? ·.name)

end Import
end TemplateIR
