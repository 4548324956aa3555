import TemplateIR.Tree.Node

/-!
The nodes of a tree in the order of the source text: every node before its parts, and the names
that an import binds before its path.
-/
namespace TemplateIR

def Import.preorder (node : Import) : List Node :=
  .importing node :: node.bindings.map .binding ++ [.literal node.path]

def Print.preorder (node : Print) : List Node :=
  [.printing node, node.expr.node]

def Statement.preorder : Statement → List Node
  | .importing node => node.preorder
  | .printing node => node.preorder

def File.preorder (node : File) : List Node :=
  .file node :: node.statements.flatMap Statement.preorder

namespace Node

def preorder : Node → List Node
  | .file node => node.preorder
  | .importing node => node.preorder
  | .printing node => node.preorder
  | .literal node => [.literal node]
  | .reference node => [.reference node]
  | .binding node => [.binding node]

def ids (node : Node) : List NodeId :=
  node.preorder.map Node.id

theorem head?_preorder (node : Node) : node.preorder.head? = some node := by
  cases node <;> rfl

end Node
end TemplateIR
