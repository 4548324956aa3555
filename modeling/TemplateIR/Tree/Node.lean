import TemplateIR.Source.Span
import TemplateIR.Tree.ImportTarget
import TemplateIR.Tree.NodeKind
import TemplateIR.Tree.Identity

/-!
The nodes of a template file. A file holds statements, an import holds the names it binds and its
path, a print holds an expression. Parents own their children; a reference points at its
declaration by identity only.
-/
namespace TemplateIR

structure Binding where
  id : NodeId
  span : Span
  name : String
deriving DecidableEq, Repr

structure StringLiteral where
  id : NodeId
  span : Span
  value : String
deriving DecidableEq, Repr

/-- A use of the declaration `target` under the name `name`. -/
structure Reference where
  id : NodeId
  span : Span
  name : String
  target : NodeId
deriving DecidableEq, Repr

inductive Expr where
  | literal (node : StringLiteral)
  | reference (node : Reference)
deriving DecidableEq, Repr

/-- An import statement. Its type is found once, when the node is made, and stays with its copies.
-/
structure Import where
  id : NodeId
  span : Span
  path : StringLiteral
  bindings : List Binding
  importTarget : ImportTarget
deriving DecidableEq, Repr

structure Print where
  id : NodeId
  span : Span
  expr : Expr
deriving DecidableEq, Repr

inductive Statement where
  | importing (node : Import)
  | printing (node : Print)
deriving DecidableEq, Repr

/-- The root of the tree of one source file. -/
structure File where
  id : NodeId
  span : Span
  path : String
  statements : List Statement
deriving DecidableEq, Repr

inductive Node where
  | file (node : File)
  | importing (node : Import)
  | printing (node : Print)
  | literal (node : StringLiteral)
  | reference (node : Reference)
  | binding (node : Binding)
deriving DecidableEq, Repr

/-- Whether the import declares nothing, so that it stands for its effect alone. -/
def Import.bindsNothing (node : Import) : Bool :=
  node.bindings.isEmpty

def Statement.node : Statement → Node
  | .importing node => .importing node
  | .printing node => .printing node

def Statement.import? : Statement → Option Import
  | .importing node => some node
  | .printing _ => none

def Expr.node : Expr → Node
  | .literal node => .literal node
  | .reference node => .reference node

def Expr.span : Expr → Span
  | .literal node => node.span
  | .reference node => node.span

def Expr.literal? : Expr → Option StringLiteral
  | .literal node => some node
  | .reference _ => none

def File.imports (node : File) : List Import :=
  node.statements.filterMap Statement.import?

namespace Node

def id : Node → NodeId
  | .file node => node.id
  | .importing node => node.id
  | .printing node => node.id
  | .literal node => node.id
  | .reference node => node.id
  | .binding node => node.id

def span : Node → Span
  | .file node => node.span
  | .importing node => node.span
  | .printing node => node.span
  | .literal node => node.span
  | .reference node => node.span
  | .binding node => node.span

def kind : Node → NodeKind
  | .file _ => .file
  | .importing _ => .importing
  | .printing _ => .printing
  | .literal _ => .literal
  | .reference _ => .reference
  | .binding _ => .binding

def statement? : Node → Option Statement
  | .importing node => some (.importing node)
  | .printing node => some (.printing node)
  | _ => none

def expr? : Node → Option Expr
  | .literal node => some (.literal node)
  | .reference node => some (.reference node)
  | _ => none

def literal? : Node → Option StringLiteral
  | .literal node => some node
  | _ => none

def binding? : Node → Option Binding
  | .binding node => some node
  | _ => none

def import? : Node → Option Import
  | .importing node => some node
  | _ => none

end Node
end TemplateIR
