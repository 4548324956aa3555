import TemplateIR.Tree.CopyRun
import TemplateIR.Tree.Preorder

/-!
Copying a tree. Every copied node gets a new identity and is registered under the identity of the
node that it is a copy of; a reference is led to the copy of what it referred to.
-/
namespace TemplateIR

open CopyM

def Binding.copy (node : Binding) : CopyM Binding := do
  let id ← fresh
  register node.id id
  return { node with id }

def StringLiteral.copy (node : StringLiteral) : CopyM StringLiteral := do
  let id ← fresh
  register node.id id
  return { node with id }

/-- The reference is led to its new target before it takes an identity of its own. -/
def Reference.copy (node : Reference) : CopyM Reference := do
  let target ← relink node.target node.span
  emit (.referenceCopied node.target target node.name)
  let id ← fresh
  register node.id id
  return { node with id, target }

def Expr.copy : Expr → CopyM Expr
  | .literal node => return .literal (← node.copy)
  | .reference node => return .reference (← node.copy)

/-- The bindings take their identities before the import, and the path takes one after it. -/
def Import.copy (node : Import) : CopyM Import := do
  let bindings ← node.bindings.mapM Binding.copy
  let id ← fresh
  let path ← node.path.copy
  emit (.importCopied node.id id node.path.value)
  register node.id id
  return { node with id, path, bindings }

/-- The print takes its identity before its expression but is registered after it. -/
def Print.copy (node : Print) : CopyM Print := do
  let id ← fresh
  let expr ← node.expr.copy
  register node.id id
  return { node with id, expr }

def Statement.copy : Statement → CopyM Statement
  | .importing node => return .importing (← node.copy)
  | .printing node => return .printing (← node.copy)

/-- The place of a statement while its file is copied. -/
inductive Slot where
  | filled (copy : Import)
  | waiting (node : Print)
deriving DecidableEq, Repr

def Statement.copyImport : Statement → CopyM Slot
  | .importing node => return .filled (← node.copy)
  | .printing node => return .waiting node

def Slot.fill : Slot → CopyM Statement
  | .filled copy => return .importing copy
  | .waiting node => return .printing (← node.copy)

/-- All imports are copied before the first print, so a print may refer to a binding of any import
of its file, also of a later one. The file itself comes last. -/
def File.copy (node : File) : CopyM File := do
  let slots ← node.statements.mapM Statement.copyImport
  let statements ← slots.mapM Slot.fill
  let id ← fresh
  register node.id id
  return { node with id, statements }

namespace Node

def copy : Node → CopyM Node
  | .file node => return .file (← node.copy)
  | .importing node => return .importing (← node.copy)
  | .printing node => return .printing (← node.copy)
  | .literal node => return .literal (← node.copy)
  | .reference node => return .reference (← node.copy)
  | .binding node => return .binding (← node.copy)

/-- Copies the node and reports how many nodes the scope holds then. -/
def copyAndReport (node : Node) : CopyM Node := do
  let copy ← node.copy
  let nodes ← scopeSize
  emit (.duplicated node.kind node.id copy.id nodes)
  return copy

/-- Copies the node in a scope of its own that allows no reference out of the tree. -/
def duplicate (node : Node) (next : NodeId) : Except CopyFault Node × CopyRun :=
  node.copyAndReport.exec { next, scope := .allowing [] }

end Node
end TemplateIR
