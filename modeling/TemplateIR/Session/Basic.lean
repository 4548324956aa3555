import TemplateIR.Source.SpanRequest
import TemplateIR.Tree.Copy
import TemplateIR.Tree.Make

/-!
A session builds, copies and inspects trees by name. It owns the nodes that live: each is the root
of a tree in a register of its own, until it becomes a part of another node or is dropped. Beside
them stand the copy scopes that have been opened, and the identity of every node that was ever
bound.
-/
namespace TemplateIR

/-- A table with one entry for a name, the latest one. -/
abbrev Table (α : Type) := List (String × α)

namespace Table

variable {α : Type}

def find? (table : Table α) (name : String) : Option α :=
  table.lookup name

def erase (table : Table α) (name : String) : Table α :=
  table.filter (·.1 ≠ name)

def insert (table : Table α) (name : String) (value : α) : Table α :=
  (name, value) :: erase table name

end Table

structure Session where
  next : NodeId := .first
  nodes : Table Node := []
  scopes : Table CopyScope := []
  /-- Identities by the name under which they were bound last, whether their nodes live or not. -/
  names : Table NodeId := []
deriving DecidableEq, Repr

/-- The part of `node` that a segment of a path names. Statements and bindings go by their index,
the path of an import by `path` and the expression of a print by `expr`. -/
def Node.part? (node : Node) (segment : String) : Option Node :=
  match node with
  | .file root => do
    let index ← decimalValue? segment.toList
    let statement ← root.statements[index]?
    return statement.node
  | .importing node =>
    if segment = "path" then some (.literal node.path)
    else do
      let index ← decimalValue? segment.toList
      let binding ← node.bindings[index]?
      return .binding binding
  | .printing node => if segment = "expr" then some node.expr.node else none
  | _ => none

namespace Session

/-- The node that a path leads to: the name of a register, then the way to a part, the segments
separated by slashes. -/
def node? (session : Session) (path : String) : Option Node :=
  match path.splitOn "/" with
  | [] => none
  | register :: segments => do
    let root ← session.nodes.find? register
    segments.foldlM Node.part? root

/-- The identity that a text designates: a number behind a number sign, a name that was bound, or
the path of a node. -/
def identity? (session : Session) (designator : String) : Option NodeId :=
  (NodeId.ofText? designator).or
    ((session.names.find? designator).or ((session.node? designator).map Node.id))

/-- Puts `node` into a register. Whatever was there is dropped. -/
def bind (session : Session) (register : String) (node : Node) : Session :=
  { session with
    nodes := session.nodes.insert register node
    names := session.names.insert register node.id }

def drop (session : Session) (register : String) : Session :=
  { session with nodes := session.nodes.erase register }

def setScope (session : Session) (name : String) (scope : CopyScope) : Session :=
  { session with scopes := session.scopes.insert name scope }

/-- Moves the node of a register out of the session, if it is one that `pick` accepts. -/
def take? {α : Type} (session : Session) (pick : Node → Option α) (register : String) :
    Option (α × Session) := do
  let node ← session.nodes.find? register
  let part ← pick node
  return (part, session.drop register)

/-- Moves the nodes of several registers out of the session, in this order. -/
def takeAll? {α : Type} (session : Session) (pick : Node → Option α) :
    List String → Option (List α × Session)
  | [] => some ([], session)
  | register :: rest => do
    let (part, session) ← session.take? pick register
    let (parts, session) ← session.takeAll? pick rest
    return (part :: parts, session)

end Session
end TemplateIR
