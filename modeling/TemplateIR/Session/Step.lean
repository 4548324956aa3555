import TemplateIR.Session.Basic
import TemplateIR.Session.Call
import TemplateIR.Tree.Source

/-!
How a session carries out a call. Spans are checked first: a call with a refused span changes
nothing, and takes neither parts nor an identity.
-/
namespace TemplateIR

structure Outcome where
  reply : Reply
  session : Session
  log : List LogRecord := []
deriving DecidableEq, Repr

namespace Session

/-- Gives the next identity to a node and binds the node. -/
def make (session : Session) (register : String) (build : NodeId → Node) : Outcome :=
  let node := build session.next
  { reply := .identity node.id
    session := { session with next := session.next.succ }.bind register node }

/-- Goes on with the span that is asked for, unless its bounds are out of order. -/
def withSpan (session : Session) (request : SpanRequest) (proceed : Span → Outcome) : Outcome :=
  match request.resolve with
  | .ok span => proceed span
  | .error bounds => { reply := .fault (.span bounds), session }

def withFound {α : Type} (session : Session) (found : Option α) (proceed : α → Outcome) : Outcome :=
  match found with
  | some value => proceed value
  | none => { reply := .unknown, session }

/-- Makes an import of parts that are already taken out of the session. -/
def makeImport (session : Session) (register : String) (span : Span) (path : StringLiteral)
    (bindings : List Binding) : Outcome :=
  let node := Import.make session.next span path bindings
  { session.make register fun _ => .importing node with log := [node.madeEvent.record] }

/-- Takes over from a copy what outlives it: the next identity and the events. -/
def afterCopy (session : Session) (register : String)
    (result : Except CopyFault Node × CopyRun) : Outcome :=
  let session := { session with next := result.2.next }
  let log := result.2.events.map TreeEvent.record
  match result.1 with
  | .ok node => { reply := .identity node.id, session := session.bind register node, log }
  | .error cause => { reply := .fault (.copy cause), session, log }

/-- Does something within a scope, which keeps what it has learned in any case. -/
def inScope {α : Type} (session : Session) (name : String) (scope : CopyScope) (action : CopyM α)
    (reply : α → CopyScope → Reply) : Outcome :=
  let (result, run) := action.exec { next := session.next, scope }
  { reply := match result with
      | .ok value => reply value run.scope
      | .error cause => .fault (.copy cause)
    session := session.setScope name run.scope
    log := run.events.map TreeEvent.record }

def step (session : Session) : Call → Outcome
  | .fresh =>
    { reply := .identity session.next, session := { session with next := session.next.succ } }
  | .makeBinding register name span =>
    session.withSpan span fun span =>
    session.make register fun id => .binding { id, span, name }
  | .makeLiteral register value span =>
    session.withSpan span fun span =>
    session.make register fun id => .literal { id, span, value }
  | .makeReference register name target span =>
    session.withSpan span fun span =>
    session.withFound (session.identity? target) fun target =>
    session.make register fun id => .reference { id, span, name, target }
  | .makeReferenceTo register declaration span =>
    session.withSpan span fun span =>
    session.withFound ((session.node? declaration).bind Node.binding?) fun declaration =>
    session.make register fun id => .reference (declaration.reference id span)
  | .asExpr register node =>
    session.withFound (session.take? Node.expr? node) fun (expr, session) =>
    { reply := .identity expr.node.id, session := session.bind register expr.node }
  | .asStatement register node =>
    session.withFound (session.take? Node.statement? node) fun (statement, session) =>
    { reply := .identity statement.node.id, session := session.bind register statement.node }
  | .makeImport register path bindings span =>
    session.withSpan span fun span =>
    session.withFound (session.take? Node.literal? path) fun (path, rest) =>
    session.withFound (rest.takeAll? Node.binding? bindings) fun (bindings, rest) =>
    rest.makeImport register span path bindings
  | .makeImportOfExpr register path bindings span =>
    session.withSpan span fun span =>
    session.withFound (session.take? Node.expr? path) fun (path, rest) =>
    session.withFound (rest.takeAll? Node.binding? bindings) fun (bindings, rest) =>
    match Import.pathOfExpr path with
    | .ok path => rest.makeImport register span path bindings
    | .error diagnostic => { reply := .refused diagnostic, session := rest }
  | .makePrint register expr span =>
    session.withSpan span fun span =>
    session.withFound (session.take? Node.expr? expr) fun (expr, rest) =>
    rest.make register fun id => .printing { id, span, expr }
  | .makeFile register path statements span =>
    session.withSpan span fun span =>
    session.withFound (session.takeAll? Node.statement? statements) fun (statements, rest) =>
    rest.make register fun id => .file { id, span, path, statements }
  | .copyIn register node name =>
    session.withFound (session.node? node) fun node =>
    session.withFound (session.scopes.find? name) fun scope =>
    let result := node.copy.exec { next := session.next, scope }
    (session.setScope name result.2.scope).afterCopy register result
  | .duplicate register node =>
    session.withFound (session.node? node) fun node =>
    session.afterCopy register (node.duplicate session.next)
  | .drop register =>
    session.withFound (session.nodes.find? register) fun _ =>
    { reply := .done, session := session.drop register }
  | .literalValue node =>
    session.withFound ((session.node? node).bind Node.expr?) fun expr =>
    { reply := .literalValue (expr.literal?.map (·.value)), session }
  | .source node =>
    session.withFound (session.node? node) fun node => { reply := .source node.source, session }
  | .head node =>
    session.withFound (session.node? node) fun node => { reply := .head node, session }
  | .tree node =>
    session.withFound (session.node? node) fun node => { reply := .tree node, session }
  | .walk node =>
    session.withFound (session.node? node) fun node => { reply := .walk node.preorder, session }
  | .openScope name external =>
    session.withFound (external.mapM session.identity?) fun external =>
    { reply := .scopeSize 0, session := session.setScope name (.allowing external) }
  | .allow name id =>
    session.withFound (session.scopes.find? name) fun scope =>
    session.withFound (session.identity? id) fun id =>
    { reply := .done, session := session.setScope name (scope.allow id) }
  | .register name old copy =>
    session.withFound (session.scopes.find? name) fun scope =>
    session.withFound (session.identity? old) fun old =>
    session.withFound (session.identity? copy) fun copy =>
    session.inScope name scope (CopyM.register old copy) fun _ scope => .scopeSize scope.size
  | .copyOf name old =>
    session.withFound (session.scopes.find? name) fun scope =>
    session.withFound (session.identity? old) fun old =>
    { reply := .copyOf (scope.copyOf? old), session }
  | .relink name target span =>
    session.withSpan span fun span =>
    session.withFound (session.scopes.find? name) fun scope =>
    session.withFound (session.identity? target) fun target =>
    session.inScope name scope (CopyM.relink target span) fun id _ => .identity id
  | .scopeSize name =>
    session.withFound (session.scopes.find? name) fun scope =>
    { reply := .scopeSize scope.size, session }
  | .emitParts node options quote =>
    session.withFound ((session.node? node).bind Node.import?) fun node =>
    { reply := .parts (node.parts options quote)
      session
      log := (node.namingEvents options).map NamingEvent.record }

def run (session : Session) : List Call → List Outcome
  | [] => []
  | call :: rest =>
    let outcome := session.step call
    outcome :: run outcome.session rest

end Session
end TemplateIR
