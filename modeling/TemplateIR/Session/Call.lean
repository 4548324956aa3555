import TemplateIR.Emit.ImportParts
import TemplateIR.Source.SpanRequest
import TemplateIR.Tree.Copy

/-!
What can be asked of a session, and what it answers. Registers and scopes are given by name, nodes
by the path that leads to them, and identities by number, name or path.
-/
namespace TemplateIR

inductive Call where
  /-- Takes an identity for no node. -/
  | fresh
  | makeBinding (register name : String) (span : SpanRequest)
  | makeLiteral (register value : String) (span : SpanRequest)
  | makeReference (register name target : String) (span : SpanRequest)
  /-- Makes a reference to the binding at `declaration`, under its name. -/
  | makeReferenceTo (register declaration : String) (span : SpanRequest)
  /-- Moves a literal or a reference into another register, as an expression. -/
  | asExpr (register node : String)
  /-- Moves an import or a print into another register, as a statement. -/
  | asStatement (register node : String)
  | makeImport (register path : String) (bindings : List String) (span : SpanRequest)
  /-- Makes an import whose path is an expression, which need not be a literal. -/
  | makeImportOfExpr (register path : String) (bindings : List String) (span : SpanRequest)
  | makePrint (register expr : String) (span : SpanRequest)
  | makeFile (register path : String) (statements : List String) (span : SpanRequest)
  | copyIn (register node scope : String)
  /-- Copies a node in a scope of its own. -/
  | duplicate (register node : String)
  | drop (register : String)
  | literalValue (node : String)
  | source (node : String)
  | head (node : String)
  | tree (node : String)
  | walk (node : String)
  | openScope (scope : String) (external : List String)
  | allow (scope id : String)
  | register (scope old copy : String)
  | copyOf (scope old : String)
  | relink (scope target : String) (span : SpanRequest)
  | scopeSize (scope : String)
  | emitParts (node : String) (options : NamingOptions) (quote : Char)
deriving DecidableEq, Repr

/-- Why a call has come to nothing although it was well formed. -/
inductive SessionFault where
  | span (bounds : InvertedSpan)
  | copy (cause : CopyFault)
deriving DecidableEq, Repr

def SessionFault.message : SessionFault → String
  | .span bounds => bounds.message
  | .copy cause => cause.message

inductive Reply where
  | done
  | identity (id : NodeId)
  | copyOf (id : Option NodeId)
  | literalValue (value : Option String)
  | source (text : String)
  | head (node : Node)
  | tree (node : Node)
  | walk (nodes : List Node)
  | scopeSize (size : Nat)
  | parts (parts : ImportParts)
  /-- The call was refused with a message for whoever writes templates. -/
  | refused (diagnostic : Diagnostic)
  | fault (fault : SessionFault)
  /-- The call names something that is not there or is not what the call takes. -/
  | unknown
deriving DecidableEq, Repr

end TemplateIR
