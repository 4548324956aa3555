import TemplateIR.Diagnostic.Template
import TemplateIR.Source.Span

/-!
Diagnostics: messages about a place in a source text. The wording of registered messages is kept in
one catalogue. Codes below 9000 report mistakes in the text, higher ones mistakes of the compiler.
-/
namespace TemplateIR

inductive Severity where
  | warning
  | error
  | suggestion
  | message
deriving DecidableEq, Repr

namespace Severity

def name : Severity → String
  | .warning => "Warning"
  | .error => "Error"
  | .suggestion => "Suggestion"
  | .message => "Message"

def number : Severity → Nat
  | .warning => 0
  | .error => 1
  | .suggestion => 2
  | .message => 3

def ofName? : String → Option Severity
  | "Warning" => some .warning
  | "Error" => some .error
  | "Suggestion" => some .suggestion
  | "Message" => some .message
  | _ => none

end Severity

structure MessageEntry where
  code : UInt32
  severity : Severity
  template : String
deriving DecidableEq, Repr

def pathNotLiteralCode : UInt32 := 1001

def internalErrorCode : UInt32 := 9001

/-- Every registered message, by ascending code. -/
def messageCatalogue : List MessageEntry := [
  ⟨pathNotLiteralCode, .error, "Import path must be a string literal."⟩,
  ⟨internalErrorCode, .error, "Internal compiler error: \x7b0\x7d"⟩]

def findMessage? (code : UInt32) : Option MessageEntry :=
  messageCatalogue.find? (·.code = code)

/-- A remark at another place that belongs to a diagnostic. -/
structure RelatedNote where
  span : Span
  text : String
deriving DecidableEq, Repr

namespace RelatedNote

/-- Notes only inform. -/
def severity (_ : RelatedNote) : Severity := .message

/-- Notes are not registered, so they have no code of their own. -/
def code (_ : RelatedNote) : UInt32 := 0

end RelatedNote

structure Diagnostic where
  span : Span
  text : String
  severity : Severity
  code : UInt32
  related : List RelatedNote := []
deriving DecidableEq, Repr

namespace Diagnostic

def error (span : Span) (text : String) (code : UInt32) : Diagnostic :=
  { span, text, severity := .error, code }

/-- The registered message with this code, filled with `arguments`. For a code that is not
registered it is an error whose text is the first argument. -/
def registered (span : Span) (code : UInt32) (arguments : List String) : Diagnostic :=
  match findMessage? code with
  | some entry =>
    { span, text := fillTemplate entry.template arguments, severity := entry.severity, code }
  | none => error span (arguments.headD "") code

def addNote (diagnostic : Diagnostic) (span : Span) (text : String) : Diagnostic :=
  { diagnostic with related := diagnostic.related ++ [⟨span, text⟩] }

def isError (diagnostic : Diagnostic) : Bool :=
  diagnostic.severity = .error

end Diagnostic
end TemplateIR
