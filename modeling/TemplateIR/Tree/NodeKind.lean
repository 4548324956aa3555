/-!
The closed set of node kinds.
-/
namespace TemplateIR

inductive NodeKind where
  | file
  | importing
  | printing
  | literal
  | reference
  | binding
deriving DecidableEq, Repr

namespace NodeKind

/-- Every kind: statements first, then expressions, then declarations. -/
def all : List NodeKind :=
  [.file, .importing, .printing, .literal, .reference, .binding]

theorem mem_all (kind : NodeKind) : kind ∈ all := by
  cases kind <;> decide

/-- The name shown to users. -/
def text : NodeKind → String
  | .file => "FILE_NODE"
  | .importing => "IMPORT_NODE"
  | .printing => "PRINT_NODE"
  | .literal => "STRING_NODE"
  | .reference => "VAR_REF_NODE"
  | .binding => "IMPORTED_VAR"

def isExpression : NodeKind → Bool
  | .literal | .reference => true
  | _ => false

def isDeclaration : NodeKind → Bool
  | .binding => true
  | _ => false

end NodeKind
end TemplateIR
