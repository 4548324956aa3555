import TemplateIR.Text.FormatChar
import TemplateIR.Text.UnicodeEscape
import TemplateIR.Tree.Node

/-!
The canonical source form of nodes, one statement on a line. String literals stand in single quotes
and are escaped; the path of an import is written as it is.
-/
namespace TemplateIR

/-- Characters with an escape of one letter, and that letter. -/
def shortEscapes : List (Char × Char) :=
  [('\'', '\''), ('\\', '\\'), ('\n', 'n'), ('\r', 'r'), ('\t', 't'), ('\x00', '0')]

/-- Whether `c` would not be seen in a listing or would break the line. -/
def isUnseen (c : Char) : Bool :=
  c.toNat < 0x20 || c.toNat = 0x7F || c.toNat = 0x2028 || c.toNat = 0x2029 || isFormat c

def sourceChar (c : Char) : List Char :=
  match shortEscapes.lookup c with
  | some letter => ['\\', letter]
  | none => if isUnseen c then unicodeEscape c else [c]

def StringLiteral.written (node : StringLiteral) : List Char :=
  '\'' :: node.value.toList.flatMap sourceChar ++ ['\'']

def Expr.written : Expr → List Char
  | .literal node => node.written
  | .reference node => node.name.toList

/-- The names an import binds, in braces and before the word that leads to the path. An import for
its effect alone has no such part. -/
def Import.writtenBindings (node : Import) : List Char :=
  if node.bindings.isEmpty then []
  else '{' :: [','].intercalate (node.bindings.map (·.name.toList)) ++ "\x7d from ".toList

def Import.written (node : Import) : List Char :=
  "import ".toList ++ node.writtenBindings ++ '\'' :: node.path.value.toList ++ ['\'']

def Print.written (node : Print) : List Char :=
  "\x7bprint ".toList ++ node.expr.written ++ ['}']

def Statement.written : Statement → List Char
  | .importing node => node.written
  | .printing node => node.written

def File.written (node : File) : List Char :=
  ['\n'].intercalate (node.statements.map Statement.written)

namespace Node

def written : Node → List Char
  | .file node => node.written
  | .importing node => node.written
  | .printing node => node.written
  | .literal node => node.written
  | .reference node => node.name.toList
  | .binding node => node.name.toList

def source (node : Node) : String :=
  String.ofList node.written

end Node
end TemplateIR
