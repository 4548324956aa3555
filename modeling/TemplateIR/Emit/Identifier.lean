/-!
Names that cannot stand as they are for a variable of the emitted JavaScript. There are three
sets, compared letter for letter: words for a value, which name no variable, words of the grammar,
which do not even parse as one, and names of global bindings, which parse but hide what generated
code may need.
-/
namespace TemplateIR

/-- Words that denote a value. -/
def valueWords : List String := [
  "null", "true", "false", "NaN", "Infinity", "undefined"]

/-- Words of the grammar, also those kept for later use. -/
def grammarWords : List String := [
  "break", "case", "catch", "continue", "debugger", "default", "delete", "do", "else", "finally",
  "for", "function", "if", "in", "instanceof", "new", "return", "switch", "this", "throw", "try",
  "typeof", "var", "void", "while", "with", "class", "const", "enum", "export", "extends",
  "import", "super", "implements", "interface", "let", "package", "private", "protected", "public",
  "static", "yield", "async", "await"]

/-- The objects and functions that every program finds defined. -/
def globalNames : List String := [
  "eval", "uneval", "isFinite", "isNaN", "parseFloat", "parseInt", "decodeURI",
  "decodeURIComponent", "encodeURI", "encodeURIComponent", "escape", "unescape", "Object",
  "Function", "Boolean", "Symbol", "Error", "EvalError", "InternalError", "RangeError",
  "ReferenceError", "SyntaxError", "TypeError", "URIError", "Number", "Math", "Date", "String",
  "RegExp", "Array", "Int8Array", "Uint8Array", "Uint8ClampedArray", "Int16Array", "Uint16Array",
  "Int32Array", "Uint32Array", "Float32Array", "Float64Array", "Map", "Set", "WeakMap", "WeakSet",
  "SIMD", "ArrayBuffer", "SharedArrayBuffer", "Atomics", "DataView", "JSON", "Promise",
  "Generator", "GeneratorFunction", "AsyncFunction", "Reflect", "Proxy", "Intl", "WebAssembly",
  "Iterator", "ParallelArray", "StopIteration", "arguments"]

inductive IdentifierClass where
  | plain
  | valueWord
  | grammarWord
  | globalName
deriving DecidableEq, Repr

namespace IdentifierClass

def name : IdentifierClass → String
  | .plain => "Plain"
  | .valueWord => "Literal"
  | .grammarWord => "Reserved"
  | .globalName => "Global"

/-- Whether a name of this class would not parse or would mean something else. -/
def isForbidden : IdentifierClass → Bool
  | .valueWord | .grammarWord => true
  | .plain | .globalName => false

end IdentifierClass

def isValueWord (name : String) : Bool :=
  valueWords.contains name

def isGrammarWord (name : String) : Bool :=
  grammarWords.contains name

def isGlobalName (name : String) : Bool :=
  globalNames.contains name

def IdentifierClass.ofName (name : String) : IdentifierClass :=
  if isValueWord name then .valueWord
  else if isGrammarWord name then .grammarWord
  else if isGlobalName name then .globalName
  else .plain

end TemplateIR
