import TemplateIR.Decimal.Natural

/-!
Node identities. They are numbered from one in the order in which nodes come into being and never
given twice, so that side tables can be keyed on them.
-/
namespace TemplateIR

structure NodeId where
  number : Nat
deriving DecidableEq, Repr, Hashable

namespace NodeId

/-- The identity of the first node; zero names no node. -/
def first : NodeId := ⟨1⟩

instance : Inhabited NodeId := ⟨first⟩

def succ (id : NodeId) : NodeId := ⟨id.number + 1⟩

/-- The decimal number behind a number sign. -/
def text (id : NodeId) : String :=
  String.ofList ('#' :: Nat.toDigits 10 id.number)

def ofText? (text : String) : Option NodeId :=
  match text.toList with
  | '#' :: digits => (decimalValue? digits).map NodeId.mk
  | _ => none

def sorted (ids : List NodeId) : List NodeId :=
  ids.mergeSort fun left right => left.number ≤ right.number

end NodeId
end TemplateIR
