import TemplateIR.Search

/-!
Sets of code points, written as tables of inclusive ranges. Membership in a sorted table is decided
by binary search.
-/
namespace TemplateIR

/-- The code points from `first` to `last`, both included. -/
structure CodeRange where
  first : Nat
  last : Nat
deriving DecidableEq, Repr

namespace CodeRange

/-- Where `range` lies, seen from `code`. -/
def order (code : Nat) (range : CodeRange) : Ordering :=
  if range.last < code then .lt
  else if code < range.first then .gt
  else .eq

/-- Whether a range of the sorted `table` holds `code`. -/
def inTable (table : Array CodeRange) (code : Nat) : Bool :=
  (search (order code) table).isFound

/-- The part of `range` that lies between `low` and `high`, if there is any. -/
def clip? (low high : Nat) (range : CodeRange) : Option CodeRange :=
  let part : CodeRange := ⟨max low range.first, min high range.last⟩
  if part.first ≤ part.last then some part else none

end CodeRange
end TemplateIR
