/-!
Binary search in a table that is sorted for the comparison at hand. The comparison says where an
entry lies, seen from what is sought: `.lt` before it, `.gt` after it, `.eq` at it.
-/
namespace TemplateIR

/-- Where a search ends: at an entry, or at the index where the entry would have to stand. -/
inductive SearchResult where
  | found (index : Nat)
  | missing (index : Nat)
deriving DecidableEq, Repr

variable {α : Type}

/-- Searches the entries from `low` up to, but not including, `high`. -/
def searchBetween (order : α → Ordering) (table : Array α) (low high : Nat)
    (inside : high ≤ table.size) : SearchResult :=
  if nonempty : low < high then
    let middle := low + (high - low) / 2
    match order table[middle] with
    | .eq => .found middle
    | .lt => searchBetween order table (middle + 1) high inside
    | .gt => searchBetween order table low middle (by omega)
  else .missing low
termination_by high - low

def search (order : α → Ordering) (table : Array α) : SearchResult :=
  searchBetween order table 0 table.size (Nat.le_refl _)

def SearchResult.isFound : SearchResult → Bool
  | .found _ => true
  | .missing _ => false

end TemplateIR
