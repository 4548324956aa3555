import TemplateIR.Tree.Identity

/-!
What one copy operation knows: which node has been copied into which so far, and which nodes
outside the copied tree may be referred to.
-/
namespace TemplateIR

/-- A finite map from nodes to their copies. -/
structure Counterparts where
  pairs : List (NodeId × NodeId) := []
  distinct : (pairs.map Prod.fst).Nodup := by simp
deriving DecidableEq, Repr

namespace Counterparts

variable {table : Counterparts} {old copy other : NodeId}

def find? (table : Counterparts) (old : NodeId) : Option NodeId :=
  table.pairs.lookup old

def keys (table : Counterparts) : List NodeId :=
  table.pairs.map Prod.fst

def size (table : Counterparts) : Nat :=
  table.pairs.length

private theorem distinct_insert (table : Counterparts) (old copy : NodeId) :
    ((table.pairs.filter (·.1 ≠ old) ++ [(old, copy)]).map Prod.fst).Nodup := by
  rw [List.map_append, List.nodup_append]
  refine ⟨?_, by simp, ?_⟩
  · exact table.distinct.sublist (List.filter_sublist.map _)
  · intro id member last equal
    simp only [List.mem_map, List.mem_filter] at member
    obtain ⟨pair, ⟨_, apart⟩, rfl⟩ := member
    simp_all

/-- Makes `copy` the copy of `old`, in place of an earlier one. -/
def insert (table : Counterparts) (old copy : NodeId) : Counterparts :=
  ⟨table.pairs.filter (·.1 ≠ old) ++ [(old, copy)], distinct_insert table old copy⟩

private theorem lookup_filter (pairs : List (NodeId × NodeId)) (old other : NodeId) :
    (pairs.filter (·.1 ≠ old)).lookup other =
      if other = old then none else pairs.lookup other := by
  induction pairs with
  | nil => simp
  | cons pair rest ih =>
      obtain ⟨key, value⟩ := pair
      by_cases removed : key = old
      · subst removed
        rw [List.filter_cons_of_neg (by simp), ih]
        by_cases same : other = key
        · simp [same]
        · simp [List.lookup_cons, same, beq_eq_false_iff_ne.mpr same]
      · rw [List.filter_cons_of_pos (by simpa using removed), List.lookup_cons, ih,
          List.lookup_cons]
        by_cases same : other = key
        · simp [same, removed]
        · simp [beq_eq_false_iff_ne.mpr same]

theorem find?_insert (table : Counterparts) (old copy other : NodeId) :
    (table.insert old copy).find? other = if other = old then some copy else table.find? other := by
  simp only [insert, find?, List.lookup_append, lookup_filter]
  by_cases same : other = old
  · simp [same]
  · simp [List.lookup_cons, same, beq_eq_false_iff_ne.mpr same]

theorem find?_isSome_iff : (table.find? old).isSome ↔ old ∈ table.keys := by
  simp [find?, keys, List.lookup_isSome_iff]

end Counterparts

/-- What one copy operation knows. It belongs to that operation alone. -/
structure CopyScope where
  counterparts : Counterparts := {}
  external : List NodeId := []
deriving DecidableEq, Repr

namespace CopyScope

/-- Lets references to `id` survive a copy unchanged. -/
def allow (scope : CopyScope) (id : NodeId) : CopyScope :=
  { scope with external := scope.external ++ [id] }

/-- Knows no copies, and lets references to `ids` survive. -/
def allowing (ids : List NodeId) : CopyScope :=
  { external := ids }

def copyOf? (scope : CopyScope) (old : NodeId) : Option NodeId :=
  scope.counterparts.find? old

def size (scope : CopyScope) : Nat :=
  scope.counterparts.size

end CopyScope
end TemplateIR
