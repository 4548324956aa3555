import TemplateIR.Tree.Preorder

/-!
Trees within trees. The nodes below a node stand together in every preorder that the node is part
of.
-/
namespace TemplateIR

theorem Node.mem_preorder_self (node : Node) : node ∈ node.preorder :=
  List.mem_of_mem_head? node.head?_preorder

theorem Import.preorder_sublist {node : Import} {part : Node} (member : part ∈ node.preorder) :
    part.preorder.Sublist node.preorder := by
  rw [preorder, List.cons_append, List.mem_cons, List.mem_append, List.mem_map,
    List.mem_singleton] at member
  rcases member with rfl | ⟨binding, bound, rfl⟩ | rfl
  · exact .refl _
  · apply List.singleton_sublist.mpr
    rw [preorder]
    simp [bound]
  · apply List.singleton_sublist.mpr
    rw [preorder]
    simp

theorem Expr.preorder_eq (node : Expr) : node.node.preorder = [node.node] := by
  cases node <;> rfl

theorem Print.preorder_sublist {node : Print} {part : Node} (member : part ∈ node.preorder) :
    part.preorder.Sublist node.preorder := by
  rw [preorder, List.mem_cons, List.mem_singleton] at member
  rcases member with rfl | rfl
  · exact .refl _
  · rw [Expr.preorder_eq, preorder]
    exact List.sublist_cons_self _ _

theorem Statement.preorder_sublist {statement : Statement} {part : Node}
    (member : part ∈ statement.preorder) : part.preorder.Sublist statement.preorder := by
  cases statement with
  | importing node => exact Import.preorder_sublist member
  | printing node => exact Print.preorder_sublist member

theorem File.preorder_sublist {node : File} {part : Node} (member : part ∈ node.preorder) :
    part.preorder.Sublist node.preorder := by
  rw [preorder, List.mem_cons, List.mem_flatMap] at member
  rcases member with rfl | ⟨statement, listed, below⟩
  · exact .refl _
  · have within := List.sublist_flatten_of_mem (List.mem_map_of_mem (f := Statement.preorder) listed)
    exact (Statement.preorder_sublist below).trans (within.trans (List.sublist_cons_self _ _))

/-- The tree below a node is part of the tree that the node is part of. -/
theorem Node.preorder_sublist {node part : Node} (member : part ∈ node.preorder) :
    part.preorder.Sublist node.preorder := by
  cases node with
  | file node => exact File.preorder_sublist member
  | importing node => exact Import.preorder_sublist member
  | printing node => exact Print.preorder_sublist member
  | literal node =>
      obtain rfl := List.mem_singleton.mp member
      exact .refl _
  | reference node =>
      obtain rfl := List.mem_singleton.mp member
      exact .refl _
  | binding node =>
      obtain rfl := List.mem_singleton.mp member
      exact .refl _

end TemplateIR
