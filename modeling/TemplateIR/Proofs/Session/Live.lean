import Mathlib.Data.List.Flatten
import Mathlib.Data.List.Perm.Basic
import TemplateIR.Proofs.Tree.Subtree
import TemplateIR.Session.Step

/-!
The nodes that live in a session, across all its trees. A node that becomes a part is moved, so the
parts that are taken out and the nodes that remain are no more than there were.
-/
namespace TemplateIR

namespace Table

variable {α : Type} {table : Table α} {name other : String} {value : α}

theorem find?_insert (table : Table α) (name other : String) (value : α) :
    (table.insert name value).find? other =
      if other = name then some value else table.find? other := by
  have erased (apart : other ≠ name) : (table.erase name).lookup other = table.lookup other := by
    induction table with
    | nil => rfl
    | cons entry rest ih =>
        obtain ⟨key, held⟩ := entry
        by_cases removed : key = name
        · have missed : other ≠ key := fun same => apart (same.trans removed)
          rw [erase, List.filter_cons_of_neg (by simpa using removed), List.lookup_cons,
            beq_eq_false_iff_ne.mpr missed]
          exact ih
        · rw [erase, List.filter_cons_of_pos (by simpa using removed), List.lookup_cons,
            List.lookup_cons]
          cases other == key with
          | true => rfl
          | false => exact ih
  rw [insert, find?, List.lookup_cons]
  by_cases same : other = name
  · rw [if_pos same, beq_iff_eq.mpr same]
  · rw [if_neg same, beq_eq_false_iff_ne.mpr same]
    exact erased same

theorem mem_of_find? (found : table.find? name = some value) : (name, value) ∈ table := by
  obtain ⟨front, rest, rfl, -⟩ := List.lookup_eq_some_iff.mp found
  exact List.mem_append_right _ List.mem_cons_self

/-- What is erased makes room for what was found. -/
theorem flatMap_erase {β : Type} (view : α → List β) (found : table.find? name = some value) :
    (view value ++ (table.erase name).flatMap fun entry => view entry.2).Subperm
      (table.flatMap fun entry => view entry.2) := by
  induction table with
  | nil => cases found
  | cons entry rest ih =>
      obtain ⟨key, held⟩ := entry
      rw [find?, List.lookup_cons] at found
      by_cases same : name = key
      · rw [beq_iff_eq.mpr same] at found
        cases found
        have kept : (erase rest name).Sublist rest := List.filter_sublist
        rw [erase, List.filter_cons_of_neg (by simpa using same.symm), List.flatMap_cons]
        exact ((kept.flatMap _).append_left _).subperm
      · rw [beq_eq_false_iff_ne.mpr same] at found
        rw [erase, List.filter_cons_of_pos (by simpa using Ne.symm same), List.flatMap_cons,
          List.flatMap_cons]
        have others := (List.subperm_append_left (view held)).mpr (ih found)
        exact (List.perm_append_comm_assoc _ _ _).subperm.trans others

end Table

namespace Session

variable {session rest last : Session} {parts others : List Node} {register path : String}
  {node : Node}

def liveNodes (session : Session) : List Node :=
  session.nodes.flatMap fun entry => entry.2.preorder

def liveIds (session : Session) : List NodeId :=
  session.liveNodes.map Node.id

/-- The tree below a live node lives. -/
theorem preorder_sublist (member : node ∈ session.liveNodes) :
    node.preorder.Sublist session.liveNodes := by
  obtain ⟨entry, held, below⟩ := List.mem_flatMap.mp member
  have tree := List.sublist_flatten_of_mem
    (List.mem_map_of_mem (f := fun entry : String × Node => entry.2.preorder) held)
  exact (Node.preorder_sublist below).trans tree

theorem mem_preorder_of_part? {part : Node} {segment : String}
    (found : node.part? segment = some part) : part ∈ node.preorder := by
  cases node with
  | file node =>
      simp only [Node.part?, Option.bind_eq_bind, Option.bind_eq_some_iff, Option.pure_def,
        Option.some.injEq] at found
      obtain ⟨index, -, statement, listed, rfl⟩ := found
      apply List.mem_cons_of_mem
      refine List.mem_flatMap.mpr ⟨statement, List.mem_of_getElem? listed, ?_⟩
      cases statement with
      | importing node => exact List.mem_cons_self
      | printing node => exact List.mem_cons_self
  | importing node =>
      rw [Node.part?] at found
      split at found
      · cases found
        exact List.mem_append_right _ List.mem_cons_self
      · simp only [Option.bind_eq_bind, Option.bind_eq_some_iff, Option.pure_def,
          Option.some.injEq] at found
        obtain ⟨index, -, binding, listed, rfl⟩ := found
        have bound := List.mem_map_of_mem (f := Node.binding) (List.mem_of_getElem? listed)
        exact List.mem_cons_of_mem _ (List.mem_append_left _ bound)
  | printing node =>
      rw [Node.part?] at found
      split at found
      · cases found
        exact List.mem_cons_of_mem _ List.mem_cons_self
      · cases found
  | literal node => cases found
  | reference node => cases found
  | binding node => cases found

theorem mem_liveNodes (found : session.node? path = some node) : node ∈ session.liveNodes := by
  have descend (segments : List String) : ∀ start ∈ session.liveNodes,
      segments.foldlM Node.part? start = some node → node ∈ session.liveNodes := by
    induction segments with
    | nil =>
        rintro start member arrived
        cases arrived
        exact member
    | cons segment segments ih =>
        intro start member arrived
        rw [List.foldlM_cons, Option.bind_eq_bind, Option.bind_eq_some_iff] at arrived
        obtain ⟨part, below, arrived⟩ := arrived
        exact ih part ((preorder_sublist member).subset (mem_preorder_of_part? below)) arrived
  unfold node? at found
  split at found
  · cases found
  · rw [Option.bind_eq_bind, Option.bind_eq_some_iff] at found
    obtain ⟨root, held, arrived⟩ := found
    exact descend _ root
      (List.mem_flatMap.mpr ⟨_, Table.mem_of_find? held, root.mem_preorder_self⟩) arrived

/-- Taking `parts` out of the session leaves `rest`. -/
structure Yields (session : Session) (parts : List Node) (rest : Session) : Prop where
  next : rest.next = session.next
  scopes : rest.scopes = session.scopes
  lives : (parts ++ rest.liveNodes).Subperm session.liveNodes

theorem Yields.refl (session : Session) : session.Yields [] session :=
  ⟨rfl, rfl, .refl _⟩

theorem Yields.trans (first : session.Yields parts rest) (second : rest.Yields others last) :
    session.Yields (parts ++ others) last where
  next := second.next.trans first.next
  scopes := second.scopes.trans first.scopes
  lives := by
    have moved := (List.subperm_append_left parts).mpr second.lives
    rw [← List.append_assoc] at moved
    exact moved.trans first.lives

theorem yields_drop (found : session.nodes.find? register = some node) :
    session.Yields node.preorder (session.drop register) :=
  ⟨rfl, rfl, Table.flatMap_erase Node.preorder found⟩

section Taking

variable {α : Type} {pick : Node → Option α} {view : α → List Node} {part : α} {taken : List α}
  {registers : List String}

theorem take?_yields (whole : ∀ node part, pick node = some part → node.preorder = view part)
    (moved : session.take? pick register = some (part, rest)) : session.Yields (view part) rest := by
  simp only [take?, Option.bind_eq_bind, Option.bind_eq_some_iff, Option.pure_def,
    Option.some.injEq, Prod.mk.injEq] at moved
  obtain ⟨node, found, part, picked, rfl, rfl⟩ := moved
  rw [← whole node part picked]
  exact yields_drop found

theorem takeAll?_yields (whole : ∀ node part, pick node = some part → node.preorder = view part)
    (moved : session.takeAll? pick registers = some (taken, rest)) :
    session.Yields (taken.flatMap view) rest := by
  induction registers generalizing session taken with
  | nil =>
      cases moved
      exact .refl _
  | cons register registers ih =>
      simp only [takeAll?, Option.bind_eq_bind, Option.bind_eq_some_iff, Option.pure_def,
        Option.some.injEq, Prod.mk.injEq, Prod.exists] at moved
      obtain ⟨part, middle, first, parts, last, others, rfl, rfl⟩ := moved
      rw [List.flatMap_cons]
      exact (take?_yields whole first).trans (ih others)

end Taking

theorem liveNodes_bind (session : Session) (register : String) (node : Node) :
    (session.bind register node).liveNodes.Sublist (node.preorder ++ session.liveNodes) := by
  have kept : (session.nodes.erase register).Sublist session.nodes := List.filter_sublist
  exact (kept.flatMap _).append_left node.preorder

end Session
end TemplateIR
