import TemplateIR.Proofs.Session.Given

/-!
Identities over whole runs. No identity is given twice, whatever is moved, dropped or copied and
however often a copy breaks off on the way. The counter is not bounded here; one of 64 bits gives
the same numbers until it has given all that it has.
-/
namespace TemplateIR

namespace Session

/-- The session behind the calls. -/
def after (session : Session) (calls : List Call) : Session :=
  calls.foldl (fun session call => (session.step call).session) session

/-- The identities that calls give, the earliest first. -/
def givenBy (session : Session) : List Call → List NodeId
  | [] => []
  | call :: rest => session.given call ++ (session.step call).session.givenBy rest

/-- What holds of a session at any time. -/
structure Sound (session : Session) : Prop where
  distinct : session.liveIds.Nodup
  counted : ∀ id ∈ session.liveIds, 0 < id.number ∧ id.number < session.next.number
  classified : ∀ node, .importing node ∈ session.liveNodes →
    node.importTarget = .ofPath node.path.value
  duplicable : ∀ node ∈ session.liveNodes, ∀ next fault run,
    node.duplicate next = (.error fault, run) → ∃ target span, fault = .dangling target span

/-- What holds of all identities that were given before a session came about, also those of nodes
that do not live any more and those that a copy had taken when it broke off. -/
structure Accounts (session : Session) (given : List NodeId) : Prop where
  distinct : given.Nodup
  counted : ∀ id ∈ given, 0 < id.number ∧ id.number < session.next.number
  owned : ∀ id ∈ session.liveIds, id ∈ given

/-- What holds between a session and the one that calls lead to. -/
structure Succeeds (session : Session) (calls : List Call) (earlier : Session) : Prop where
  later : earlier.next.number ≤ session.next.number
  /-- A node that lives under an identity from before the calls is one that lived then. -/
  unused : ∀ node ∈ session.liveNodes, node.id.number < earlier.next.number →
    node ∈ earlier.liveNodes
  /-- A scope that is empty first and then filled by copies alone gives each node a copy of its own,
  under an identity that no node had before. -/
  injective : ∀ name scope, (∀ known, earlier.scopes.find? name = some known → known.size = 0) →
    (∀ call ∈ calls, name ∉ call.filled) → session.scopes.find? name = some scope →
    (∀ first second copy, scope.copyOf? first = some copy → scope.copyOf? second = some copy →
      first = second) ∧
    ∀ old copy, scope.copyOf? old = some copy →
      earlier.next.number ≤ copy.number ∧ copy.number < session.next.number

/-- Each call of a run is carried out in the session that the calls before it lead to. -/
theorem getElem?_run (session : Session) (calls : List Call) (index : Nat) :
    (session.run calls)[index]? =
      calls[index]?.map fun call => (session.after (calls.take index)).step call := by
  induction calls generalizing session index with
  | nil => rfl
  | cons call rest ih =>
      cases index with
      | zero => rfl
      | succ index =>
          simp only [run, List.getElem?_cons_succ, ih, List.take_succ_cons]
          rfl

variable {session : Session} {calls : List Call}

theorem after_grown (session : Session) (calls : List Call) :
    session.Grown (calls.flatMap Call.filled) (session.after calls) := by
  induction calls generalizing session with
  | nil => exact .refl session []
  | cons call rest ih =>
      rw [List.flatMap_cons]
      exact (session.step_grown call).trans (ih (session.step call).session)

/-- However a run goes, it gives one identity after the other and leaves none out. -/
theorem givenBy_eq (session : Session) (calls : List Call) :
    session.givenBy calls = session.next.upTo (session.after calls).next := by
  induction calls generalizing session with
  | nil => exact session.next.upTo_self.symm
  | cons call rest ih =>
      have begun := (session.step_grown call).later
      have continued := ((session.step call).session.after_grown rest).later
      rw [givenBy, given_step, ih, NodeId.upTo_append begun continued]
      rfl

theorem accounts_of_sound (calls : List Call) (sound : (({} : Session).after calls).Sound) :
    (({} : Session).after calls).Accounts (({} : Session).givenBy calls) := by
  rw [givenBy_eq]
  refine ⟨NodeId.nodup_upTo _ _, ?_, ?_⟩
  · intro id given
    exact NodeId.mem_upTo_iff.mp given
  · intro id alive
    exact NodeId.mem_upTo_iff.mpr (sound.counted id alive)

theorem births_of_empty {born : List Node} (births : ({} : Session).Births born session) :
    session.liveNodes.Subperm born := by
  have lives := births.lives
  rwa [show ({} : Session).liveNodes = [] from rfl, List.append_nil] at lives

/-- A tree that lives is copied in a scope of its own unless a reference leads out of it. -/
theorem duplicate_error_dangling {node : Node} {next : NodeId} {fault : CopyFault} {run : CopyRun}
    (distinct : session.liveIds.Nodup) (lives : node ∈ session.liveNodes)
    (failed : node.duplicate next = (.error fault, run)) :
    ∃ target span, fault = .dangling target span := by
  have ids : node.ids.Nodup := distinct.sublist ((preorder_sublist lives).map Node.id)
  have broken : (node.copy.exec { next }).1 = .error fault := by
    rw [← (node.exec_copyAndReport { next }).1]
    exact congrArg Prod.fst failed
  exact Node.copy_error_dangling ids rfl (Prod.ext broken rfl)

theorem sound_of_births {born : List Node} (births : ({} : Session).Births born session) :
    session.Sound := by
  have lives := births_of_empty births
  have distinct : session.liveIds.Nodup := by
    obtain ⟨sorted, same, sublist⟩ := lives
    exact (same.map Node.id).nodup_iff.mp (births.distinct.sublist (sublist.map Node.id))
  refine ⟨distinct, ?_, ?_, ?_⟩
  · intro id member
    obtain ⟨node, alive, rfl⟩ := List.mem_map.mp member
    exact births.fresh node (lives.subset alive)
  · intro node alive
    exact births.classified (List.forall_mem_nil _) (.importing node) (lives.subset alive)
  · intro node alive next fault run failed
    exact duplicate_error_dangling distinct alive failed

theorem succeeds_of_grown {earlier : Session}
    (grown : earlier.Grown (calls.flatMap Call.filled) session) :
    session.Succeeds calls earlier := by
  refine ⟨grown.later, ?_, ?_⟩
  · intro node alive taken
    obtain ⟨born, births⟩ := grown.born
    rcases List.mem_append.mp (births.lives.subset alive) with young | old
    · have fresh := (births.fresh node young).1
      omega
    · exact old
  · intro name scope empty byCopies found
    have untouched : name ∉ calls.flatMap Call.filled := by
      intro member
      obtain ⟨call, listed, byHand⟩ := List.mem_flatMap.mp member
      exact byCopies call listed byHand
    have begun : earlier.CopiesApart earlier.next name := by
      intro known held
      exact .of_size (empty known held)
    have apart := grown.scopes name untouched earlier.next (Nat.le_refl _) begun scope found
    constructor
    · intro first second copy left right
      exact apart.injective left right
    · intro old copy known
      exact apart.between copy (CopyScope.mem_copies_of_copyOf? known)

/-- Whatever is called, from the first call on, the nodes that live have identities of their own, all
of them counted and none of them zero; imports keep the type of their path; a tree is duplicated
unless a reference leads out of it. No two identities that were ever given are the same, whether
their nodes live, were dropped or never came about because a copy broke off. And from any point of
the run to any later one, the nodes that are added have new identities. -/
theorem sound_throughout (before calls : List Call) :
    let earlier := ({} : Session).after before
    let session := earlier.after calls
    session.Sound ∧ session.Accounts (({} : Session).givenBy (before ++ calls)) ∧
      session.Succeeds calls earlier := by
  intro earlier session
  have grown : earlier.Grown (calls.flatMap Call.filled) session := after_grown earlier calls
  obtain ⟨born, births⟩ := ((after_grown {} before).trans grown).born
  -- The run as a whole starts from nothing, so whatever lives was born in it.
  have sound := sound_of_births births
  have whole : ({} : Session).after (before ++ calls) = session := List.foldl_append
  have accounts := accounts_of_sound (before ++ calls) (whole ▸ sound)
  rw [whole] at accounts
  exact ⟨sound, accounts, succeeds_of_grown grown⟩

-- The print that was being copied had an identity already when its reference turned out to dangle.
example : ({} : Session).givenBy
    [.makeReference "leaf" "x" "#9" .synthetic, .makePrint "tree" "leaf" .synthetic,
      .duplicate "copy" "tree", .makeBinding "name" "x" .synthetic] =
        [⟨1⟩, ⟨2⟩, ⟨3⟩, ⟨4⟩] := by
  cbv

end Session
end TemplateIR
