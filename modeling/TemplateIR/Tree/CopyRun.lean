import TemplateIR.Tree.CopyScope
import TemplateIR.Tree.Event

/-!
A copy under way. Its state outlives a failure: what a failed copy has registered, and the
identities that it has taken, stay.
-/
namespace TemplateIR

/-- Why a copy stops. Both causes are mistakes of whoever built the tree or chose the scope. -/
inductive CopyFault where
  | copiedTwice (old : NodeId)
  /-- A reference at `span` leads to a node that is neither copied nor allowed. -/
  | dangling (target : NodeId) (span : Span)
deriving DecidableEq, Repr

def danglingReport (target : NodeId) (span : Span) : InternalError :=
  ⟨span, "reference to node " ++ target.text ++ " which is not part of the copied tree"⟩

def CopyFault.message : CopyFault → String
  | .copiedTwice old => "node " ++ old.text ++ " copied twice in one copy operation"
  | .dangling target span => (danglingReport target span).message

/-- The state of a copy: the next identity to give, what is known of the copy, and the events so
far, the earliest first. -/
structure CopyRun where
  next : NodeId
  scope : CopyScope := {}
  events : List TreeEvent := []
deriving DecidableEq, Repr

namespace CopyRun

def log (run : CopyRun) (event : TreeEvent) : CopyRun :=
  { run with events := run.events ++ [event] }

def advance (run : CopyRun) : CopyRun :=
  { run with next := run.next.succ }

def enter (run : CopyRun) (old copy : NodeId) : CopyRun :=
  { run with
    scope := { run.scope with counterparts := run.scope.counterparts.insert old copy } }

end CopyRun

/-- A part of a copy. It ends with a value or a fault, and with a state in either case. -/
structure CopyM (α : Type) where
  exec : CopyRun → Except CopyFault α × CopyRun

namespace CopyM

variable {α β : Type}

instance : Monad CopyM where
  pure value := ⟨fun run => (.ok value, run)⟩
  bind first next := ⟨fun run =>
    match first.exec run with
    | (.ok value, run) => (next value).exec run
    | (.error fault, run) => (.error fault, run)⟩

@[simp]
theorem exec_pure (value : α) (run : CopyRun) :
    (pure value : CopyM α).exec run = (.ok value, run) := rfl

theorem exec_bind (first : CopyM α) (next : α → CopyM β) (run : CopyRun) :
    (first >>= next).exec run =
      match first.exec run with
      | (.ok value, run) => (next value).exec run
      | (.error fault, run) => (.error fault, run) := rfl

theorem exec_bind_ok {first : CopyM α} {value : α} {before after : CopyRun}
    (done : first.exec before = (.ok value, after)) (next : α → CopyM β) :
    (first >>= next).exec before = (next value).exec after := by
  rw [exec_bind, done]

theorem exec_bind_error {first : CopyM α} {fault : CopyFault} {before after : CopyRun}
    (failed : first.exec before = (.error fault, after)) (next : α → CopyM β) :
    (first >>= next).exec before = (.error fault, after) := by
  rw [exec_bind, failed]

@[ext]
theorem ext {left right : CopyM α} (same : ∀ run, left.exec run = right.exec run) :
    left = right := by
  cases left
  cases right
  congr
  exact funext same

instance : LawfulMonad CopyM := LawfulMonad.mk' CopyM
  (by
    intro _ action
    ext run : 1
    change (action >>= pure).exec run = _
    rw [exec_bind]
    split <;> simp_all)
  (by intros; rfl)
  (by
    intro _ _ _ first second third
    ext run : 1
    simp only [exec_bind]
    cases first.exec run with
    | mk result run => cases result <;> rfl)

def fresh : CopyM NodeId :=
  ⟨fun run => (.ok run.next, run.advance)⟩

def emit (event : TreeEvent) : CopyM Unit :=
  ⟨fun run => (.ok (), run.log event)⟩

/-- Enters `copy` as the copy of `old`. A second copy of one node takes the place of the first
before the fault is noticed. -/
def register (old copy : NodeId) : CopyM Unit :=
  ⟨fun run =>
    let entered := (run.log (.registered old copy)).enter old copy
    if (run.scope.copyOf? old).isSome then (.error (.copiedTwice old), entered)
    else (.ok (), entered)⟩

/-- What a reference to `target` at `span` becomes: a reference to the copy, if there is one, else
to `target` itself, if that is allowed. -/
def relink (target : NodeId) (span : Span) : CopyM NodeId :=
  ⟨fun run =>
    match run.scope.copyOf? target with
    | some copy => (.ok copy, run)
    | none =>
      if target ∈ run.scope.external then (.ok target, run.log (.externalReference target))
      else (.error (.dangling target span), run.log (.internalError (danglingReport target span)))⟩

def scopeSize : CopyM Nat :=
  ⟨fun run => (.ok run.scope.size, run)⟩

@[simp]
theorem exec_fresh (run : CopyRun) : fresh.exec run = (.ok run.next, run.advance) := rfl

@[simp]
theorem exec_emit (event : TreeEvent) (run : CopyRun) :
    (emit event).exec run = (.ok (), run.log event) := rfl

end CopyM
end TemplateIR
