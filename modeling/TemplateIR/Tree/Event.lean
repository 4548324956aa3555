import TemplateIR.Diagnostic.InternalError
import TemplateIR.Tree.Identity
import TemplateIR.Tree.ImportTarget
import TemplateIR.Tree.NodeKind

/-!
What making and copying nodes lets a listener know.
-/
namespace TemplateIR

inductive TreeEvent where
  /-- An import statement was made; `bound` is the number of its names. -/
  | classified (path : String) (importTarget : ImportTarget) (bound : Nat)
  | importCopied (old copy : NodeId) (path : String)
  /-- A reference to `old` was copied into one to `relinked`. -/
  | referenceCopied (old relinked : NodeId) (name : String)
  | registered (old copy : NodeId)
  /-- A reference leads out of the copied tree, where it is allowed to. -/
  | externalReference (old : NodeId)
  /-- A whole tree of `nodes` nodes was copied. -/
  | duplicated (kind : NodeKind) (old copy : NodeId) (nodes : Nat)
  | internalError (report : InternalError)
deriving DecidableEq, Repr

namespace TreeEvent

def record : TreeEvent → LogRecord
  | .classified path importTarget bound =>
    ⟨.debug, "import.classify",
      [("path", path), ("import_type", importTarget.text), ("bound", toString bound)]⟩
  | .importCopied old copy path =>
    ⟨.trace, "import.copy", [("original", old.text), ("copy", copy.text), ("path", path)]⟩
  | .referenceCopied old relinked name =>
    ⟨.trace, "var_ref.copy",
      [("original", old.text), ("relinked", relinked.text), ("name", name)]⟩
  | .registered old copy =>
    ⟨.trace, "copy_state.register", [("original", old.text), ("copy", copy.text)]⟩
  | .externalReference old =>
    ⟨.trace, "copy_state.external_reference", [("original", old.text)]⟩
  | .duplicated kind old copy nodes =>
    ⟨.debug, "deep_copy",
      [("kind", kind.text), ("original", old.text), ("copy", copy.text),
        ("nodes", toString nodes)]⟩
  | .internalError report => report.record

end TreeEvent
end TemplateIR
