import TemplateIR.Emit.Identifier
import TemplateIR.Log.Record
import TemplateIR.Text.Revision

/-!
The names under which template identifiers are emitted. A name that would not parse gets a suffix.
A name that hides a global binding is kept, with a warning, unless the options ask for a suffix
there as well.
-/
namespace TemplateIR

structure NamingOptions where
  /-- Appended to every name that cannot stay. -/
  reservedSuffix : String := "$"
  /-- Whether names of global bindings cannot stay either. -/
  renameGlobals : Bool := false
deriving DecidableEq, Repr

/-- What choosing a name lets a listener know. -/
inductive NamingEvent where
  | renamed (name : String) (reason : IdentifierClass)
  | renamedGlobal (name : String)
  | shadowsGlobal (name : String)
deriving DecidableEq, Repr

def NamingEvent.record : NamingEvent → LogRecord
  | .renamed name reason =>
    ⟨.debug, "renaming identifier", [("name", name), ("class", reason.name)]⟩
  | .renamedGlobal name =>
    ⟨.debug, "renaming identifier that shadows a global", [("name", name)]⟩
  | .shadowsGlobal name =>
    ⟨.warn, "identifier shadows a JavaScript global", [("name", name)]⟩

namespace NamingOptions

def renames (options : NamingOptions) (reason : IdentifierClass) : Bool :=
  reason.isForbidden || (options.renameGlobals && reason = .globalName)

def emittedName (options : NamingOptions) (name : String) : Revision :=
  if options.renames (IdentifierClass.ofName name) then .changed (name ++ options.reservedSuffix)
  else .kept name

/-- The event, if any, of choosing a name for `name`. -/
def event? (options : NamingOptions) (name : String) : Option NamingEvent :=
  match IdentifierClass.ofName name with
  | .plain => none
  | .valueWord => some (.renamed name .valueWord)
  | .grammarWord => some (.renamed name .grammarWord)
  | .globalName => some (if options.renameGlobals then .renamedGlobal name else .shadowsGlobal name)

end NamingOptions
end TemplateIR
