import TemplateIR.Diagnostic.Basic
import TemplateIR.Log.Record

/-!
Internal errors: a tree that an earlier pass has left in a state that must not occur. Nobody who
writes templates can mend one, so it ends the work at hand.
-/
namespace TemplateIR

/-- What is wrong, and at which place the compiler has noticed it. -/
structure InternalError where
  span : Span
  detail : String
deriving DecidableEq, Repr

namespace InternalError

def diagnostic (report : InternalError) : Diagnostic :=
  .registered report.span internalErrorCode [report.detail]

/-- The text of the diagnostic and the place. -/
def message (report : InternalError) : String :=
  let span := report.span
  report.diagnostic.text ++ " (file " ++ toString span.file.index.toNat ++ ", " ++
    toString span.start.toNat ++ ".." ++ toString span.stop.toNat ++ ")"

def record (report : InternalError) : LogRecord :=
  let span := report.span
  { level := .error
    message := report.diagnostic.text
    fields := [
      ("code", toString report.diagnostic.code.toNat),
      ("file", toString span.file.index.toNat),
      ("start", toString span.start.toNat),
      ("end", toString span.stop.toNat)] }

end InternalError
end TemplateIR
