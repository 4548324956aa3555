import TemplateIR.Source.Span

/-!
How a caller says which span it means.
-/
namespace TemplateIR

inductive SpanRequest where
  /-- The span of generated code. -/
  | synthetic
  /-- A span whose bounds have to be in order. -/
  | checked (file start stop : UInt32)
  /-- A span whose bounds are taken as they are. -/
  | raw (file start stop : UInt32)
deriving DecidableEq, Repr

def SpanRequest.resolve : SpanRequest → Except InvertedSpan Span
  | .synthetic => .ok Span.synthetic
  | .checked file start stop => Span.checked ⟨file⟩ start stop
  | .raw file start stop => .ok ⟨⟨file⟩, start, stop⟩

end TemplateIR
