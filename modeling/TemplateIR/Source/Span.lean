/-!
Spans: half-open byte ranges inside one source file. Nodes that no source text stands behind carry
the synthetic span, so every node has one.
-/
namespace TemplateIR

/-- Numbers the source files of one compilation. -/
structure FileId where
  index : UInt32
deriving DecidableEq, Repr

namespace FileId

/-- Stands for generated code, which lies in no file. -/
def synthetic : FileId := ⟨0xFFFFFFFF⟩

def isSynthetic (file : FileId) : Bool :=
  file = synthetic

end FileId

/-- The bytes from `start` up to, but not including, `stop`. -/
structure Span where
  file : FileId
  start : UInt32
  stop : UInt32
deriving DecidableEq, Repr

/-- The bounds of a refused span: it would start behind its end. -/
structure InvertedSpan where
  start : UInt32
  stop : UInt32
deriving DecidableEq, Repr

def InvertedSpan.message (bounds : InvertedSpan) : String :=
  "span start " ++ toString bounds.start.toNat ++ " is past end " ++ toString bounds.stop.toNat

namespace Span

/-- A span whose bounds have to be in order. -/
def checked (file : FileId) (start stop : UInt32) : Except InvertedSpan Span :=
  if start ≤ stop then .ok ⟨file, start, stop⟩ else .error ⟨start, stop⟩

def synthetic : Span := ⟨.synthetic, 0, 0⟩

instance : Inhabited Span := ⟨synthetic⟩

def isSynthetic (span : Span) : Bool :=
  span.file.isSynthetic

/-- The length in bytes; zero when the bounds are out of order. -/
def length (span : Span) : UInt32 :=
  if span.start ≤ span.stop then span.stop - span.start else 0

def isEmpty (span : Span) : Bool :=
  span.start = span.stop

def contains (span : Span) (offset : UInt32) : Bool :=
  span.start ≤ offset && offset < span.stop

/-- The smallest span around both. A span of another file has no place in the result, so then it is
`span` itself. -/
def merge (span other : Span) : Span :=
  if span.file = other.file then
    ⟨span.file, min span.start other.start, max span.stop other.stop⟩
  else span

theorem checked_eq_ok_iff {file : FileId} {start stop : UInt32} {span : Span} :
    checked file start stop = .ok span ↔ start ≤ stop ∧ span = ⟨file, start, stop⟩ := by
  unfold checked
  split
  · next ordered => simp [ordered, eq_comm]
  · next inverted => simp [inverted]

end Span
end TemplateIR
