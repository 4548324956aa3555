import TemplateIR.Search

/-!
Positions in a text: line and character, both counted from zero, where characters are bytes from
the start of the line. A line map holds the byte offset of every line start and turns offsets into
positions.
-/
namespace TemplateIR

structure Position where
  line : UInt32
  character : UInt32
deriving DecidableEq, Repr

/-- Earlier lines come first, and within a line the smaller character. -/
def Position.order (left right : Position) : Ordering :=
  (compare left.line right.line).then (compare left.character right.character)

def utf8Bytes (text : String) : List UInt8 :=
  text.toList.flatMap String.utf8EncodeChar

/-- The offsets at which a line starts behind a line break, when `offset` bytes come before
`bytes`. A carriage return, a line feed, and the two in this order each break the line once. -/
def breaksFrom (offset : Nat) : List UInt8 → List Nat
  | [] => []
  | 13 :: 10 :: rest => (offset + 2) :: breaksFrom (offset + 2) rest
  | byte :: rest =>
    if byte = 13 || byte = 10 then (offset + 1) :: breaksFrom (offset + 1) rest
    else breaksFrom (offset + 1) rest

/-- The byte offsets of the line starts, in ascending order. -/
structure LineIndex where
  starts : Array UInt32
deriving DecidableEq, Repr

/-- A position was asked of a map that has no lines. -/
inductive LineIndexFault where
  | noLines
deriving DecidableEq, Repr

def LineIndexFault.message : LineIndexFault → String
  | .noLines => "attempt to subtract with overflow"

namespace LineIndex

/-- The map of no text at all. Even the empty text has one line, so this is the map of none. -/
def empty : LineIndex := ⟨#[]⟩

def ofBytes (bytes : List UInt8) : LineIndex :=
  ⟨((0 :: breaksFrom 0 bytes).map Nat.toUInt32).toArray⟩

def ofText (text : String) : LineIndex :=
  ofBytes (utf8Bytes text)

def lineCount (lines : LineIndex) : Nat :=
  lines.starts.size

/-- The line that holds `offset`: the last one that starts no later. Offsets past the end of the
text belong to its last line. -/
def lineAt? (lines : LineIndex) (offset : UInt32) : Option Nat :=
  match search (compare · offset) lines.starts with
  | .found line => some line
  | .missing 0 => none
  | .missing (line + 1) => some line

def position (lines : LineIndex) (offset : UInt32) : Except LineIndexFault Position :=
  match lines.lineAt? offset with
  | some line => .ok ⟨line.toUInt32, offset - lines.starts[line]?.getD 0⟩
  | none => .error .noLines

end LineIndex
end TemplateIR
