import Mathlib.Data.List.Basic
import TemplateIR.Text.UnicodeEscape

/-!
Reading a JavaScript string literal as strict code does: one character after the other, from behind
the opening quote, with the code units that the literal denotes. What an escape means can depend on
what comes behind it, so the reader remembers where it stands.
-/
namespace TemplateIR

/-- The UTF-16 code units of a code point, which may be a surrogate. -/
def codeUnits (code : Nat) : List Nat :=
  if code < 0x10000 then [code]
  else [0xD800 + (code - 0x10000) / 0x400, 0xDC00 + (code - 0x10000) % 0x400]

/-- The escapes of one letter, and the code unit that each denotes. -/
def singleEscapes : List (Char × Nat) :=
  [('\'', 0x27), ('\"', 0x22), ('\\', 0x5C), ('b', 0x08), ('f', 0x0C), ('n', 0x0A), ('r', 0x0D),
    ('t', 0x09), ('v', 0x0B)]

inductive LiteralState where
  /-- Behind a whole character or escape. -/
  | between
  /-- Behind a backslash. -/
  | escaped
  /-- Behind the escape of NUL, which a decimal digit would turn into an octal escape. -/
  | behindNul
  /-- Behind an escaped carriage return; a line feed would belong to the same line end. -/
  | behindReturn
  /-- Behind the letter of a Unicode escape. -/
  | behindU
  /-- Before the last digit of an escape of fixed length, or so many digits before it. -/
  | digits (before value : Nat)
  /-- Behind an opening brace and the digits that denote this code point, if there are any. -/
  | braced (code : Option Nat)
deriving DecidableEq, Repr

namespace LiteralState

def complete : LiteralState → Bool
  | .between | .behindNul | .behindReturn => true
  | _ => false

/-- A character that stands for itself. The two separators of lines and paragraphs may. -/
def plain (quote c : Char) : Option (List Nat × LiteralState) :=
  if c = '\\' then some ([], .escaped)
  else if c = quote || c = '\n' || c = '\r' then none
  else some (utf16Units c, .between)

/-- A character behind a backslash. An escaped line end denotes nothing, strict code has no escapes
that begin with another digit than zero, and any other character denotes itself. -/
def escape (c : Char) : Option (List Nat × LiteralState) :=
  match singleEscapes.lookup c with
  | some unit => some ([unit], .between)
  | none =>
    if c = '\r' then some ([], .behindReturn)
    else if c = '\n' || c.toNat = 0x2028 || c.toNat = 0x2029 then some ([], .between)
    else if c = '0' then some ([0], .behindNul)
    else if c.isDigit then none
    else if c = 'x' then some ([], .digits 1 0)
    else if c = 'u' then some ([], .behindU)
    else some (utf16Units c, .between)

/-- A digit of an escape of fixed length. -/
def digit (before value : Nat) (c : Char) : Option (List Nat × LiteralState) := do
  let last ← hexValue? c
  let value := 16 * value + last
  return if before = 0 then ([value], .between) else ([], .digits (before - 1) value)

/-- A digit or the closing brace of an escape of any length. -/
def brace (code : Option Nat) (c : Char) : Option (List Nat × LiteralState) :=
  if c = '}' then code.map fun code => (codeUnits code, .between)
  else do
    let last ← hexValue? c
    let code := 16 * code.getD 0 + last
    if code < 0x110000 then some ([], .braced (some code)) else none

/-- Reads one character: the code units that are known now, and where the reader stands then. -/
def step (quote : Char) (state : LiteralState) (c : Char) : Option (List Nat × LiteralState) :=
  match state with
  | .between => plain quote c
  | .escaped => escape c
  | .behindNul => if c.isDigit then none else plain quote c
  | .behindReturn => if c = '\n' then some ([], .between) else plain quote c
  | .behindU => if c = '{' then some ([], .braced none) else digit 3 0 c
  | .digits before value => digit before value c
  | .braced code => brace code c

def read (quote : Char) : LiteralState → List Char → Option (List Nat × LiteralState)
  | state, [] => some ([], state)
  | state, c :: rest => do
    let (units, behind) ← state.step quote c
    let (others, last) ← read quote behind rest
    return (units ++ others, last)

/-- What the rest of a literal denotes, without its closing quote. -/
def value? (quote : Char) (state : LiteralState) (rest : List Char) : Option (List Nat) := do
  let (units, last) ← read quote state rest
  if last.complete then some units else none

end LiteralState

/-- The code units that a literal denotes, or nothing if the text is no literal. -/
def literalValue? (text : List Char) : Option (List Nat) :=
  match text with
  | [] => none
  | quote :: rest =>
    if (quote = '\'' ∨ quote = '\"') ∧ rest.getLast? = some quote then
      LiteralState.between.value? quote rest.dropLast
    else none

namespace LiteralState

variable {quote c : Char} {state behind last : LiteralState} {units others : List Nat}
  {front rest : List Char}

theorem read_cons (stepped : state.step quote c = some (units, behind))
    (continued : read quote behind rest = some (others, last)) :
    read quote state (c :: rest) = some (units ++ others, last) := by
  simp only [read, stepped, continued, Option.bind_eq_bind, Option.bind_some, Option.pure_def]

theorem read_singleton (stepped : state.step quote c = some (units, behind)) :
    read quote state [c] = some (units, behind) := by
  have alone : read quote behind [] = some ([], behind) := rfl
  rw [read_cons stepped alone, List.append_nil]

theorem read_cons_eq_some_iff :
    read quote state (c :: rest) = some (units, last) ↔
      ∃ early behind late, state.step quote c = some (early, behind) ∧
        read quote behind rest = some (late, last) ∧ early ++ late = units := by
  simp only [read, Option.bind_eq_bind, Option.bind_eq_some_iff, Option.pure_def, Option.some.injEq,
    Prod.mk.injEq, Prod.exists]
  refine ⟨?_, ?_⟩
  · intro chained
    obtain ⟨early, behind, stepped, late, _, continued, rfl, rfl⟩ := chained
    exact ⟨early, behind, late, stepped, continued, rfl⟩
  · intro chained
    obtain ⟨early, behind, late, stepped, continued, rfl⟩ := chained
    exact ⟨early, behind, stepped, late, _, continued, rfl, rfl⟩

theorem read_append (first : read quote state front = some (units, behind)) :
    read quote state (front ++ rest) =
      (read quote behind rest).map fun others => (units ++ others.1, others.2) := by
  induction front generalizing state units with
  | nil =>
      cases first
      simp
  | cons c front ih =>
      obtain ⟨early, middle, late, stepped, continued, rfl⟩ := read_cons_eq_some_iff.mp first
      simp only [List.cons_append, read, stepped, ih continued, Option.bind_eq_bind,
        Option.bind_some, Option.pure_def, List.append_assoc]
      cases read quote behind rest <;> rfl

theorem value?_append (first : read quote state front = some (units, behind)) :
    value? quote state (front ++ rest) = (value? quote behind rest).map (units ++ ·) := by
  simp only [value?, read_append first, Option.bind_eq_bind]
  cases read quote behind rest with
  | none => rfl
  | some others =>
      obtain ⟨later, final⟩ := others
      simp only [Option.map_some, Option.bind_some]
      cases final.complete <;> rfl

theorem value?_of_refused (refused : state.step quote c = none) :
    value? quote state (c :: rest) = none := by
  simp only [value?, read, refused, Option.bind_eq_bind, Option.bind_none]

end LiteralState

theorem hexValue?_hexDigit {value : Nat} (small : value < 16) :
    hexValue? (hexDigit value) = some value := by
  have each : ∀ value < 16, hexValue? (hexDigit value) = some value := by decide
  exact each value small

theorem hexDigit_ne_brace {value : Nat} (small : value < 16) : hexDigit value ≠ '{' := by
  have each : ∀ value < 16, hexDigit value ≠ '{' := by decide
  exact each value small

theorem utf16Units_bounds (c : Char) : ∀ unit ∈ utf16Units c, unit < 0x10000 := by
  have scalar := toNat_scalar c
  intro unit member
  change unit ∈ codeUnits c.toNat at member
  rw [codeUnits] at member
  split at member
  · rename_i narrow
    obtain rfl := List.mem_singleton.mp member
    exact narrow
  · simp only [List.mem_cons, List.not_mem_nil, or_false] at member
    omega

namespace LiteralState

theorem read_unitEscape (quote : Char) {unit : Nat} (bound : unit < 0x10000) :
    read quote .between (unitEscape unit) = some ([unit], .between) := by
  have backslash : step quote .between '\\' = some ([], .escaped) := rfl
  have letter : step quote .escaped 'u' = some ([], .behindU) := rfl
  have first : step quote .behindU (hexDigit (unit / 0x1000 % 16)) =
      some ([], .digits 2 (unit / 0x1000 % 16)) := by
    have small : unit / 0x1000 % 16 < 16 := Nat.mod_lt _ (by decide)
    rw [step, if_neg (hexDigit_ne_brace small), digit, hexValue?_hexDigit small]
    simp
  have digits (before value digitValue : Nat) (small : digitValue < 16) :
      step quote (.digits before value) (hexDigit digitValue) =
        some (if before = 0 then ([16 * value + digitValue], .between)
          else ([], .digits (before - 1) (16 * value + digitValue))) := by
    rw [step, digit, hexValue?_hexDigit small]
    rfl
  have second := digits 2 (unit / 0x1000 % 16) (unit / 0x100 % 16) (Nat.mod_lt _ (by decide))
  have third := digits 1 (16 * (unit / 0x1000 % 16) + unit / 0x100 % 16) (unit / 0x10 % 16)
    (Nat.mod_lt _ (by decide))
  have fourth := digits 0 (16 * (16 * (unit / 0x1000 % 16) + unit / 0x100 % 16) + unit / 0x10 % 16)
    (unit % 16) (Nat.mod_lt _ (by decide))
  have whole : 16 * (16 * (16 * (unit / 0x1000 % 16) + unit / 0x100 % 16) + unit / 0x10 % 16) +
      unit % 16 = unit := by
    omega
  rw [whole] at fourth
  exact read_cons backslash (read_cons letter (read_cons first (read_cons second
    (read_cons third (read_singleton fourth)))))

theorem read_units (quote : Char) {units : List Nat} (bounds : ∀ unit ∈ units, unit < 0x10000) :
    read quote .between (units.flatMap unitEscape) = some (units, .between) := by
  induction units with
  | nil => rfl
  | cons unit rest ih =>
      rw [List.forall_mem_cons] at bounds
      rw [List.flatMap_cons, read_append (read_unitEscape quote bounds.1), ih bounds.2]
      rfl

theorem read_unicodeEscape (quote c : Char) :
    read quote .between (unicodeEscape c) = some (utf16Units c, .between) :=
  read_units quote (utf16Units_bounds c)

end LiteralState
end TemplateIR
