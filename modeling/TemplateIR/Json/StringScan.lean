import TemplateIR.Json.Value
import TemplateIR.Text.UnicodeEscape

/-!
Reading a JSON string, one character after the other, from behind the opening quote to the closing
one. A string that is wanted is decoded, and its surrogates must come in pairs; one that is skipped
only needs escapes of the right form.
-/
namespace TemplateIR

/-- Where the reading stands. The digits of an escape are collected before they are looked at. -/
inductive StringPhase where
  | plain
  | escape
  | digits (pending : List Char)
  /-- Behind a high surrogate, where the low one must begin. -/
  | pairBackslash (high : Nat)
  | pairLetter (high : Nat)
  | pairDigits (high : Nat) (pending : List Char)
deriving DecidableEq, Repr

structure StringScan where
  text : String := ""
  phase : StringPhase := .plain
deriving DecidableEq, Repr

/-- Reading goes on, or the last character was the closing quote. -/
inductive StringStep where
  | more (scan : StringScan)
  | closed (text : String)
deriving DecidableEq, Repr

def escapedChar? : Char → Option Char
  | '\"' => some '\"'
  | '\\' => some '\\'
  | '/' => some '/'
  | 'b' => some '\x08'
  | 'f' => some '\x0C'
  | 'n' => some '\n'
  | 'r' => some '\r'
  | 't' => some '\t'
  | _ => none

/-- An escape has four bytes of digits. Fewer are not looked at yet. -/
def isShort (pending : List Char) : Bool :=
  pending.foldr (fun c size => c.utf8Size + size) 0 < 4

def codeUnit? (digits : List Char) : Option Nat :=
  digits.foldlM (fun value c => (hexValue? c).map (16 * value + ·)) 0

def isHighSurrogate (unit : Nat) : Bool :=
  0xD800 ≤ unit && unit ≤ 0xDBFF

def isLowSurrogate (unit : Nat) : Bool :=
  0xDC00 ≤ unit && unit ≤ 0xDFFF

def pairedChar (high low : Nat) : Char :=
  Char.ofNat (0x10000 + (high - 0xD800) * 0x400 + (low - 0xDC00))

namespace StringScan

def push (scan : StringScan) (c : Char) : StringStep :=
  .more { text := scan.text.push c, phase := .plain }

def goTo (scan : StringScan) (phase : StringPhase) : StringStep :=
  .more { scan with phase }

/-- Behind the digits of an escape that does not follow a high surrogate. -/
def afterUnit (scan : StringScan) (decode : Bool) (unit : Nat) : Except FormFault StringStep :=
  if !decode then .ok (scan.goTo .plain)
  else if isHighSurrogate unit then .ok (scan.goTo (.pairBackslash unit))
  else if isLowSurrogate unit then .error .malformed
  else .ok (scan.push (Char.ofNat unit))

/-- Reads one character. `decode` tells a wanted string from a skipped one. -/
def step (scan : StringScan) (decode : Bool) (c : Char) : Except FormFault StringStep :=
  match scan.phase with
  | .plain =>
    if c = '\"' then .ok (.closed scan.text)
    else if c = '\\' then .ok (scan.goTo .escape)
    else if c.toNat < 0x20 then .error .malformed
    else .ok (scan.push c)
  | .escape =>
    if c = 'u' then .ok (scan.goTo (.digits []))
    else match escapedChar? c with
      | some decoded => .ok (scan.push decoded)
      | none => .error .malformed
  | .digits pending =>
    let pending := pending ++ [c]
    if isShort pending then .ok (scan.goTo (.digits pending))
    else match codeUnit? pending with
      | some unit => scan.afterUnit decode unit
      | none => .error .malformed
  | .pairBackslash high =>
    if c = '\\' then .ok (scan.goTo (.pairLetter high)) else .error .malformed
  | .pairLetter high =>
    if c = 'u' then .ok (scan.goTo (.pairDigits high [])) else .error .malformed
  | .pairDigits high pending =>
    let pending := pending ++ [c]
    if isShort pending then .ok (scan.goTo (.pairDigits high pending))
    else match codeUnit? pending with
      | some low =>
        if isLowSurrogate low then .ok (scan.push (pairedChar high low)) else .error .malformed
      | none => .error .malformed

end StringScan
end TemplateIR
