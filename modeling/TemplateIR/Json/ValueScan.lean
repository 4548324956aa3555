import TemplateIR.Json.NumberScan
import TemplateIR.Json.StringScan

/-!
Reading a JSON value, one character after the other. How closely it is read depends on what it is
for.
-/
namespace TemplateIR

inductive Care where
  /-- It is passed over: it may nest as deep as it likes, and its strings and numbers are not
  decoded. -/
  | skipped
  /-- It has to be a scalar: reading stops at the bracket that opens anything else. -/
  | scalar
  /-- It is read as a whole, within the limit on nesting. -/
  | whole
deriving DecidableEq, Repr

def Care.decodes : Care → Bool
  | .skipped => false
  | .scalar | .whole => true

inductive ValuePhase where
  | start
  /-- Behind the bracket that opens a sequence. -/
  | firstItem
  /-- Behind the brace that opens a map. -/
  | firstName
  | name
  | nameText (scan : StringScan)
  | colon
  /-- Behind an item of the innermost container. -/
  | afterItem
  /-- Within a word; `rest` is what is still missing of it. -/
  | word (rest : List Char) (value : JsonValue)
  | text (scan : StringScan)
  | number (scan : NumberScan)
deriving DecidableEq, Repr

/-- What has been read of a value: its open containers, the innermost first, and where the reading
stands. -/
structure ValueScan where
  care : Care
  enclosing : List Container := []
  phase : ValuePhase := .start
deriving DecidableEq, Repr

/-- Reading goes on, the value ends with the character, or the value has ended before it. -/
inductive ValueStep where
  | more (scan : ValueScan)
  | ended (value : JsonValue)
  | endedBefore (value : JsonValue)
deriving DecidableEq, Repr

def isJsonBlank (c : Char) : Bool :=
  c = ' ' || c = '\t' || c = '\n' || c = '\r'

/-- How many containers may be open at once within a value that is read as a whole. -/
def nestingLimit : Nat := 126

namespace ValueScan

def goTo (scan : ValueScan) (phase : ValuePhase) : ValueStep :=
  .more { scan with phase }

/-- Goes on behind a value that is complete. -/
def complete (scan : ValueScan) (value : JsonValue) : ValueStep :=
  if scan.enclosing.isEmpty then .ended value else scan.goTo .afterItem

def enter (scan : ValueScan) (container : Container) : Except FormFault ValueStep :=
  let inner := container :: scan.enclosing
  let phase := match container with
    | .sequence => ValuePhase.firstItem
    | .map => ValuePhase.firstName
  match scan.care with
  | .skipped => .ok (.more { scan with enclosing := inner, phase })
  | .scalar => .ok (.ended container.value)
  | .whole =>
    if inner.length ≤ nestingLimit then .ok (.more { scan with enclosing := inner, phase })
    else .error .malformed

def leave (scan : ValueScan) : Except FormFault ValueStep :=
  match scan.enclosing with
  | [] => .error .malformed
  | container :: outer => .ok ({ scan with enclosing := outer }.complete container.value)

def begin (scan : ValueScan) (c : Char) : Except FormFault ValueStep :=
  if c = '[' then scan.enter .sequence
  else if c = '{' then scan.enter .map
  else if c = '\"' then .ok (scan.goTo (.text {}))
  else if c = 'n' then .ok (scan.goTo (.word ['u', 'l', 'l'] .null))
  else if c = 't' then .ok (scan.goTo (.word ['r', 'u', 'e'] (.boolean true)))
  else if c = 'f' then .ok (scan.goTo (.word ['a', 'l', 's', 'e'] (.boolean false)))
  else match NumberScan.start? c with
    | some number => .ok (scan.goTo (.number number))
    | none => .error .malformed

def afterItem (scan : ValueScan) (c : Char) : Except FormFault ValueStep :=
  match scan.enclosing with
  | [] => .error .malformed
  | container :: _ =>
    if isJsonBlank c then .ok (scan.goTo .afterItem)
    else if c = ',' then
      .ok (scan.goTo (match container with | .sequence => .start | .map => .name))
    else if c = container.closing then scan.leave
    else .error .malformed

/-- Checks a number that has ended: one that is decoded must be finite. -/
def closeNumber (scan : ValueScan) (number : NumberScan) : Except FormFault JsonValue :=
  if !scan.care.decodes || number.numeral.inRange then .ok (.number number.numeral)
  else .error .malformed

def step (scan : ValueScan) (c : Char) : Except FormFault ValueStep :=
  match scan.phase with
  | .start => if isJsonBlank c then .ok (scan.goTo .start) else scan.begin c
  | .firstItem =>
    if isJsonBlank c then .ok (scan.goTo .firstItem)
    else if c = ']' then scan.leave
    else scan.begin c
  | .firstName =>
    if isJsonBlank c then .ok (scan.goTo .firstName)
    else if c = '}' then scan.leave
    else if c = '\"' then .ok (scan.goTo (.nameText {}))
    else .error .malformed
  | .name =>
    if isJsonBlank c then .ok (scan.goTo .name)
    else if c = '\"' then .ok (scan.goTo (.nameText {}))
    else .error .malformed
  | .nameText name =>
    match name.step scan.care.decodes c with
    | .error fault => .error fault
    | .ok (.more name) => .ok (scan.goTo (.nameText name))
    | .ok (.closed _) => .ok (scan.goTo .colon)
  | .colon =>
    if isJsonBlank c then .ok (scan.goTo .colon)
    else if c = ':' then .ok (scan.goTo .start)
    else .error .malformed
  | .afterItem => scan.afterItem c
  | .word [] _ => .error .malformed
  | .word [last] value => if c = last then .ok (scan.complete value) else .error .malformed
  | .word (next :: rest) value =>
    if c = next then .ok (scan.goTo (.word rest value)) else .error .malformed
  | .text text =>
    match text.step scan.care.decodes c with
    | .error fault => .error fault
    | .ok (.more text) => .ok (scan.goTo (.text text))
    | .ok (.closed value) => .ok (scan.complete (.text value))
  | .number number =>
    match number.step c with
    | .error fault => .error fault
    | .ok (some number) => .ok (scan.goTo (.number number))
    | .ok none =>
      match scan.closeNumber number with
      | .error fault => .error fault
      | .ok value => if scan.enclosing.isEmpty then .ok (.endedBefore value) else scan.afterItem c

/-- The value, if the text ends here. Only a number can be complete without a character to close
it. A skipped number that breaks off is malformed rather than unfinished. -/
def finish (scan : ValueScan) : Except FormFault JsonValue :=
  match scan.phase with
  | .number number =>
    if number.phase.isComplete then
      match scan.closeNumber number with
      | .error fault => .error fault
      | .ok value => if scan.enclosing.isEmpty then .ok value else .error .unfinished
    else .error (if scan.care.decodes then .unfinished else .malformed)
  | _ => .error .unfinished

end ValueScan
end TemplateIR
