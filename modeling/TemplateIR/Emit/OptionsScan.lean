import TemplateIR.Emit.OptionsText
import TemplateIR.Json.ValueScan

/-!
A reader of naming options. The text is read from left to right, one character after the other, up to
the bracket that closes the options, and the first fault ends the reading.
-/
namespace TemplateIR

inductive OptionsForm where
  | object
  | array
deriving DecidableEq, Repr

inductive OptionsPhase where
  | opening
  /-- Within a scalar that stands in their place. -/
  | misplaced (scan : ValueScan)
  /-- Behind the brace that opens the object. -/
  | firstName
  | name
  | nameText (scan : StringScan)
  /-- Behind a name; `none` is a member to pass over. -/
  | colon (member : Option OptionsMember)
  /-- Behind the bracket that opens the array. -/
  | firstElement
  | value (form : OptionsForm) (member : Option OptionsMember) (scan : ValueScan)
  | afterMember
  | afterElement (member : Option OptionsMember)
deriving DecidableEq, Repr

/-- What has been read of a text: the members so far, and where the reading stands. -/
structure OptionsScan where
  fields : OptionsFields := {}
  phase : OptionsPhase := .opening
deriving DecidableEq, Repr

/-- Reading goes on, or the last character was the bracket that closes the options. -/
inductive OptionsStep where
  | more (scan : OptionsScan)
  | closed (fields : OptionsFields)
deriving DecidableEq, Repr

/-- How closely the value of a member is read. -/
def memberCare : Option OptionsMember → Care
  | some .reservedSuffix => .scalar
  | some .renameGlobals => .whole
  | none => .skipped

def JsonValue.flag? : JsonValue → Option FlagValue
  | .boolean flag => some (.boolean flag)
  | .text spelling => some (.text spelling)
  | _ => none

namespace OptionsFields

def has (fields : OptionsFields) : OptionsMember → Bool
  | .reservedSuffix => fields.reservedSuffix.isSome
  | .renameGlobals => fields.renameGlobals.isSome

def accept (fields : OptionsFields) (decode : FlagValue → Except OptionsMisfit Bool)
    (member : Option OptionsMember) (value : JsonValue) : Except OptionsFault OptionsFields :=
  match member with
  | none => .ok fields
  | some .reservedSuffix =>
    match value with
    | .text suffix => .ok { fields with reservedSuffix := some suffix }
    | other => .error (.misfit (.suffixNotText other))
  | some .renameGlobals =>
    match value.flag? with
    | none => .error (.misfit .flagNeither)
    | some given =>
      match decode given with
      | .ok flag => .ok { fields with renameGlobals := some flag }
      | .error misfit => .error (.misfit misfit)

end OptionsFields

namespace OptionsScan

variable (decode : FlagValue → Except OptionsMisfit Bool)

def goTo (scan : OptionsScan) (phase : OptionsPhase) : Except OptionsFault OptionsStep :=
  .ok (.more { scan with phase })

def close (scan : OptionsScan) : Except OptionsFault OptionsStep :=
  .ok (.closed scan.fields)

def malformed : Except OptionsFault OptionsStep :=
  .error (.form .malformed)

/-- Goes on behind the name of a member. A member that was there before is noticed now. -/
def afterName (scan : OptionsScan) (name : String) : Except OptionsFault OptionsStep :=
  match OptionsMember.ofName? name with
  | none => scan.goTo (.colon none)
  | some member =>
    if scan.fields.has member then .error (.misfit (.duplicateMember member))
    else scan.goTo (.colon (some member))

/-- Reads a character behind a member of the object. -/
def afterMember (scan : OptionsScan) (c : Char) : Except OptionsFault OptionsStep :=
  if isJsonBlank c then scan.goTo .afterMember
  else if c = ',' then scan.goTo .name
  else if c = '}' then scan.close
  else malformed

/-- Reads a character behind an element of the array. Only the suffix may have another one behind
it. -/
def afterElement (scan : OptionsScan) (member : Option OptionsMember) (c : Char) :
    Except OptionsFault OptionsStep :=
  if isJsonBlank c then scan.goTo (.afterElement member)
  else if c = ']' then scan.close
  else if c = ',' && member = some .reservedSuffix then
    scan.goTo (.value .array (some .renameGlobals) { care := .whole })
  else malformed

def behind (form : OptionsForm) (member : Option OptionsMember) : OptionsPhase :=
  match form with
  | .object => .afterMember
  | .array => .afterElement member

/-- Reads a character at such a place. -/
def afterValue (scan : OptionsScan) (form : OptionsForm) (member : Option OptionsMember)
    (c : Char) : Except OptionsFault OptionsStep :=
  match form with
  | .object => scan.afterMember c
  | .array => scan.afterElement member c

def stepValue (scan : OptionsScan) (form : OptionsForm) (member : Option OptionsMember)
    (value : ValueScan) (c : Char) : Except OptionsFault OptionsStep :=
  match value.step c with
  | .error fault => .error (.form fault)
  | .ok (.more value) => scan.goTo (.value form member value)
  | .ok (.ended value) =>
    match scan.fields.accept decode member value with
    | .error fault => .error fault
    | .ok fields => .ok (.more { fields, phase := behind form member })
  | .ok (.endedBefore value) =>
    match scan.fields.accept decode member value with
    | .error fault => .error fault
    | .ok fields => afterValue { fields, phase := behind form member } form member c

/-- Reads a character of a scalar that stands in place of the options. -/
def stepMisplaced (scan : OptionsScan) (value : ValueScan) (c : Char) :
    Except OptionsFault OptionsStep :=
  match value.step c with
  | .error fault => .error (.form fault)
  | .ok (.more value) => scan.goTo (.misplaced value)
  | .ok (.ended value) | .ok (.endedBefore value) => .error (.misfit (.notOptions value))

def step (scan : OptionsScan) (c : Char) : Except OptionsFault OptionsStep :=
  match scan.phase with
  | .opening =>
    if isJsonBlank c then scan.goTo .opening
    else if c = '{' then scan.goTo .firstName
    else if c = '[' then scan.goTo .firstElement
    else scan.stepMisplaced { care := .scalar } c
  | .misplaced value => scan.stepMisplaced value c
  | .firstName =>
    if isJsonBlank c then scan.goTo .firstName
    else if c = '}' then scan.close
    else if c = '\"' then scan.goTo (.nameText {})
    else malformed
  | .name =>
    if isJsonBlank c then scan.goTo .name
    else if c = '\"' then scan.goTo (.nameText {})
    else malformed
  | .nameText name =>
    match name.step true c with
    | .error fault => .error (.form fault)
    | .ok (.more name) => scan.goTo (.nameText name)
    | .ok (.closed name) => scan.afterName name
  | .colon member =>
    if isJsonBlank c then scan.goTo (.colon member)
    else if c = ':' then scan.goTo (.value .object member { care := memberCare member })
    else malformed
  | .firstElement =>
    if isJsonBlank c then scan.goTo .firstElement
    else if c = ']' then scan.close
    else stepValue decode scan .array (some .reservedSuffix) { care := .scalar } c
  | .value form member value => stepValue decode scan form member value c
  | .afterMember => scan.afterMember c
  | .afterElement member => scan.afterElement member c

/-- What is wrong with a text that ends before the options are closed. -/
def breakOff (scan : OptionsScan) : OptionsFault :=
  match scan.phase with
  | .misplaced value =>
    match value.finish with
    | .error fault => .form fault
    | .ok value => .misfit (.notOptions value)
  | .value _ member value =>
    match value.finish with
    | .error fault => .form fault
    | .ok value =>
      match scan.fields.accept decode member value with
      | .error fault => fault
      | .ok _ => .form .unfinished
  | _ => .form .unfinished

/-- Reads to the bracket that closes the options: their members, and what comes behind it. -/
def run (scan : OptionsScan) : List Char → Except OptionsFault (OptionsFields × List Char)
  | [] => .error (breakOff decode scan)
  | c :: rest =>
    match step decode scan c with
    | .error fault => .error fault
    | .ok (.more scan) => run scan rest
    | .ok (.closed fields) => .ok (fields, rest)

theorem run_cons {decode : FlagValue → Except OptionsMisfit Bool} {scan next : OptionsScan} {c : Char}
    {rest : List Char} (stepped : scan.step decode c = .ok (.more next)) :
    scan.run decode (c :: rest) = next.run decode rest := by
  rw [run, stepped]

end OptionsScan

def OptionsReader.scanning : OptionsReader where
  value decode text := OptionsScan.run decode {} text
  ending text := if text.all isJsonBlank then .ok () else .error .malformed

def NamingOptions.ofText (text : String) : Except OptionsError NamingOptions :=
  OptionsReader.scanning.ofText text

end TemplateIR
