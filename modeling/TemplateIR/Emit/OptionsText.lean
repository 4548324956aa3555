import TemplateIR.Emit.Naming
import TemplateIR.Json.Value
import TemplateIR.Text.Blank
import TemplateIR.Text.LowerCase

/-!
Naming options written as JSON: an object with the members `reservedSuffix` and `renameGlobals`,
or an array that holds the two in this order. Either may be missing, and members of other names
are passed over. How JSON is read is left to a reader; what the flag may be, what stands for a
missing member, and that the suffix must not be empty, is decided here.
-/
namespace TemplateIR

inductive OptionsMember where
  | reservedSuffix
  | renameGlobals
deriving DecidableEq, Repr

namespace OptionsMember

def name : OptionsMember → String
  | .reservedSuffix => "reservedSuffix"
  | .renameGlobals => "renameGlobals"

def ofName? (name : String) : Option OptionsMember :=
  [reservedSuffix, renameGlobals].find? (·.name = name)

end OptionsMember

/-- Why a text that is well formed so far does not describe options. -/
inductive OptionsMisfit where
  | notOptions (found : JsonValue)
  | suffixNotText (found : JsonValue)
  | duplicateMember (member : OptionsMember)
  /-- The flag is neither a boolean nor a string. -/
  | flagNeither
  /-- The flag is a string that spells no boolean. -/
  | flagSpelling (spelling : String)
deriving DecidableEq, Repr

def OptionsMisfit.message : OptionsMisfit → String
  | .notOptions found => "invalid type: " ++ found.description ++ ", expected struct JsNameOptions"
  | .suffixNotText found => "invalid type: " ++ found.description ++ ", expected a string"
  | .duplicateMember member => "duplicate field \x60" ++ member.name ++ "\x60"
  | .flagNeither => "data did not match any variant of untagged enum BoolOrString"
  | .flagSpelling spelling =>
    "invalid boolean value: '" ++ spelling ++ "'. Expected true, false, 'true', or 'false'"

inductive OptionsFault where
  | form (fault : FormFault)
  | misfit (cause : OptionsMisfit)
deriving DecidableEq, Repr

/-- The boolean that a string spells, whatever blanks stand around it and whatever its case. -/
def flagOfText? (text : String) : Option Bool :=
  let spelling := String.ofList (lowerCase (trim text.toList))
  if ["true", "1", "yes", "on"].contains spelling then some true
  else if ["false", "0", "no", "off"].contains spelling then some false
  else none

/-- What a text gives for the flag, if it is of a type that can be taken for one. -/
inductive FlagValue where
  | boolean (flag : Bool)
  | text (spelling : String)
deriving DecidableEq, Repr

def FlagValue.decode : FlagValue → Except OptionsMisfit Bool
  | .boolean flag => .ok flag
  | .text spelling =>
    match flagOfText? spelling with
    | some flag => .ok flag
    | none => .error (.flagSpelling spelling)

/-- The members that a text has. -/
structure OptionsFields where
  reservedSuffix : Option String := none
  renameGlobals : Option Bool := none
deriving DecidableEq, Repr

/-- The options, with a default for each member that is missing. -/
def OptionsFields.options (fields : OptionsFields) : NamingOptions :=
  let default : NamingOptions := {}
  { reservedSuffix := fields.reservedSuffix.getD default.reservedSuffix
    renameGlobals := fields.renameGlobals.getD default.renameGlobals }

/-- A reader of options in JSON. It is told how to take what a text gives for the flag. -/
structure OptionsReader where
  /-- Reads the options in front of a text and leaves what stands behind them. -/
  value (decode : FlagValue → Except OptionsMisfit Bool) (text : List Char) :
    Except OptionsFault (OptionsFields × List Char)
  /-- Checks what stands behind them. -/
  ending (text : List Char) : Except FormFault Unit

/-- Why a text gives no options. -/
inductive OptionsError where
  | rejected (fault : OptionsFault)
  /-- Without a suffix, renaming would change nothing. -/
  | emptySuffix
deriving DecidableEq, Repr

def OptionsError.message : OptionsError → String
  | .rejected _ => "failed to parse JS naming options"
  | .emptySuffix => "reservedSuffix must not be empty"

namespace OptionsReader

/-- Reads a text to its end. -/
def fields (reader : OptionsReader) (text : List Char) : Except OptionsFault OptionsFields :=
  match reader.value FlagValue.decode text with
  | .error fault => .error fault
  | .ok (fields, rest) =>
    match reader.ending rest with
    | .error fault => .error (.form fault)
    | .ok () => .ok fields

/-- Reads options. That the suffix is not empty is checked last, when the whole text has been
read. -/
def ofText (reader : OptionsReader) (text : String) : Except OptionsError NamingOptions :=
  match reader.fields text.toList with
  | .error fault => .error (.rejected fault)
  | .ok fields =>
    if fields.options.reservedSuffix.isEmpty then .error .emptySuffix else .ok fields.options

theorem fields_of_ofText {reader : OptionsReader} {text : String} {options : NamingOptions}
    (accepted : reader.ofText text = .ok options) :
    ∃ fields, reader.fields text.toList = .ok fields ∧ fields.options = options ∧
      options.reservedSuffix ≠ "" := by
  unfold ofText at accepted
  split at accepted
  · cases accepted
  · next fields read =>
    split at accepted
    · cases accepted
    · next filled =>
      cases accepted
      exact ⟨fields, read, rfl, by simpa using filled⟩

end OptionsReader

end TemplateIR
