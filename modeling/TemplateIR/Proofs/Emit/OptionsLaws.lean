import TemplateIR.Emit.OptionsText
import TemplateIR.Proofs.Json.Grammar

/-!
What is relied on about a reader of options. It is made of a reader of JSON, which follows the grammar
from left to right, and of a decoder of records, which takes members by their names and in any order,
passes over those it does not know, leaves out those that are missing, and takes the elements of an
array for the members in turn. Each law is what the documentation of the two says of one step, and no
more of it than is used.
-/
namespace TemplateIR

/-- The brackets that end an object and an array. -/
def closingBrackets : List Char :=
  ['}', ']']

/-- A spelling of what can be given for the flag: one of two words, or a string. -/
inductive FlagSpelled : FlagValue → List Char → Prop
  | word (flag : Bool) : FlagSpelled (.boolean flag) (toString flag).toList
  | text {spelling : String} {text : List Char} :
    JsonText spelling text → FlagSpelled (.text spelling) text

/-- What stands between a member and the one before it. -/
def memberLead (first : Bool) : List Char :=
  if first then [] else [',']

/-- The characters that can follow a member. -/
def memberEnds : List Char :=
  [',', '}']

/-- The characters that can follow an element. -/
def elementEnds : List Char :=
  [',', ']']

namespace OptionsReader

variable (reader : OptionsReader)

/-- Behind the options the text must be over, up to blanks. Anything else is a fault of form. -/
def EndsAtBlanks : Prop :=
  ∀ text, reader.ending text = if JsonGap text then .ok () else .error .malformed

/-- What one character does to a reading, whatever follows it. -/
inductive TakesCharacter {State : Type}
    (reading : State → List Char → Except OptionsFault (OptionsFields × List Char)) (state : State)
    (c : Char) : Prop
  | refused (fault : OptionsFault) :
    (∀ rest, reading state (c :: rest) = .error fault) → TakesCharacter reading state c
  | more (next : State) :
    (∀ rest, reading state (c :: rest) = reading next rest) → TakesCharacter reading state c
  /-- Options are an object or an array, so that they end with a bracket. -/
  | closed (fields : OptionsFields) : c ∈ closingBrackets →
    (∀ rest, reading state (c :: rest) = .ok (fields, rest)) → TakesCharacter reading state c

/-- How a text is read: from left to right, each character in the light of those before it. -/
structure ForwardReading where
  State : Type
  start : State
  /-- Reads on from a state. -/
  reading (decode : FlagValue → Except OptionsMisfit Bool) (state : State) (text : List Char) :
    Except OptionsFault (OptionsFields × List Char)
  starts : ∀ {decode text}, reader.value decode text = reading decode start text
  takes : ∀ decode state c, TakesCharacter (reading decode) state c
  /-- A text that is over too early gives no options. -/
  breaks : ∀ {decode state result}, reading decode state [] ≠ .ok result

/-- How objects are read: one member after the other, each in the light of those before it. -/
structure ObjectReading where
  /-- Reads on behind the brace, or behind the last of the members that have given `fields`. -/
  members (decode : FlagValue → Except OptionsMisfit Bool) (first : Bool) (fields : OptionsFields)
    (text : List Char) : Except OptionsFault (OptionsFields × List Char)
  /-- Blanks may stand in front of the brace. -/
  opened : ∀ {decode front rest}, JsonGap front →
    reader.value decode (front ++ '{' :: rest) = members decode true {} rest
  /-- No member has to come. -/
  closed : ∀ {decode first fields gap rest}, JsonGap gap →
    members decode first fields (gap ++ '}' :: rest) = .ok (fields, rest)
  /-- The first suffix is taken if it is a string, whatever its spelling. -/
  suffix : ∀ {decode first fields suffix name value text c rest},
    fields.reservedSuffix = none → JsonText "reservedSuffix" name → JsonText suffix value →
      MemberForm name value text → c ∈ memberEnds →
        members decode first fields (memberLead first ++ (text ++ c :: rest)) =
          members decode false { fields with reservedSuffix := some suffix } (c :: rest)
  /-- The first flag is taken over as `decode` says, and refused as it says. -/
  flag : ∀ {decode first fields given name value text c rest},
    fields.renameGlobals = none → JsonText "renameGlobals" name → FlagSpelled given value →
      MemberForm name value text → c ∈ memberEnds →
        members decode first fields (memberLead first ++ (text ++ c :: rest)) =
          match decode given with
          | .error misfit => .error (.misfit misfit)
          | .ok flag => members decode false { fields with renameGlobals := some flag } (c :: rest)
  /-- Any other member is passed over, whatever its value. -/
  other : ∀ {decode first fields key name value text c rest},
    key ≠ "reservedSuffix" → key ≠ "renameGlobals" → JsonText key name → JsonForm .value value →
      MemberForm name value text → c ∈ memberEnds →
        members decode first fields (memberLead first ++ (text ++ c :: rest)) =
          members decode false fields (c :: rest)

/-- How arrays are read: one element after the other, in the order of the members. -/
structure ArrayReading where
  /-- Reads on behind the bracket, or behind the element for the member `last`. -/
  elements (decode : FlagValue → Except OptionsMisfit Bool) (last : Option OptionsMember)
    (fields : OptionsFields) (text : List Char) : Except OptionsFault (OptionsFields × List Char)
  /-- Blanks may stand in front of the bracket. -/
  opened : ∀ {decode front rest}, JsonGap front →
    reader.value decode (front ++ '[' :: rest) = elements decode none {} rest
  /-- No element has to come. -/
  closed : ∀ {decode last fields gap rest}, JsonGap gap →
    elements decode last fields (gap ++ ']' :: rest) = .ok (fields, rest)
  /-- The first element is the suffix if it is a string. -/
  suffix : ∀ {decode fields suffix front value back c rest},
    JsonGap front → JsonText suffix value → JsonGap back → c ∈ elementEnds →
      elements decode none fields (front ++ (value ++ (back ++ c :: rest))) =
        elements decode (some .reservedSuffix) { fields with reservedSuffix := some suffix } (c :: rest)
  /-- The element behind the suffix is taken over, or refused, as `decode` says. -/
  flag : ∀ {decode fields given front value back c rest},
    JsonGap front → FlagSpelled given value → JsonGap back → c ∈ elementEnds →
      elements decode (some .reservedSuffix) fields (',' :: (front ++ (value ++ (back ++ c :: rest)))) =
        match decode given with
        | .error misfit => .error (.misfit misfit)
        | .ok flag =>
          elements decode (some .renameGlobals) { fields with renameGlobals := some flag } (c :: rest)

variable {reader} {text rest : List Char} {fields : OptionsFields}

theorem fields_of_value (ends : reader.EndsAtBlanks)
    (read : reader.value FlagValue.decode text = .ok (fields, rest)) :
    reader.fields text = if JsonGap rest then .ok fields else .error (.form .malformed) := by
  rw [OptionsReader.fields, read]
  simp only [ends rest]
  by_cases blanks : JsonGap rest
  · simp only [if_pos blanks]
  · simp only [if_neg blanks]

theorem value_of_fields (ends : reader.EndsAtBlanks) (read : reader.fields text = .ok fields) :
    ∃ rest, reader.value FlagValue.decode text = .ok (fields, rest) ∧ JsonGap rest := by
  rw [OptionsReader.fields] at read
  split at read
  · cases read
  · next found rest value =>
    rw [ends rest] at read
    by_cases blanks : JsonGap rest
    · simp only [if_pos blanks, Except.ok.injEq] at read
      exact ⟨rest, read ▸ value, blanks⟩
    · simp [if_neg blanks] at read

theorem fields_of_refused {fault : OptionsFault}
    (refused : reader.value FlagValue.decode text = .error fault) :
    reader.fields text = .error fault := by
  rw [OptionsReader.fields, refused]

theorem ofText_of_fields {string : String} (read : reader.fields string.toList = .ok fields) :
    reader.ofText string =
      if fields.reservedSuffix = some "" then .error .emptySuffix else .ok fields.options := by
  rw [ofText, read]
  obtain ⟨suffix, flag⟩ := fields
  cases suffix with
  | none => rfl
  | some suffix => simp [OptionsFields.options]

end OptionsReader
end TemplateIR
