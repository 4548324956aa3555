import TemplateIR.Proofs.Emit.OptionsScanning
import TemplateIR.Proofs.Emit.ScanClosing

/-!
Naming options are read back from every spelling: the members in any order and between any others,
names and strings with any escapes, blanks between any two tokens, an object or an array. This holds
for any reader that goes through objects and arrays as its laws say.
-/
namespace TemplateIR

/-- The lower-case words for a boolean. -/
def flagWords : Bool → List String
  | true => ["true", "1", "yes", "on"]
  | false => ["false", "0", "no", "off"]

/-- A spelling of the flag: the word, or a string that comes to one of its words. -/
inductive FlagForm (flag : Bool) : List Char → Prop
  | word : FlagForm flag (toString flag).toList
  | text {spelling : String} {text : List Char} :
    String.ofList (lowerCase (trim spelling.toList)) ∈ flagWords flag → JsonText spelling text →
      FlagForm flag text

/-- A member of an object, with the suffix or the flag that it gives. -/
inductive OptionsEntry : Option String → Option Bool → List Char → Prop
  | suffix {suffix : String} {name value text : List Char} :
    JsonText "reservedSuffix" name → JsonText suffix value → MemberForm name value text →
      OptionsEntry (some suffix) none text
  | flag {flag : Bool} {name value text : List Char} :
    JsonText "renameGlobals" name → FlagForm flag value → MemberForm name value text →
      OptionsEntry none (some flag) text
  | other {key : String} {name value text : List Char} :
    key ≠ "reservedSuffix" → key ≠ "renameGlobals" → JsonText key name → JsonForm .value value →
      MemberForm name value text → OptionsEntry none none text

/-- At most one of the two is there. -/
def Apart {α : Type} (first second : Option α) : Prop :=
  first = none ∨ second = none

/-- Members with separators between them. The suffix and the flag come once at most. -/
inductive OptionsEntries : Option String → Option Bool → List Char → Prop
  | last {suffix : Option String} {flag : Option Bool} {text : List Char} :
    OptionsEntry suffix flag text → OptionsEntries suffix flag text
  | more {suffix other : Option String} {flag another : Option Bool} {text rest : List Char} :
    OptionsEntry suffix flag text → OptionsEntries other another rest → Apart suffix other →
      Apart flag another →
        OptionsEntries (suffix.or other) (flag.or another) (text ++ ',' :: rest)

/-- A text that gives this suffix and this flag, or leaves them out. -/
inductive OptionsSpelling : Option String → Option Bool → List Char → Prop
  | emptyObject {front gap back : List Char} :
    JsonGap front → JsonGap gap → JsonGap back →
      OptionsSpelling none none (front ++ '{' :: gap ++ '}' :: back)
  | object {suffix : Option String} {flag : Option Bool} {front entries back : List Char} :
    JsonGap front → OptionsEntries suffix flag entries → JsonGap back →
      OptionsSpelling suffix flag (front ++ '{' :: entries ++ '}' :: back)
  | emptyArray {front gap back : List Char} :
    JsonGap front → JsonGap gap → JsonGap back →
      OptionsSpelling none none (front ++ '[' :: gap ++ ']' :: back)
  | suffixArray {suffix : String} {front before value behind back : List Char} :
    JsonGap front → JsonGap before → JsonText suffix value → JsonGap behind → JsonGap back →
      OptionsSpelling (some suffix) none (front ++ '[' :: before ++ value ++ behind ++ ']' :: back)
  | array {suffix : String} {flag : Bool}
      {front before value behind between word after back : List Char} :
    JsonGap front → JsonGap before → JsonText suffix value → JsonGap behind → JsonGap between →
      FlagForm flag word → JsonGap after → JsonGap back →
        OptionsSpelling (some suffix) (some flag)
          (front ++ '[' :: before ++ value ++ behind ++ ',' :: between ++ word ++ after ++
            ']' :: back)

theorem flagOfText?_eq_some_iff {flag : Bool} {spelling : String} :
    flagOfText? spelling = some flag ↔
      String.ofList (lowerCase (trim spelling.toList)) ∈ flagWords flag := by
  rw [flagOfText?]
  generalize String.ofList (lowerCase (trim spelling.toList)) = word
  have apart : ∀ word ∈ flagWords true, word ∉ flagWords false := by decide
  have listed (flag : Bool) : (flagWords flag).contains word = true ↔ word ∈ flagWords flag :=
    List.contains_iff_mem
  change (if (flagWords true).contains word then some true
    else if (flagWords false).contains word then some false else none) = _ ↔ _
  simp only [listed]
  by_cases yes : word ∈ flagWords true
  · cases flag <;> simp [yes, apart word yes]
  · by_cases no : word ∈ flagWords false <;> cases flag <;> simp [yes, no]

theorem FlagForm.spelled {flag : Bool} {text : List Char} (form : FlagForm flag text) :
    ∃ given, FlagSpelled given text ∧ given.decode = .ok flag := by
  cases form with
  | word => exact ⟨.boolean flag, .word flag, rfl⟩
  | @text spelling _ listed form =>
      have decoded : (FlagValue.text spelling).decode = .ok flag := by
        simp only [FlagValue.decode, flagOfText?_eq_some_iff.mpr listed]
      exact ⟨.text spelling, .text form, decoded⟩

section

variable {reader : OptionsReader} {fields : OptionsFields} {suffix other : Option String}
  {flag another : Option Bool} {c : Char} {text rest : List Char}

theorem OptionsEntry.members (entry : OptionsEntry suffix flag text) (objects : reader.ObjectReading)
    (apart : Apart fields.reservedSuffix suffix) (flags : Apart fields.renameGlobals flag)
    (first : Bool) (ends : c ∈ memberEnds) :
    objects.members FlagValue.decode first fields (memberLead first ++ (text ++ c :: rest)) =
      objects.members FlagValue.decode false
        ⟨fields.reservedSuffix.or suffix, fields.renameGlobals.or flag⟩ (c :: rest) := by
  cases entry with
  | suffix name value form =>
      have missing : fields.reservedSuffix = none := apart.resolve_right (by simp)
      rw [objects.suffix missing name value form ends, missing, Option.none_or, Option.or_none]
  | flag name value form =>
      have missing : fields.renameGlobals = none := flags.resolve_right (by simp)
      obtain ⟨given, spelled, decoded⟩ := value.spelled
      rw [objects.flag missing name spelled form ends, decoded, missing, Option.none_or,
        Option.or_none]
  | other notSuffix notFlag name value form =>
      rw [objects.other notSuffix notFlag name value form ends, Option.or_none, Option.or_none]

theorem Apart.of_or {α : Type} {first second third : Option α} (apart : Apart first (second.or third))
    (others : Apart second third) : Apart first second ∧ Apart (first.or second) third := by
  cases first <;> cases second <;> simp_all [Apart]

theorem OptionsEntries.members (entries : OptionsEntries suffix flag text)
    (objects : reader.ObjectReading) (apart : Apart fields.reservedSuffix suffix)
    (flags : Apart fields.renameGlobals flag) (first : Bool) (ends : c ∈ memberEnds) :
    objects.members FlagValue.decode first fields (memberLead first ++ (text ++ c :: rest)) =
      objects.members FlagValue.decode false
        ⟨fields.reservedSuffix.or suffix, fields.renameGlobals.or flag⟩ (c :: rest) := by
  -- What has been read so far grows by each member, so the members behind it must be apart from both.
  induction entries generalizing fields first with
  | last entry => exact entry.members objects apart flags first ends
  | more entry _ between flagsBetween ih =>
      obtain ⟨apart, behind⟩ := apart.of_or between
      obtain ⟨flags, flagsBehind⟩ := flags.of_or flagsBetween
      have separator : ',' ∈ memberEnds := by decide
      rw [List.append_assoc, List.cons_append, entry.members objects apart flags first separator,
        ← Option.or_assoc, ← Option.or_assoc]
      exact ih behind flagsBehind false

theorem OptionsSpelling.fields_eq (spelling : OptionsSpelling suffix flag text)
    (objects : reader.ObjectReading) (arrays : reader.ArrayReading) (ends : reader.EndsAtBlanks) :
    reader.fields text = .ok ⟨suffix, flag⟩ := by
  have complete {back : List Char} (read : reader.value FlagValue.decode text = .ok (⟨suffix, flag⟩, back))
      (blanks : JsonGap back) : reader.fields text = .ok ⟨suffix, flag⟩ :=
    (OptionsReader.fields_of_value ends read).trans (if_pos blanks)
  have none_between : JsonGap [] := by decide
  cases spelling with
  | emptyObject front gap back =>
      refine complete ?_ back
      simp only [List.append_assoc, List.cons_append]
      exact (objects.opened front).trans (objects.closed gap)
  | object front entries back =>
      refine complete ?_ back
      simp only [List.append_assoc, List.cons_append]
      have closing : '}' ∈ memberEnds := by decide
      rw [objects.opened front, ← List.nil_append (_ ++ '}' :: _)]
      refine (entries.members objects (.inl rfl) (.inl rfl) true closing).trans ?_
      exact objects.closed none_between
  | emptyArray front gap back =>
      refine complete ?_ back
      simp only [List.append_assoc, List.cons_append]
      exact (arrays.opened front).trans (arrays.closed gap)
  | suffixArray front before value behind back =>
      refine complete ?_ back
      simp only [List.append_assoc, List.cons_append]
      rw [arrays.opened front, arrays.suffix before value behind (by decide)]
      exact arrays.closed none_between
  | array front before value behind between flagged after back =>
      obtain ⟨given, spelled, decoded⟩ := flagged.spelled
      refine complete ?_ back
      simp only [List.append_assoc, List.cons_append]
      rw [arrays.opened front, arrays.suffix before value behind (by decide),
        arrays.flag between spelled after (by decide), decoded]
      exact arrays.closed none_between

/-- Options are read back from any spelling. An empty suffix is refused, wherever it stands. -/
theorem NamingOptions.ofText_spelled (objects : reader.ObjectReading) (arrays : reader.ArrayReading)
    (ends : reader.EndsAtBlanks) {text : String} (spelling : OptionsSpelling suffix flag text.toList) :
    reader.ofText text =
      if suffix = some "" then .error .emptySuffix
      else .ok { reservedSuffix := suffix.getD "$", renameGlobals := flag.getD false } :=
  OptionsReader.ofText_of_fields (spelling.fields_eq objects arrays ends)

end

/-- Members with escapes and blanks, behind a value that holds half a surrogate pair. -/
def escapedOptions : String :=
  "\x7b\"x\": [-1.5e+3, \x7b\"\\ud800\":\ttrue\x7d],\"reserved\\u0053uffix\":" ++
    "\"\\uD83D\\ude00\" , \"renameGlobals\":\" YES\"\x7d\n"

theorem NamingOptions.ofText_spelled_escaped :
    OptionsReader.scanning.ofText escapedOptions = .ok { reservedSuffix := "😀", renameGlobals := true } := by
  have high : HexForm 0xD83D ['D', '8', '3', 'D'] :=
    .digits (a := 13) (b := 8) (c := 3) (d := 13) (by decide) (by decide) (by decide) (by decide)
  have low : HexForm 0xDE00 ['d', 'e', '0', '0'] :=
    .digits (a := 13) (b := 14) (c := 0) (d := 0) (by decide) (by decide) (by decide) (by decide)
  have letter : HexForm 0x53 ['0', '0', '5', '3'] :=
    .digits (a := 0) (b := 0) (c := 5) (d := 3) (by decide) (by decide) (by decide) (by decide)
  have half : HexForm 0xD800 ['d', '8', '0', '0'] :=
    .digits (a := 13) (b := 8) (c := 0) (d := 0) (by decide) (by decide) (by decide) (by decide)
  have number : JsonNumber (['-'] ++ ['1'] ++ ['.', '5'] ++ ['e', '+', '3']) :=
    .parts (by decide) (.inr ⟨by decide, by decide⟩) (.inr ⟨['5'], by decide, rfl⟩)
      (.inr ⟨'e', by decide, ['+'], by decide, ['3'], by decide, rfl⟩)
  have word : JsonForm .value "true".toList := .word (by decide)
  have inner : JsonForm (.entry .map) "\"\\ud800\":\ttrue".toList :=
    .member (.unit half .nil) word
      (@MemberForm.parts _ _ [] [] ['\t'] [] (by decide) (by decide) (by decide) (by decide))
  have first : JsonForm (.entry .sequence) "-1.5e+3".toList :=
    @JsonForm.item [] _ [] (by decide) (.number number) (by decide)
  have second : JsonForm (.entry .sequence) " \x7b\"\\ud800\":\ttrue\x7d".toList :=
    @JsonForm.item [' '] _ [] (by decide) (@JsonForm.filled .map _ (.last inner)) (by decide)
  have other : OptionsEntry none none
      "\"x\": [-1.5e+3, \x7b\"\\ud800\":\ttrue\x7d]".toList :=
    @OptionsEntry.other "x" _ _ _ (by decide) (by decide) ⟨['x'], .ofRaw (by decide), rfl⟩
      (@JsonForm.filled .sequence _ (.more first (.last second)))
      (@MemberForm.parts _ _ [] [] [' '] [] (by decide) (by decide) (by decide) (by decide))
  have name : JsonText "reservedSuffix" (quoted "reserved\\u0053uffix".toList) :=
    ⟨_, (@JsonString.ofRaw "reserved".toList (by decide)).append
      (.unit letter (@JsonString.ofRaw "uffix".toList (by decide))), rfl⟩
  have suffix : OptionsEntry (some "😀") none
      "\"reserved\\u0053uffix\":\"\\uD83D\\ude00\" ".toList :=
    .suffix name ⟨_, .unit high (.unit low .nil), rfl⟩
      (@MemberForm.parts _ _ [] [] [] [' '] (by decide) (by decide) (by decide) (by decide))
  have flag : OptionsEntry none (some true) " \"renameGlobals\":\" YES\"".toList :=
    .flag ⟨_, .ofRaw (by decide), rfl⟩
      (.text (by decide) ⟨_, @JsonString.ofRaw " YES".toList (by decide), rfl⟩)
      (@MemberForm.parts _ _ [' '] [] [] [] (by decide) (by decide) (by decide) (by decide))
  have entries : OptionsEntries (some "😀") (some true) _ :=
    .more other (.more suffix (.last flag) (.inr rfl) (.inl rfl)) (.inl rfl) (.inl rfl)
  have spelling : OptionsSpelling (some "😀") (some true) escapedOptions.toList :=
    @OptionsSpelling.object _ _ [] _ ['\n'] (by decide) entries (by decide)
  exact ofText_spelled OptionsReader.scanningObjects OptionsReader.scanningArrays
    OptionsReader.scanning_endsAtBlanks spelling

end TemplateIR
