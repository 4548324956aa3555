import TemplateIR.Proofs.Emit.OptionsReading
import TemplateIR.Proofs.Text.CaseMapping
import TemplateIR.Proofs.Text.Trimming

/-!
Which strings spell the flag. Blanks around the word and the case of its letters do not matter, and
although case is that of Unicode, no letter behind ASCII is taken for one of a word. Any other string
is refused with a message that shows it as it was given.
-/
namespace TemplateIR

variable {suffix : Option String} {flag : Bool} {spelling : String} {text member : List Char}

/-- A member that gives the flag as the string `spelling`. -/
def FlagMember (spelling : String) (text : List Char) : Prop :=
  ∃ name value, JsonText "renameGlobals" name ∧ JsonText spelling value ∧ MemberForm name value text

/-- A text that gives the flag as the string `spelling`, and beside it no more than a suffix. -/
inductive FlagGiven (spelling : String) : Option String → List Char → Prop
  | alone {front member back : List Char} :
    JsonGap front → FlagMember spelling member → JsonGap back →
      FlagGiven spelling none (front ++ '{' :: member ++ '}' :: back)
  | ahead {suffix : String} {front member entry back : List Char} :
    JsonGap front → FlagMember spelling member → OptionsEntry (some suffix) none entry →
      JsonGap back →
        FlagGiven spelling (some suffix) (front ++ '{' :: (member ++ ',' :: entry) ++ '}' :: back)
  | behind {suffix : String} {front entry member back : List Char} :
    JsonGap front → OptionsEntry (some suffix) none entry → FlagMember spelling member →
      JsonGap back →
        FlagGiven spelling (some suffix) (front ++ '{' :: (entry ++ ',' :: member) ++ '}' :: back)
  | element {suffix : String} {front before value behind between word after back : List Char} :
    JsonGap front → JsonGap before → JsonText suffix value → JsonGap behind → JsonGap between →
      JsonText spelling word → JsonGap after → JsonGap back →
        FlagGiven spelling (some suffix)
          (front ++ '[' :: before ++ value ++ behind ++ ',' :: between ++ word ++ after ++
            ']' :: back)

theorem FlagMember.entry (given : FlagMember spelling member)
    (listed : String.ofList (lowerCase (trim spelling.toList)) ∈ flagWords flag) :
    OptionsEntry none (some flag) member := by
  obtain ⟨name, value, named, valued, form⟩ := given
  exact .flag named (.text listed valued) form

theorem FlagGiven.optionsSpelling (given : FlagGiven spelling suffix text)
    (listed : String.ofList (lowerCase (trim spelling.toList)) ∈ flagWords flag) :
    OptionsSpelling suffix (some flag) text := by
  cases given with
  | alone front member back => exact .object front (.last (member.entry listed)) back
  | ahead front member entry back =>
      have entries := OptionsEntries.more (member.entry listed) (.last entry) (.inl rfl) (.inr rfl)
      exact .object front entries back
  | behind front entry member back =>
      have entries := OptionsEntries.more entry (.last (member.entry listed)) (.inr rfl) (.inl rfl)
      exact .object front entries back
  | element front before value behind between word after back =>
      exact .array front before value behind between (.text listed word) after back

section

variable {reader : OptionsReader} {fields : OptionsFields} {c : Char} {rest : List Char}

theorem decode_unknown (unknown : flagOfText? spelling = none) :
    (FlagValue.text spelling).decode = .error (.flagSpelling spelling) := by
  simp only [FlagValue.decode, unknown]

theorem FlagMember.refused (given : FlagMember spelling member) (objects : reader.ObjectReading)
    (unknown : flagOfText? spelling = none) (missing : fields.renameGlobals = none) (first : Bool)
    (ends : c ∈ memberEnds) :
    objects.members FlagValue.decode first fields (memberLead first ++ (member ++ c :: rest)) =
      .error (.misfit (.flagSpelling spelling)) := by
  obtain ⟨name, value, named, valued, form⟩ := given
  rw [objects.flag missing named (.text valued) form ends, decode_unknown unknown]

/-- The options are refused where the string ends, whatever follows. -/
theorem FlagGiven.refused (given : FlagGiven spelling suffix text) (objects : reader.ObjectReading)
    (arrays : reader.ArrayReading) (unknown : flagOfText? spelling = none) :
    reader.value FlagValue.decode text = .error (.misfit (.flagSpelling spelling)) := by
  have separator : ',' ∈ memberEnds := by decide
  have closing : '}' ∈ memberEnds := by decide
  cases given with
  | alone front member back =>
      simp only [List.append_assoc, List.cons_append]
      rw [objects.opened front]
      exact member.refused objects unknown rfl true closing
  | ahead front member entry back =>
      simp only [List.append_assoc, List.cons_append]
      rw [objects.opened front]
      exact member.refused objects unknown rfl true separator
  | behind front entry member back =>
      simp only [List.append_assoc, List.cons_append]
      rw [objects.opened front]
      refine (entry.members objects (.inl rfl) (.inl rfl) true separator).trans ?_
      exact member.refused objects unknown rfl false closing
  | element front before value behind between word after back =>
      simp only [List.append_assoc, List.cons_append]
      rw [arrays.opened front, arrays.suffix before value behind (by decide),
        arrays.flag between (.text word) after (by decide), decode_unknown unknown]

end

theorem flagWords_plain : ∀ flag, ∀ word ∈ flagWords flag, ∀ d ∈ word.toList,
    d ≠ 'k' ∧ d.toNat < 0x80 := by
  decide

/-- The words of the flag are in ASCII and have no k, so the case of other letters cannot bring a
text to one of them. -/
theorem flagOfText?_eq_some_iff_ascii :
    flagOfText? spelling = some flag ↔
      String.ofList ((trim spelling.toList).map Char.toLower) ∈ flagWords flag := by
  have same (word : String) (listed : word ∈ flagWords flag) :
      String.ofList (lowerCase (trim spelling.toList)) = word ↔
        String.ofList ((trim spelling.toList).map Char.toLower) = word := by
    rw [← String.toList_inj, ← String.toList_inj, String.toList_ofList, String.toList_ofList]
    exact lowerCase_eq_iff (flagWords_plain flag word listed)
  rw [flagOfText?_eq_some_iff]
  constructor
  · intro listed
    rwa [(same _ listed).mp rfl]
  · intro listed
    rwa [(same _ listed).mpr rfl]

namespace NamingOptions

variable {reader : OptionsReader}

theorem ofText_of_flagWord (objects : reader.ObjectReading) (arrays : reader.ArrayReading)
    (ends : reader.EndsAtBlanks) {text : String} (given : FlagGiven spelling suffix text.toList)
    (nonempty : suffix ≠ some "")
    (listed : String.ofList ((trim spelling.toList).map Char.toLower) ∈ flagWords flag) :
    reader.ofText text = .ok { reservedSuffix := suffix.getD "$", renameGlobals := flag } := by
  rw [← flagOfText?_eq_some_iff_ascii, flagOfText?_eq_some_iff] at listed
  have read := (given.optionsSpelling listed).fields_eq objects arrays ends
  exact (OptionsReader.ofText_of_fields read).trans (if_neg nonempty)

theorem ofText_of_unknownFlag (objects : reader.ObjectReading) (arrays : reader.ArrayReading)
    {text : String} (given : FlagGiven spelling suffix text.toList)
    (unknown : ∀ flag,
      String.ofList ((trim spelling.toList).map Char.toLower) ∉ flagWords flag) :
    reader.ofText text = .error (.rejected (.misfit (.flagSpelling spelling))) := by
  have unread : flagOfText? spelling = none := by
    rw [Option.eq_none_iff_forall_ne_some]
    exact fun flag found => unknown flag (flagOfText?_eq_some_iff_ascii.mp found)
  have refused := OptionsReader.fields_of_refused (given.refused objects arrays unread)
  rw [OptionsReader.ofText, refused]

/-- A string gives the flag if and only if, without the blanks at its ends and up to the case of
letters of ASCII, it is one of the words for it. Nothing with a character from behind ASCII between
the blanks does. Any other string is refused, and shown with its blanks. -/
theorem ofText_flagGiven (objects : reader.ObjectReading) (arrays : reader.ArrayReading)
    (ends : reader.EndsAtBlanks) {text : String} (given : FlagGiven spelling suffix text.toList)
    (nonempty : suffix ≠ some "") :
    ∃ core, Stripped spelling.toList core ∧
      (∀ options, reader.ofText text = .ok options ↔
        ∃ flag, String.ofList (core.map Char.toLower) ∈ flagWords flag ∧
          options = { reservedSuffix := suffix.getD "$", renameGlobals := flag }) ∧
      ((∃ c ∈ core, 0x80 ≤ c.toNat) → ∀ options, reader.ofText text ≠ .ok options) ∧
      ((∀ flag, String.ofList (core.map Char.toLower) ∉ flagWords flag) →
        ∃ misfit, reader.ofText text = .error (.rejected (.misfit misfit)) ∧
          misfit.message = "invalid boolean value: '" ++ spelling ++
            "'. Expected true, false, 'true', or 'false'") := by
  have accepted_iff (options : NamingOptions) : reader.ofText text = .ok options ↔
      ∃ flag, String.ofList ((trim spelling.toList).map Char.toLower) ∈ flagWords flag ∧
        options = { reservedSuffix := suffix.getD "$", renameGlobals := flag } := by
    constructor
    · intro accepted
      by_cases known : ∃ flag,
          String.ofList ((trim spelling.toList).map Char.toLower) ∈ flagWords flag
      · obtain ⟨flag, listed⟩ := known
        rw [ofText_of_flagWord objects arrays ends given nonempty listed] at accepted
        cases accepted
        exact ⟨flag, listed, rfl⟩
      · rw [ofText_of_unknownFlag objects arrays given (not_exists.mp known)] at accepted
        cases accepted
    · rintro ⟨flag, listed, rfl⟩
      exact ofText_of_flagWord objects arrays ends given nonempty listed
  refine ⟨trim spelling.toList, stripped_trim _, accepted_iff, ?_, fun unknown => ?_⟩
  · rintro ⟨c, member, beyond⟩ options accepted
    obtain ⟨flag, listed, -⟩ := (accepted_iff options).mp accepted
    have within : c.toLower ∈ (String.ofList ((trim spelling.toList).map Char.toLower)).toList := by
      rw [String.toList_ofList]
      exact List.mem_map_of_mem member
    have ascii := toNat_of_toLower (flagWords_plain flag _ listed _ within).2
    exact Nat.not_lt.mpr beyond ascii
  · exact ⟨_, ofText_of_unknownFlag objects arrays given unknown, rfl⟩

/-- A member whose string needs no escape, beside the suffix `_`. -/
theorem flagGiven_behind_underscore
    (plain : ∀ c ∈ spelling.toList, 0x20 ≤ c.toNat ∧ c ≠ '\"' ∧ c ≠ '\\') :
    FlagGiven spelling (some "_")
      ("\x7b\"reservedSuffix\":\"_\",\"renameGlobals\":".toList ++
        quoted spelling.toList ++ ['}']) := by
  have suffix : OptionsEntry (some "_") none "\"reservedSuffix\":\"_\"".toList :=
    .suffix ⟨_, .ofRaw (by decide), rfl⟩ ⟨_, .ofRaw (by decide), rfl⟩
      (@MemberForm.parts _ _ [] [] [] [] (by decide) (by decide) (by decide) (by decide))
  have member : FlagMember spelling ("\"renameGlobals\":".toList ++ quoted spelling.toList ++ []) :=
    ⟨_, _, ⟨_, .ofRaw (by decide), rfl⟩, ⟨_, .ofRaw plain, rfl⟩,
      @MemberForm.parts _ _ [] [] [] [] (by decide) (by decide) (by decide) (by decide)⟩
  have given := @FlagGiven.behind _ _ [] _ _ [] (by decide) suffix member (by decide)
  rw [List.append_nil] at given
  exact given

/-- A word behind a blank that JSON does not have, and a string that only looks like a word. -/
theorem ofText_flagGiven_wide :
    OptionsReader.scanning.ofText "\x7b\"reservedSuffix\":\"_\",\"renameGlobals\":\"\u3000Yes\"\x7d" =
        .ok { reservedSuffix := "_", renameGlobals := true } ∧
      ∃ misfit, OptionsReader.scanning.ofText
            "\x7b\"reservedSuffix\":\"_\",\"renameGlobals\":\" ye\u017F\"\x7d" =
          .error (.rejected (.misfit misfit)) ∧
        misfit.message =
          "invalid boolean value: ' ye\u017F'. Expected true, false, 'true', or 'false'" := by
  constructor
  · have given : FlagGiven "\u3000Yes" (some "_")
        "\x7b\"reservedSuffix\":\"_\",\"renameGlobals\":\"\u3000Yes\"\x7d".toList :=
      flagGiven_behind_underscore (by decide)
    obtain ⟨core, stripped, accepted, -, -⟩ :=
      ofText_flagGiven OptionsReader.scanningObjects OptionsReader.scanningArrays
        OptionsReader.scanning_endsAtBlanks given (by decide)
    obtain rfl := stripped.trim_eq
    exact (accepted _).mpr ⟨true, by decide, rfl⟩
  · have given : FlagGiven " ye\u017F" (some "_")
        "\x7b\"reservedSuffix\":\"_\",\"renameGlobals\":\" ye\u017F\"\x7d".toList :=
      flagGiven_behind_underscore (by decide)
    obtain ⟨core, stripped, -, -, refused⟩ :=
      ofText_flagGiven OptionsReader.scanningObjects OptionsReader.scanningArrays
        OptionsReader.scanning_endsAtBlanks given (by decide)
    obtain rfl := stripped.trim_eq
    exact refused (by decide)

end NamingOptions
end TemplateIR
