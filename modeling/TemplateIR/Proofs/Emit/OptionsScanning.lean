import TemplateIR.Emit.OptionsScan
import TemplateIR.Proofs.Emit.OptionsLaws
import TemplateIR.Proofs.Json.ValueReading

/-!
The scanning reader of options keeps the laws for what it reads: it goes through an object member by
member, and takes the elements of an array in turn.
-/
namespace TemplateIR

/-- Whether no token has begun. -/
def OptionsPhase.IsBetween : OptionsPhase → Prop
  | .value _ _ scan => scan.phase = .start
  | .misplaced _ | .nameText _ => False
  | _ => True

namespace OptionsScan

variable {decode : FlagValue → Except OptionsMisfit Bool} {fields : OptionsFields}
  {phase : OptionsPhase} {member : Option OptionsMember} {form : OptionsForm} {value : JsonValue}
  {c : Char} {text rest gap : List Char} {next : OptionsScan}

theorem step_blank (between : phase.IsBetween) (blank : c ∈ jsonBlanks) :
    step decode ⟨fields, phase⟩ c = .ok (.more ⟨fields, phase⟩) := by
  have white := isJsonBlank_of_mem blank
  cases phase with
  | misplaced | nameText => exact between.elim
  | value form member scan =>
      obtain ⟨care, outer, phase⟩ := scan
      obtain rfl : phase = .start := between
      simp [step, stepValue, ValueScan.step_start_blank blank, goTo]
  | _ => simp [step, afterMember, afterElement, white, goTo]

theorem run_gap (phase : OptionsPhase) (between : phase.IsBetween) (blanks : JsonGap gap) :
    run decode ⟨fields, phase⟩ (gap ++ rest) = run decode ⟨fields, phase⟩ rest := by
  induction gap with
  | nil => rfl
  | cons c gap ih =>
      rw [JsonGap, List.forall_mem_cons] at blanks
      rw [List.cons_append, run_cons (step_blank between blanks.1)]
      exact ih blanks.2

theorem run_nameText {scan : StringScan} {name : String}
    (scanned : scan.run true text = .ok (name, rest))
    (after : afterName ⟨fields, .name⟩ name = .ok (.more next)) :
    run decode ⟨fields, .nameText scan⟩ text = next.run decode rest := by
  induction text generalizing scan with
  | nil => cases scanned
  | cons c text ih =>
      rw [StringScan.run] at scanned
      cases stepped : scan.step true c with
      | error fault => simp [stepped] at scanned
      | ok next =>
          simp only [stepped] at scanned
          cases next with
          | more next =>
              rw [← ih scanned]
              apply run_cons
              simp [step, stepped, goTo]
          | closed name =>
              cases scanned
              apply run_cons
              simp only [step, stepped]
              exact after

theorem step_behind : step decode ⟨fields, behind form member⟩ c =
    afterValue ⟨fields, behind form member⟩ form member c := by
  cases form <;> rfl

/-- A value that has ended before a character leaves it to what stands behind the value. -/
theorem step_endedBefore {scan : ValueScan} (stepped : scan.step c = .ok (.endedBefore value)) :
    step decode ⟨fields, .value form member scan⟩ c =
      match fields.accept decode member value with
      | .error fault => .error fault
      | .ok fields => step decode ⟨fields, behind form member⟩ c := by
  change stepValue decode _ form member scan c = _
  simp only [stepValue, stepped]
  cases fields.accept decode member value with
  | error fault => rfl
  | ok fields => exact step_behind.symm

/-- Behind a value the reading goes on with what accepting it gives. -/
theorem run_ended {scan : ValueScan} (scanned : scan.run text = .ok (value, rest)) :
    run decode ⟨fields, .value form member scan⟩ text =
      match fields.accept decode member value with
      | .error fault => .error fault
      | .ok fields => run decode ⟨fields, behind form member⟩ rest := by
  induction text generalizing scan with
  | nil => cases scanned
  | cons c text ih =>
      rw [ValueScan.run] at scanned
      cases stepped : scan.step c with
      | error fault => simp [stepped] at scanned
      | ok next =>
          simp only [stepped] at scanned
          cases next with
          | more next =>
              rw [← ih scanned]
              apply run_cons
              simp [step, stepValue, stepped, goTo]
          | ended value =>
              cases scanned
              simp only [run, step, stepValue, stepped]
              cases fields.accept decode member value <;> rfl
          | endedBefore value =>
              cases scanned
              rw [run, step_endedBefore stepped]
              cases fields.accept decode member value <;> rfl

/-- Where a member begins: behind the brace, or behind a comma. -/
def opensMember (first : Bool) : OptionsPhase :=
  if first then .firstName else .name

/-- Where the reading of an object goes on: behind the brace, or behind a member. -/
def withinObject (first : Bool) : OptionsPhase :=
  if first then .firstName else .afterMember

theorem run_lead (first : Bool) : run decode ⟨fields, withinObject first⟩ (memberLead first ++ text) =
    run decode ⟨fields, opensMember first⟩ text := by
  cases first <;> rfl

theorem run_name {key : String} {name front middle gap : List Char} (named : JsonText key name)
    (after : afterName ⟨fields, .name⟩ key = .ok (.more ⟨fields, .colon member⟩))
    (before : JsonGap front) (between : JsonGap middle) (behind : JsonGap gap) (first : Bool) :
    run decode ⟨fields, opensMember first⟩
        (front ++ (name ++ (middle ++ ':' :: (gap ++ rest)))) =
      run decode ⟨fields, .value .object member ⟨memberCare member, [], .start⟩⟩ rest := by
  obtain ⟨body, spelled, rfl⟩ := named
  have idle : (opensMember first).IsBetween := by cases first <;> trivial
  have quote : step decode ⟨fields, opensMember first⟩ '\"' = .ok (.more ⟨fields, .nameText {}⟩) := by
    cases first <;> rfl
  have key_read (text : List Char) : run decode ⟨fields, opensMember first⟩ (quoted body ++ text) =
      run decode ⟨fields, .colon member⟩ text := by
    have scanned := StringScan.run_wanted spelled "" text
    rw [String.ofList_toList, String.empty_append] at scanned
    rw [quoted, List.append_assoc, List.cons_append, run_cons quote]
    exact run_nameText scanned after
  have colon_read (text : List Char) : run decode ⟨fields, .colon member⟩ (':' :: text) =
      run decode ⟨fields, .value .object member ⟨memberCare member, [], .start⟩⟩ text := rfl
  rw [run_gap _ idle before, key_read, run_gap (.colon member) trivial between, colon_read,
    run_gap (.value .object member ⟨_, [], .start⟩) rfl behind]

theorem terminated_of_memberEnds (ends : c ∈ memberEnds) (rest : List Char) :
    Terminated (c :: rest) := by
  have each : ∀ c ∈ memberEnds, c ∈ jsonTerminators := by decide
  exact ⟨c, rest, rfl, each c ends⟩

/-- A member whose value can be read up to its end is taken over as its value is accepted. -/
theorem run_member {accepted : Except OptionsFault OptionsFields} {key : String}
    {name word : List Char} (named : JsonText key name)
    (after : afterName ⟨fields, .name⟩ key = .ok (.more ⟨fields, .colon member⟩))
    (valued : ∀ rest, Terminated rest → ∃ value,
      ValueScan.run ⟨memberCare member, [], .start⟩ (word ++ rest) = .ok (value, rest) ∧
      fields.accept decode member value = accepted)
    (form : MemberForm name word text) (first : Bool) (ends : c ∈ memberEnds) :
    run decode ⟨fields, withinObject first⟩ (memberLead first ++ (text ++ c :: rest)) =
      accepted.bind fun others => run decode ⟨others, withinObject false⟩ (c :: rest) := by
  obtain @⟨front, middle, behind, back, before, between, next, last⟩ := form
  obtain ⟨value, scanned, accepts⟩ := valued _ ((terminated_of_memberEnds ends rest).behind_gap last)
  simp only [List.append_assoc, List.cons_append]
  rw [run_lead, run_name named after before between next, run_ended scanned, accepts]
  cases accepted with
  | error fault => rfl
  | ok others => exact run_gap .afterMember trivial last

/-- A member that has not come before is known by its name. -/
theorem afterName_known {member : OptionsMember} (missing : fields.has member = false) :
    afterName ⟨fields, .name⟩ member.name = .ok (.more ⟨fields, .colon (some member)⟩) := by
  have known : OptionsMember.ofName? member.name = some member := by cases member <;> rfl
  simp only [afterName, known, missing]
  rfl

theorem afterName_other {name : String} (suffix : name ≠ "reservedSuffix")
    (flag : name ≠ "renameGlobals") :
    afterName ⟨fields, .name⟩ name = .ok (.more ⟨fields, .colon none⟩) := by
  have unknown : OptionsMember.ofName? name = none := by
    simp [OptionsMember.ofName?, OptionsMember.name, suffix.symm, flag.symm]
  rw [afterName, unknown]
  rfl

theorem accept_flag {given : FlagValue} (kind : value.flag? = some given) :
    fields.accept decode (some .renameGlobals) value =
      match decode given with
      | .error misfit => .error (.misfit misfit)
      | .ok flag => .ok { fields with renameGlobals := some flag } := by
  simp only [OptionsFields.accept, kind]
  cases decode given <;> rfl

theorem scanned_flag {given : FlagValue} {word : List Char} (spelled : FlagSpelled given word)
    (rest : List Char) : ∃ value,
      ValueScan.run ⟨.whole, [], .start⟩ (word ++ rest) = .ok (value, rest) ∧
      value.flag? = some given := by
  cases spelled with
  | word flag =>
      refine ⟨.boolean flag, ?_, rfl⟩
      cases flag
      · exact (ValueScan.run_begin (.inl rfl) (by decide) (by decide) rfl).trans
          (ValueScan.run_word (List.cons_ne_nil _ _))
      · exact (ValueScan.run_begin (.inl rfl) (by decide) (by decide) rfl).trans
          (ValueScan.run_word (List.cons_ne_nil _ _))
  | text form => exact ⟨.text _, ValueScan.run_jsonText (.inl rfl) rfl form, rfl⟩

/-- Where the reading of an array goes on: behind the bracket, or behind an element. -/
def withinArray : Option OptionsMember → OptionsPhase
  | none => .firstElement
  | some member => .afterElement (some member)

theorem run_firstElement {suffix : String} {front word back : List Char} (before : JsonGap front)
    (given : JsonText suffix word) (behind : JsonGap back) :
    run decode ⟨fields, .firstElement⟩ (front ++ (word ++ (back ++ rest))) =
      run decode ⟨{ fields with reservedSuffix := some suffix }, .afterElement (some .reservedSuffix)⟩
        rest := by
  have scanned : ValueScan.run ⟨.scalar, [], .start⟩ (word ++ (back ++ rest)) =
      .ok (.text suffix, back ++ rest) := ValueScan.run_jsonText (.inl rfl) rfl given
  have read : run decode ⟨fields, .value .array (some .reservedSuffix) ⟨.scalar, [], .start⟩⟩
      (word ++ (back ++ rest)) = run decode
        ⟨{ fields with reservedSuffix := some suffix }, .afterElement (some .reservedSuffix)⟩
        (back ++ rest) := run_ended scanned
  rw [run_gap .firstElement trivial before, ← run_gap (.afterElement _) trivial behind]
  obtain ⟨body, -, rfl⟩ := given
  exact read

theorem run_secondElement {given : FlagValue} {front word back : List Char} (before : JsonGap front)
    (spelled : FlagSpelled given word) (behind : JsonGap back) :
    run decode ⟨fields, .afterElement (some .reservedSuffix)⟩
        (',' :: (front ++ (word ++ (back ++ rest)))) =
      match decode given with
      | .error misfit => .error (.misfit misfit)
      | .ok flag => run decode
          ⟨{ fields with renameGlobals := some flag }, .afterElement (some .renameGlobals)⟩ rest := by
  have separator (rest : List Char) :
      run decode ⟨fields, .afterElement (some .reservedSuffix)⟩ (',' :: rest) =
        run decode ⟨fields, .value .array (some .renameGlobals) ⟨.whole, [], .start⟩⟩ rest := rfl
  obtain ⟨value, scanned, kind⟩ := scanned_flag spelled (back ++ rest)
  rw [separator, run_gap (.value _ _ ⟨_, [], .start⟩) rfl before, run_ended scanned, accept_flag kind]
  cases decode given with
  | error misfit => rfl
  | ok flag => exact run_gap (.afterElement _) trivial behind

end OptionsScan

open OptionsScan

def OptionsReader.scanningObjects : OptionsReader.scanning.ObjectReading where
  members decode first fields text := run decode ⟨fields, withinObject first⟩ text
  opened blanks := run_gap .opening trivial blanks
  closed {_ first _ _ _} blanks := by
    cases first
    · exact run_gap .afterMember trivial blanks
    · exact run_gap .firstName trivial blanks
  suffix {decode first fields suffix _ value _ _ _} missing named given form ends := by
    have unseen : fields.has .reservedSuffix = false := by simp [OptionsFields.has, missing]
    have valued (rest : List Char) (_ : Terminated rest) : ∃ found,
        ValueScan.run ⟨.scalar, [], .start⟩ (value ++ rest) = .ok (found, rest) ∧
        fields.accept decode (some .reservedSuffix) found =
          .ok { fields with reservedSuffix := some suffix } :=
      ⟨.text suffix, ValueScan.run_jsonText (.inl rfl) rfl given, rfl⟩
    exact run_member named (afterName_known unseen) valued form first ends
  flag {decode first fields given _ value _ _ _} missing named spelled form ends := by
    have unseen : fields.has .renameGlobals = false := by simp [OptionsFields.has, missing]
    have valued (rest : List Char) (_ : Terminated rest) : ∃ found,
        ValueScan.run ⟨.whole, [], .start⟩ (value ++ rest) = .ok (found, rest) ∧
        fields.accept decode (some .renameGlobals) found =
          match decode given with
          | .error misfit => .error (.misfit misfit)
          | .ok flag => .ok { fields with renameGlobals := some flag } := by
      obtain ⟨found, scanned, kind⟩ := scanned_flag spelled rest
      exact ⟨found, scanned, accept_flag kind⟩
    refine (run_member named (afterName_known unseen) valued form first ends).trans ?_
    cases decode given <;> rfl
  other {decode first fields _ _ value _ _ _} notSuffix notFlag named given form ends := by
    have valued (rest : List Char) (terminated : Terminated rest) : ∃ found,
        ValueScan.run ⟨.skipped, [], .start⟩ (value ++ rest) = .ok (found, rest) ∧
        fields.accept decode none found = .ok fields := by
      obtain ⟨found, scanned⟩ := given.passes [] rest .start (.inl rfl) terminated
      exact ⟨found, scanned, rfl⟩
    exact run_member named (afterName_other notSuffix notFlag) valued form first ends

def OptionsReader.scanningArrays : OptionsReader.scanning.ArrayReading where
  elements decode last fields text := run decode ⟨fields, withinArray last⟩ text
  opened blanks := run_gap .opening trivial blanks
  closed {_ last _ _ _} blanks := by
    cases last with
    | none => exact run_gap .firstElement trivial blanks
    | some member => exact run_gap (.afterElement _) trivial blanks
  suffix front given back _ := run_firstElement front given back
  flag front spelled back _ := run_secondElement front spelled back

end TemplateIR
