import TemplateIR.Json.ValueScan
import TemplateIR.Proofs.Json.NumberReading
import TemplateIR.Proofs.Json.StringReading

/-!
Reading a value to its end. A value that is passed over is read as it is nested: what stands between
two separators of a container brings the reading from one separator to the next.
-/
namespace TemplateIR

theorem isJsonBlank_iff {c : Char} : isJsonBlank c = true ↔ c ∈ jsonBlanks := by
  simp [isJsonBlank, jsonBlanks, or_assoc]

theorem isJsonBlank_of_mem {c : Char} (blank : c ∈ jsonBlanks) : isJsonBlank c = true :=
  isJsonBlank_iff.mpr blank

theorem isJsonBlank_of_not_mem {c : Char} (solid : c ∉ jsonBlanks) : isJsonBlank c = false :=
  Bool.eq_false_iff.mpr (mt isJsonBlank_iff.mp solid)

namespace Container

/-- Where the reading stands behind the bracket that opens the container. -/
def firstPhase : Container → ValuePhase
  | .sequence => .firstItem
  | .map => .firstName

/-- Where the reading stands behind a separator. -/
def nextPhase : Container → ValuePhase
  | .sequence => .start
  | .map => .name

/-- Whether an entry of the container can begin there. -/
def Opens (container : Container) (phase : ValuePhase) : Prop :=
  phase = container.firstPhase ∨ phase = container.nextPhase

end Container

namespace ValueScan

variable {care : Care} {outer : List Container} {phase : ValuePhase} {container : Container}
  {c : Char} {text rest gap : List Char} {value : JsonValue}

/-- Reads to the end of the value: the value, and what comes behind it. -/
def run (scan : ValueScan) : List Char → Except FormFault (JsonValue × List Char)
  | [] => .error .unfinished
  | c :: rest =>
    match scan.step c with
    | .error fault => .error fault
    | .ok (.more scan) => run scan rest
    | .ok (.ended value) => .ok (value, rest)
    | .ok (.endedBefore value) => .ok (value, c :: rest)

/-- What reading comes to behind a complete value. -/
def resume (care : Care) (outer : List Container) (value : JsonValue) (rest : List Char) :
    Except FormFault (JsonValue × List Char) :=
  if outer.isEmpty then .ok (value, rest) else run ⟨care, outer, .afterItem⟩ rest

theorem run_of_complete {scan : ValueScan} {behind : ValuePhase}
    (stepped : scan.step c = .ok (complete ⟨care, outer, behind⟩ value)) :
    run scan (c :: rest) = resume care outer value rest := by
  rw [run, stepped]
  cases outer <;> rfl

theorem run_gap {scan : ValueScan} (idle : ∀ c ∈ jsonBlanks, scan.step c = .ok (.more scan))
    (blanks : JsonGap gap) : run scan (gap ++ rest) = run scan rest := by
  induction gap with
  | nil => rfl
  | cons c gap ih =>
      rw [JsonGap, List.forall_mem_cons] at blanks
      rw [List.cons_append, run, idle c blanks.1]
      exact ih blanks.2

theorem step_opens_blank (opens : container.Opens phase) (blank : c ∈ jsonBlanks) :
    step ⟨care, outer, phase⟩ c = .ok (.more ⟨care, outer, phase⟩) := by
  have white := isJsonBlank_of_mem blank
  rcases opens with rfl | rfl
  · cases container <;> simp [step, Container.firstPhase, white, goTo]
  · cases container <;> simp [step, Container.nextPhase, white, goTo]

theorem step_start_blank (blank : c ∈ jsonBlanks) :
    step ⟨care, outer, .start⟩ c = .ok (.more ⟨care, outer, .start⟩) := by
  simp [step, isJsonBlank_of_mem blank, goTo]

theorem step_colon_blank (blank : c ∈ jsonBlanks) :
    step ⟨care, outer, .colon⟩ c = .ok (.more ⟨care, outer, .colon⟩) := by
  simp [step, isJsonBlank_of_mem blank, goTo]

theorem step_afterItem_blank (blank : c ∈ jsonBlanks) :
    step ⟨care, container :: outer, .afterItem⟩ c =
      .ok (.more ⟨care, container :: outer, .afterItem⟩) := by
  simp [step, afterItem, isJsonBlank_of_mem blank, goTo]

theorem run_closing : run ⟨care, container :: outer, .afterItem⟩ (container.closing :: rest) =
    resume care outer container.value rest := by
  cases container <;> exact run_of_complete rfl

theorem run_empty : run ⟨care, container :: outer, container.firstPhase⟩
    (container.closing :: rest) = resume care outer container.value rest := by
  cases container <;> exact run_of_complete rfl

theorem run_separator : run ⟨care, container :: outer, .afterItem⟩ (',' :: rest) =
    run ⟨care, container :: outer, container.nextPhase⟩ rest := by
  cases container <;> rfl

/-- Where a value can begin: behind a separator, or behind the bracket that opens a sequence. -/
def Awaits (phase : ValuePhase) : Prop :=
  phase = .start ∨ phase = .firstItem

theorem step_begin (awaits : Awaits phase) (other : c ∉ jsonBlanks) (bracket : c ≠ ']') :
    step ⟨care, outer, phase⟩ c = begin ⟨care, outer, .start⟩ c := by
  have solid := isJsonBlank_of_not_mem other
  rcases awaits with rfl | rfl
  · simp [step, solid]
  · simp [step, solid, bracket]
    rfl

theorem run_begin {next : ValueScan} (awaits : Awaits phase) (other : c ∉ jsonBlanks)
    (bracket : c ≠ ']') (begun : begin ⟨care, outer, .start⟩ c = .ok (.more next)) :
    run ⟨care, outer, phase⟩ (c :: rest) = run next rest := by
  rw [run, step_begin awaits other bracket, begun]

theorem run_text {scan : StringScan} {string : String}
    (read : scan.run care.decodes text = .ok (string, rest)) :
    run ⟨care, outer, .text scan⟩ text = resume care outer (.text string) rest := by
  refine StringScan.run_follow (fun scan => run ⟨care, outer, .text scan⟩)
    (fun string => resume care outer (.text string)) ?_ ?_ read
  · intro scan next c rest stepped
    simp [run, step, stepped, goTo]
  · intro scan c string rest stepped
    apply run_of_complete
    simp [step, stepped]
    rfl

theorem run_nameText {scan : StringScan} {string : String}
    (read : scan.run care.decodes text = .ok (string, rest)) :
    run ⟨care, outer, .nameText scan⟩ text = run ⟨care, outer, .colon⟩ rest := by
  refine StringScan.run_follow (fun scan => run ⟨care, outer, .nameText scan⟩)
    (fun _ => run ⟨care, outer, .colon⟩) ?_ ?_ read
  · intro scan next c rest stepped
    simp [run, step, stepped, goTo]
  · intro scan c string rest stepped
    simp [run, step, stepped, goTo]

/-- A number that is passed over ends before the character that cannot continue it. -/
theorem run_number {scan last : NumberScan} (read : scan.run text = .ok (last, c :: rest)) :
    run ⟨.skipped, outer, .number scan⟩ text =
      resume .skipped outer (.number last.numeral) (c :: rest) := by
  induction text generalizing scan with
  | nil => cases read
  | cons d text ih =>
      rw [NumberScan.run] at read
      cases stepped : scan.step d with
      | error fault => simp [stepped] at read
      | ok next =>
          simp only [stepped] at read
          cases next with
          | some next =>
              rw [← ih read]
              simp [run, step, stepped, goTo]
          | none =>
              -- The character belongs to what encloses the number, which reads it from here.
              cases read
              cases outer with
              | nil => simp [run, step, stepped, closeNumber, Care.decodes, resume]
              | cons container outer =>
                  have unchanged : step ⟨.skipped, container :: outer, .number last⟩ c =
                      step ⟨.skipped, container :: outer, .afterItem⟩ c := by
                    simp [step, stepped, closeNumber, Care.decodes]
                    rfl
                  simp only [resume, run, unchanged]
                  rfl

theorem run_word {word : List Char} (some : word ≠ []) :
    run ⟨care, outer, .word word value⟩ (word ++ rest) = resume care outer value rest := by
  induction word with
  | nil => exact absurd rfl some
  | cons c word ih =>
      cases word with
      | nil =>
        apply run_of_complete
        simp [step]
        rfl
      | cons next word =>
        rw [← ih (List.cons_ne_nil _ _)]
        simp [run, step, goTo]

theorem run_jsonText {string : String} (awaits : Awaits phase) (decodes : care.decodes = true)
    (form : JsonText string text) :
    run ⟨care, outer, phase⟩ (text ++ rest) = resume care outer (.text string) rest := by
  obtain ⟨body, form, rfl⟩ := form
  have read : StringScan.run care.decodes {} (body ++ '\"' :: rest) = .ok (string, rest) := by
    rw [decodes, StringScan.run_wanted form, String.ofList_toList, String.empty_append]
  have begun : begin ⟨care, outer, .start⟩ '\"' = .ok (.more ⟨care, outer, .text {}⟩) := rfl
  rw [quoted, List.append_assoc, List.cons_append, run_begin awaits (by decide) (by decide) begun]
  exact run_text read

end ValueScan

open ValueScan

/-- What reading comes to in a piece of a text that is passed over: behind a value the reading goes on
in what encloses it, and what a container holds is followed by a separator or the end. -/
def JsonPart.Passes (text : List Char) : JsonPart → Prop
  | .value => ∀ outer rest phase, Awaits phase → Terminated rest →
      ∃ value, run ⟨.skipped, outer, phase⟩ (text ++ rest) = resume .skipped outer value rest
  | .entry container | .entries container => ∀ outer rest phase,
      container.Opens phase → Terminated rest →
        run ⟨.skipped, container :: outer, phase⟩ (text ++ rest) =
          run ⟨.skipped, container :: outer, .afterItem⟩ rest

namespace JsonPart

variable {container : Container} {text gap entries entry front value back name : List Char}

theorem passes_word {word : String} (listed : word ∈ ["null", "true", "false"]) :
    Passes word.toList .value := by
  intro outer rest phase awaits _
  simp only [List.mem_cons, List.not_mem_nil, or_false] at listed
  rcases listed with rfl | rfl | rfl
  · exact ⟨.null, (run_begin awaits (by decide) (by decide) rfl).trans
      (run_word (List.cons_ne_nil _ _))⟩
  · exact ⟨.boolean true, (run_begin awaits (by decide) (by decide) rfl).trans
      (run_word (List.cons_ne_nil _ _))⟩
  · exact ⟨.boolean false, (run_begin awaits (by decide) (by decide) rfl).trans
      (run_word (List.cons_ne_nil _ _))⟩

theorem passes_number (form : JsonNumber text) : Passes text .value := by
  intro outer rest phase awaits terminated
  obtain ⟨c, behind, number, rfl, started, last, read⟩ := form.read terminated
  obtain ⟨d, tail, rfl, -⟩ := terminated
  have each : ∀ c ∈ ']' :: '[' :: '{' :: '\"' :: 'n' :: 't' :: 'f' :: jsonBlanks,
      NumberScan.start? c = none := by decide
  have other : c ∉ ']' :: '[' :: '{' :: '\"' :: 'n' :: 't' :: 'f' :: jsonBlanks := by
    intro listed
    rw [each c listed] at started
    cases started
  simp only [List.mem_cons, not_or] at other
  obtain ⟨closing, bracket, brace, quote, n, t, f, solid⟩ := other
  have begun : begin ⟨.skipped, outer, .start⟩ c = .ok (.more ⟨.skipped, outer, .number number⟩) := by
    simp [begin, bracket, brace, quote, n, t, f, started, goTo]
  refine ⟨.number last.numeral, ?_⟩
  rw [List.cons_append, run_begin awaits solid closing begun, run_number read]

theorem passes_text {units : List Nat} (form : JsonString units text) :
    Passes (quoted text) .value := by
  intro outer rest phase awaits _
  obtain ⟨last, read⟩ := StringScan.run_skipped form "" rest
  refine ⟨.text last, ?_⟩
  have begun : begin ⟨.skipped, outer, .start⟩ '\"' = .ok (.more ⟨.skipped, outer, .text {}⟩) := rfl
  rw [quoted, List.append_assoc, List.cons_append, run_begin awaits (by decide) (by decide) begun]
  exact run_text read

theorem run_opening {outer : List Container} {rest : List Char} {phase : ValuePhase}
    (awaits : Awaits phase) :
    run ⟨.skipped, outer, phase⟩ (container.opening :: rest) =
      run ⟨.skipped, container :: outer, container.firstPhase⟩ rest := by
  cases container
  · exact run_begin awaits (by decide) (by decide) rfl
  · exact run_begin awaits (by decide) (by decide) rfl

theorem passes_empty (blanks : JsonGap gap) :
    Passes (container.opening :: gap ++ [container.closing]) .value := by
  intro outer rest phase awaits _
  refine ⟨container.value, ?_⟩
  rw [List.append_assoc, List.cons_append, run_opening awaits,
    run_gap (fun c => step_opens_blank (.inl rfl)) blanks]
  exact run_empty

theorem terminated_closing (container : Container) (rest : List Char) :
    Terminated (container.closing :: rest) :=
  ⟨_, rest, rfl, by cases container <;> decide⟩

theorem passes_filled (passes : Passes entries (.entries container)) :
    Passes (container.opening :: entries ++ [container.closing]) .value := by
  intro outer rest phase awaits _
  refine ⟨container.value, ?_⟩
  rw [List.append_assoc, List.cons_append, run_opening awaits]
  exact (passes outer _ _ (.inl rfl) (terminated_closing container rest)).trans run_closing

theorem run_value {outer : List Container} {rest : List Char} {phase : ValuePhase}
    (passes : Passes value .value) (blanks : JsonGap back) (awaits : Awaits phase)
    (terminated : Terminated rest) :
    run ⟨.skipped, container :: outer, phase⟩ (value ++ (back ++ rest)) =
      run ⟨.skipped, container :: outer, .afterItem⟩ rest := by
  obtain ⟨last, read⟩ := passes (container :: outer) _ phase awaits (terminated.behind_gap blanks)
  have inside : resume .skipped (container :: outer) last (back ++ rest) =
      run ⟨.skipped, container :: outer, .afterItem⟩ (back ++ rest) := rfl
  rw [read, inside, run_gap (fun c => step_afterItem_blank) blanks]

theorem passes_item (blanks : JsonGap front) (passes : Passes value .value)
    (others : JsonGap back) : Passes (front ++ value ++ back) (.entry .sequence) := by
  intro outer rest phase opens terminated
  rw [List.append_assoc, List.append_assoc, run_gap (fun c => step_opens_blank opens) blanks]
  exact run_value passes others opens.symm terminated

theorem passes_member {units : List Nat} (key : JsonString units name)
    (passes : Passes value .value) (form : MemberForm (quoted name) value text) :
    Passes text (.entry .map) := by
  obtain @⟨front, middle, behind, back, first, second, third, fourth⟩ := form
  intro outer rest phase opens terminated
  have named (text : List Char) : run ⟨.skipped, .map :: outer, phase⟩ (quoted name ++ text) =
      run ⟨.skipped, .map :: outer, .colon⟩ text := by
    obtain ⟨last, read⟩ := StringScan.run_skipped key "" text
    have begun : step ⟨.skipped, .map :: outer, phase⟩ '\"' =
        .ok (.more ⟨.skipped, .map :: outer, .nameText {}⟩) := by
      rcases opens with rfl | rfl <;> rfl
    rw [quoted, List.append_assoc, List.cons_append, run, begun]
    exact run_nameText read
  have separated (text : List Char) : run ⟨.skipped, .map :: outer, .colon⟩ (':' :: text) =
      run ⟨.skipped, .map :: outer, .start⟩ text := rfl
  simp only [List.append_assoc, List.cons_append]
  rw [run_gap (fun c => step_opens_blank opens) first, named,
    run_gap (fun c => step_colon_blank) second, separated,
    run_gap (fun c => step_start_blank) third]
  exact run_value passes fourth (.inl rfl) terminated

theorem passes_more (passes : Passes entry (.entry container))
    (others : Passes entries (.entries container)) :
    Passes (entry ++ ',' :: entries) (.entries container) := by
  intro outer rest phase stands terminated
  have separated : Terminated (',' :: (entries ++ rest)) := ⟨_, _, rfl, by decide⟩
  rw [List.append_assoc, List.cons_append, passes outer _ phase stands separated, run_separator]
  exact others outer rest _ (.inr rfl) terminated

end JsonPart

/-- A well-formed value is passed over up to its end. -/
theorem JsonForm.passes {part : JsonPart} {text : List Char} (form : JsonForm part text) :
    part.Passes text := by
  induction form with
  | word listed => exact JsonPart.passes_word listed
  | number form => exact JsonPart.passes_number form
  | text form => exact JsonPart.passes_text form
  | empty blanks => exact JsonPart.passes_empty blanks
  | filled _ ih => exact JsonPart.passes_filled ih
  | item front _ back ih => exact JsonPart.passes_item front ih back
  | member name _ form ih => exact JsonPart.passes_member name ih form
  | last _ ih => exact ih
  | more _ _ ih others_ih => exact JsonPart.passes_more ih others_ih

end TemplateIR
