import Mathlib.Tactic.SplitIfs
import TemplateIR.Emit.OptionsScan
import TemplateIR.Proofs.Emit.OptionsLaws
import TemplateIR.Proofs.Json.ValueReading

/-!
The scanning reader of options keeps the laws for where it stops: it takes one character after the
other, and only a closing bracket can be the last one.
-/
namespace TemplateIR

namespace OptionsScan

variable {decode : FlagValue → Except OptionsMisfit Bool} {fields : OptionsFields}
  {member : Option OptionsMember} {form : OptionsForm} {reading : ValueScan} {c : Char}
  {scan : OptionsScan}

theorem closing_of_afterMember (stepped : scan.afterMember c = .ok (.closed fields)) :
    c ∈ closingBrackets := by
  rw [afterMember] at stepped
  split_ifs at stepped with blank comma brace
  · cases stepped
  · cases stepped
  · simp [closingBrackets, brace]
  · cases stepped

theorem closing_of_afterElement (stepped : scan.afterElement member c = .ok (.closed fields)) :
    c ∈ closingBrackets := by
  rw [afterElement] at stepped
  split_ifs at stepped with blank bracket comma
  · cases stepped
  · simp [closingBrackets, bracket]
  · cases stepped
  · cases stepped

theorem closing_of_stepValue
    (stepped : stepValue decode scan form member reading c = .ok (.closed fields)) :
    c ∈ closingBrackets := by
  rw [stepValue] at stepped
  split at stepped
  · cases stepped
  · cases stepped
  · split at stepped
    · cases stepped
    · cases stepped
  · split at stepped
    · cases stepped
    · cases form with
      | object => exact closing_of_afterMember stepped
      | array => exact closing_of_afterElement stepped

theorem stepMisplaced_not_closed : scan.stepMisplaced reading c ≠ .ok (.closed fields) := by
  intro stepped
  rw [stepMisplaced] at stepped
  split at stepped <;> cases stepped

theorem afterName_not_closed {name : String} : scan.afterName name ≠ .ok (.closed fields) := by
  intro stepped
  rw [afterName] at stepped
  split at stepped
  · cases stepped
  · split_ifs at stepped
    cases stepped

/-- Only a bracket ends the reading. -/
theorem closing_of_step (stepped : scan.step decode c = .ok (.closed fields)) :
    c ∈ closingBrackets := by
  obtain ⟨found, phase⟩ := scan
  cases phase with
  | opening =>
      simp only [step] at stepped
      split_ifs at stepped
      · cases stepped
      · cases stepped
      · cases stepped
      · exact (stepMisplaced_not_closed stepped).elim
  | misplaced reading => exact (stepMisplaced_not_closed stepped).elim
  | firstName =>
      simp only [step] at stepped
      split_ifs at stepped with blank brace quote
      · cases stepped
      · simp [closingBrackets, brace]
      · cases stepped
      · cases stepped
  | name =>
      simp only [step] at stepped
      split_ifs at stepped <;> cases stepped
  | nameText name =>
      simp only [step] at stepped
      split at stepped
      · cases stepped
      · cases stepped
      · exact (afterName_not_closed stepped).elim
  | colon member =>
      simp only [step] at stepped
      split_ifs at stepped <;> cases stepped
  | firstElement =>
      simp only [step] at stepped
      split_ifs at stepped with blank bracket
      · cases stepped
      · simp [closingBrackets, bracket]
      · exact closing_of_stepValue stepped
  | value form member reading => exact closing_of_stepValue stepped
  | afterMember => exact closing_of_afterMember stepped
  | afterElement member => exact closing_of_afterElement stepped

theorem run_takes (decode : FlagValue → Except OptionsMisfit Bool) (scan : OptionsScan) (c : Char) :
    OptionsReader.TakesCharacter (run decode) scan c := by
  cases stepped : scan.step decode c with
  | error fault =>
      refine .refused fault fun rest => ?_
      rw [run, stepped]
  | ok next =>
      cases next with
      | more next => exact .more next fun rest => run_cons stepped
      | closed fields =>
          refine .closed fields (closing_of_step stepped) fun rest => ?_
          rw [run, stepped]

end OptionsScan

def OptionsReader.scanningForward : OptionsReader.scanning.ForwardReading where
  State := OptionsScan
  start := {}
  reading decode scan text := scan.run decode text
  starts := rfl
  takes := OptionsScan.run_takes
  breaks := nofun

theorem OptionsReader.scanning_endsAtBlanks : OptionsReader.scanning.EndsAtBlanks := by
  intro text
  have blank : text.all isJsonBlank = true ↔ JsonGap text := by
    simp only [List.all_eq_true, isJsonBlank_iff, JsonGap]
  simp only [scanning, blank]

end TemplateIR
