import TemplateIR.Json.NumberScan
import TemplateIR.Proofs.Json.Grammar

/-!
Reading a number up to the separator or blank that ends it.
-/
namespace TemplateIR

/-- The characters that can follow a value. -/
def jsonTerminators : List Char :=
  jsonBlanks ++ [',', ']', '}']

/-- Whether a value may end before this text. -/
def Terminated (text : List Char) : Prop :=
  ∃ c rest, text = c :: rest ∧ c ∈ jsonTerminators

theorem Terminated.behind_gap {gap rest : List Char} (blanks : JsonGap gap)
    (terminated : Terminated rest) : Terminated (gap ++ rest) := by
  cases gap with
  | nil => exact terminated
  | cons c gap => exact ⟨c, gap ++ rest, rfl, List.mem_append_left _ (blanks c List.mem_cons_self)⟩

namespace NumberScan

/-- Reads as long as the number goes on: what has been read of it, and what comes behind. -/
def run (scan : NumberScan) : List Char → Except FormFault (NumberScan × List Char)
  | [] => .ok (scan, [])
  | c :: rest =>
    match scan.step c with
    | .error fault => .error fault
    | .ok (some scan) => run scan rest
    | .ok none => .ok (scan, c :: rest)

/-- Whether the number ends before `rest`. -/
def EndsBefore (scan : NumberScan) (text rest : List Char) : Prop :=
  ∃ last, scan.run text = .ok (last, rest)

variable {scan next : NumberScan} {phase : NumberPhase} {c : Char}
  {text rest digits whole fraction exponent : List Char}

theorem EndsBefore.of_step (stepped : scan.step c = .ok (some next))
    (ends : next.EndsBefore text rest) : scan.EndsBefore (c :: text) rest := by
  obtain ⟨last, read⟩ := ends
  exact ⟨last, by simp only [run, stepped, read]⟩

theorem endsBefore_terminated (complete : scan.phase.isComplete = true)
    (terminated : Terminated rest) : scan.EndsBefore rest rest := by
  obtain ⟨c, rest, rfl, terminator⟩ := terminated
  have stepped : scan.step c = .ok none := by
    have each : ∀ c ∈ jsonTerminators, c.isDigit = false ∧ c ≠ '.' ∧ c ≠ 'e' ∧ c ≠ 'E' := by decide
    obtain ⟨digit, point, mark, capital⟩ := each c terminator
    obtain ⟨phase, numeral⟩ := scan
    cases phase <;> simp_all [step, afterDigits, NumberPhase.isComplete]
  exact ⟨scan, by rw [run, stepped]⟩

/-- Digits leave these phases as they are. -/
def Repeats (phase : NumberPhase) : Prop :=
  phase = .whole ∨ phase = .fraction ∨ phase = .exponent

theorem EndsBefore.behind_digits (repeats : Repeats phase) (all : ∀ c ∈ digits, c.isDigit = true)
    (ends : ∀ numeral, EndsBefore ⟨phase, numeral⟩ text rest) (numeral : Numeral) :
    EndsBefore ⟨phase, numeral⟩ (digits ++ text) rest := by
  induction digits generalizing numeral with
  | nil => exact ends numeral
  | cons c digits ih =>
      rw [List.forall_mem_cons] at all
      rcases repeats with rfl | rfl | rfl
      all_goals exact EndsBefore.of_step (by simp [step, all.1]; rfl) (ih all.2 _)

theorem EndsBefore.behind_decimals (repeats : Repeats phase)
    (enters : ∀ c, c.isDigit = true → ∃ numeral, scan.step c = .ok (some ⟨phase, numeral⟩))
    (decimals : DecimalDigits digits) (ends : ∀ numeral, EndsBefore ⟨phase, numeral⟩ text rest) :
    scan.EndsBefore (digits ++ text) rest := by
  obtain ⟨some, all⟩ := decimals
  obtain ⟨c, digits, rfl⟩ := List.exists_cons_of_ne_nil some
  rw [List.forall_mem_cons] at all
  obtain ⟨numeral, stepped⟩ := enters c all.1
  exact EndsBefore.of_step stepped (EndsBefore.behind_digits repeats all.2 ends numeral)

theorem endsBefore_exponent (form : ExponentForm exponent) (terminated : Terminated rest)
    (phase : scan.phase = .zero ∨ scan.phase = .whole ∨ scan.phase = .fraction) :
    scan.EndsBefore (exponent ++ rest) rest := by
  rcases form with rfl | ⟨mark, listed, sign, signs, digits, decimals, rfl⟩
  · apply endsBefore_terminated _ terminated
    rcases phase with phase | phase | phase <;> rw [phase] <;> rfl
  · have marked : scan.step mark = .ok (some { scan with phase := .mark }) := by
      simp only [List.mem_cons, List.not_mem_nil, or_false] at listed
      rcases listed with rfl | rfl <;> rcases phase with phase | phase | phase <;>
        simp [step, phase, afterDigits]
    apply EndsBefore.of_step marked
    have ends (numeral : Numeral) : EndsBefore ⟨.exponent, numeral⟩ rest rest :=
      endsBefore_terminated rfl terminated
    have repeats : Repeats .exponent := .inr (.inr rfl)
    have behind_sign (numeral : Numeral) : EndsBefore ⟨.markSign, numeral⟩ (digits ++ rest) rest :=
      EndsBefore.behind_decimals repeats
        (fun c digit => ⟨_, by simp [step, digit, pushExponent]; rfl⟩) decimals ends
    simp only [List.mem_cons, List.not_mem_nil, or_false] at signs
    rcases signs with rfl | rfl | rfl
    · refine EndsBefore.behind_decimals repeats (fun c digit => ?_) decimals ends
      have plus : c ≠ '+' := by rintro rfl; cases digit
      have minus : c ≠ '-' := by rintro rfl; cases digit
      exact ⟨_, by simp [step, digit, plus, minus, pushExponent]; rfl⟩
    · exact EndsBefore.of_step rfl (behind_sign _)
    · exact EndsBefore.of_step rfl (behind_sign _)

theorem endsBefore_fraction (form : FractionForm fraction) (behind : ExponentForm exponent)
    (terminated : Terminated rest) (phase : scan.phase = .zero ∨ scan.phase = .whole) :
    scan.EndsBefore (fraction ++ (exponent ++ rest)) rest := by
  rcases form with rfl | ⟨digits, decimals, rfl⟩
  · apply endsBefore_exponent behind terminated
    rcases phase with phase | phase
    · exact .inl phase
    · exact .inr (.inl phase)
  · have pointed : scan.step '.' = .ok (some { scan with phase := .point }) := by
      rcases phase with phase | phase <;> simp [step, phase, afterDigits]
    apply EndsBefore.of_step pointed
    exact EndsBefore.behind_decimals (.inr (.inl rfl))
      (fun c digit => ⟨_, by simp [step, digit, pushFraction]; rfl⟩) decimals
      fun numeral => endsBefore_exponent behind terminated (.inr (.inr rfl))

def firstPhase (c : Char) : NumberPhase :=
  if c = '0' then .zero else .whole

theorem start?_digit (digit : c.isDigit = true) :
    ∃ numeral, start? c = some ⟨firstPhase c, numeral⟩ := by
  have minus : c ≠ '-' := by rintro rfl; cases digit
  by_cases zero : c = '0'
  · exact ⟨_, by simp [start?, firstPhase, zero]; rfl⟩
  · exact ⟨_, by simp [start?, firstPhase, zero, minus, digit]; rfl⟩

theorem step_sign (digit : c.isDigit = true) (numeral : Numeral) :
    ∃ next, step ⟨.sign, numeral⟩ c = .ok (some ⟨firstPhase c, next⟩) := by
  by_cases zero : c = '0'
  · exact ⟨_, by simp [step, firstPhase, zero, pushWhole]; rfl⟩
  · exact ⟨_, by simp [step, firstPhase, zero, digit, pushWhole]; rfl⟩

theorem endsBefore_whole (form : IntegerForm whole) (behind : FractionForm fraction)
    (last : ExponentForm exponent) (terminated : Terminated rest) :
    ∃ c digits, whole = c :: digits ∧ c.isDigit = true ∧ ∀ numeral,
      EndsBefore ⟨firstPhase c, numeral⟩ (digits ++ (fraction ++ (exponent ++ rest))) rest := by
  rcases form with rfl | ⟨⟨some, all⟩, head⟩
  · exact ⟨'0', [], rfl, rfl, fun _ => endsBefore_fraction behind last terminated (.inl rfl)⟩
  · obtain ⟨c, digits, rfl⟩ := List.exists_cons_of_ne_nil some
    have other : c ≠ '0' := fun same => head (congrArg Option.some same)
    rw [List.forall_mem_cons] at all
    refine ⟨c, digits, rfl, all.1, ?_⟩
    rw [firstPhase, if_neg other]
    exact EndsBefore.behind_digits (.inl rfl) all.2
      fun _ => endsBefore_fraction behind last terminated (.inr rfl)

end NumberScan

theorem JsonNumber.read {text rest : List Char} (form : JsonNumber text)
    (terminated : Terminated rest) :
    ∃ c behind number, text = c :: behind ∧ NumberScan.start? c = some number ∧
      number.EndsBefore (behind ++ rest) rest := by
  obtain @⟨sign, whole, fraction, exponent, signs, integer, places, power⟩ := form
  obtain ⟨c, digits, rfl, digit, ends⟩ :=
    NumberScan.endsBefore_whole integer places power terminated
  simp only [List.mem_cons, List.not_mem_nil, or_false] at signs
  rcases signs with rfl | rfl
  · obtain ⟨numeral, started⟩ := NumberScan.start?_digit digit
    refine ⟨c, digits ++ fraction ++ exponent, _, rfl, started, ?_⟩
    rw [List.append_assoc, List.append_assoc]
    exact ends numeral
  · obtain ⟨numeral, stepped⟩ := NumberScan.step_sign digit { negative := true }
    refine ⟨'-', c :: digits ++ fraction ++ exponent, _, rfl, rfl, ?_⟩
    rw [List.append_assoc, List.append_assoc]
    exact NumberScan.EndsBefore.of_step stepped (ends numeral)

end TemplateIR
