import TemplateIR.Json.StringScan
import TemplateIR.Proofs.Json.Grammar

/-!
Reading a string back. A string that is wanted gives the text of which its code units are the UTF-16
form, and one that is skipped is read to its closing quote whatever its escapes denote.
-/
namespace TemplateIR

theorem utf16Units_head_not_low {c : Char} {low : Nat} {units others : List Nat}
    (isLow : isLowSurrogate low = true) : utf16Units c ++ units ≠ low :: others := by
  have valid := toNat_scalar c
  simp only [isLowSurrogate, Bool.and_eq_true, decide_eq_true_eq] at isLow
  intro same
  simp only [utf16Units] at same
  split at same
  · obtain ⟨rfl, -⟩ := List.cons.inj same
    omega
  · obtain ⟨rfl, -⟩ := List.cons.inj same
    omega

/-- The units of a character begin those of no other one. -/
theorem utf16Units_append_cancel {c d : Char} {units others : List Nat}
    (same : utf16Units c ++ units = utf16Units d ++ others) : c = d ∧ units = others := by
  have left := toNat_scalar c
  have right := toNat_scalar d
  simp only [utf16Units] at same
  split at same <;> split at same <;>
    simp only [List.cons_append, List.nil_append, List.cons.injEq] at same
  · exact ⟨Char.toNat_inj.mp same.1, same.2⟩
  · omega
  · omega
  · exact ⟨Char.toNat_inj.mp (by omega), same.2.2⟩

theorem HexDigit.value {value : Nat} {c : Char} (digit : HexDigit value c) :
    hexValue? c = some value ∧ c.utf8Size = 1 := by
  have each : ∀ value < 16, ∀ c ∈ [hexDigit value, (hexDigit value).toLower],
      hexValue? c = some value ∧ c.utf8Size = 1 := by decide
  exact each value digit.1 c digit.2

/-- The digits are collected until all four are there. -/
theorem HexForm.collected {unit : Nat} {digits : List Char} (form : HexForm unit digits) :
    ∃ w x y z, digits = [w, x, y, z] ∧ isShort [w] = true ∧ isShort [w, x] = true ∧
      isShort [w, x, y] = true ∧ isShort [w, x, y, z] = false ∧
      codeUnit? [w, x, y, z] = some unit := by
  cases form with
  | @digits a b c d w x y z first second third fourth =>
    obtain ⟨first_value, first_size⟩ := first.value
    obtain ⟨second_value, second_size⟩ := second.value
    obtain ⟨third_value, third_size⟩ := third.value
    obtain ⟨fourth_value, fourth_size⟩ := fourth.value
    refine ⟨w, x, y, z, rfl, ?_, ?_, ?_, ?_, ?_⟩
    all_goals
      simp [isShort, codeUnit?, first_size, second_size, third_size, fourth_size, first_value,
        second_value, third_value, fourth_value]
    omega

namespace StringScan

variable {decode : Bool} {text : String} {units : List Nat} {body digits rest : List Char}

/-- Reads to the closing quote: the text of the string, and what comes behind it. -/
def run (decode : Bool) (scan : StringScan) : List Char → Except FormFault (String × List Char)
  | [] => .error .unfinished
  | c :: rest =>
    match scan.step decode c with
    | .error fault => .error fault
    | .ok (.more scan) => run decode scan rest
    | .ok (.closed text) => .ok (text, rest)

/-- A reader that hands its characters on to this one goes on behind the string where it ends. -/
theorem run_follow {β : Type} (other : StringScan → List Char → β)
    (behind : String → List Char → β)
    (more : ∀ {scan next : StringScan} {c : Char} {rest : List Char},
      scan.step decode c = .ok (.more next) → other scan (c :: rest) = other next rest)
    (closed : ∀ {scan : StringScan} {c : Char} {last : String} {rest : List Char},
      scan.step decode c = .ok (.closed last) → other scan (c :: rest) = behind last rest)
    {scan : StringScan} {front : List Char} (read : scan.run decode front = .ok (text, rest)) :
    other scan front = behind text rest := by
  induction front generalizing scan with
  | nil => cases read
  | cons c front ih =>
      rw [run] at read
      cases stepped : scan.step decode c with
      | error fault => simp [stepped] at read
      | ok next =>
          simp only [stepped] at read
          cases next with
          | more next => rw [more stepped, ih read]
          | closed last =>
              cases read
              exact closed stepped

theorem run_quote : run decode ⟨text, .plain⟩ ('\"' :: rest) = .ok (text, rest) := rfl

theorem run_raw {c : Char} (shown : 0x20 ≤ c.toNat) (quote : c ≠ '\"') (backslash : c ≠ '\\') :
    run decode ⟨text, .plain⟩ (c :: rest) = run decode ⟨text.push c, .plain⟩ rest := by
  simp [run, step, push, quote, backslash, Nat.not_lt.mpr shown]

theorem run_letter {letter c : Char} (listed : (letter, c) ∈ jsonEscapes) :
    run decode ⟨text, .plain⟩ ('\\' :: letter :: rest) = run decode ⟨text.push c, .plain⟩ rest := by
  have each : ∀ pair ∈ jsonEscapes, pair.1 ≠ 'u' ∧ escapedChar? pair.1 = some pair.2 := by decide
  obtain ⟨other, escaped⟩ := each _ listed
  simp [run, step, goTo, other, escaped, push]

theorem run_unit {unit : Nat} (form : HexForm unit digits) (next : StringScan)
    (after : ∀ phase, afterUnit ⟨text, phase⟩ decode unit = .ok (.more next)) :
    run decode ⟨text, .plain⟩ ('\\' :: 'u' :: digits ++ rest) = run decode next rest := by
  obtain ⟨w, x, y, z, rfl, one, two, three, four, unit_value⟩ := form.collected
  simp [run, step, goTo, one, two, three, four, unit_value, after]

theorem run_low {high low : Nat} (form : HexForm low digits) (isLow : isLowSurrogate low = true) :
    run decode ⟨text, .pairBackslash high⟩ ('\\' :: 'u' :: digits ++ rest) =
      run decode ⟨text.push (pairedChar high low), .plain⟩ rest := by
  obtain ⟨w, x, y, z, rfl, one, two, three, four, unit_value⟩ := form.collected
  simp [run, step, goTo, one, two, three, four, unit_value, isLow, push]

theorem run_skipped (form : JsonString units body) (text : String) (rest : List Char) :
    ∃ last, run false ⟨text, .plain⟩ (body ++ '\"' :: rest) = .ok (last, rest) := by
  induction form generalizing text with
  | nil => exact ⟨text, rfl⟩
  | raw shown quote backslash _ ih =>
      rw [List.cons_append, run_raw shown quote backslash]
      exact ih _
  | letter listed _ ih =>
      rw [List.cons_append, List.cons_append, run_letter listed]
      exact ih _
  | unit hex _ ih =>
      rw [List.append_assoc, run_unit hex ⟨_, .plain⟩ fun _ => rfl]
      exact ih _

/-- A character in one or two escapes. -/
theorem run_escaped {c : Char} {unit : Nat} {others : List Nat} (hex : HexForm unit digits)
    (form : JsonString units body) (same : utf16Units c ++ others = unit :: units) :
    ∃ remaining, JsonString others remaining ∧ ∀ text rest,
      run true ⟨text, .plain⟩ ('\\' :: 'u' :: digits ++ body ++ rest) =
        run true ⟨text.push c, .plain⟩ (remaining ++ rest) := by
  have valid := toNat_scalar c
  simp only [utf16Units] at same
  split at same
  · obtain ⟨rfl, rfl⟩ := List.cons.inj same
    refine ⟨body, form, fun text rest => ?_⟩
    rw [List.append_assoc, run_unit hex ⟨text.push c, .plain⟩]
    intro phase
    have notHigh : isHighSurrogate c.toNat = false := by
      simp only [isHighSurrogate, Bool.and_eq_false_iff, decide_eq_false_iff_not]
      omega
    have notLow : isLowSurrogate c.toNat = false := by
      simp only [isLowSurrogate, Bool.and_eq_false_iff, decide_eq_false_iff_not]
      omega
    simp [afterUnit, notHigh, notLow, push]
  · obtain ⟨rfl, behind⟩ := List.cons.inj same
    have isHigh : isHighSurrogate (0xD800 + (c.toNat - 0x10000) / 0x400) = true := by
      simp only [isHighSurrogate, Bool.and_eq_true, decide_eq_true_eq]
      omega
    have isLow : isLowSurrogate (0xDC00 + (c.toNat - 0x10000) % 0x400) = true := by
      simp only [isLowSurrogate, Bool.and_eq_true, decide_eq_true_eq]
      omega
    have joined : pairedChar (0xD800 + (c.toNat - 0x10000) / 0x400)
        (0xDC00 + (c.toNat - 0x10000) % 0x400) = c := by
      rw [pairedChar]
      apply (congrArg Char.ofNat _).trans (Char.ofNat_toNat c)
      omega
    -- The second unit must come from an escape as well, since no character begins with it.
    cases form with
    | nil => cases behind
    | raw => exact absurd behind.symm (utf16Units_head_not_low isLow)
    | letter => exact absurd behind.symm (utf16Units_head_not_low isLow)
    | @unit _ second _ remaining lower form =>
        obtain ⟨rfl, rfl⟩ := List.cons.inj behind
        refine ⟨remaining, form, fun text rest => ?_⟩
        rw [List.append_assoc, List.append_assoc, run_unit hex ⟨text, .pairBackslash _⟩,
          run_low lower isLow, joined]
        intro phase
        simp [afterUnit, isHigh, goTo]

/-- A wanted string gives the text that its code units denote. -/
theorem run_wanted {value : List Char} (form : JsonString (value.flatMap utf16Units) body)
    (text : String) (rest : List Char) :
    run true ⟨text, .plain⟩ (body ++ '\"' :: rest) = .ok (text ++ String.ofList value, rest) := by
  -- Along the text rather than the spelling: one character may take two escapes.
  induction value generalizing text body with
  | nil =>
      rw [List.flatMap_nil] at form
      generalize same : [] = units at form
      cases form with
      | nil => rw [List.nil_append, run_quote, String.ofList_nil, String.append_empty]
      | raw => exact absurd (List.append_eq_nil_iff.mp same.symm).1 (utf16Units_ne_nil _)
      | letter => exact absurd (List.append_eq_nil_iff.mp same.symm).1 (utf16Units_ne_nil _)
      | unit => cases same
  | cons c value ih =>
      have pushed : text ++ String.ofList (c :: value) = text.push c ++ String.ofList value := by
        rw [String.ofList_cons, String.push_eq_append, String.append_assoc]
      rw [List.flatMap_cons] at form
      generalize same : utf16Units c ++ value.flatMap utf16Units = units at form
      cases form with
      | nil => exact absurd (List.append_eq_nil_iff.mp same).1 (utf16Units_ne_nil _)
      | raw shown quote backslash form =>
          obtain ⟨rfl, rfl⟩ := utf16Units_append_cancel same
          rw [List.cons_append, run_raw shown quote backslash, ih form, pushed]
      | letter listed form =>
          obtain ⟨rfl, rfl⟩ := utf16Units_append_cancel same
          rw [List.cons_append, List.cons_append, run_letter listed, ih form, pushed]
      | unit hex form =>
          obtain ⟨remaining, form, read⟩ := run_escaped hex form same
          rw [read, ih form, pushed]

end StringScan
end TemplateIR
