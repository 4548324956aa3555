import Mathlib.Data.List.Nodup
import TemplateIR.Proofs.Emit.LiteralValue
import TemplateIR.Proofs.Text.EscapeSpelling

/-!
Literals as a code. No written character begins another one, and none begins with the quote, so a
literal can be taken apart again whatever text follows it.
-/
namespace TemplateIR

variable {quote c d : Char} {rest others : List Char}

theorem hexDigit_injective {first second : Nat} (left : first < 16) (right : second < 16)
    (same : hexDigit first = hexDigit second) : first = second := by
  have value := hexValue?_hexDigit left
  rw [same, hexValue?_hexDigit right] at value
  exact (Option.some.inj value).symm

theorem unitEscape_append_cancel {first second : Nat} (left : first < 0x10000)
    (right : second < 0x10000) (same : unitEscape first ++ rest = unitEscape second ++ others) :
    first = second ∧ rest = others := by
  simp only [unitEscape, List.cons_append, List.nil_append, List.cons.injEq, true_and] at same
  obtain ⟨highest, high, low, lowest, behind⟩ := same
  have first_digit := hexDigit_injective (Nat.mod_lt _ (by decide)) (Nat.mod_lt _ (by decide)) highest
  have second_digit := hexDigit_injective (Nat.mod_lt _ (by decide)) (Nat.mod_lt _ (by decide)) high
  have third_digit := hexDigit_injective (Nat.mod_lt _ (by decide)) (Nat.mod_lt _ (by decide)) low
  have fourth_digit := hexDigit_injective (Nat.mod_lt _ (by decide)) (Nat.mod_lt _ (by decide)) lowest
  exact ⟨by omega, behind⟩

/-- A single unit is no half of a pair, so the units of a character begin those of no other one. -/
theorem unicodeEscape_append_cancel
    (same : unicodeEscape c ++ rest = unicodeEscape d ++ others) : c = d ∧ rest = others := by
  have left := toNat_scalar c
  have right := toNat_scalar d
  have inj : c.toNat = d.toNat → c = d := Char.toNat_inj.mp
  simp only [unicodeEscape, utf16Units] at same
  split at same
  · next narrow =>
    split at same
    · next small =>
      simp only [List.flatMap_cons, List.flatMap_nil, List.append_nil] at same
      obtain ⟨unit, behind⟩ := unitEscape_append_cancel narrow small same
      exact ⟨inj unit, behind⟩
    · next wide =>
      simp only [List.flatMap_cons, List.flatMap_nil, List.append_nil, List.append_assoc] at same
      obtain ⟨unit, -⟩ := unitEscape_append_cancel narrow (by omega) same
      omega
  · next wide =>
    split at same
    · next small =>
      simp only [List.flatMap_cons, List.flatMap_nil, List.append_nil, List.append_assoc] at same
      obtain ⟨unit, -⟩ := unitEscape_append_cancel (by omega) small same
      omega
    · next large =>
      simp only [List.flatMap_cons, List.flatMap_nil, List.append_nil, List.append_assoc] at same
      obtain ⟨high, behind⟩ := unitEscape_append_cancel (by omega) (by omega) same
      obtain ⟨low, behind⟩ := unitEscape_append_cancel (by omega) (by omega) behind
      exact ⟨inj (by omega), behind⟩

/-- The characters behind the backslash of an escape. As a quote, one of them would make an escape
and an escaped quote the same. -/
def escapeLetters : List Char :=
  ['\\', 'n', 'r', 't', '0', 'u']

theorem shortForms_injective (free : quote ∉ escapeLetters) {letter : Char}
    (left : (c, letter) ∈ shortForms quote) (right : (d, letter) ∈ shortForms quote) : c = d := by
  have distinct : ((shortForms quote).map Prod.snd).Nodup := by
    simp only [escapeLetters, List.mem_cons, List.not_mem_nil, or_false, not_or] at free
    simp [shortForms, free, eq_comm]
  exact congrArg Prod.fst (List.inj_on_of_nodup_map distinct left right rfl)

theorem shortForms_ne_u (free : quote ∉ escapeLetters) {letter : Char}
    (listed : (c, letter) ∈ shortForms quote) : letter ≠ 'u' := by
  have other : quote ≠ 'u' := fun same => free (by simp [same, escapeLetters])
  have each : ∀ pair ∈ shortForms quote, pair.2 ≠ 'u' := by simp [shortForms, other]
  exact each _ listed

theorem literalChar_append_cancel (free : quote ∉ escapeLetters)
    (same : literalChar quote c ++ rest = literalChar quote d ++ others) : c = d ∧ rest = others := by
  obtain ⟨behind_c, escape_c⟩ := exists_unicodeEscape c
  obtain ⟨behind_d, escape_d⟩ := exists_unicodeEscape d
  obtain ⟨letter, listed, written⟩ | ⟨-, written⟩ | ⟨shown, written⟩ := literalChar_cases quote c
  · obtain ⟨second, listed', written'⟩ | ⟨-, written'⟩ | ⟨shown', written'⟩ :=
      literalChar_cases quote d
    · rw [written, written'] at same
      simp only [List.cons_append, List.nil_append, List.cons.injEq, true_and] at same
      obtain ⟨rfl, behind⟩ := same
      exact ⟨shortForms_injective free listed listed', behind⟩
    · rw [written, written', escape_d] at same
      simp only [List.cons_append, List.nil_append, List.cons.injEq, true_and] at same
      exact absurd same.1 (shortForms_ne_u free listed)
    · rw [written, written'] at same
      exact absurd (List.cons.inj same).1.symm shown'.backslash
  · obtain ⟨second, listed', written'⟩ | ⟨-, written'⟩ | ⟨shown', written'⟩ :=
      literalChar_cases quote d
    · rw [written, written', escape_c] at same
      simp only [List.cons_append, List.nil_append, List.cons.injEq, true_and] at same
      exact absurd same.1.symm (shortForms_ne_u free listed')
    · rw [written, written'] at same
      exact unicodeEscape_append_cancel same
    · rw [written, written', escape_c] at same
      exact absurd (List.cons.inj same).1.symm shown'.backslash
  · obtain ⟨second, listed', written'⟩ | ⟨-, written'⟩ | ⟨shown', written'⟩ :=
      literalChar_cases quote d
    · rw [written, written'] at same
      exact absurd (List.cons.inj same).1 shown.backslash
    · rw [written, written', escape_d] at same
      exact absurd (List.cons.inj same).1 shown.backslash
    · rw [written, written'] at same
      exact List.cons.inj same

theorem literalChar_ne_quote (backslash : quote ≠ '\\')
    (same : literalChar quote c ++ rest = quote :: others) : False := by
  obtain ⟨behind, escape⟩ := exists_unicodeEscape c
  obtain ⟨letter, -, written⟩ | ⟨-, written⟩ | ⟨shown, written⟩ := literalChar_cases quote c
  · rw [written] at same
    exact backslash (List.cons.inj same).1.symm
  · rw [written, escape] at same
    exact backslash (List.cons.inj same).1.symm
  · rw [written] at same
    exact shown.delimiter (List.cons.inj same).1

/-- A literal ends at its first unescaped quote. -/
theorem literalBody_append_cancel (free : quote ∉ escapeLetters) {first second : List Char}
    (same : literalBody quote first ++ quote :: rest = literalBody quote second ++ quote :: others) :
    first = second ∧ rest = others := by
  have backslash : quote ≠ '\\' := fun same => free (by simp [same, escapeLetters])
  induction first generalizing second with
  | nil =>
      cases second with
      | nil => exact ⟨rfl, (List.cons.inj same).2⟩
      | cons d second =>
          rw [literalBody, literalBody, List.flatMap_cons, List.append_assoc] at same
          exact (literalChar_ne_quote backslash same.symm).elim
  | cons c first ih =>
      cases second with
      | nil =>
          rw [literalBody, literalBody, List.flatMap_cons, List.append_assoc] at same
          exact (literalChar_ne_quote backslash same).elim
      | cons d second =>
          rw [literalBody, literalBody, List.flatMap_cons, List.flatMap_cons, List.append_assoc,
            List.append_assoc] at same
          obtain ⟨rfl, behind⟩ := literalChar_append_cancel free same
          obtain ⟨rfl, tail⟩ := ih behind
          exact ⟨rfl, tail⟩

/-- A literal can be cut off the front of any text, whatever follows it: both the value and what
follows are determined. -/
theorem quoteLiteral_append_inj (free : quote ∉ escapeLetters) {first second front back : String} :
    quoteLiteral first quote ++ front = quoteLiteral second quote ++ back ↔
      first = second ∧ front = back := by
  constructor
  · intro same
    have texts := congrArg String.toList same
    rw [String.toList_append, String.toList_append, quoteLiteral, quoteLiteral,
      String.toList_ofList, String.toList_ofList, List.append_assoc, List.append_assoc,
      List.cons_append, List.cons_append] at texts
    obtain ⟨values, behind⟩ := literalBody_append_cancel free (List.cons.inj texts).2
    exact ⟨String.toList_injective values, String.toList_injective behind⟩
  · rintro ⟨rfl, rfl⟩
    rfl

/-- Two empty literals are not the literal of two quotes, also where the quote is a hexadecimal
digit. -/
theorem quoteLiteral_append_inj_digit :
    quoteLiteral "" 'D' ++ quoteLiteral "" 'D' ≠ quoteLiteral "DD" 'D' ++ "" := by
  intro same
  exact absurd ((quoteLiteral_append_inj (by decide)).mp same).1 (by decide)

-- With one of the letters as the quote, an escape and an escaped quote look the same.
example : quoteLiteral "\n" 'n' = quoteLiteral "n" 'n' := by cbv

end TemplateIR
