import Mathlib
import TemplateIR.Text.LowerCase

/-!
Lower case beside that of ASCII. A text whose lower case is a word of ASCII is in ASCII itself, as
long as the word has no k: the Kelvin sign is the one character from outside that ends up in ASCII.
-/
namespace TemplateIR

variable {c : Char} {text word : List Char} {run : CaseRun} {code : Nat}

/-- The capital letters of ASCII. -/
def asciiCapitals : CaseRun := ⟨0x41, 0x5A, 1, 32⟩

def kelvinSign : CaseRun := ⟨0x212A, 0x212A, 1, -8383⟩

/-- Behind ASCII all letters but the Kelvin sign are shifted to other characters behind ASCII, none
of them to where surrogates stand. -/
theorem caseRuns_cases : ∀ run ∈ caseRuns,
    run = asciiCapitals ∨
      0x80 ≤ run.first ∧
        (run = kelvinSign ∨
          0x80 ≤ run.first + run.shift ∧ run.last + run.shift < 0xD800 ∨
          0xE000 ≤ run.first + run.shift ∧ run.last + run.shift < 0x110000) := by
  decide +kernel

theorem bounds_of_find? (found : caseRuns.find? (·.contains code) = some run) :
    run.first ≤ code ∧ code ≤ run.last := by
  have within := List.find?_some found
  simp only [CaseRun.contains, Bool.and_eq_true, decide_eq_true_eq] at within
  exact within.1

theorem isUpper_iff : c.isUpper = true ↔ 0x41 ≤ c.toNat ∧ c.toNat ≤ 0x5A := by
  simp only [Char.isUpper, decide_eq_true_eq, ge_iff_le, UInt32.le_iff_toNat_le]
  rfl

theorem lowerChar_of_ascii (ascii : c.toNat < 0x80) : lowerChar c = [c.toLower] := by
  have dotted : c.toNat ≠ 0x130 := by omega
  rw [lowerChar, if_neg dotted]
  cases found : caseRuns.find? (·.contains c.toNat) with
  | some run =>
      have bounds := bounds_of_find? found
      rcases caseRuns_cases run (List.mem_of_find?_eq_some found) with rfl | ⟨beyond, -⟩
      · rw [Char.toLower_eq_of_isUpper (isUpper_iff.mpr bounds)]
        rfl
      · omega
  | none =>
      have outside := List.find?_eq_none.mp found asciiCapitals List.mem_cons_self
      rw [Char.toLower_eq_of_not_isUpper]
      intro capital
      obtain ⟨above, below⟩ := isUpper_iff.mp capital
      apply outside
      simp [CaseRun.contains, asciiCapitals, above, below, Nat.mod_one]

theorem exists_mem_lowerChar (beyond : 0x80 ≤ c.toNat) :
    ∃ d ∈ lowerChar c, d = 'k' ∨ 0x80 ≤ d.toNat := by
  rw [lowerChar]
  split
  · exact ⟨Char.ofNat 0x307, by simp, .inr (by decide)⟩
  · split
    · next run found =>
      obtain ⟨above, below⟩ := bounds_of_find? found
      refine ⟨_, List.mem_singleton_self _, ?_⟩
      rcases caseRuns_cases run (List.mem_of_find?_eq_some found) with rfl | ⟨-, rfl | shifted⟩
      · have capital : c.toNat ≤ 0x5A := below
        omega
      · have code : c.toNat = 0x212A := Nat.le_antisymm below above
        rw [code]
        exact .inl rfl
      · have valid : (c.toNat + run.shift).toNat.isValidChar := by
          rw [Nat.isValidChar]
          omega
        rw [Char.toNat_ofNat, if_pos valid]
        omega
    · exact ⟨c, List.mem_singleton_self c, .inr beyond⟩

theorem toNat_of_toLower (ascii : c.toLower.toNat < 0x80) : c.toNat < 0x80 := by
  by_contra beyond
  have small : ¬c.isUpper = true := by
    rw [isUpper_iff]
    omega
  rw [Char.toLower_eq_of_not_isUpper small] at ascii
  exact beyond ascii

theorem lowerWithin_of_ne (other : c ≠ capitalSigma) (before behind : List Char) :
    lowerWithin before c behind = lowerChar c :=
  if_neg other

/-- Each form of the sigma is behind ASCII. -/
theorem exists_mem_lowerWithin (beyond : 0x80 ≤ c.toNat) (before behind : List Char) :
    ∃ d ∈ lowerWithin before c behind, d = 'k' ∨ 0x80 ≤ d.toNat := by
  rw [lowerWithin]
  split
  · refine ⟨_, List.mem_singleton_self _, .inr ?_⟩
    split <;> decide
  · exact exists_mem_lowerChar beyond

theorem lowerWithin_subset (member : c ∈ text) (before : List Char) :
    ∃ front back, lowerWithin front c back ⊆ lowerCaseBehind before text := by
  induction text generalizing before with
  | nil => cases member
  | cons first rest ih =>
      rw [lowerCaseBehind]
      rcases List.mem_cons.mp member with rfl | member
      · exact ⟨before, rest, List.subset_append_left _ _⟩
      · obtain ⟨front, back, within⟩ := ih member (first :: before)
        exact ⟨front, back, List.subset_append_of_subset_right _ within⟩

theorem lowerCaseBehind_of_ascii (ascii : ∀ c ∈ text, c.toNat < 0x80) (before : List Char) :
    lowerCaseBehind before text = text.map Char.toLower := by
  induction text generalizing before with
  | nil => rfl
  | cons c rest ih =>
      rw [List.forall_mem_cons] at ascii
      have other : c ≠ capitalSigma := by
        rintro rfl
        exact absurd ascii.1 (by decide)
      rw [lowerCaseBehind, lowerWithin_of_ne other, lowerChar_of_ascii ascii.1, ih ascii.2]
      rfl

/-- For most words of ASCII it makes no difference whether a text is put in lower case by Unicode or
only where its letters are in ASCII. -/
theorem lowerCase_eq_iff (plain : ∀ d ∈ word, d ≠ 'k' ∧ d.toNat < 0x80) :
    lowerCase text = word ↔ text.map Char.toLower = word := by
  constructor
  · rintro rfl
    refine (lowerCaseBehind_of_ascii (fun c member => ?_) []).symm
    by_contra beyond
    obtain ⟨front, back, within⟩ := lowerWithin_subset member []
    obtain ⟨d, made, outside⟩ := exists_mem_lowerWithin (Nat.not_lt.mp beyond) front back
    obtain ⟨other, ascii⟩ := plain d (within made)
    rcases outside with kelvin | outside
    · exact other kelvin
    · omega
  · rintro rfl
    refine lowerCaseBehind_of_ascii (fun c member => toNat_of_toLower ?_) []
    exact (plain _ (List.mem_map_of_mem member)).2

end TemplateIR
