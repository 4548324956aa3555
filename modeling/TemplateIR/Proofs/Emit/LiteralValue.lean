import TemplateIR.Emit.Literal
import TemplateIR.Proofs.Emit.LiteralReading

/-!
What an emitted literal denotes. Every character is written such that it is read back, except that
the short escape of NUL runs into a decimal digit behind it; the text is then no literal at all.
-/
namespace TemplateIR

open LiteralState

/-- Whether a decimal digit stands right behind a NUL. -/
def digitBehindNul : List Char → Bool
  | first :: second :: rest =>
    (first = '\x00' && second.isDigit) || digitBehindNul (second :: rest)
  | _ => false

theorem digitBehindNul_cons {c : Char} (other : c ≠ '\x00') (rest : List Char) :
    digitBehindNul (c :: rest) = digitBehindNul rest := by
  cases rest with
  | nil => rfl
  | cons second rest => simp [digitBehindNul, other]

theorem digitBehindNul_nul {c : Char} (other : c.isDigit = false) (rest : List Char) :
    digitBehindNul ('\x00' :: c :: rest) = digitBehindNul (c :: rest) := by
  simp [digitBehindNul, other]

variable {quote c : Char}

/-- The characters that are written as a backslash and a letter, and that letter. -/
def shortForms (quote : Char) : List (Char × Char) :=
  [('\n', 'n'), ('\r', 'r'), ('\t', 't'), ('\\', '\\'), ('\x00', '0'), (quote, quote)]

/-- A character that a literal shows as it is. -/
structure ShownIn (quote c : Char) : Prop where
  backslash : c ≠ '\\'
  delimiter : c ≠ quote
  visible : 0x20 ≤ c.toNat ∧ c.toNat ≠ 0x7F ∧ isFormat c = false
  separator : c.toNat ≠ 0x2028 ∧ c.toNat ≠ 0x2029

/-- A character is written behind a backslash, by its code units, or as it is. -/
theorem literalChar_cases (quote c : Char) :
    (∃ letter, (c, letter) ∈ shortForms quote ∧ literalChar quote c = ['\\', letter]) ∨
      (c ≠ '\x00' ∧ literalChar quote c = unicodeEscape c) ∨
      (ShownIn quote c ∧ literalChar quote c = [c]) := by
  have nonzero : ¬c.toNat = 0 → c ≠ '\x00' := by
    rintro nonzero rfl
    exact nonzero rfl
  unfold literalChar
  split_ifs with newline carriage tab backslash nul delimiter separator hidden
  · exact .inl ⟨'n', by simp [shortForms, newline], rfl⟩
  · exact .inl ⟨'r', by simp [shortForms, carriage], rfl⟩
  · exact .inl ⟨'t', by simp [shortForms, tab], rfl⟩
  · exact .inl ⟨'\\', by simp [shortForms, backslash], rfl⟩
  · obtain rfl : c = '\x00' := Char.ext (UInt32.toNat.inj nul)
    exact .inl ⟨'0', by simp [shortForms], rfl⟩
  · exact .inl ⟨c, by simp [shortForms, delimiter], rfl⟩
  · exact .inr (.inl ⟨nonzero nul, rfl⟩)
  · exact .inr (.inl ⟨nonzero nul, rfl⟩)
  · simp only [Bool.or_eq_true, decide_eq_true_eq, not_or, Bool.not_eq_true, Nat.not_lt]
      at separator hidden
    exact .inr (.inr ⟨⟨backslash, delimiter, ⟨hidden.1.1, hidden.1.2, hidden.2⟩, separator⟩, rfl⟩)

theorem literalChar_of_shown (shown : ShownIn quote c) : literalChar quote c = [c] := by
  have apart (other : Char) (control : other.toNat < 0x20) : c ≠ other := by
    rintro rfl
    exact Nat.not_lt.mpr shown.visible.1 control
  have nul : ¬c.toNat = 0 := by
    have visible := shown.visible.1
    omega
  have separator : ¬(c.toNat = 0x2028 || c.toNat = 0x2029) = true := by
    simp [shown.separator]
  have hidden : ¬(c.toNat < 0x20 || c.toNat = 0x7F || isFormat c) = true := by
    simp [shown.visible]
  rw [literalChar, if_neg (apart '\n' (by decide)), if_neg (apart '\r' (by decide)),
    if_neg (apart '\t' (by decide)), if_neg shown.backslash, if_neg nul, if_neg shown.delimiter,
    if_neg separator, if_neg hidden]

theorem literalChar_digit (delimits : quote = '\'' ∨ quote = '\"') (digit : c.isDigit = true) :
    literalChar quote c = [c] := by
  have code : 0x30 ≤ c.toNat ∧ c.toNat ≤ 0x39 := by
    simpa [Char.isDigit, UInt32.le_iff_toNat_le] using digit
  have apart : ∀ other : Char, other.toNat < 0x30 ∨ 0x39 < other.toNat → c ≠ other := by
    rintro other outside rfl
    omega
  have unquoted : c ≠ quote := by
    rcases delimits with rfl | rfl
    · exact apart _ (by decide)
    · exact apart _ (by decide)
  have visible : isFormat c = false := by
    rw [isFormat, isFormatCode, if_pos (by omega)]
  exact literalChar_of_shown ⟨apart _ (by decide), unquoted, ⟨by omega, by omega, visible⟩,
    by omega, by omega⟩

theorem literalChar_head (other : c.isDigit = false) :
    ∃ head rest, literalChar quote c = head :: rest ∧ head.isDigit = false := by
  obtain ⟨letter, -, written⟩ | ⟨-, written⟩ | ⟨-, written⟩ := literalChar_cases quote c
  · exact ⟨'\\', [letter], written, rfl⟩
  · obtain ⟨first, others, units⟩ : ∃ first others, utf16Units c = first :: others := by
      change ∃ first others, codeUnits c.toNat = first :: others
      unfold codeUnits
      split
      · exact ⟨_, _, rfl⟩
      · exact ⟨_, _, rfl⟩
    rw [unicodeEscape, units, List.flatMap_cons] at written
    exact ⟨'\\', _, written, rfl⟩
  · exact ⟨c, [], written, other⟩

def LiteralState.behind (c : Char) : LiteralState :=
  if c = '\x00' then .behindNul else .between

theorem read_shortForm (delimits : quote = '\'' ∨ quote = '\"') {letter : Char}
    (listed : (c, letter) ∈ shortForms quote) :
    read quote .between ['\\', letter] = some (utf16Units c, .behind c) := by
  have backslash : LiteralState.between.step quote '\\' = some ([], .escaped) := rfl
  have each : ∀ pair ∈ shortForms '\'' ++ shortForms '\"',
      LiteralState.escape pair.2 = some (utf16Units pair.1, .behind pair.1) := by
    decide
  have escaped : LiteralState.escaped.step quote letter = some (utf16Units c, .behind c) := by
    rcases delimits with rfl | rfl
    · exact each (c, letter) (List.mem_append_left _ listed)
    · exact each (c, letter) (List.mem_append_right _ listed)
  exact read_cons backslash (read_singleton escaped)

/-- Behind a whole character, what is written for the next one denotes it. -/
theorem read_literalChar (delimits : quote = '\'' ∨ quote = '\"') (c : Char) :
    read quote .between (literalChar quote c) = some (utf16Units c, .behind c) := by
  obtain ⟨letter, listed, written⟩ | ⟨nonzero, written⟩ | ⟨shown, written⟩ :=
    literalChar_cases quote c
  · rw [written]
    exact read_shortForm delimits listed
  · rw [written, read_unicodeEscape, LiteralState.behind, if_neg nonzero]
  · have apart : ∀ other : Char, other.toNat < 0x20 → c ≠ other := by
      rintro other control rfl
      have visible := shown.visible.1
      omega
    have raw : LiteralState.between.step quote c = some (utf16Units c, .between) := by
      simp [step, plain, shown.backslash, shown.delimiter, apart '\n' (by decide),
        apart '\r' (by decide)]
    rw [written, LiteralState.behind, if_neg (apart '\x00' (by decide))]
    exact read_singleton raw

/-- Behind the escape of NUL, anything but a digit is read as behind any other character. -/
theorem value?_behindNul (other : c.isDigit = false) (rest : List Char) :
    value? quote .behindNul (c :: rest) = value? quote .between (c :: rest) := by
  have same : LiteralState.behindNul.step quote c = LiteralState.between.step quote c := by
    simp [step, other]
  simp only [value?, LiteralState.read, same]

theorem value?_literalBody (delimits : quote = '\'' ∨ quote = '\"') (value : List Char) :
    value? quote .between (literalBody quote value) =
        (if digitBehindNul value then none else some (value.flatMap utf16Units)) ∧
      value? quote .behindNul (literalBody quote value) =
        (if digitBehindNul ('\x00' :: value) then none else some (value.flatMap utf16Units)) := by
  -- A NUL leads from the first place of the reader to the second, anything else back to the first,
  -- so neither half can be had without the other.
  induction value with
  | nil => exact ⟨rfl, rfl⟩
  | cons c rest ih =>
      have split : literalBody quote (c :: rest) = literalChar quote c ++ literalBody quote rest :=
        List.flatMap_cons
      have whole : value? quote .between (literalBody quote (c :: rest)) =
          (if digitBehindNul (c :: rest) then none
            else some ((c :: rest).flatMap utf16Units)) := by
        rw [split, value?_append (read_literalChar delimits c), List.flatMap_cons]
        by_cases nul : c = '\x00'
        · subst nul
          rw [LiteralState.behind, if_pos rfl, ih.2]
          split <;> rfl
        · rw [LiteralState.behind, if_neg nul, ih.1, digitBehindNul_cons nul]
          split <;> rfl
      refine ⟨whole, ?_⟩
      cases digit : c.isDigit with
      | true =>
          have refused : LiteralState.behindNul.step quote c = none := by
            simp [step, digit]
          have found : digitBehindNul ('\x00' :: c :: rest) = true := by
            simp [digitBehindNul, digit]
          rw [split, literalChar_digit delimits digit, if_pos found]
          exact value?_of_refused refused
      | false =>
          rw [digitBehindNul_nul digit, ← whole, split]
          obtain ⟨head, tail, written, other⟩ := literalChar_head digit
          rw [written]
          exact value?_behindNul other _

/-- A literal denotes exactly the value that it was made for, unless a decimal digit stands right
behind a NUL in it; then it is no literal of strict code. -/
theorem literalValue?_quoteLiteral (value : String) (quote : Char)
    (delimits : quote = '\'' ∨ quote = '\"') :
    literalValue? (quoteLiteral value quote).toList =
      if digitBehindNul value.toList then none else some (value.toList.flatMap utf16Units) := by
  have text : (quoteLiteral value quote).toList =
      quote :: (literalBody quote value.toList ++ [quote]) := String.toList_ofList
  rw [text, literalValue?, List.getLast?_append, List.dropLast_concat, if_pos ⟨delimits, rfl⟩]
  exact (value?_literalBody delimits value.toList).1

theorem literalValue?_quoteLiteral_nulOne :
    quoteLiteral "\x001" '\'' = "'\\01'" ∧
      literalValue? (quoteLiteral "\x001" '\'').toList = none := by
  refine ⟨rfl, ?_⟩
  rw [literalValue?_quoteLiteral "\x001" '\'' (.inl rfl)]
  rfl

end TemplateIR
