import Mathlib.Algebra.Ring.Parity
import Mathlib.Data.List.DropRight
import TemplateIR.Proofs.Emit.EscapedText
import TemplateIR.Proofs.Emit.LiteralReading

/-!
What the body of a literal denotes when its format characters are escaped. An escape denotes the
character that it stands for, but not behind a backslash that opens an escape of its own: this one
takes the backslash of the new escape, whose other characters are then read as they are.
-/
namespace TemplateIR

variable {quote c : Char}

theorem hexValue?_of_isFormat (format : isFormat c = true) : hexValue? c = none := by
  have decimal : ¬c ≤ '9' := not_le_of_isFormat format (by decide)
  have small : ¬c ≤ 'f' := not_le_of_isFormat format (by decide)
  have capital : ¬c ≤ 'F' := not_le_of_isFormat format (by decide)
  simp [hexValue?, decimal, small, capital]

/-- The number of backslashes at the end of `front`. If it is even, a backslash that comes next is
not escaped itself. -/
def backslashRun (front : List Char) : Nat :=
  (front.rtakeWhile (· = '\\')).length

theorem odd_backslashRun_concat {front : List Char} :
    Odd (backslashRun (front ++ [c])) ↔ c = '\\' ∧ Even (backslashRun front) := by
  rw [backslashRun, List.rtakeWhile_concat]
  split
  · next backslash =>
    rw [decide_eq_true_eq] at backslash
    rw [List.length_append, List.length_singleton, Nat.odd_add_one, Nat.not_odd_iff_even]
    simp [backslash, backslashRun]
  · next other =>
    rw [decide_eq_true_eq] at other
    simp [other]

/-- Whether a format character in `rest` stands right behind an unescaped backslash, where `front`
comes before `rest`. -/
def EscapesFormat (front rest : List Char) : Prop :=
  ∃ before c behind, rest = before ++ c :: behind ∧ isFormat c = true ∧
    Odd (backslashRun (front ++ before))

theorem escapesFormat_cons_iff {front rest : List Char} :
    EscapesFormat front (c :: rest) ↔
      (Odd (backslashRun front) ∧ isFormat c = true) ∨ EscapesFormat (front ++ [c]) rest := by
  refine ⟨?_, ?_⟩
  · intro escapes
    obtain ⟨before, d, behind, split, format, odd⟩ := escapes
    cases before with
    | nil =>
        obtain ⟨rfl, rfl⟩ := List.cons.inj split
        rw [List.append_nil] at odd
        exact .inl ⟨odd, format⟩
    | cons e before =>
        obtain ⟨rfl, rfl⟩ := List.cons.inj split
        exact .inr ⟨before, d, behind, rfl, format, by rwa [List.append_assoc]⟩
  · intro escapes
    obtain ⟨odd, format⟩ | ⟨before, d, behind, rfl, format, odd⟩ := escapes
    · exact ⟨[], c, rest, rfl, format, by rwa [List.append_nil]⟩
    · exact ⟨c :: before, d, behind, rfl, format, by rwa [List.append_assoc] at odd⟩

theorem not_escapesFormat_nil_iff {text : List Char} :
    ¬EscapesFormat [] text ↔ ∀ front c rest, text = front ++ '\\' :: c :: rest →
      Even (backslashRun front) → isFormat c = false := by
  refine ⟨?_, ?_⟩
  · intro free front c rest split even
    rw [← Bool.not_eq_true]
    intro format
    exact free ⟨front ++ ['\\'], c, rest, by rw [split, List.append_assoc]; rfl, format,
      odd_backslashRun_concat.mpr ⟨rfl, even⟩⟩
  · intro free escapes
    obtain ⟨before, c, behind, split, format, odd⟩ := escapes
    rcases List.eq_nil_or_concat' before with rfl | ⟨front, d, rfl⟩
    · exact absurd odd (by decide)
    · obtain ⟨rfl, even⟩ := odd_backslashRun_concat.mp odd
      rw [List.append_assoc] at split
      exact Bool.false_ne_true ((free front c behind split even).symm.trans format)

/-- A value beside the one that it comes from: longer under the condition, else the same. -/
def Lengthened (condition : Prop) (units others : List Nat) : Prop :=
  condition ∧ units.length < others.length ∨ ¬condition ∧ others = units

theorem Lengthened.append {first second : Prop} {early late others more : List Nat}
    (left : Lengthened first early others) (right : Lengthened second late more) :
    Lengthened (first ∨ second) (early ++ late) (others ++ more) := by
  have lengths : early.length ≤ others.length ∧ late.length ≤ more.length := by
    refine ⟨?_, ?_⟩
    · rcases left with ⟨-, longer⟩ | ⟨-, rfl⟩
      · exact Nat.le_of_lt longer
      · exact Nat.le_refl _
    · rcases right with ⟨-, longer⟩ | ⟨-, rfl⟩
      · exact Nat.le_of_lt longer
      · exact Nat.le_refl _
  rw [Lengthened, List.length_append, List.length_append]
  rcases left with ⟨holds, longer⟩ | ⟨fails, rfl⟩
  · exact .inl ⟨.inl holds, by omega⟩
  · rcases right with ⟨holds, longer⟩ | ⟨fails', rfl⟩
    · exact .inl ⟨.inr holds, by omega⟩
    · exact .inr ⟨not_or.mpr ⟨fails, fails'⟩, rfl⟩

theorem Lengthened.eq_iff {condition : Prop} {units others : List Nat}
    (lengthened : Lengthened condition units others) : others = units ↔ ¬condition := by
  rcases lengthened with ⟨holds, longer⟩ | ⟨fails, same⟩
  · refine iff_of_false ?_ (not_not_intro holds)
    intro same
    rw [same] at longer
    exact Nat.lt_irrefl _ longer
  · exact iff_of_true same fails

namespace LiteralState

variable {state behind last : LiteralState} {units others : List Nat} {front rest : List Char}

theorem plain_of_isFormat (delimits : quote = '\'' ∨ quote = '\"') (format : isFormat c = true) :
    plain quote c = some (utf16Units c, .between) := by
  have unquoted : c ≠ quote := by
    rcases delimits with rfl | rfl
    · exact ne_of_isFormat format (by decide)
    · exact ne_of_isFormat format (by decide)
  have backslash : c ≠ '\\' := ne_of_isFormat format (by decide)
  have newline : c ≠ '\n' := ne_of_isFormat format (by decide)
  have carriage : c ≠ '\r' := ne_of_isFormat format (by decide)
  simp [plain, unquoted, backslash, newline, carriage]

theorem escape_of_isFormat (format : isFormat c = true) :
    escape c = some (utf16Units c, .between) := by
  obtain ⟨-, line, paragraph⟩ := toNat_of_isFormat format
  have apart (other : Char) (low : other.toNat < 0xAD) : c ≠ other := ne_of_isFormat format low
  have unlisted : singleEscapes.lookup c = none := by
    rw [List.lookup_eq_none_iff]
    have low : ∀ pair ∈ singleEscapes, pair.1.toNat < 0xAD := by decide
    intro pair listed
    exact bne_iff_ne.mpr (apart pair.1 (low pair listed))
  simp [escape, unlisted, isDigit_of_isFormat format, line, paragraph, apart '\r' (by decide),
    apart '\n' (by decide), apart '0' (by decide), apart 'x' (by decide), apart 'u' (by decide)]

/-- A format character denotes itself wherever it can stand, also behind a backslash. -/
theorem step_of_isFormat (delimits : quote = '\'' ∨ quote = '\"') (format : isFormat c = true)
    (stepped : state.step quote c = some (units, behind)) :
    (state = .escaped ∨ state.complete = true) ∧ units = utf16Units c ∧ behind = .between := by
  have raw := plain_of_isFormat delimits format
  have undigit := isDigit_of_isFormat format
  have unhex := hexValue?_of_isFormat format
  have newline : c ≠ '\n' := ne_of_isFormat format (by decide)
  have opening : c ≠ '{' := ne_of_isFormat format (by decide)
  have closing : c ≠ '}' := ne_of_isFormat format (by decide)
  cases state with
  | between =>
      rw [step, raw] at stepped
      cases stepped
      exact ⟨.inr rfl, rfl, rfl⟩
  | escaped =>
      rw [step, escape_of_isFormat format] at stepped
      cases stepped
      exact ⟨.inl rfl, rfl, rfl⟩
  | behindNul =>
      simp only [step, undigit, Bool.false_eq_true, if_false, raw] at stepped
      cases stepped
      exact ⟨.inr rfl, rfl, rfl⟩
  | behindReturn =>
      simp only [step, newline, if_false, raw] at stepped
      cases stepped
      exact ⟨.inr rfl, rfl, rfl⟩
  | behindU => simp [step, opening, digit, unhex] at stepped
  | digits before value => simp [step, digit, unhex] at stepped
  | braced code => simp [step, brace, closing, unhex] at stepped

theorem plain_escaped_iff (stepped : plain quote c = some (units, behind)) :
    behind = .escaped ↔ c = '\\' := by
  unfold plain at stepped
  split_ifs at stepped with backslash refused
  · cases stepped
    exact iff_of_true rfl backslash
  · cases stepped
    exact iff_of_false (by simp) backslash

theorem escape_ne_escaped (stepped : escape c = some (units, behind)) : behind ≠ .escaped := by
  unfold escape at stepped
  split at stepped
  · cases stepped
    simp
  · split_ifs at stepped <;> cases stepped <;> simp

theorem digit_ne_escaped {before value : Nat} (stepped : digit before value c = some (units, behind)) :
    behind ≠ .escaped ∧ c ≠ '\\' := by
  refine ⟨?_, ?_⟩
  · simp only [digit, Option.bind_eq_bind, Option.bind_eq_some_iff, Option.pure_def] at stepped
    obtain ⟨value, -, read⟩ := stepped
    split_ifs at read <;> cases read <;> simp
  · intro backslash
    subst backslash
    cases stepped

theorem brace_ne_escaped {code : Option Nat} (stepped : brace code c = some (units, behind)) :
    behind ≠ .escaped ∧ c ≠ '\\' := by
  refine ⟨?_, ?_⟩
  · unfold brace at stepped
    split_ifs at stepped with closing
    · obtain ⟨value, -, read⟩ := Option.map_eq_some_iff.mp stepped
      cases read
      simp
    · simp only [Option.bind_eq_bind, Option.bind_eq_some_iff] at stepped
      obtain ⟨value, -, read⟩ := stepped
      split_ifs at read
      cases read
      simp
  · intro backslash
    subst backslash
    cases stepped

theorem step_escaped_iff (stepped : state.step quote c = some (units, behind)) :
    behind = .escaped ↔ c = '\\' ∧ state ≠ .escaped := by
  have unread (other : behind ≠ .escaped ∧ c ≠ '\\') :
      behind = .escaped ↔ c = '\\' ∧ state ≠ .escaped :=
    iff_of_false other.1 fun both => other.2 both.1
  cases state with
  | between => simpa using plain_escaped_iff stepped
  | escaped => simpa using escape_ne_escaped stepped
  | behindNul =>
      simp only [step] at stepped
      split at stepped
      · cases stepped
      · simpa using plain_escaped_iff stepped
  | behindReturn =>
      simp only [step] at stepped
      split at stepped
      · next newline =>
        cases stepped
        simp [newline]
      · simpa using plain_escaped_iff stepped
  | behindU =>
      simp only [step] at stepped
      split at stepped
      · next opening =>
        cases stepped
        simp [opening]
      · exact unread (digit_ne_escaped stepped)
  | digits before value => exact unread (digit_ne_escaped stepped)
  | braced code => exact unread (brace_ne_escaped stepped)

theorem read_of_complete (complete : state.complete = true) (rest : List Char) :
    read quote state ('\\' :: rest) = read quote .between ('\\' :: rest) := by
  cases state with
  | between | behindNul | behindReturn => rfl
  | escaped | behindU | digits | braced => cases complete

/-- Behind a backslash, the backslash of an escape ends an escape of its own, and the letter and the
digits are read as they are. -/
theorem read_escaped_unitEscape (delimits : quote = '\'' ∨ quote = '\"') (unit : Nat) :
    ∃ units, read quote .escaped (unitEscape unit) = some (units, .between) ∧ units.length = 6 := by
  have backslash : step quote .escaped '\\' = some ([0x5C], .between) := rfl
  have letter : step quote .between 'u' = some ([0x75], .between) := by
    rcases delimits with rfl | rfl <;> rfl
  have digit (value : Nat) : ∃ unit, step quote .between (hexDigit (value % 16)) =
      some ([unit], .between) := by
    have each : ∀ quote ∈ ['\'', '\"'], ∀ value < 16,
        plain quote (hexDigit value) = some ([(hexDigit value).toNat], .between) := by decide
    exact ⟨_, each quote (by simpa using delimits) _ (Nat.mod_lt _ (by decide))⟩
  obtain ⟨first, read_first⟩ := digit (unit / 0x1000)
  obtain ⟨second, read_second⟩ := digit (unit / 0x100)
  obtain ⟨third, read_third⟩ := digit (unit / 0x10)
  obtain ⟨fourth, read_fourth⟩ := digit unit
  exact ⟨_, read_cons backslash (read_cons letter (read_cons read_first (read_cons read_second
    (read_cons read_third (read_singleton read_fourth))))), rfl⟩

theorem read_escaped_unicodeEscape (delimits : quote = '\'' ∨ quote = '\"') (c : Char) :
    ∃ units, read quote .escaped (unicodeEscape c) = some (units, .between) ∧
      (utf16Units c).length < units.length := by
  have bounds := utf16Units_bounds c
  obtain ⟨unit, others, units⟩ := List.exists_cons_of_ne_nil (utf16Units_ne_nil c)
  rw [units, List.forall_mem_cons] at bounds
  obtain ⟨early, read_unit, length⟩ := read_escaped_unitEscape delimits unit
  refine ⟨early ++ others, ?_, ?_⟩
  · rw [unicodeEscape, units, List.flatMap_cons, read_append read_unit, read_units quote bounds.2]
    rfl
  · rw [units, List.length_append, List.length_cons]
    omega

theorem read_formatEscape (delimits : quote = '\'' ∨ quote = '\"')
    (stepped : state.step quote c = some (units, behind)) :
    ∃ others, read quote state (formatEscape c) = some (others, behind) ∧
      Lengthened (state = .escaped ∧ isFormat c = true) units others := by
  cases format : isFormat c with
  | false =>
      rw [formatEscape_of_plain format]
      exact ⟨units, read_singleton stepped, .inr ⟨by simp, rfl⟩⟩
  | true =>
      obtain ⟨place, rfl, rfl⟩ := step_of_isFormat delimits format stepped
      rw [formatEscape_of_format format]
      rcases place with rfl | complete
      · obtain ⟨others, done, longer⟩ := read_escaped_unicodeEscape delimits c
        exact ⟨others, done, .inl ⟨⟨rfl, rfl⟩, longer⟩⟩
      · have apart : state ≠ .escaped := by
          intro escaped
          rw [escaped] at complete
          cases complete
        obtain ⟨digits, escape⟩ := exists_unicodeEscape c
        have done := read_unicodeEscape quote c
        rw [escape, ← read_of_complete complete, ← escape] at done
        exact ⟨utf16Units c, done, .inr ⟨fun both => apart both.1, rfl⟩⟩

/-- The reader ends where it would have ended without the escapes. It stands behind a backslash if
and only if an odd number of them comes last, since each escapes the next one. -/
theorem read_flatMap_formatEscape (delimits : quote = '\'' ∨ quote = '\"')
    (place : state = .escaped ↔ Odd (backslashRun front))
    (done : read quote state rest = some (units, last)) :
    ∃ others, read quote state (rest.flatMap formatEscape) = some (others, last) ∧
      Lengthened (EscapesFormat front rest) units others := by
  induction rest generalizing state front units with
  | nil =>
      cases done
      have nothing : ¬EscapesFormat front [] := by
        intro escapes
        obtain ⟨before, c, behind, split, -⟩ := escapes
        simp at split
      exact ⟨[], rfl, .inr ⟨nothing, rfl⟩⟩
  | cons c rest ih =>
      obtain ⟨early, behind, late, stepped, continued, rfl⟩ := read_cons_eq_some_iff.mp done
      have next : behind = .escaped ↔ Odd (backslashRun (front ++ [c])) := by
        rw [step_escaped_iff stepped, odd_backslashRun_concat, ← Nat.not_odd_iff_even, Ne, place]
      obtain ⟨first, read_first, left⟩ := read_formatEscape delimits stepped
      obtain ⟨second, read_second, right⟩ := ih next continued
      refine ⟨first ++ second, ?_, ?_⟩
      · rw [List.flatMap_cons, read_append read_first, read_second]
        rfl
      · rw [escapesFormat_cons_iff, ← place]
        exact left.append right

end LiteralState

theorem literalValue?_eq_some_iff {body : List Char} {units : List Nat} :
    literalValue? (quote :: (body ++ [quote])) = some units ↔
      (quote = '\'' ∨ quote = '\"') ∧ ∃ last,
        LiteralState.read quote .between body = some (units, last) ∧ last.complete = true := by
  rw [literalValue?, List.getLast?_concat, List.dropLast_concat, Option.ite_none_right_eq_some,
    LiteralState.value?]
  simp only [and_true, Option.bind_eq_bind, Option.bind_eq_some_iff, Prod.exists,
    Option.ite_none_right_eq_some, Option.some_inj]
  refine and_congr_right fun _ => ⟨?_, ?_⟩
  · intro denoted
    obtain ⟨units, last, done, complete, rfl⟩ := denoted
    exact ⟨last, done, complete⟩
  · intro ended
    obtain ⟨last, done, complete⟩ := ended
    exact ⟨units, last, done, complete, rfl⟩

/-- If the body of a literal has its format characters escaped, there is still a literal. It denotes
the same as before unless one of them stands right behind an unescaped backslash, that is, behind
one with an even number of backslashes right before it. -/
theorem literalValue?_escapeFormat {body : String} {units : List Nat}
    (formed : literalValue? (quote :: (body.toList ++ [quote])) = some units) :
    ∃ others,
      literalValue? (quote :: ((escapeFormat body).text.toList ++ [quote])) = some others ∧
      (others = units ↔ ∀ front c rest, body.toList = front ++ '\\' :: c :: rest →
        Even (backslashRun front) → isFormat c = false) := by
  obtain ⟨delimits, last, done, complete⟩ := literalValue?_eq_some_iff.mp formed
  have start : LiteralState.between = .escaped ↔ Odd (backslashRun []) := by decide
  obtain ⟨others, escaped, lengthened⟩ :=
    LiteralState.read_flatMap_formatEscape delimits start done
  rw [← toList_escapeFormat] at escaped
  exact ⟨others, literalValue?_eq_some_iff.mpr ⟨delimits, last, escaped, complete⟩,
    lengthened.eq_iff.trans not_escapesFormat_nil_iff⟩

/-- Behind a backslash a format character denotes itself, but its escape is read as six others. -/
theorem literalValue?_escapeFormat_backslash :
    literalValue? ('\'' :: ("\\\u200B".toList ++ ['\''])) = some [0x200B] ∧
      ∃ others, others ≠ [0x200B] ∧
        literalValue? ('\'' :: ((escapeFormat "\\\u200B").text.toList ++ ['\''])) = some others := by
  have formed : literalValue? ('\'' :: ("\\\u200B".toList ++ ['\''])) = some [0x200B] := by decide
  obtain ⟨others, escaped, same⟩ := literalValue?_escapeFormat formed
  refine ⟨formed, others, ?_, escaped⟩
  intro equal
  have plain : isFormat '\u200B' = false := same.mp equal [] '\u200B' [] rfl (by decide)
  exact absurd plain (by decide +kernel)

end TemplateIR
