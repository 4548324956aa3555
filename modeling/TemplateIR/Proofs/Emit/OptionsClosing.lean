import Mathlib.Tactic.SplitIfs
import TemplateIR.Proofs.Emit.ScanClosing

/-!
Where the text of the options ends. For any reader that goes from left to right, reading is over at one
bracket: every text that is accepted has it, nothing but blanks may follow it, and no text that stops
before it is accepted.
-/
namespace TemplateIR

theorem not_mem_jsonBlanks_of_closing {c : Char} (closing : c ∈ closingBrackets) : c ∉ jsonBlanks := by
  have each : ∀ c ∈ closingBrackets, c ∉ jsonBlanks := by decide
  exact each c closing

/-- A cut leaves an entry in front of it, or behind it. -/
theorem cut_cases {α : Type} {front back body rest : List α} {entry : α}
    (same : front ++ back = body ++ entry :: rest) :
    (body.length < front.length ∧ ∃ between, front = body ++ entry :: between) ∨
      (front.length ≤ body.length ∧ entry ∈ back) := by
  rcases List.append_eq_append_iff.mp same with ⟨between, rfl, rfl⟩ | ⟨between, rfl, behind⟩
  · exact .inr ⟨by simp, by simp⟩
  · cases between with
    | nil =>
        obtain rfl : entry :: rest = back := behind
        exact .inr ⟨by simp, List.mem_cons_self⟩
    | cons first between =>
        obtain ⟨rfl, -⟩ := List.cons.inj behind
        exact .inl ⟨by simp, between, rfl⟩

/-- Reading ends with a bracket, and has not looked behind it. -/
theorem OptionsReader.ForwardReading.exists_closing {reader : OptionsReader}
    (forward : reader.ForwardReading) {decode : FlagValue → Except OptionsMisfit Bool}
    {state : forward.State} {text rest : List Char} {fields : OptionsFields}
    (read : forward.reading decode state text = .ok (fields, rest)) :
    ∃ body, ∃ bracket ∈ closingBrackets, text = body ++ bracket :: rest ∧
      ∀ other, forward.reading decode state (body ++ bracket :: other) = .ok (fields, other) := by
  induction text generalizing state with
  | nil => exact (forward.breaks read).elim
  | cons c text ih =>
      cases forward.takes decode state c with
      | refused fault refuses =>
          rw [refuses] at read
          cases read
      | more next goes =>
          rw [goes] at read
          obtain ⟨body, bracket, listed, rfl, reads⟩ := ih read
          refine ⟨c :: body, bracket, listed, rfl, fun other => ?_⟩
          rw [List.cons_append, goes, reads]
      | closed found listed closes =>
          rw [closes] at read
          cases read
          exact ⟨[], c, listed, rfl, closes⟩

namespace NamingOptions

variable {reader : OptionsReader} {options : NamingOptions} {text : String}

/-- At the bracket all of the options are there, and what may follow is settled. -/
theorem exists_closing_of_ofText (forward : reader.ForwardReading) (ends : reader.EndsAtBlanks)
    (accepted : reader.ofText text = .ok options) :
    ∃ body bracket blanks, text.toList = body ++ bracket :: blanks ∧ bracket ∈ closingBrackets ∧
      JsonGap blanks ∧ ∀ (other : String) (rest : List Char),
        other.toList = body ++ bracket :: rest → reader.ofText other =
          if JsonGap rest then .ok options else .error (.rejected (.form .malformed)) := by
  obtain ⟨fields, read, given, nonempty⟩ := OptionsReader.fields_of_ofText accepted
  obtain ⟨blanks, value, gap⟩ := OptionsReader.value_of_fields ends read
  rw [forward.starts] at value
  obtain ⟨body, bracket, closing, whole, reads⟩ := forward.exists_closing value
  refine ⟨body, bracket, blanks, whole, closing, gap, fun other rest same => ?_⟩
  have stopped : reader.value FlagValue.decode other.toList = .ok (fields, rest) := by
    rw [forward.starts, same, reads]
  rw [OptionsReader.ofText, OptionsReader.fields_of_value ends stopped]
  by_cases blank : JsonGap rest
  · simp [if_pos blank, given, nonempty]
  · simp only [if_neg blank]

theorem ofText_append (forward : reader.ForwardReading) (ends : reader.EndsAtBlanks)
    (accepted : reader.ofText text = .ok options) (rest : String) :
    reader.ofText (text ++ rest) =
      if JsonGap rest.toList then .ok options else .error (.rejected (.form .malformed)) := by
  obtain ⟨body, bracket, blanks, whole, -, gap, reads⟩ :=
    exists_closing_of_ofText forward ends accepted
  have joined : (text ++ rest).toList = body ++ bracket :: (blanks ++ rest.toList) := by
    rw [String.toList_append, whole, List.append_assoc, List.cons_append]
  have behind : JsonGap (blanks ++ rest.toList) ↔ JsonGap rest.toList := by
    rw [JsonGap, List.forall_mem_append]
    exact and_iff_right gap
  rw [reads _ _ joined]
  simp only [behind]

/-- Behind an accepted text blanks make no difference, and anything else is a fault of form. So the
text has a last bracket, and a front part of it is accepted, with the same options, if and only if it
still has that bracket. -/
theorem ofText_extended (forward : reader.ForwardReading) (ends : reader.EndsAtBlanks)
    (accepted : reader.ofText text = .ok options) :
    (∀ rest : String, reader.ofText (text ++ rest) =
      if JsonGap rest.toList then .ok options else .error (.rejected (.form .malformed))) ∧
    ∃ body bracket blanks, text.toList = body ++ bracket :: blanks ∧ bracket ∈ closingBrackets ∧
      JsonGap blanks ∧ ∀ front back : String, front ++ back = text →
        ∀ other, reader.ofText front = .ok other ↔
          other = options ∧ body.length < front.toList.length := by
  refine ⟨ofText_append forward ends accepted, ?_⟩
  obtain ⟨body, bracket, blanks, whole, closing, gap, reads⟩ :=
    exists_closing_of_ofText forward ends accepted
  refine ⟨body, bracket, blanks, whole, closing, gap, ?_⟩
  intro front back joined other
  rw [← joined, String.toList_append] at whole
  rcases cut_cases whole with ⟨long, between, kept⟩ | ⟨short, cut⟩
  · rw [reads front between kept]
    have rest : blanks = between ++ back.toList := by
      rw [kept, List.append_assoc, List.append_cancel_left_eq, List.cons_append] at whole
      exact (List.cons.inj whole).2.symm
    have gap_between : JsonGap between := by
      rw [rest, JsonGap, List.forall_mem_append] at gap
      exact gap.1
    simp [gap_between, long, eq_comm]
  · refine iff_of_false (fun read => ?_) (fun both => Nat.not_lt.mpr short both.2)
    -- The whole text would go on behind an accepted one with the bracket, which is no blank.
    have rejoined := ofText_append forward ends read back
    rw [joined, accepted] at rejoined
    split_ifs at rejoined with blank
    exact not_mem_jsonBlanks_of_closing closing (blank bracket cut)

/-- A no-break space is none of the blanks that may follow. -/
theorem ofText_extended_array :
    OptionsReader.scanning.ofText "[\"_\",true] " =
        .ok { reservedSuffix := "_", renameGlobals := true } ∧
      OptionsReader.scanning.ofText ("[\"_\",true] " ++ "\n\t") =
        .ok { reservedSuffix := "_", renameGlobals := true } ∧
      OptionsReader.scanning.ofText ("[\"_\",true] " ++ "\n\u00A0") =
        .error (.rejected (.form .malformed)) := by
  have accepted : OptionsReader.scanning.ofText "[\"_\",true] " =
      .ok { reservedSuffix := "_", renameGlobals := true } := rfl
  obtain ⟨behind, -⟩ := ofText_extended OptionsReader.scanningForward
    OptionsReader.scanning_endsAtBlanks accepted
  exact ⟨accepted, (behind "\n\t").trans (if_pos (by decide)),
    (behind "\n\u00A0").trans (if_neg (by decide))⟩

end NamingOptions
end TemplateIR
