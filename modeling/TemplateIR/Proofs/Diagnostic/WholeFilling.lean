import TemplateIR.Proofs.Diagnostic.Filling

/-!
Filling a template with one list of arguments, whatever its front parts come to. A round never
touches the placeholders of other arguments, so it can only replace too much. Where the arguments
bring no opening brace along, each replacement takes one away for good, and then the whole list is
filled in as in one go only if every round was right.
-/
namespace TemplateIR

variable {index other count : Nat} {argument text result : List Char} {texts : List (List Char)}

/-- What stands before and behind a cut is still there when it is closed. -/
theorem occurrences_le_append (index : Nat) (before behind : List Char) :
    occurrences index before + occurrences index behind ≤ occurrences index (before ++ behind) := by
  induction before with
  | nil => exact Nat.le_of_eq (Nat.zero_add _)
  | cons c rest ih =>
      rw [List.cons_append, Occurrences.of_cons, Occurrences.of_cons]
      by_cases here : placeholder index <+: c :: rest
      · have still : placeholder index <+: c :: (rest ++ behind) :=
          here.trans (List.prefix_append (c :: rest) behind)
        rw [if_pos here, if_pos still]
        omega
      · rw [if_neg here]
        omega

theorem occurrences_foreign_append (apart : other ≠ index) (behind : List Char) :
    occurrences index (placeholder other ++ behind) = occurrences index behind := by
  have elsewhere : ¬placeholder index <+: '{' :: (placeholderTail other ++ behind) := by
    intro first
    obtain rfl := index_eq_of_prefix first
    exact apart rfl
  rw [placeholder, List.cons_append, Occurrences.of_cons, if_neg elsewhere, Nat.add_zero]
  exact Occurrences.plain_append (brace_not_mem_placeholderTail other) behind

namespace Replaces

/-- The placeholders of other arguments stay. -/
theorem le_occurrences (replaces : Replaces other argument count text result) (apart : other ≠ index) :
    occurrences index text ≤ occurrences index result := by
  induction replaces with
  | none text => exact Nat.le_refl _
  | @one count text result before others ih =>
      have split := Occurrences.append_brace index before (placeholderTail other ++ text)
      have foreign := occurrences_foreign_append apart text
      have inserted := occurrences_le_append index argument result
      have joined := occurrences_le_append index before (argument ++ result)
      rw [placeholder, List.cons_append] at foreign ⊢
      omega

/-- Each replacement takes one opening brace away. -/
theorem count_brace (replaces : Replaces index argument count text result)
    (unbraced : '{' ∉ argument) : result.count '{' + count = text.count '{' := by
  have tail : (placeholderTail index).count '{' = 0 :=
    List.count_eq_zero_of_not_mem (brace_not_mem_placeholderTail index)
  induction replaces with
  | none text => rfl
  | one before others ih =>
      have inserted : argument.count '{' = 0 := List.count_eq_zero_of_not_mem unbraced
      simp only [placeholder, List.cons_append, List.count_append, List.count_cons_self, tail, inserted]
      omega

end Replaces

theorem le_occurrences_fillFrom (text : List Char) (earlier : count ≤ index)
    (inside : count ≤ texts.length) :
    occurrences index text ≤ occurrences index (fillFrom 0 (texts.take count) text) := by
  induction count with
  | zero => exact Nat.le_refl _
  | succ count ih =>
      have reached := ih (Nat.le_of_succ_le earlier) (Nat.le_of_succ_le inside)
      have found := List.getElem?_eq_getElem inside
      have round := replaces_fillOne count texts[count] (fillFrom 0 (texts.take count) text)
      rw [fillFrom_take_succ found]
      exact reached.trans (round.le_occurrences (Nat.ne_of_lt earlier))

/-- The rounds leave at most as many opening braces as filling in one go, and if they leave as many,
none of them has replaced more. -/
theorem braces_fillFrom (unbraced : ∀ argument ∈ texts, '{' ∉ argument) (text : List Char)
    (inside : count ≤ texts.length) :
    let filled (count : Nat) := fillFrom 0 (texts.take count) text
    let whole (count : Nat) := substitute (texts.take count).zipIdx text
    (filled count).count '{' ≤ (whole count).count '{' ∧
      ((filled count).count '{' = (whole count).count '{' → filled count = whole count ∧
        ∀ index < count, occurrences index (whole index) = occurrences index text) := by
  intro filled whole
  induction count with
  | zero =>
      have same : filled 0 = whole 0 := (Substitution.nil text).symm
      rw [same]
      exact ⟨Nat.le_refl _, fun _ => ⟨rfl, fun index impossible => absurd impossible (Nat.not_lt_zero _)⟩⟩
  | succ count ih =>
      obtain ⟨fewer, alike⟩ := ih (Nat.le_of_succ_le inside)
      have found := List.getElem?_eq_getElem inside
      have plain := unbraced texts[count] (List.getElem_mem inside)
      have round : (filled (count + 1)).count '{' + occurrences count (filled count) =
          (filled count).count '{' := by
        have made := (replaces_fillOne count texts[count] (filled count)).count_brace plain
        rwa [← fillFrom_take_succ found] at made
      have step : (whole (count + 1)).count '{' + occurrences count text =
          (whole count).count '{' := (replaces_take_succ found text).count_brace plain
      have kept : occurrences count text ≤ occurrences count (filled count) :=
        le_occurrences_fillFrom text (Nat.le_refl _) (Nat.le_of_succ_le inside)
      refine ⟨by omega, fun same => ?_⟩
      obtain ⟨equal, before⟩ := alike (by omega)
      have all : occurrences count (whole count) = occurrences count text := by
        rw [← equal]
        omega
      refine ⟨?_, fun index below => ?_⟩
      · have next : filled (count + 1) = fillOne count texts[count] (filled count) :=
          fillFrom_take_succ found text
        rw [next, equal]
        exact (fillOne_take_iff found text).mpr (.inr all)
      · rcases Nat.lt_succ_iff_lt_or_eq.mp below with earlier | rfl
        · exact before index earlier
        · exact all

theorem occurrences_of_fillFrom_eq (unbraced : ∀ argument ∈ texts, '{' ∉ argument)
    (same : fillFrom 0 texts text = substitute texts.zipIdx text) (inside : index < texts.length) :
    occurrences index (substitute (texts.take index).zipIdx text) = occurrences index text := by
  obtain ⟨-, alike⟩ := braces_fillFrom unbraced text (Nat.le_refl texts.length)
  simp only [List.take_length] at alike
  exact (alike (congrArg _ same)).2 index inside

/-- A list of arguments that each are their own placeholder, or find it only as often as the template
has it, is filled in as in one go. -/
theorem fillTemplate_eq_substituted {template : String} {arguments : List String}
    (each : ∀ (index : Nat) argument, arguments[index]? = some argument →
      argument.toList = placeholder index ∨
        occurrences index (substituted template (arguments.take index)).toList =
          occurrences index template.toList) :
    fillTemplate template arguments = substituted template arguments := by
  have rounds : ∀ (index : Nat) argument, (arguments.map String.toList)[index]? = some argument →
      argument = placeholder index ∨
        occurrences index (substitute ((arguments.map String.toList).take index).zipIdx
          template.toList) = occurrences index template.toList := by
    intro index text found
    rw [List.getElem?_map, Option.map_eq_some_iff] at found
    obtain ⟨argument, listed, rfl⟩ := found
    have here := each index argument listed
    rwa [substituted, String.toList_ofList, List.map_take] at here
  have all := (fillFrom_eq_substitute_iff _ _).mpr rounds arguments.length
  rw [List.take_of_length_le (Nat.le_of_eq (List.length_map _))] at all
  exact congrArg String.ofList all

/-- Without opening braces in the arguments, that is also the only way to come to the same text. -/
theorem fillTemplate_eq_substituted_iff_of_unbraced (template : String) {arguments : List String}
    (unbraced : ∀ argument ∈ arguments, '{' ∉ argument.toList) :
    fillTemplate template arguments = substituted template arguments ↔
      ∀ index < arguments.length,
        occurrences index (substituted template (arguments.take index)).toList =
          occurrences index template.toList := by
  constructor
  · intro same index inside
    have plain : ∀ text ∈ arguments.map String.toList, '{' ∉ text := by
      intro text member
      obtain ⟨argument, listed, rfl⟩ := List.mem_map.mp member
      exact unbraced argument listed
    rw [substituted, String.toList_ofList, List.map_take]
    apply occurrences_of_fillFrom_eq plain (String.ofList_inj.mp same)
    rwa [List.length_map]
  · intro all
    apply fillTemplate_eq_substituted
    intro index argument found
    exact .inr (all index (List.getElem?_eq_some_iff.mp found).1)

-- With braces in the arguments, a round that went wrong can be made good by later ones.
example : fillTemplate "\x7b0\x7d" ["\x7b1\x7d", "\x7b2\x7d", "\x7b1\x7d"] =
    substituted "\x7b0\x7d" ["\x7b1\x7d", "\x7b2\x7d", "\x7b1\x7d"] := by decide

end TemplateIR
