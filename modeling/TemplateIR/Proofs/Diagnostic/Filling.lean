import TemplateIR.Proofs.Diagnostic.Substitution

/-!
Filling a template argument by argument. A round replaces every occurrence of its placeholder, also
one that an earlier argument has brought along or closed up. So the rounds fill the template in one
go exactly as long as there are no such occurrences.
-/
namespace TemplateIR

variable {index count : Nat} {argument text result : List Char}
  {arguments : List (List Char × Nat)}

theorem replaceFrom_eq (index skip : Nat) (argument text : List Char) :
    replaceFrom '{' (placeholderTail index) argument skip text =
      substituteFrom [(argument, index)] skip text := by
  induction text generalizing skip with
  | nil => cases skip <;> rfl
  | cons c rest ih =>
      cases skip with
      | succ skip => exact ih skip
      | zero =>
          have begins : (placeholder index).isPrefixOf (c :: rest) =
              (c = '{' && (placeholderTail index).isPrefixOf rest) := by
            rw [placeholder, List.isPrefixOf_cons_cons, BEq.comm]
            rfl
          rw [replaceFrom, substituteFrom, argumentAt?, List.find?_cons, begins, ih, ih]
          cases c = '{' && (placeholderTail index).isPrefixOf rest <;> rfl

theorem fillOne_eq (index : Nat) (argument text : List Char) :
    fillOne index argument text = substitute [(argument, index)] text :=
  replaceFrom_eq index 0 argument text

theorem fillOne_of_unused (unused : occurrences index text = 0) (argument : List Char) :
    fillOne index argument text = text := by
  have same : substitute ([] ++ [(argument, index)]) text = substitute [] text :=
    Substitution.from_append_unused unused 0
  rwa [Substitution.nil, List.nil_append, ← fillOne_eq] at same

theorem fillOne_append_placeholder (index : Nat) (argument before behind : List Char) :
    fillOne index argument (before ++ (placeholder index ++ behind)) =
      fillOne index argument before ++ (argument ++ fillOne index argument behind) := by
  have distinct : ([(argument, index)].map Prod.snd).Nodup := List.nodup_singleton index
  simp only [fillOne_eq]
  exact Substitution.append_placeholder distinct List.mem_cons_self before behind

/-- The result is the text with `count` occurrences of the placeholder replaced. -/
inductive Replaces (index : Nat) (argument : List Char) : Nat → List Char → List Char → Prop where
  | none (text : List Char) : Replaces index argument 0 text text
  | one {count : Nat} {text result : List Char} (before : List Char)
      (others : Replaces index argument count text result) :
      Replaces index argument (count + 1) (before ++ (placeholder index ++ text))
        (before ++ (argument ++ result))

/-- One more argument replaces the occurrences of its placeholder in the template, and no others. -/
theorem replaces_substitute (distinct : (arguments.map Prod.snd).Nodup)
    (new : index ∉ arguments.map Prod.snd) (argument text : List Char) :
    Replaces index argument (occurrences index text) (substitute arguments text)
      (substitute (arguments ++ [(argument, index)]) text) := by
  have apart : ((arguments ++ [(argument, index)]).map Prod.snd).Nodup := by
    rw [List.map_append]
    exact distinct.append (List.nodup_singleton index) (List.disjoint_singleton.mpr new)
  -- Up to the first occurrence the two are alike, and behind it the text is shorter.
  induction size : text.length using Nat.strong_induction_on generalizing text with
  | _ length ih =>
      by_cases none : occurrences index text = 0
      · rw [none, substitute, substitute, Substitution.from_append_unused none]
        exact .none _
      · obtain ⟨before, behind, rfl, free⟩ := Occurrences.exists_first none
        have shorter : behind.length < length := by
          rw [← size, placeholder]
          simp only [List.length_append, List.length_cons]
          omega
        have unchanged : substitute (arguments ++ [(argument, index)]) before =
            substitute arguments before := Substitution.from_append_unused free 0
        rw [Occurrences.append_placeholder, free, Nat.zero_add, Substitution.append_foreign new,
          Substitution.append_placeholder apart (List.mem_append_right _ List.mem_cons_self), unchanged]
        exact .one _ (ih _ shorter behind rfl)

theorem replaces_fillOne (index : Nat) (argument text : List Char) :
    Replaces index argument (occurrences index text) text (fillOne index argument text) := by
  have all := @replaces_substitute index [] List.nodup_nil List.not_mem_nil argument text
  rwa [Substitution.nil, List.nil_append, ← fillOne_eq] at all

/-- A round that changes nothing has nothing to replace, or replaces it by itself. -/
theorem unused_of_fillOne_eq (kept : fillOne index argument text = text)
    (other : argument ≠ placeholder index)
    (size : argument.length = (placeholder index).length) : occurrences index text = 0 := by
  by_contra some
  obtain ⟨before, behind, rfl, free⟩ := Occurrences.exists_first some
  rw [fillOne_append_placeholder, fillOne_of_unused free, List.append_right_inj] at kept
  exact other (List.append_inj_left kept size)

namespace Replaces

theorem length (replaces : Replaces index argument count text result) :
    result.length + count * (placeholder index).length = text.length + count * argument.length := by
  induction replaces with
  | none text => simp
  | one before others ih =>
      simp only [List.length_append, Nat.succ_mul]
      omega

theorem count_le (replaces : Replaces index argument count text result) :
    count ≤ occurrences index text := by
  induction replaces with
  | none text => exact Nat.zero_le _
  | one before others ih =>
      rw [Occurrences.append_placeholder]
      omega

theorem eq_of_own (replaces : Replaces index argument count text result)
    (own : argument = placeholder index) : result = text := by
  induction replaces with
  | none text => rfl
  | one before others ih => rw [ih, own]

theorem fillOne_eq_of_all (replaces : Replaces index argument count text result)
    (all : occurrences index text = count) : fillOne index argument text = result := by
  induction replaces with
  | none text => exact fillOne_of_unused all argument
  | one before others ih =>
      have fewer := others.count_le
      rw [Occurrences.append_placeholder] at all
      rw [fillOne_append_placeholder, fillOne_of_unused (by omega), ih (by omega)]

theorem all_of_fillOne_eq (replaces : Replaces index argument count text result)
    (same : fillOne index argument text = result) (other : argument ≠ placeholder index) :
    occurrences index text = count := by
  by_cases size : argument.length = (placeholder index).length
  · -- Nothing is shifted, so what the round replaces can be compared place by place.
    induction replaces with
    | none text => exact unused_of_fillOne_eq same other size
    | @one count text result before others ih =>
        have length := (replaces_fillOne index argument before).length
        rw [size, Nat.add_right_cancel_iff] at length
        rw [fillOne_append_placeholder] at same
        obtain ⟨kept, behind⟩ := List.append_inj same length
        rw [List.append_right_inj] at behind
        rw [Occurrences.append_placeholder, unused_of_fillOne_eq kept other size, ih behind,
          Nat.zero_add]
  · -- Each replacement changes the length by the same number of characters.
    obtain ⟨more, split⟩ := Nat.exists_eq_add_of_le replaces.count_le
    have length := replaces.length
    have all := (replaces_fillOne index argument text).length
    rw [same, split, Nat.add_mul, Nat.add_mul] at all
    have shift : more * (placeholder index).length = more * argument.length := by omega
    have none : more = 0 := by
      by_contra some
      exact size (Nat.eq_of_mul_eq_mul_left (Nat.pos_of_ne_zero some) shift).symm
    rw [split, none, Nat.add_zero]

end Replaces

/-- A round carries on a substitution in one go exactly if it finds no occurrences of its placeholder
beside those of the template, unless it puts the placeholder in place of itself. -/
theorem fillOne_substitute_iff (distinct : (arguments.map Prod.snd).Nodup)
    (new : index ∉ arguments.map Prod.snd) :
    fillOne index argument (substitute arguments text) =
        substitute (arguments ++ [(argument, index)]) text ↔
      argument = placeholder index ∨
        occurrences index (substitute arguments text) = occurrences index text := by
  have one := replaces_substitute distinct new argument text
  constructor
  · intro same
    by_cases own : argument = placeholder index
    · exact .inl own
    · exact .inr (one.all_of_fillOne_eq same own)
  · rintro (own | all)
    · rw [one.eq_of_own own]
      exact (replaces_fillOne index argument _).eq_of_own own
    · exact one.fillOne_eq_of_all all

theorem fillFrom_append (first others : List (List Char)) (index : Nat) (text : List Char) :
    fillFrom index (first ++ others) text =
      fillFrom (index + first.length) others (fillFrom index first text) := by
  induction first generalizing index text with
  | nil => rfl
  | cons argument rest ih =>
      rw [List.cons_append, fillFrom, ih, fillFrom, List.length_cons, Nat.add_right_comm]
      rfl

section Rounds

variable {texts : List (List Char)}

theorem fillFrom_take_succ (found : texts[index]? = some argument) (text : List Char) :
    fillFrom 0 (texts.take (index + 1)) text =
      fillOne index argument (fillFrom 0 (texts.take index) text) := by
  have inside : index < texts.length := (List.getElem?_eq_some_iff.mp found).1
  rw [List.take_add_one, found, fillFrom_append, List.length_take_of_le (Nat.le_of_lt inside),
    Nat.zero_add]
  rfl

theorem zipIdx_take_succ (found : texts[index]? = some argument) :
    (texts.take (index + 1)).zipIdx = (texts.take index).zipIdx ++ [(argument, index)] := by
  have inside : index < texts.length := (List.getElem?_eq_some_iff.mp found).1
  rw [List.take_add_one, found, List.zipIdx_append, List.length_take_of_le (Nat.le_of_lt inside),
    Nat.zero_add]
  rfl

theorem distinct_take (texts : List (List Char)) (index : Nat) :
    ((texts.take index).zipIdx.map Prod.snd).Nodup := by
  rw [List.zipIdx_map_snd]
  exact List.nodup_range'

theorem new_take (texts : List (List Char)) (index : Nat) :
    index ∉ (texts.take index).zipIdx.map Prod.snd := by
  rw [List.zipIdx_map_snd, List.mem_range'_1, List.length_take]
  omega

theorem replaces_take_succ (found : texts[index]? = some argument) (text : List Char) :
    Replaces index argument (occurrences index text) (substitute (texts.take index).zipIdx text)
      (substitute (texts.take (index + 1)).zipIdx text) := by
  rw [zipIdx_take_succ found]
  exact replaces_substitute (distinct_take texts index) (new_take texts index) argument text

theorem fillOne_take_iff (found : texts[index]? = some argument) (text : List Char) :
    fillOne index argument (substitute (texts.take index).zipIdx text) =
        substitute (texts.take (index + 1)).zipIdx text ↔
      argument = placeholder index ∨
        occurrences index (substitute (texts.take index).zipIdx text) = occurrences index text := by
  rw [zipIdx_take_succ found]
  exact fillOne_substitute_iff (distinct_take texts index) (new_take texts index)

theorem fillFrom_eq_substitute_iff (texts : List (List Char)) (text : List Char) :
    (∀ count, fillFrom 0 (texts.take count) text = substitute (texts.take count).zipIdx text) ↔
      ∀ index argument, texts[index]? = some argument → argument = placeholder index ∨
        occurrences index (substitute (texts.take index).zipIdx text) = occurrences index text := by
  constructor
  · intro same index argument found
    rw [← fillOne_take_iff found, ← same index, ← same (index + 1), fillFrom_take_succ found]
  · intro all count
    induction count with
    | zero => exact (Substitution.nil text).symm
    | succ count ih =>
        cases found : texts[count]? with
        | none =>
            have whole : texts.take (count + 1) = texts.take count := by
              rw [List.take_add_one, found]
              exact List.append_nil _
            rw [whole, ih]
        | some argument =>
            rw [fillFrom_take_succ found, ih]
            exact (fillOne_take_iff found text).mpr (all count argument found)

end Rounds

theorem fillTemplate_singleton (template argument : String) :
    fillTemplate template [argument] = substituted template [argument] := by
  have only : fillOne 0 argument.toList template.toList =
      substitute [(argument.toList, 0)] template.toList := fillOne_eq 0 _ _
  exact congrArg String.ofList only

/-- However many of its arguments are put in, a template becomes what it would become in one go,
exactly if each argument either is its own placeholder or finds it in the text so far only as often
as in the template. -/
theorem fillTemplate_eq_substituted_iff (template : String) (arguments : List String) :
    (∀ count, fillTemplate template (arguments.take count) =
        substituted template (arguments.take count)) ↔
      ∀ index argument, arguments[index]? = some argument →
        argument.toList = placeholder index ∨
          occurrences index (substituted template (arguments.take index)).toList =
            occurrences index template.toList := by
  have rounds := fillFrom_eq_substitute_iff (arguments.map String.toList) template.toList
  simp only [fillTemplate, substituted, String.toList_ofList, String.ofList_inj, List.map_take]
  rw [rounds]
  constructor
  · intro all index argument found
    exact all index argument.toList (by rw [List.getElem?_map, found]; rfl)
  · intro all index text found
    rw [List.getElem?_map, Option.map_eq_some_iff] at found
    obtain ⟨argument, listed, rfl⟩ := found
    exact all index argument listed

/-- The first argument is taken for a placeholder of the second. -/
theorem fillTemplate_rescans :
    fillTemplate "\x7b0\x7d" ["\x7b1\x7d", "x"] = "x" ∧
      substituted "\x7b0\x7d" ["\x7b1\x7d", "x"] = "\x7b1\x7d" := by
  decide

-- An argument without braces can close a placeholder up, too.
example : fillTemplate "\x7b\x7b0\x7d\x7d" ["1", "x"] = "x" := by decide

end TemplateIR
