import Mathlib.Data.List.Infix
import Mathlib.Data.List.Nodup
import TemplateIR.Emit.OptionsScan

/-!
Whether an emitted name is one that can stay, and whether two names are emitted as one. A suffix
makes a name longer, so the only dangers are that the name and the suffix together are another word
that cannot stay, or a name that stays beside it.
-/
namespace TemplateIR

/-- The words that are never emitted as they are. -/
def replacedWords (renameGlobals : Bool) : List String :=
  valueWords ++ grammarWords ++ if renameGlobals then globalNames else []

/-- The words and suffixes that make up another such word. -/
def relapses (renameGlobals : Bool) : List (String × String) :=
  [("in", "stanceof"), ("in", "terface")] ++
    if renameGlobals then
      [("decodeURI", "Component"), ("encodeURI", "Component"), ("Array", "Buffer"),
        ("Generator", "Function")]
    else []

-- The words are compared by their bytes, since reading characters off a text takes much longer.
theorem replacedWords_extension (renameGlobals : Bool) :
    ∀ word ∈ replacedWords renameGlobals, ∀ longer ∈ replacedWords renameGlobals,
      word.toByteArray.data.toList.isPrefixOf longer.toByteArray.data.toList → longer = word ∨
        ∃ pair ∈ relapses renameGlobals, pair.1 = word ∧ longer = word ++ pair.2 := by
  revert renameGlobals
  decide +kernel

theorem replacedWords_of_relapses (renameGlobals : Bool) :
    ∀ pair ∈ relapses renameGlobals, pair.1 ∈ replacedWords renameGlobals ∧
      pair.1 ++ pair.2 ∈ replacedWords renameGlobals := by
  revert renameGlobals
  decide +kernel

/-- No suffix but those of `relapses` leads from one of the words to another. -/
theorem append_mem_replacedWords_iff {renameGlobals : Bool} {word suffix : String}
    (replaced : word ∈ replacedWords renameGlobals) (nonempty : suffix ≠ "") :
    word ++ suffix ∈ replacedWords renameGlobals ↔ (word, suffix) ∈ relapses renameGlobals := by
  constructor
  · intro again
    have starts : word.toByteArray.data.toList.isPrefixOf (word ++ suffix).toByteArray.data.toList := by
      simp [String.toByteArray_append]
    rcases replacedWords_extension renameGlobals word replaced _ again starts with
      same | ⟨pair, listed, rfl, longer⟩
    · exact absurd (String.append_eq_left_iff.mp same) nonempty
    · rw [String.append_right_inj] at longer
      exact longer ▸ listed
  · intro listed
    exact (replacedWords_of_relapses renameGlobals _ listed).2

namespace NamingOptions

variable {options : NamingOptions} {name : String}

theorem renames_ofName_iff :
    options.renames (.ofName name) = true ↔ name ∈ replacedWords options.renameGlobals := by
  unfold IdentifierClass.ofName isValueWord isGrammarWord isGlobalName replacedWords
  cases flag : options.renameGlobals <;> split_ifs <;>
    simp_all [renames, IdentifierClass.isForbidden]

theorem text_emittedName (options : NamingOptions) (name : String) :
    (options.emittedName name).text =
      if name ∈ replacedWords options.renameGlobals then name ++ options.reservedSuffix
      else name := by
  simp only [emittedName, renames_ofName_iff]
  split_ifs <;> rfl

theorem emittedName_eq_kept_iff :
    options.emittedName name = .kept name ↔ name ∉ replacedWords options.renameGlobals := by
  simp only [emittedName, renames_ofName_iff]
  split_ifs <;> simp_all

/-- What is emitted can stay, unless it is made of a replaced word and a suffix that turns it into
another one. -/
theorem text_emittedName_mem_iff (nonempty : options.reservedSuffix ≠ "") :
    (options.emittedName name).text ∈ replacedWords options.renameGlobals ↔
      (name, options.reservedSuffix) ∈ relapses options.renameGlobals := by
  rw [text_emittedName]
  split_ifs with replaced
  · exact append_mem_replacedWords_iff replaced nonempty
  · refine iff_of_false replaced fun listed => replaced ?_
    exact (replacedWords_of_relapses _ _ listed).1

/-- With options that a reader takes from a text, an emitted name is neither a word for a value nor
one of the grammar, nor a global name where those are replaced, and it stays if it is named again,
unless the suffix turns the name into another such word. -/
theorem emittedName_stays_iff {reader : OptionsReader} {text : String}
    (read : reader.ofText text = .ok options) (name : String) :
    let emitted := (options.emittedName name).text
    let reason := IdentifierClass.ofName emitted
    ((reason ≠ .valueWord ∧ reason ≠ .grammarWord ∧
        (options.renameGlobals = true → reason ≠ .globalName)) ↔
      (name, options.reservedSuffix) ∉ relapses options.renameGlobals) ∧
    (options.emittedName emitted = .kept emitted ↔
      (name, options.reservedSuffix) ∉ relapses options.renameGlobals) := by
  intro emitted reason
  obtain ⟨-, -, -, nonempty⟩ := OptionsReader.fields_of_ofText read
  have relapsed : options.renames reason = true ↔
      (name, options.reservedSuffix) ∈ relapses options.renameGlobals :=
    renames_ofName_iff.trans (text_emittedName_mem_iff nonempty)
  constructor
  · rw [← relapsed]
    cases reason <;> simp [renames, IdentifierClass.isForbidden]
  · rw [emittedName_eq_kept_iff, ← renames_ofName_iff, relapsed]

/-- The word for membership becomes the one for the kind of an object. -/
theorem emittedName_stays_iff_instanceof :
    let options : NamingOptions := { reservedSuffix := "stanceof" }
    ofText "\x7b\"reservedSuffix\":\"stanceof\"\x7d" = .ok options ∧
      options.emittedName "in" = .changed "instanceof" ∧
      IdentifierClass.ofName "instanceof" = .grammarWord ∧
      options.emittedName "instanceof" ≠ .kept "instanceof" := by
  intro options
  have read : OptionsReader.scanning.ofText "\x7b\"reservedSuffix\":\"stanceof\"\x7d" =
      .ok options := rfl
  have emitted : options.emittedName "in" = .changed "instanceof" := rfl
  refine ⟨read, emitted, rfl, fun kept => ?_⟩
  have stays := (emittedName_stays_iff read "in").2.mp
  rw [emitted] at stays
  exact stays kept (by decide)

/-- Distinct names stay distinct, unless one of them is replaced and becomes another one that is
kept. Two names that are both replaced never meet, since they get the same suffix. -/
theorem nodup_emittedNames_iff (options : NamingOptions) {names : List String}
    (distinct : names.Nodup) :
    (names.map fun name => (options.emittedName name).text).Nodup ↔
      ¬∃ word ∈ names, word ++ options.reservedSuffix ∈ names ∧
        word ∈ replacedWords options.renameGlobals ∧
        word ++ options.reservedSuffix ∉ replacedWords options.renameGlobals := by
  rw [List.nodup_map_iff_inj_on distinct]
  constructor
  · rintro injective ⟨word, listed, longer, replaced, kept⟩
    have met : (options.emittedName word).text =
        (options.emittedName (word ++ options.reservedSuffix)).text := by
      rw [text_emittedName, text_emittedName, if_pos replaced, if_neg kept]
    have same : word = word ++ options.reservedSuffix := injective word listed _ longer met
    rw [← same] at kept
    exact kept replaced
  · intro apart first listed second other met
    rw [text_emittedName, text_emittedName] at met
    split_ifs at met with replaced others others
    · exact (String.append_left_inj _).mp met
    · subst met
      exact absurd ⟨first, listed, other, replaced, others⟩ apart
    · subst met
      exact absurd ⟨second, other, listed, others, replaced⟩ apart
    · exact met

/-- A name with the suffix stands beside the word that gets it, and a suffix that makes one word of
the grammar out of another: there both are replaced. -/
theorem nodup_emittedNames_iff_interface :
    ¬(["class", "class$"].map fun name => (({} : NamingOptions).emittedName name).text).Nodup ∧
      (["in", "interface"].map fun name =>
        (({ reservedSuffix := "terface" } : NamingOptions).emittedName name).text).Nodup := by
  constructor
  · rw [nodup_emittedNames_iff _ (by decide), not_not]
    exact ⟨"class", by decide, by decide, by decide, by decide⟩
  · refine (nodup_emittedNames_iff _ (by decide)).mpr ?_
    decide

end NamingOptions
end TemplateIR
