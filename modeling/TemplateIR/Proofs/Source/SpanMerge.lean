import Mathlib.Data.List.Induction
import Mathlib.Data.UInt
import Mathlib.Order.Bounds.Basic
import TemplateIR.Source.Span

/-!
Merging many spans into one. The span that the others are merged into decides the file; of its file,
the first start and the last end remain, in whatever order the spans come.
-/
namespace TemplateIR.Span

attribute [ext] Span

variable {span other part : Span} {others regrouped : List Span} {offset : UInt32}

theorem merge_of_same (same : other.file = span.file) :
    span.merge other = ⟨span.file, min span.start other.start, max span.stop other.stop⟩ :=
  if_pos same.symm

theorem merge_of_foreign (foreign : other.file ≠ span.file) : span.merge other = span :=
  if_neg (Ne.symm foreign)

@[simp] theorem file_merge (span other : Span) : (span.merge other).file = span.file := by
  unfold merge
  split <;> rfl

@[simp] theorem file_foldl_merge (span : Span) (others : List Span) :
    (others.foldl merge span).file = span.file := by
  induction others generalizing span with
  | nil => rfl
  | cons other rest ih => rw [List.foldl_cons, ih, file_merge]

/-- The spans that bound a merge of `others` into `span`: `span` itself and those of its file. -/
def companions (span : Span) (others : List Span) : Set Span :=
  {part | part = span ∨ part ∈ others ∧ part.file = span.file}

theorem mem_companions_iff :
    part ∈ span.companions others ↔ part = span ∨ part ∈ others ∧ part.file = span.file :=
  Iff.rfl

theorem self_mem_companions : span ∈ span.companions others :=
  .inl rfl

theorem companions_nil : span.companions [] = {span} := by
  simp [companions]

theorem companions_concat_of_same (same : other.file = span.file) :
    span.companions (others ++ [other]) = insert other (span.companions others) := by
  ext part
  simp only [mem_companions_iff, Set.mem_insert_iff, List.mem_append, List.mem_singleton]
  constructor
  · intro member
    rcases member with itself | ⟨earlier | last, alike⟩
    · exact .inr (.inl itself)
    · exact .inr (.inr ⟨earlier, alike⟩)
    · exact .inl last
  · intro member
    rcases member with rfl | itself | ⟨earlier, alike⟩
    · exact .inr ⟨.inr rfl, same⟩
    · exact .inl itself
    · exact .inr ⟨.inl earlier, alike⟩

theorem companions_concat_of_foreign (foreign : other.file ≠ span.file) :
    span.companions (others ++ [other]) = span.companions others := by
  ext part
  simp only [mem_companions_iff, List.mem_append, List.mem_singleton]
  refine or_congr Iff.rfl (and_congr_left fun alike => or_iff_left ?_)
  intro last
  subst last
  exact foreign alike

theorem companions_congr
    (alike : ∀ other, other.file = span.file → (other ∈ regrouped ↔ other ∈ others)) :
    span.companions regrouped = span.companions others := by
  ext part
  rw [mem_companions_iff, mem_companions_iff, and_congr_left (alike part)]

/-- What has been merged so far runs from the first start of its companions to their last end. -/
theorem foldl_merge_bounds (span : Span) (others : List Span) :
    IsLeast ((fun part => part.start.toNat) '' span.companions others)
        (others.foldl merge span).start.toNat ∧
      IsGreatest ((fun part => part.stop.toNat) '' span.companions others)
        (others.foldl merge span).stop.toNat := by
  -- The list grows at its end, since that is where the fold takes its next span.
  induction others using List.reverseRecOn with
  | nil => simp [companions_nil]
  | append_singleton others other ih =>
      obtain ⟨first, last⟩ := ih
      rw [List.foldl_append, List.foldl_cons, List.foldl_nil]
      by_cases same : other.file = span.file
      · rw [merge_of_same (by rw [same, file_foldl_merge]), companions_concat_of_same same,
          Set.image_insert_eq, Set.image_insert_eq, UInt32.toNat_min, UInt32.toNat_max, min_comm,
          max_comm]
        exact ⟨first.insert _, last.insert _⟩
      · rw [merge_of_foreign (by rwa [file_foldl_merge]), companions_concat_of_foreign same]
        exact ⟨first, last⟩

theorem start_foldl_merge_le (member : part ∈ span.companions others) :
    (others.foldl merge span).start ≤ part.start :=
  UInt32.le_iff_toNat_le.mpr ((foldl_merge_bounds span others).1.2 (Set.mem_image_of_mem _ member))

theorem le_stop_foldl_merge (member : part ∈ span.companions others) :
    part.stop ≤ (others.foldl merge span).stop :=
  UInt32.le_iff_toNat_le.mpr ((foldl_merge_bounds span others).2.2 (Set.mem_image_of_mem _ member))

theorem foldl_merge_congr (same : span.companions regrouped = span.companions others) :
    regrouped.foldl merge span = others.foldl merge span := by
  obtain ⟨first, last⟩ := foldl_merge_bounds span regrouped
  rw [same] at first last
  have start := first.unique (foldl_merge_bounds span others).1
  have stop := last.unique (foldl_merge_bounds span others).2
  ext1
  · rw [file_foldl_merge, file_foldl_merge]
  · exact UInt32.toNat_inj.mp start
  · exact UInt32.toNat_inj.mp stop

theorem start_le_stop_foldl_merge (ordered : span.start ≤ span.stop) (others : List Span) :
    (others.foldl merge span).start ≤ (others.foldl merge span).stop := by
  calc (others.foldl merge span).start
    _ ≤ span.start := start_foldl_merge_le self_mem_companions
    _ ≤ span.stop := ordered
    _ ≤ (others.foldl merge span).stop := le_stop_foldl_merge self_mem_companions

theorem contains_foldl_merge (member : part ∈ span.companions others)
    (within : part.contains offset = true) : (others.foldl merge span).contains offset = true := by
  simp only [contains, Bool.and_eq_true, decide_eq_true_eq] at within ⊢
  obtain ⟨begun, unended⟩ := within
  exact ⟨UInt32.le_trans (start_foldl_merge_le member) begun,
    UInt32.lt_of_lt_of_le unended (le_stop_foldl_merge member)⟩

/-- A merge runs from the first start to the last end that it meets in the file of `span`. Only which
spans of that file occur decides this: not their order, not how often each occurs, and no span of
another file. -/
theorem foldl_merge_extent (span : Span) (others : List Span) :
    (others.foldl merge span).file = span.file ∧
      IsLeast ((fun part => part.start.toNat) '' span.companions others)
        (others.foldl merge span).start.toNat ∧
      IsGreatest ((fun part => part.stop.toNat) '' span.companions others)
        (others.foldl merge span).stop.toNat ∧
      (∀ regrouped : List Span,
        (∀ other, other.file = span.file → (other ∈ regrouped ↔ other ∈ others)) →
          regrouped.foldl merge span = others.foldl merge span) ∧
      (span.start ≤ span.stop →
        (others.foldl merge span).start ≤ (others.foldl merge span).stop) ∧
      ∀ part ∈ span.companions others, ∀ offset, part.contains offset = true →
        (others.foldl merge span).contains offset = true := by
  obtain ⟨first, last⟩ := foldl_merge_bounds span others
  refine ⟨file_foldl_merge span others, first, last, ?_, ?_, ?_⟩
  · intro regrouped alike
    exact foldl_merge_congr (companions_congr alike)
  · intro ordered
    exact start_le_stop_foldl_merge ordered others
  · intro part member offset within
    exact contains_foldl_merge member within

-- One span lies in another file, and one has its bounds out of order.
example : [⟨⟨2⟩, 0, 40⟩, ⟨⟨1⟩, 5, 12⟩, ⟨⟨1⟩, 30, 25⟩].foldl merge ⟨⟨1⟩, 10, 20⟩ = ⟨⟨1⟩, 5, 25⟩ :=
  rfl

end TemplateIR.Span
