import Mathlib.Data.Set.Card
import Mathlib.Order.Interval.Finset.Nat
import TemplateIR.Proofs.Source.SpanMerge

/-!
How much a span holds. Its length counts the offsets in it, also when its bounds are out of order and
it holds none; only for bounds in order does `isEmpty` say that there are none.
-/
namespace TemplateIR.Span

variable {span : Span} {offset : UInt32}

theorem contains_iff :
    span.contains offset = true ↔
      span.start.toNat ≤ offset.toNat ∧ offset.toNat < span.stop.toNat := by
  rw [contains, Bool.and_eq_true, decide_eq_true_eq, decide_eq_true_eq, UInt32.le_iff_toNat_le,
    UInt32.lt_iff_toNat_lt]

theorem isEmpty_iff : span.isEmpty = true ↔ span.start.toNat = span.stop.toNat := by
  rw [isEmpty, decide_eq_true_eq, UInt32.toNat_inj]

theorem toNat_length (span : Span) : span.length.toNat = span.stop.toNat - span.start.toNat := by
  unfold length
  split
  · next ordered => rw [UInt32.toNat_sub_of_le _ _ ordered]
  · next inverted =>
      rw [UInt32.le_iff_toNat_le] at inverted
      rw [UInt32.toNat_zero]
      omega

/-- The offsets that a span holds. -/
def offsets (span : Span) : Set UInt32 :=
  {offset | span.contains offset = true}

theorem image_offsets (span : Span) :
    UInt32.toNat '' span.offsets = ↑(Finset.Ico span.start.toNat span.stop.toNat) := by
  ext value
  rw [Finset.coe_Ico, Set.mem_Ico]
  constructor
  · intro member
    obtain ⟨offset, within, same⟩ := member
    subst same
    exact contains_iff.mp within
  · intro bounds
    have small : value.toUInt32.toNat = value :=
      UInt32.toNat_ofNat_of_lt' (bounds.2.trans span.stop.toNat_lt)
    exact ⟨value.toUInt32, contains_iff.mpr (by rwa [small]), small⟩

theorem ncard_offsets (span : Span) : span.offsets.ncard = span.length.toNat := by
  have injective : Function.Injective UInt32.toNat := fun _ _ => UInt32.toNat.inj
  rw [← Set.ncard_image_of_injective _ injective, image_offsets, Set.ncard_coe_finset, Nat.card_Ico,
    toNat_length]

theorem isEmpty_iff_ncard_iff (span : Span) :
    (span.isEmpty = true ↔ span.offsets.ncard = 0) ↔ span.start ≤ span.stop := by
  rw [isEmpty_iff, ncard_offsets, toNat_length, UInt32.le_iff_toNat_le]
  omega

/-- A span is as long as it holds offsets, and it calls itself empty just when it holds none, unless
its bounds are out of order: then it holds none and does not call itself empty. No merge into a span
with checked bounds comes to this. -/
theorem extent_views (span : Span) :
    span.offsets.ncard = span.length.toNat ∧
      ((span.isEmpty = true ↔ span.offsets.ncard = 0) ↔ span.start ≤ span.stop) ∧
      ∀ file start stop, checked file start stop = .ok span → ∀ others : List Span,
        ((others.foldl merge span).isEmpty = true ↔
          (others.foldl merge span).offsets.ncard = 0) := by
  refine ⟨ncard_offsets span, isEmpty_iff_ncard_iff span, ?_⟩
  intro file start stop made others
  obtain ⟨ordered, same⟩ := checked_eq_ok_iff.mp made
  subst same
  exact (isEmpty_iff_ncard_iff _).mpr (start_le_stop_foldl_merge ordered others)

theorem isEmpty_inverted :
    (⟨⟨0⟩, 12, 4⟩ : Span).offsets.ncard = 0 ∧ (⟨⟨0⟩, 12, 4⟩ : Span).isEmpty = false := by
  rw [ncard_offsets]
  exact ⟨rfl, rfl⟩

end TemplateIR.Span
