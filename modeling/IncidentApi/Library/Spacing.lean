import Mathlib.Data.Finset.Card
import Mathlib.Data.Finset.Dedup
import Mathlib.Order.Interval.Finset.Nat
import Mathlib.Data.Int.Interval

/-!
# Instants kept apart

A list of integers any two of which are more than `gap` apart. However long the list is, an
interval holds at most one of them for every `gap + 1` of its length.
-/
namespace Spacing

def Apart (gap first second : Int) : Prop := gap < first - second ∨ gap < second - first

instance (gap first second : Int) : Decidable (Apart gap first second) :=
  inferInstanceAs (Decidable (_ ∨ _))

theorem Apart.symm {gap first second : Int} (apart : Apart gap first second) :
    Apart gap second first :=
  Or.symm apart

/-- Two values of one bucket of width `gap + 1` are not apart. -/
theorem bucket_ne {gap first second : Int} (nonneg : 0 ≤ gap) (apart : Apart gap first second)
    (lo : Int) : (first - lo) / (gap + 1) ≠ (second - lo) / (gap + 1) := by
  intro same
  have positive : 0 < gap + 1 := by omega
  have one := Int.mul_ediv_add_emod (first - lo) (gap + 1)
  have two := Int.mul_ediv_add_emod (second - lo) (gap + 1)
  have low := Int.emod_nonneg (first - lo) (Int.ne_of_gt positive)
  have lower := Int.emod_nonneg (second - lo) (Int.ne_of_gt positive)
  have high := Int.emod_lt_of_pos (first - lo) positive
  have higher := Int.emod_lt_of_pos (second - lo) positive
  rw [same] at one
  -- the bucket itself plays no role any more
  generalize (gap + 1) * ((second - lo) / (gap + 1)) = base at one two
  rcases apart with far | far <;> omega

/-- At most one value for every `gap + 1` of the interval's length. -/
theorem length_le {gap lo hi : Int} (nonneg : 0 ≤ gap) {values : List Int}
    (apart : values.Pairwise (Apart gap)) (within : ∀ value ∈ values, lo ≤ value ∧ value ≤ hi)
    (order : lo ≤ hi) : (values.length : Int) ≤ (hi - lo) / (gap + 1) + 1 := by
  have positive : 0 < gap + 1 := by omega
  let bucket : Int → Int := fun value => (value - lo) / (gap + 1)
  have distinct : (values.map bucket).Nodup :=
    List.pairwise_map.mpr (apart.imp fun far => bucket_ne nonneg far lo)
  have inside : (values.map bucket).toFinset ⊆ Finset.Icc 0 ((hi - lo) / (gap + 1)) := by
    intro number member
    obtain ⟨value, among, rfl⟩ := List.mem_map.mp (List.mem_toFinset.mp member)
    obtain ⟨low, high⟩ := within value among
    refine Finset.mem_Icc.mpr ⟨Int.ediv_nonneg (by omega) (by omega), ?_⟩
    exact Int.ediv_le_ediv positive (by omega)
  have counted := Finset.card_le_card inside
  rw [List.toFinset_card_of_nodup distinct, List.length_map, Int.card_Icc] at counted
  have span := Int.ediv_nonneg (show 0 ≤ hi - lo by omega) (show 0 ≤ gap + 1 by omega)
  omega

end Spacing
