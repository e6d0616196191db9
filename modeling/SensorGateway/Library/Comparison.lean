/-
This file is a small library on comparisons with three outcomes.

A comparison of two values is negative, zero or positive. When it comes from a total
preorder, turning it round turns its sign round, and it is transitive. Values that
compare as zero may be different.

A list is sorted when no value compares as greater than a later one. A value can be put
at a place of a sorted list when those in front of the place are not greater and the one
behind it is not less. It ties with the least values when it is equal to one of them and
greater than none.
-/

import Mathlib.Data.List.Basic

namespace SensorGateway.Comparison

variable {Value Other : Type} {compare : Value → Value → Int} {new pt : Value}
  {front back list : List Value}

/-- A comparison by a total preorder. -/
structure IsOrder (compare : Value → Value → Int) : Prop where
  swap : ∀ first second, compare first second < 0 ↔ 0 < compare second first
  trans : ∀ first second third, compare first second ≤ 0 → compare second third ≤ 0 →
    compare first third ≤ 0

/-- No value is greater than a later one. -/
def Sorted (compare : Value → Value → Int) (list : List Value) : Prop :=
  list.Pairwise fun first second => compare first second ≤ 0

/-- A value is equal to one of a list and greater than none. -/
def TiesWithLeast (compare : Value → Value → Int) (list : List Value) (new : Value) : Prop :=
  (∃ other ∈ list, compare new other = 0) ∧ ∀ other ∈ list, compare new other ≤ 0

instance (list : List Value) (new : Value) : Decidable (TiesWithLeast compare list new) :=
  inferInstanceAs (Decidable (_ ∧ _))

section Order

variable (order : IsOrder compare)
include order

/-- A value that is not less is not exceeded by the other. -/
theorem IsOrder.le_swap {first second : Value} :
    compare first second ≤ 0 ↔ 0 ≤ compare second first := by
  rw [← Int.not_lt, ← order.swap second first, Int.not_lt]

/-- Values are ordered by a part of them too. -/
theorem IsOrder.comap (part : Other → Value) :
    IsOrder fun first second => compare (part first) (part second) :=
  ⟨fun first second => order.swap (part first) (part second),
    fun first second third => order.trans (part first) (part second) (part third)⟩

/-- What is not greater than the first value of a sorted list is greater than none of it. -/
theorem Sorted.le_all (sorted : Sorted compare (pt :: back)) (below : compare new pt ≤ 0) :
    ∀ other ∈ pt :: back, compare new other ≤ 0 := by
  intro other member
  rcases List.mem_cons.mp member with rfl | later
  · exact below
  · exact order.trans new pt other below ((List.pairwise_cons.mp sorted).1 other later)

/-- The insertion rule: a list stays sorted when a value is put behind some that are not greater,
and in front of some that are not less. -/
theorem Sorted.insert (sorted : Sorted compare (front ++ back))
    (passed : ∀ other ∈ front, 0 ≤ compare new other)
    (ahead : ∀ other ∈ back, compare new other ≤ 0) : Sorted compare (front ++ new :: back) := by
  obtain ⟨sortedFront, sortedBack, across⟩ := List.pairwise_append.mp sorted
  refine List.pairwise_append.mpr ⟨sortedFront, List.pairwise_cons.mpr ⟨ahead, sortedBack⟩, ?_⟩
  intro first inFront second inBack
  rcases List.mem_cons.mp inBack with rfl | later
  · exact order.le_swap.mpr (passed first inFront)
  · exact across first inFront second later

/-- A value ties with the least of a sorted list exactly when it is equal to its first one. -/
theorem Sorted.tiesWithLeast_iff (sorted : Sorted compare (pt :: back)) :
    TiesWithLeast compare (pt :: back) new ↔ compare new pt = 0 := by
  constructor
  · rintro ⟨⟨other, member, equal⟩, below⟩
    have least : compare pt other ≤ 0 := by
      rcases List.mem_cons.mp member with rfl | later
      · have same := order.swap other other
        omega
      · exact (List.pairwise_cons.mp sorted).1 other later
    have reached : compare other new ≤ 0 := order.le_swap.mpr (Int.le_of_eq equal.symm)
    have above := order.le_swap.mp (order.trans pt other new least reached)
    exact Int.le_antisymm (below pt List.mem_cons_self) above
  · intro equal
    exact ⟨⟨pt, List.mem_cons_self, equal⟩, sorted.le_all order (Int.le_of_eq equal)⟩

end Order

/-- Only the values of a list matter to a tie with the least of them. -/
theorem tiesWithLeast_perm {other : List Value} (perm : list.Perm other) :
    TiesWithLeast compare list new ↔ TiesWithLeast compare other new := by
  unfold TiesWithLeast
  simp only [perm.mem_iff]

/-- Integers are compared by their difference. -/
theorem isOrder_sub : IsOrder fun first second : Int => first - second :=
  ⟨fun first second => by omega, fun first second third => by omega⟩

end SensorGateway.Comparison
