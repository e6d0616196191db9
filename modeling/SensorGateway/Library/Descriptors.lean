/-
This file is a small library on the descriptors of a process. A kernel hands out a
descriptor that is not open; which one, is its own affair. The kernel that hands out
the lowest free one is an instance.
-/

import Mathlib.Data.Finset.Card
import Mathlib.Data.Finset.Image

namespace SensorGateway

/-- How a kernel chooses a new descriptor. -/
structure Kernel where
  allocate : Finset Int → Int
  fresh : ∀ used, allocate used ∉ used
  nonneg : ∀ used, 0 ≤ allocate used

namespace Kernel

/-- The lowest number that is not in use. -/
def lowestFree (used : Finset Int) : Nat :=
  ((List.range (used.card + 1)).find? fun sd : Nat => (sd : Int) ∉ used).getD
    (used.card + 1)

theorem lowestFree_not_mem (used : Finset Int) : (lowestFree used : Int) ∉ used := by
  have exists_free : ∃ sd ∈ List.range (used.card + 1), ((sd : Int) ∉ used) := by
    by_contra none
    push Not at none
    have within : (Finset.range (used.card + 1)).image (fun sd : Nat => (sd : Int)) ⊆ used := by
      intro sd member
      obtain ⟨number, below, rfl⟩ := Finset.mem_image.mp member
      exact none number (List.mem_range.mpr (Finset.mem_range.mp below))
    have many := Finset.card_le_card within
    have injective : Function.Injective fun sd : Nat => (sd : Int) := fun _ _ => Int.ofNat.inj
    rw [Finset.card_image_of_injective _ injective, Finset.card_range] at many
    omega
  obtain ⟨sd, member, free⟩ := exists_free
  have some : ((List.range (used.card + 1)).find? fun sd : Nat => (sd : Int) ∉ used).isSome :=
    List.find?_isSome.mpr ⟨sd, member, decide_eq_true free⟩
  obtain ⟨first, found⟩ := Option.isSome_iff_exists.mp some
  rw [lowestFree, found, Option.getD_some]
  have passes := List.find?_some found
  exact of_decide_eq_true passes

/-- The kernel that hands out the lowest free descriptor. -/
def lowest : Kernel where
  allocate used := lowestFree used
  fresh := lowestFree_not_mem
  nonneg used := Int.natCast_nonneg (lowestFree used)

end Kernel

end SensorGateway
