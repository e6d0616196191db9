/-
This file is a small library on streams that are read by receives of bounded size. A
fragmentation says how much each receive returns at most; a receive returns that much,
or what was asked for, or what is left of the stream, whichever is least. So a stream
can be cut up in every way in which each receive returns something as long as something
is left.

The fragmentation leaves a list of sizes whole when no receive of these sizes returns
less than it was asked for on its account.
-/

import Mathlib.Data.List.Basic

namespace SensorGateway.Fragments

variable {α : Type}

/-- A way to cut up a stream: how much each receive returns at most. -/
structure Fragmentation where
  most : Nat → Nat
  positive : ∀ receive, 0 < most receive

/-- What is left of a fragmentation after some receives. -/
def Fragmentation.after (cut : Fragmentation) (count : Nat) : Fragmentation where
  most receive := cut.most (receive + count)
  positive receive := cut.positive (receive + count)

/-- What the receives of these sizes return, one after the other. -/
def deliveries : Fragmentation → List α → List Nat → List (List α)
  | _, _, [] => []
  | cut, stream, size :: sizes =>
    stream.take (min (cut.most 0) size) ::
      deliveries (cut.after 1) (stream.drop (min (cut.most 0) size)) sizes

/-- No receive of these sizes returns less than it was asked for because of the
fragmentation. -/
def Fragmentation.Whole (cut : Fragmentation) (sizes : List Nat) : Prop :=
  ∀ receive size, sizes[receive]? = some size → size ≤ cut.most receive

theorem Fragmentation.whole_nil (cut : Fragmentation) : cut.Whole [] :=
  fun _ _ present => nomatch present

theorem Fragmentation.whole_cons_iff {cut : Fragmentation} {size : Nat} {sizes : List Nat} :
    cut.Whole (size :: sizes) ↔ size ≤ cut.most 0 ∧ (cut.after 1).Whole sizes := by
  constructor
  · intro whole
    exact ⟨whole 0 size rfl, fun receive other present => whole (receive + 1) other present⟩
  · rintro ⟨first, rest⟩ receive other present
    cases receive with
    | zero => exact Option.some.inj present ▸ first
    | succ receive => exact rest receive other present

/-- A receive returns nothing only when nothing is left. -/
theorem Fragmentation.eq_nil_of_take (cut : Fragmentation) {stream : List α} {size : Nat}
    (asked : 0 < size) (nothing : stream.take (min (cut.most 0) size) = []) : stream = [] := by
  have some := cut.positive 0
  rcases List.take_eq_nil_iff.mp nothing with none | empty
  · omega
  · exact empty

end SensorGateway.Fragments
