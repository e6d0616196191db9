/-
This file is a small library on forward simulation between two machines with partial
step functions. When every step of the concrete machine is matched by some steps of the
abstract one, every run of the concrete machine is matched by a run of the abstract
one, and the states it ends in are related.
-/

import SensorGateway.Library.Runs

namespace SensorGateway.Runs

variable {Concrete Abstract Event AbstractEvent : Type}
  {step : Concrete → Event → Option Concrete}
  {abstractStep : Abstract → AbstractEvent → Option Abstract}

/-- The abstract machine can match a step of the concrete one from related states. -/
def Simulated (abstractStep : Abstract → AbstractEvent → Option Abstract)
    (Related : Concrete → Abstract → Prop) (abstract : Abstract) (next : Concrete) : Prop :=
  ∃ events last, complete abstractStep abstract events = some last ∧ Related next last

variable {Related : Concrete → Abstract → Prop}

/-- A step that the abstract machine does not see. -/
theorem Simulated.stutter {abstract : Abstract} {next : Concrete}
    (related : Related next abstract) : Simulated abstractStep Related abstract next :=
  ⟨[], abstract, rfl, related⟩

/-- A step that is one step of the abstract machine. -/
theorem Simulated.single {abstract last : Abstract} {next : Concrete} {event : AbstractEvent}
    (taken : abstractStep abstract event = some last) (related : Related next last) :
    Simulated abstractStep Related abstract next := by
  refine ⟨[event], last, ?_, related⟩
  rw [complete, taken]
  rfl

/-- The simulation rule. -/
theorem simulated_final
    (matched : ∀ concrete abstract event next, Related concrete abstract →
      step concrete event = some next → Simulated abstractStep Related abstract next)
    {concrete : Concrete} {abstract : Abstract} (related : Related concrete abstract)
    (events : List Event) :
    Simulated abstractStep Related abstract (final step concrete events) := by
  induction events generalizing concrete abstract with
  | nil => exact .stutter related
  | cons event rest inductionHypothesis =>
    rw [final]
    cases taken : step concrete event with
    | none => exact .stutter related
    | some next =>
      obtain ⟨first, middle, ranFirst, relatedMiddle⟩ :=
        matched concrete abstract event next related taken
      obtain ⟨second, last, ranSecond, relatedLast⟩ := inductionHypothesis relatedMiddle
      refine ⟨first ++ second, last, ?_, relatedLast⟩
      rw [complete_append, ranFirst, Option.bind_some, ranSecond]

/-- The bisimulation rule. -/
theorem complete_related {abstractStep : Abstract → Event → Option Abstract}
    (matched : ∀ concrete abstract event, Related concrete abstract →
      Option.Rel Related (step concrete event) (abstractStep abstract event))
    {concrete : Concrete} {abstract : Abstract} (related : Related concrete abstract)
    (events : List Event) :
    Option.Rel Related (complete step concrete events) (complete abstractStep abstract events) := by
  induction events generalizing concrete abstract with
  | nil => exact .some related
  | cons event rest inductionHypothesis =>
    have same := matched concrete abstract event related
    rw [complete, complete]
    generalize step concrete event = next at same ⊢
    generalize abstractStep abstract event = abstractNext at same ⊢
    cases same with
    | some both => exact inductionHypothesis both
    | none => exact .none

end SensorGateway.Runs
