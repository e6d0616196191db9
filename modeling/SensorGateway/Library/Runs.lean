/-
This file is a small library on runs of a partial step function. A step function
answers an event with the next state, or refuses it. A run from a state is the list
of transitions that a list of events produces, up to the first refused event.

Besides the induction on a run, two rules carry the proofs about runs. The invariant
rule says that what the first state satisfies and every admitted transition preserves
holds before and after each transition. The guard rule is for properties that hold
exactly under a condition: when every transition that meets the condition keeps
the invariant and every transition that misses it breaks the property, the whole
run has the property exactly when all its transitions meet the condition.
-/

import Mathlib.Data.List.Basic

namespace SensorGateway.Runs

variable {State Event : Type}

/-- One step of a run: the state it leaves, the event it answers, the state it enters. -/
structure Transition (State Event : Type) where
  before : State
  event : Event
  after : State

/-- The transitions that a list of events produces, up to the first refused event. -/
def transitions (step : State → Event → Option State) :
    State → List Event → List (Transition State Event)
  | _, [] => []
  | state, event :: rest =>
    match step state event with
    | none => []
    | some next => ⟨state, event, next⟩ :: transitions step next rest

/-- The events that are tried, each with the state it is tried in, up to the first refused one. -/
def attempts (step : State → Event → Option State) : State → List Event → List (State × Event)
  | _, [] => []
  | state, event :: rest =>
    (state, event) ::
      match step state event with
      | none => []
      | some next => attempts step next rest

/-- The state in which a list of events leaves the machine. -/
def final (step : State → Event → Option State) : State → List Event → State
  | state, [] => state
  | state, event :: rest =>
    match step state event with
    | none => state
    | some next => final step next rest

/-- The state after a list of events, if none of them is refused. -/
def complete (step : State → Event → Option State) : State → List Event → Option State
  | state, [] => some state
  | state, event :: rest => (step state event).bind fun next => complete step next rest

section Rules

variable {step : State → Event → Option State} {start : State} {events : List Event}

theorem transitions_cons_of_some {event : Event} {next : State}
    (taken : step start event = some next) :
    transitions step start (event :: events) =
      ⟨start, event, next⟩ :: transitions step next events := by
  rw [transitions, taken]

theorem transitions_cons_of_none {event : Event} (refused : step start event = none) :
    transitions step start (event :: events) = [] := by
  rw [transitions, refused]

/-- Induction on a run: it stops where it is, or goes on with a first transition. -/
@[elab_as_elim]
theorem run_induction {motive : State → List (Transition State Event) → State → Prop}
    (stops : ∀ state, motive state [] state)
    (goesOn : ∀ state event next rest last, step state event = some next →
      motive next rest last → motive state (⟨state, event, next⟩ :: rest) last)
    (start : State) (events : List Event) :
    motive start (transitions step start events) (final step start events) := by
  induction events generalizing start with
  | nil => exact stops start
  | cons event rest inductionHypothesis =>
    rw [transitions, final]
    cases taken : step start event with
    | none => exact stops start
    | some next => exact goesOn start event next _ _ taken (inductionHypothesis next)

/-- A listed transition is the first step, or listed from the state after it. -/
theorem mem_transitions_cons {event : Event} {transition : Transition State Event} :
    transition ∈ transitions step start (event :: events) ↔
      ∃ next, step start event = some next ∧
        (transition = ⟨start, event, next⟩ ∨ transition ∈ transitions step next events) := by
  cases taken : step start event with
  | none => simp [transitions_cons_of_none taken]
  | some next => simp [transitions_cons_of_some taken]

/-- Every listed transition is a step of the machine. -/
theorem step_of_mem_transitions {transition : Transition State Event}
    (member : transition ∈ transitions step start events) :
    step transition.before transition.event = some transition.after := by
  induction events generalizing start with
  | nil => exact absurd member List.not_mem_nil
  | cons event rest inductionHypothesis =>
    obtain ⟨next, taken, rfl | tail⟩ := mem_transitions_cons.mp member
    · exact taken
    · exact inductionHypothesis tail

theorem event_mem_of_mem_transitions {transition : Transition State Event}
    (member : transition ∈ transitions step start events) : transition.event ∈ events := by
  induction events generalizing start with
  | nil => exact absurd member List.not_mem_nil
  | cons event rest inductionHypothesis =>
    obtain ⟨next, -, rfl | tail⟩ := mem_transitions_cons.mp member
    · exact List.mem_cons_self
    · exact List.mem_cons_of_mem _ (inductionHypothesis tail)

/-- A complete run of a list is a complete run of its front followed by one of its rest. -/
theorem complete_append (first second : List Event) :
    complete step start (first ++ second) =
      (complete step start first).bind fun middle => complete step middle second := by
  induction first generalizing start with
  | nil => rfl
  | cons event rest inductionHypothesis =>
    rw [List.cons_append, complete, complete, Option.bind_assoc]
    refine Option.bind_congr fun next _ => ?_
    exact inductionHypothesis

/-- After a complete run, the transitions of the run go on with those from its last state. -/
theorem transitions_append_of_complete {first : List Event} {middle : State}
    (ran : complete step start first = some middle) (second : List Event) :
    transitions step start (first ++ second) =
      transitions step start first ++ transitions step middle second := by
  induction first generalizing start with
  | nil =>
    rw [complete, Option.some.injEq] at ran
    rw [ran]
    rfl
  | cons event rest inductionHypothesis =>
    obtain ⟨next, taken, ranRest⟩ := Option.bind_eq_some_iff.mp ran
    rw [List.cons_append, transitions_cons_of_some taken, transitions_cons_of_some taken,
      inductionHypothesis ranRest, List.cons_append]

/-- What follows a transition of a run is a run from the state it enters. -/
theorem exists_run_after {earlier later : List (Transition State Event)}
    {transition : Transition State Event}
    (split : transitions step start events = earlier ++ transition :: later) :
    ∃ rest, transitions step transition.after rest = later ∧
      final step transition.after rest = final step start events := by
  induction events generalizing start earlier with
  | nil => exact absurd split (by simp [transitions])
  | cons event rest inductionHypothesis =>
    cases taken : step start event with
    | none =>
      rw [transitions_cons_of_none taken] at split
      exact absurd split (by simp)
    | some next =>
      rw [transitions_cons_of_some taken] at split
      rw [final, taken]
      cases earlier with
      | nil =>
        rw [List.nil_append, List.cons.injEq] at split
        rw [← split.1, ← split.2]
        exact ⟨rest, rfl, rfl⟩
      | cons head others =>
        rw [List.cons_append, List.cons.injEq] at split
        exact inductionHypothesis split.2

/-- The invariant rule. An assumption on the transitions of the run may be used in the
preservation step. -/
theorem invariant_of_transitions (Invariant : State → Prop)
    (Admitted : Transition State Event → Prop) (initial : Invariant start)
    (preserved : ∀ before event after, Invariant before → step before event = some after →
      Admitted ⟨before, event, after⟩ → Invariant after)
    (admitted : ∀ transition ∈ transitions step start events, Admitted transition) :
    ∀ transition ∈ transitions step start events,
      Invariant transition.before ∧ Invariant transition.after := by
  induction events generalizing start with
  | nil => exact fun transition member => absurd member List.not_mem_nil
  | cons event rest inductionHypothesis =>
    intro transition member
    obtain ⟨next, taken, place⟩ := mem_transitions_cons.mp member
    rw [transitions_cons_of_some taken] at admitted
    have entered : Invariant next :=
      preserved start event next initial taken (admitted _ List.mem_cons_self)
    rcases place with rfl | tail
    · exact ⟨initial, entered⟩
    · exact inductionHypothesis entered
        (fun other otherMember => admitted other (List.mem_cons_of_mem _ otherMember))
        transition tail

/-- The invariant rule for what each transition does: a property that every step from a state with
the invariant has, holds of every transition of a run. -/
theorem forall_transitions (Invariant : State → Prop) {Property : Transition State Event → Prop}
    (initial : Invariant start)
    (kept : ∀ before event after, Invariant before → step before event = some after →
      Invariant after ∧ Property ⟨before, event, after⟩) :
    ∀ transition ∈ transitions step start events, Property transition := by
  intro transition member
  have holds := invariant_of_transitions Invariant (fun _ => True) initial
    (fun before event after held taken _ => (kept before event after held taken).1)
    (fun _ _ => trivial) transition member
  exact (kept _ _ _ holds.1 (step_of_mem_transitions member)).2

/-- The invariant rule for a run without refused events. -/
theorem invariant_of_complete (Invariant : State → Prop)
    (Admitted : Transition State Event → Prop) (initial : Invariant start)
    (preserved : ∀ before event after, Invariant before → step before event = some after →
      Admitted ⟨before, event, after⟩ → Invariant after)
    (admitted : ∀ transition ∈ transitions step start events, Admitted transition) {last : State}
    (ran : complete step start events = some last) : Invariant last := by
  induction events generalizing start with
  | nil =>
    rw [complete, Option.some.injEq] at ran
    exact ran ▸ initial
  | cons event rest inductionHypothesis =>
    obtain ⟨next, taken, ranRest⟩ := Option.bind_eq_some_iff.mp ran
    rw [transitions_cons_of_some taken] at admitted
    have entered := preserved start event next initial taken (admitted _ List.mem_cons_self)
    exact inductionHypothesis entered
      (fun transition member => admitted transition (List.mem_cons_of_mem _ member)) ranRest

/-- The invariant rule for the state in which a list of events leaves the machine. -/
theorem invariant_final (Invariant : State → Prop) (initial : Invariant start)
    (preserved : ∀ before event after, Invariant before → step before event = some after →
      Invariant after) : Invariant (final step start events) := by
  revert initial
  refine run_induction (fun state initial => initial)
    (fun state event next rest last taken inductionHypothesis initial => ?_) start events
  exact inductionHypothesis (preserved state event next initial taken)

/-- The rule for what some transitions bring about and none takes back: it holds in the end exactly
when it held before, or one of them was taken. -/
theorem final_iff_exists (Invariant : State → Prop) {Holds : State → Prop}
    {Brings : Transition State Event → Prop} (initial : Invariant start)
    (kept : ∀ before event after, Invariant before → step before event = some after →
      Invariant after ∧ (Holds after ↔ Holds before ∨ Brings ⟨before, event, after⟩)) :
    Holds (final step start events) ↔
      Holds start ∨ ∃ transition ∈ transitions step start events, Brings transition := by
  revert initial
  refine run_induction (fun state _ => ?_)
    (fun state event next rest last taken inductionHypothesis initial => ?_) start events
  · simp only [List.not_mem_nil, false_and, exists_false, or_false]
  · obtain ⟨entered, brings⟩ := kept state event next initial taken
    rw [inductionHypothesis entered, brings]
    simp only [List.mem_cons, exists_eq_or_imp, or_assoc]

/-- The invariant rule for the events that are tried, refused or not. -/
theorem invariant_of_attempts (Invariant : State → Prop) (initial : Invariant start)
    (preserved : ∀ before event after, Invariant before → step before event = some after →
      Invariant after) : ∀ attempt ∈ attempts step start events, Invariant attempt.1 := by
  induction events generalizing start with
  | nil => exact fun attempt member => absurd member List.not_mem_nil
  | cons event rest inductionHypothesis =>
    rw [attempts]
    refine List.forall_mem_cons.mpr ⟨initial, ?_⟩
    cases taken : step start event with
    | none => exact fun attempt member => absurd member List.not_mem_nil
    | some next => exact inductionHypothesis (preserved start event next initial taken)

/-- The progress rule: when the invariant lets every event through and each step keeps it, no
event of any list is refused. -/
theorem complete_of_progress {Invariant : State → Prop} (initial : Invariant start)
    (progress : ∀ state event, Invariant state →
      ∃ next, step state event = some next ∧ Invariant next) :
    ∃ last, complete step start events = some last ∧ Invariant last := by
  induction events generalizing start with
  | nil => exact ⟨start, rfl, initial⟩
  | cons event rest inductionHypothesis =>
    obtain ⟨next, taken, entered⟩ := progress start event initial
    obtain ⟨last, ran, holds⟩ := inductionHypothesis entered
    refine ⟨last, ?_, holds⟩
    rw [complete, taken, Option.bind_some, ran]

/-- The guard rule. Under the invariant a transition that meets the condition keeps the
invariant and satisfies the property, and one that misses it violates the property; then all
transitions of a run satisfy the property exactly when all meet the condition. -/
theorem all_iff_of_guard (Invariant : State → Prop)
    (Admitted : Transition State Event → Prop)
    {Condition Property : Transition State Event → Prop} (initial : Invariant start)
    (kept : ∀ transition : Transition State Event, Invariant transition.before →
      step transition.before transition.event = some transition.after → Admitted transition →
      Condition transition → Invariant transition.after ∧ Property transition)
    (broken : ∀ transition : Transition State Event, Invariant transition.before →
      step transition.before transition.event = some transition.after → Admitted transition →
      ¬ Condition transition → ¬ Property transition)
    (admitted : ∀ transition ∈ transitions step start events, Admitted transition) :
    (∀ transition ∈ transitions step start events, Property transition) ↔
      ∀ transition ∈ transitions step start events, Condition transition := by
  induction events generalizing start with
  | nil => simp only [transitions, List.not_mem_nil, false_imp_iff, implies_true]
  | cons event rest inductionHypothesis =>
    cases taken : step start event with
    | none =>
      simp only [transitions_cons_of_none taken, List.not_mem_nil, false_imp_iff, implies_true]
    | some next =>
      rw [transitions_cons_of_some taken] at admitted ⊢
      have headAdmitted := admitted _ List.mem_cons_self
      have tailAdmitted : ∀ transition ∈ transitions step next rest, Admitted transition :=
        fun other member => admitted other (List.mem_cons_of_mem _ member)
      simp only [List.forall_mem_cons]
      constructor
      · rintro ⟨headHolds, tailHolds⟩
        have headMeets : Condition ⟨start, event, next⟩ := by
          by_contra misses
          exact broken ⟨start, event, next⟩ initial taken headAdmitted misses headHolds
        have entered := (kept ⟨start, event, next⟩ initial taken headAdmitted headMeets).1
        exact ⟨headMeets, (inductionHypothesis entered tailAdmitted).mp tailHolds⟩
      · rintro ⟨headMeets, tailMeets⟩
        obtain ⟨entered, headHolds⟩ :=
          kept ⟨start, event, next⟩ initial taken headAdmitted headMeets
        exact ⟨headHolds, (inductionHypothesis entered tailAdmitted).mpr tailMeets⟩

end Rules

end SensorGateway.Runs
