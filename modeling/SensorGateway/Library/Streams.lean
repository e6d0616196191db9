/-
This file is a small library on streams of events that are merged into one.

Each of several machines has a key. An event goes to the machines with its key, which
change their state and put something out. Machines do not see each other, so that each
one ends up where its own events lead it, however they are merged with those of others,
and what it puts out on the way depends on them alone. Two merged streams that agree for
each key can not be told apart.
-/

import Mathlib.Data.List.Basic

namespace SensorGateway.Streams

/-- How machines work: a step keeps the key of the state, and what it puts out has this key. -/
structure Machines (State Event Output Key : Type) where
  stateKey : State → Key
  eventKey : Event → Key
  outputKey : Output → Key
  step : State → Event → State × List Output
  stateKey_step : ∀ state event, stateKey (step state event).1 = stateKey state
  outputKey_step : ∀ state event, ∀ output ∈ (step state event).2,
    outputKey output = stateKey state

variable {State Event Output Key : Type} [DecidableEq Key]
  (machines : Machines State Event Output Key)

/-- The events with a key. -/
def Machines.ofKey (key : Key) (events : List Event) : List Event :=
  events.filter fun event => machines.eventKey event = key

/-- The machines with a key. -/
def Machines.atKey (key : Key) (states : List State) : List State :=
  states.filter fun state => machines.stateKey state = key

/-- What is put out with a key. -/
def Machines.fromKey (key : Key) (outputs : List Output) : List Output :=
  outputs.filter fun output => machines.outputKey output = key

/-- One machine on its own. -/
def Machines.run (state : State) (events : List Event) : State :=
  events.foldl (fun state event => (machines.step state event).1) state

/-- What a machine makes of an event: nothing, unless the event has its key. -/
def Machines.receive (state : State) (event : Event) : State × List Output :=
  if machines.stateKey state = machines.eventKey event then machines.step state event
  else (state, [])

/-- The states after an event. -/
def Machines.merge (states : List State) (event : Event) : List State :=
  states.map fun state => (machines.receive state event).1

/-- What the machines put out at an event. -/
def Machines.output (states : List State) (event : Event) : List Output :=
  states.flatMap fun state => (machines.receive state event).2

/-- The states after a merged stream. -/
def Machines.mergeAll (states : List State) (events : List Event) : List State :=
  events.foldl machines.merge states

/-- What the machines put out during a merged stream. -/
def Machines.outputs : List State → List Event → List Output
  | _, [] => []
  | states, event :: rest =>
    machines.output states event ++ Machines.outputs (machines.merge states event) rest

section Separation

variable {machines} {states : List State} {state : State} {event : Event} {key : Key}

theorem receive_own (own : machines.stateKey state = machines.eventKey event) :
    machines.receive state event = machines.step state event := if_pos own

theorem receive_other (other : machines.stateKey state ≠ machines.eventKey event) :
    machines.receive state event = (state, []) := if_neg other

/-- A machine keeps its key. -/
theorem stateKey_receive (state : State) (event : Event) :
    machines.stateKey (machines.receive state event).1 = machines.stateKey state := by
  by_cases own : machines.stateKey state = machines.eventKey event
  · rw [receive_own own, machines.stateKey_step]
  · rw [receive_other own]

theorem Machines.map_stateKey_merge (machines : Machines State Event Output Key)
    (states : List State) (event : Event) :
    (machines.merge states event).map machines.stateKey = states.map machines.stateKey := by
  unfold Machines.merge
  rw [List.map_map]
  exact List.map_congr_left fun state _ => stateKey_receive state event

theorem ofKey_cons (key : Key) (event : Event) (rest : List Event) :
    machines.ofKey key (event :: rest) =
      if machines.eventKey event = key then event :: machines.ofKey key rest
      else machines.ofKey key rest := by
  simp [Machines.ofKey, List.filter_cons]

theorem atKey_cons (key : Key) (state : State) (rest : List State) :
    machines.atKey key (state :: rest) =
      if machines.stateKey state = key then state :: machines.atKey key rest
      else machines.atKey key rest := by
  simp [Machines.atKey, List.filter_cons]

theorem fromKey_append (key : Key) (first second : List Output) :
    machines.fromKey key (first ++ second) =
      machines.fromKey key first ++ machines.fromKey key second := List.filter_append _ _

theorem merge_cons (state : State) (rest : List State) (event : Event) :
    machines.merge (state :: rest) event =
      (machines.receive state event).1 :: machines.merge rest event := List.map_cons

theorem output_cons (state : State) (rest : List State) (event : Event) :
    machines.output (state :: rest) event =
      (machines.receive state event).2 ++ machines.output rest event := List.flatMap_cons

/-- What a machine puts out has its key. -/
theorem fromKey_receive (key : Key) (state : State) (event : Event) :
    machines.fromKey key (machines.receive state event).2 =
      if machines.stateKey state = key then (machines.receive state event).2 else [] := by
  have keyed : ∀ output ∈ (machines.receive state event).2,
      machines.outputKey output = machines.stateKey state := by
    by_cases own : machines.stateKey state = machines.eventKey event
    · rw [receive_own own]
      exact machines.outputKey_step state event
    · rw [receive_other own]
      simp
  unfold Machines.fromKey
  split_ifs with same
  · exact List.filter_eq_self.mpr fun output member =>
      decide_eq_true ((keyed output member).trans same)
  · exact List.filter_eq_nil_iff.mpr fun output member found =>
      same ((keyed output member).symm.trans (of_decide_eq_true found))

/-- Each machine ends up where its own events lead it. -/
theorem Machines.mergeAll_eq (machines : Machines State Event Output Key)
    (states : List State) (events : List Event) :
    machines.mergeAll states events = states.map fun state =>
      machines.run state (machines.ofKey (machines.stateKey state) events) := by
  induction events generalizing states with
  | nil => exact (List.map_id' states).symm
  | cons event rest inductionHypothesis =>
    unfold Machines.mergeAll at inductionHypothesis ⊢
    rw [List.foldl_cons, inductionHypothesis, Machines.merge, List.map_map]
    refine List.map_congr_left fun state _ => ?_
    rw [Function.comp_apply, stateKey_receive, ofKey_cons]
    by_cases own : machines.stateKey state = machines.eventKey event
    · rw [receive_own own, if_pos own.symm]
      rfl
    · rw [receive_other own, if_neg (Ne.symm own)]

/-- An event changes only the machines with its key. -/
theorem atKey_merge (key : Key) (states : List State) (event : Event) :
    machines.atKey key (machines.merge states event) =
      if machines.eventKey event = key then machines.merge (machines.atKey key states) event
      else machines.atKey key states := by
  induction states with
  | nil => exact (ite_self _).symm
  | cons state rest inductionHypothesis =>
    rw [merge_cons, atKey_cons, atKey_cons, stateKey_receive, inductionHypothesis]
    by_cases here : machines.stateKey state = key
    · rw [if_pos here, if_pos here]
      by_cases own : machines.eventKey event = key
      · rw [if_pos own, if_pos own, merge_cons]
      · rw [if_neg own, if_neg own, receive_other fun same => own (same.symm.trans here)]
    · rw [if_neg here, if_neg here]

/-- What is put out with a key comes from the machines with this key. -/
theorem fromKey_output (key : Key) (states : List State) (event : Event) :
    machines.fromKey key (machines.output states event) =
      if machines.eventKey event = key then machines.output (machines.atKey key states) event
      else [] := by
  induction states with
  | nil => exact (ite_self _).symm
  | cons state rest inductionHypothesis =>
    rw [output_cons, fromKey_append, fromKey_receive, inductionHypothesis, atKey_cons]
    by_cases here : machines.stateKey state = key
    · rw [if_pos here, if_pos here]
      by_cases own : machines.eventKey event = key
      · rw [if_pos own, if_pos own, output_cons]
      · rw [if_neg own, if_neg own, receive_other fun same => own (same.symm.trans here)]
        rfl
    · rw [if_neg here, if_neg here, List.nil_append]

/-- What is put out with a key depends on the machines and the events with this key only. -/
theorem fromKey_outputs (key : Key) (states : List State) (events : List Event) :
    machines.fromKey key (machines.outputs states events) =
      machines.outputs (machines.atKey key states) (machines.ofKey key events) := by
  induction events generalizing states with
  | nil => rfl
  | cons event rest inductionHypothesis =>
    rw [Machines.outputs, fromKey_append, fromKey_output, inductionHypothesis, atKey_merge,
      ofKey_cons]
    by_cases own : machines.eventKey event = key
    · rw [if_pos own, if_pos own, if_pos own, Machines.outputs]
    · rw [if_neg own, if_neg own, if_neg own, List.nil_append]

/-- Two merged streams with the same events for each key lead to the same states, and to the same
outputs for each key. -/
theorem Machines.merged_agree (machines : Machines State Event Output Key)
    {first second : List Event}
    (same : ∀ key, machines.ofKey key first = machines.ofKey key second) (states : List State) :
    machines.mergeAll states first = machines.mergeAll states second ∧
      ∀ key, machines.fromKey key (machines.outputs states first) =
        machines.fromKey key (machines.outputs states second) := by
  refine ⟨?_, fun key => ?_⟩
  · rw [machines.mergeAll_eq, machines.mergeAll_eq]
    exact List.map_congr_left fun state _ => congrArg (machines.run state) (same _)
  · rw [fromKey_outputs, fromKey_outputs, same]

/-- Machines with other keys do nothing at an event. -/
theorem merge_others
    (others : ∀ state ∈ states, machines.stateKey state ≠ machines.eventKey event) :
    machines.merge states event = states ∧ machines.output states event = [] := by
  constructor
  · refine (List.map_congr_left fun state member => ?_).trans (List.map_id' states)
    rw [receive_other (others state member)]
  · refine List.flatMap_eq_nil_iff.mpr fun state member => ?_
    rw [receive_other (others state member)]

/-- With distinct keys, one machine at most takes an event. -/
theorem merge_split {front back : List State}
    (own : machines.stateKey state = machines.eventKey event)
    (distinct : ((front ++ state :: back).map machines.stateKey).Nodup) :
    machines.merge (front ++ state :: back) event =
        front ++ (machines.step state event).1 :: back ∧
      machines.output (front ++ state :: back) event = (machines.step state event).2 := by
  have alone := (List.perm_middle.map machines.stateKey).nodup_iff.mp distinct
  rw [List.map_cons, List.nodup_cons, own] at alone
  have others : ∀ other ∈ front ++ back, machines.stateKey other ≠ machines.eventKey event :=
    fun other member same => alone.1 (same ▸ List.mem_map_of_mem member)
  obtain ⟨inFront, behind⟩ := List.forall_mem_append.mp others
  constructor
  · have split : machines.merge (front ++ state :: back) event =
        machines.merge front event ++ machines.merge (state :: back) event := List.map_append
    rw [split, (merge_others inFront).1, merge_cons, receive_own own, (merge_others behind).1]
  · have split : machines.output (front ++ state :: back) event =
        machines.output front event ++ machines.output (state :: back) event :=
      List.flatMap_append
    rw [split, (merge_others inFront).2, output_cons, receive_own own, (merge_others behind).2,
      List.nil_append, List.append_nil]

end Separation

end SensorGateway.Streams
