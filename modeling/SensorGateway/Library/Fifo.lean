/-
This file is a small library on a first-in first-out queue that several takers share.
Taking is destructive: an item goes to whoever takes it first, and a taker that finds
the queue empty goes away with nothing.

The history of a schedule records what was put, who took what, and who found nothing.
Two laws describe every schedule. Conservation: what was taken, in taking order, followed
by what still waits, is what was put. Supply: a taker is never turned away exactly when
at each of its attempts more items had been put than taken.
-/

import Mathlib.Data.List.Induction
import Mathlib.Data.List.Perm.Basic

namespace SensorGateway.Fifo

variable {Item Taker : Type}

/-- Put an item at the back of a queue. -/
def put (queue : List Item) (item : Item) : List Item := queue ++ [item]

/-- Take the item at the front of a queue. -/
def take : List Item → Option (Item × List Item)
  | [] => none
  | item :: rest => some (item, rest)

/-- One event of a schedule. -/
inductive Event (Item Taker : Type) where
  | put (item : Item)
  | take (taker : Taker)

/-- What a schedule has done so far. -/
structure History (Item Taker : Type) where
  waiting : List Item
  entered : List Item
  taken : List (Taker × Item)
  missed : List Taker

/-- Before the first event. -/
def History.start (Item Taker : Type) : History Item Taker where
  waiting := []
  entered := []
  taken := []
  missed := []

/-- One event of a schedule. -/
def History.step (history : History Item Taker) : Event Item Taker → History Item Taker
  | .put item =>
    { history with
      waiting := Fifo.put history.waiting item
      entered := history.entered ++ [item] }
  | .take taker =>
    match Fifo.take history.waiting with
    | none => { history with missed := history.missed ++ [taker] }
    | some (item, rest) =>
      { history with
        waiting := rest
        taken := history.taken ++ [(taker, item)] }

/-- A whole schedule. -/
def History.run (events : List (Event Item Taker)) : History Item Taker :=
  events.foldl History.step (History.start Item Taker)

theorem History.run_append_singleton (events : List (Event Item Taker))
    (event : Event Item Taker) :
    History.run (events ++ [event]) = (History.run events).step event := by
  rw [History.run, List.foldl_append]
  rfl

/-- What one taker got, in the order it got it. -/
def History.portion [DecidableEq Taker] (history : History Item Taker) (taker : Taker) :
    List Item :=
  (history.taken.filter fun entry => entry.1 = taker).map Prod.snd

/-- The number of items that wait after a schedule: a take from an empty queue takes none. -/
def pending : List (Event Item Taker) → Nat :=
  List.foldl (fun count event =>
    match event with
    | .put _ => count + 1
    | .take _ => count - 1) 0

theorem pending_append_put (events : List (Event Item Taker)) (item : Item) :
    pending (events ++ [.put item]) = pending events + 1 := by
  rw [pending, List.foldl_append]
  rfl

theorem pending_append_take (events : List (Event Item Taker)) (taker : Taker) :
    pending (events ++ [.take taker]) = pending events - 1 := by
  rw [pending, List.foldl_append]
  rfl

/-! ### Conservation -/

theorem History.step_conserves {history : History Item Taker}
    (conserved : history.taken.map Prod.snd ++ history.waiting = history.entered)
    (event : Event Item Taker) :
    (history.step event).taken.map Prod.snd ++ (history.step event).waiting =
      (history.step event).entered := by
  cases event with
  | put item =>
    show history.taken.map Prod.snd ++ (history.waiting ++ [item]) = history.entered ++ [item]
    rw [← List.append_assoc, conserved]
  | take taker =>
    unfold History.step
    cases waiting : history.waiting with
    | nil =>
      rw [waiting] at conserved
      simpa only [take, waiting] using conserved
    | cons item rest =>
      rw [waiting] at conserved
      simpa only [take, List.map_append, List.map_cons, List.map_nil, List.append_assoc,
        List.singleton_append] using conserved

/-- What was taken, in taking order, followed by what waits, is what was put. -/
theorem History.run_conserves (events : List (Event Item Taker)) :
    (History.run events).taken.map Prod.snd ++ (History.run events).waiting =
      (History.run events).entered := by
  induction events using List.reverseRecOn with
  | nil => rfl
  | append_singleton earlier event inductionHypothesis =>
    rw [History.run_append_singleton]
    exact History.step_conserves inductionHypothesis event

/-- Once the queue is drained, what was taken, in taking order, is what was put. -/
theorem History.taken_of_drained {events : List (Event Item Taker)}
    (drained : (History.run events).waiting = []) :
    (History.run events).taken.map Prod.snd = (History.run events).entered := by
  have conserved := History.run_conserves events
  rwa [drained, List.append_nil] at conserved

/-- Every taker gets a subsequence of what was taken. -/
theorem History.portion_sublist [DecidableEq Taker] (history : History Item Taker)
    (taker : Taker) : (history.portion taker).Sublist (history.taken.map Prod.snd) :=
  List.Sublist.map _ List.filter_sublist

/-- When there are two takers, their portions together are what was taken, each item once. -/
theorem History.portions_perm [DecidableEq Taker] (history : History Item Taker)
    {first second : Taker} (different : second ≠ first)
    (only : ∀ taker : Taker, taker = first ∨ taker = second) :
    (history.portion first ++ history.portion second).Perm (history.taken.map Prod.snd) := by
  have others : (history.taken.filter fun entry => entry.1 = second) =
      history.taken.filter fun entry => !(decide (entry.1 = first)) := by
    refine List.filter_congr fun entry _ => ?_
    rcases only entry.1 with same | same
    · simp [same, different.symm]
    · simp [same, different]
  rw [History.portion, History.portion, others, ← List.map_append]
  exact (List.filter_append_perm _ _).map _

/-! ### Supply -/

/-- The schedule count is the length of the queue. -/
theorem History.waiting_length (events : List (Event Item Taker)) :
    (History.run events).waiting.length = pending events := by
  induction events using List.reverseRecOn with
  | nil => rfl
  | append_singleton earlier event inductionHypothesis =>
    rw [History.run_append_singleton]
    cases event with
    | put item =>
      rw [pending_append_put, ← inductionHypothesis]
      show ((History.run earlier).waiting ++ [item]).length = _
      rw [List.length_append, List.length_singleton]
    | take taker =>
      rw [pending_append_take, ← inductionHypothesis]
      unfold History.step
      cases (History.run earlier).waiting with
      | nil => rfl
      | cons item rest => rfl

/-- At each attempt of the taker, an item waits. -/
def Supplied (events : List (Event Item Taker)) (taker : Taker) : Prop :=
  ∀ earlier later, events = earlier ++ .take taker :: later → 0 < pending earlier

theorem supplied_append_singleton_iff (events : List (Event Item Taker))
    (event : Event Item Taker) (taker : Taker) :
    Supplied (events ++ [event]) taker ↔
      Supplied events taker ∧ (event = .take taker → 0 < pending events) := by
  constructor
  · intro supplied
    refine ⟨fun earlier later split => supplied earlier (later ++ [event]) ?_, fun same => ?_⟩
    · rw [split, List.append_assoc, List.cons_append]
    · exact supplied events [] (by rw [same])
  · rintro ⟨supplied, last⟩ earlier later split
    rcases List.eq_nil_or_concat later with rfl | ⟨front, final, rfl⟩
    · obtain ⟨sameEvents, sameEvent⟩ := List.append_inj' split rfl
      rw [← sameEvents]
      exact last (List.singleton_inj.mp sameEvent)
    · rw [List.concat_eq_append, ← List.cons_append, ← List.append_assoc] at split
      exact supplied earlier front (List.append_inj' split rfl).1

/-- A taker is never turned away exactly when something waits at each of its attempts. -/
theorem History.not_missed_iff (events : List (Event Item Taker)) (taker : Taker) :
    taker ∉ (History.run events).missed ↔ Supplied events taker := by
  induction events using List.reverseRecOn with
  | nil =>
    refine iff_of_true List.not_mem_nil fun earlier later split => ?_
    exact absurd split (by simp)
  | append_singleton earlier event inductionHypothesis =>
    rw [supplied_append_singleton_iff, ← inductionHypothesis, History.run_append_singleton,
      ← History.waiting_length]
    cases event with
    | put item => simp [History.step]
    | take other =>
      unfold History.step
      cases (History.run earlier).waiting with
      | nil => simp [take, eq_comm]
      | cons item rest => simp [take]

end SensorGateway.Fifo
