/-
This file is a small library on the lock discipline of one thread and one mutex that is
not recursive. The lock operations of the thread are read from left to right; the
reading fails at a lock of a mutex the thread already holds and at an unlock of a mutex
it does not hold. A list of operations is disciplined when its reading does not fail.
-/

import Mathlib.Data.List.Basic

namespace SensorGateway.Mutex

/-- An operation on the mutex. -/
inductive Operation where
  | lock
  | unlock
  deriving DecidableEq, Repr

/-- Read a list of operations, from whether the thread holds the mutex before to whether it
holds it after. -/
def run : Bool → List Operation → Option Bool
  | held, [] => some held
  | false, .lock :: rest => run true rest
  | true, .unlock :: rest => run false rest
  | true, .lock :: _ => none
  | false, .unlock :: _ => none

/-- The thread never locks a mutex it holds and never unlocks one it does not hold. -/
def Disciplined (operations : List Operation) : Prop := ∃ held, run false operations = some held

/-- A disciplined list that leaves the mutex free. -/
def Released (operations : List Operation) : Prop := run false operations = some false

/-- One acquisition and its release. -/
def bracket : List Operation := [.lock, .unlock]

theorem run_append (held : Bool) (first second : List Operation) :
    run held (first ++ second) = (run held first).bind fun between => run between second := by
  induction first generalizing held with
  | nil => rfl
  | cons operation rest inductionHypothesis =>
    cases held <;> cases operation
    · exact inductionHypothesis true
    · rfl
    · rfl
    · exact inductionHypothesis false

theorem Released.disciplined {operations : List Operation} (released : Released operations) :
    Disciplined operations := ⟨false, released⟩

/-- Balanced pieces compose. -/
theorem Released.append {first second : List Operation} (before : Released first)
    (after : Released second) : Released (first ++ second) := by
  rw [Released, run_append, before, Option.bind_some, after]

theorem released_bracket : Released bracket := rfl

end SensorGateway.Mutex
