/-
This file is a small library on a mailbox of one cell with an in-band value for "empty".
The transitions of a run either leave the cell alone, put a value into it, or take the
value out and leave the cell empty. The library says what becomes of a value that was
put, and where the value in the cell comes from.
-/

import SensorGateway.Library.Runs

namespace SensorGateway

open Runs

variable {State Event Value : Type}

/-- A mailbox in the states of a machine: its cell, the value that means empty, and which
transitions put and take which value. -/
structure Mailbox (State Event Value : Type) where
  cell : State → Value
  empty : Value
  Puts : Transition State Event → Value → Prop
  Takes : Transition State Event → Value → Prop

/-- The transition neither puts nor takes. -/
def Mailbox.Untouched (mailbox : Mailbox State Event Value)
    (transition : Transition State Event) : Prop :=
  ∀ value, ¬ mailbox.Puts transition value ∧ ¬ mailbox.Takes transition value

/-- The transition treats the cell as a mailbox. -/
inductive Mailbox.Respects (mailbox : Mailbox State Event Value)
    (transition : Transition State Event) : Prop
  | untouched (alone : mailbox.Untouched transition)
    (kept : mailbox.cell transition.after = mailbox.cell transition.before)
  | put (value : Value) (puts : mailbox.Puts transition value)
    (cell : mailbox.cell transition.after = value)
  | take (takes : mailbox.Takes transition (mailbox.cell transition.before))
    (cell : mailbox.cell transition.after = mailbox.empty)

namespace Mailbox

variable {mailbox : Mailbox State Event Value} {step : State → Event → Option State}
  {start : State} {events : List Event}

/-- What becomes of the value in the cell: it stays there to the end, or the next transition
that touches the cell takes this very value or puts another one in its place. -/
theorem fate (respects : ∀ transition ∈ transitions step start events,
      mailbox.Respects transition) :
    ((∀ transition ∈ transitions step start events, mailbox.Untouched transition) ∧
        mailbox.cell (final step start events) = mailbox.cell start) ∨
      ∃ between next rest, transitions step start events = between ++ next :: rest ∧
        (∀ transition ∈ between, mailbox.Untouched transition) ∧
        (mailbox.Takes next (mailbox.cell start) ∨ ∃ value, mailbox.Puts next value) := by
  revert respects
  refine run_induction (fun state _ => ?_)
    (fun state event next run last taken inductionHypothesis respects => ?_) start events
  · exact Or.inl ⟨fun transition member => absurd member List.not_mem_nil, rfl⟩
  · obtain ⟨headRespects, laterRespects⟩ := List.forall_mem_cons.mp respects
    cases headRespects with
    | untouched alone kept =>
      rcases inductionHypothesis laterRespects with ⟨stays, same⟩ |
        ⟨between, touching, after, split, silent, touched⟩
      · exact Or.inl ⟨List.forall_mem_cons.mpr ⟨alone, stays⟩, same.trans kept⟩
      · refine Or.inr ⟨_ :: between, touching, after, congrArg _ split,
          List.forall_mem_cons.mpr ⟨alone, silent⟩, ?_⟩
        have keptCell : mailbox.cell next = mailbox.cell state := kept
        rw [← keptCell]
        exact touched
    | put value puts cell =>
      exact Or.inr ⟨[], _, _, rfl, fun transition member => absurd member List.not_mem_nil,
        Or.inr ⟨value, puts⟩⟩
    | take takes cell =>
      exact Or.inr ⟨[], _, _, rfl, fun transition member => absurd member List.not_mem_nil,
        Or.inl takes⟩

/-- Where the value in the cell comes from: no transition touched the cell, or the cell is
empty, or the last transition that touched it put this very value. -/
theorem origin (respects : ∀ transition ∈ transitions step start events,
      mailbox.Respects transition) :
    ((∀ transition ∈ transitions step start events, mailbox.Untouched transition) ∧
        mailbox.cell (final step start events) = mailbox.cell start) ∨
      mailbox.cell (final step start events) = mailbox.empty ∨
      ∃ earlier put later, transitions step start events = earlier ++ put :: later ∧
        mailbox.Puts put (mailbox.cell (final step start events)) ∧
        ∀ transition ∈ later, mailbox.Untouched transition := by
  revert respects
  refine run_induction (fun state _ => ?_)
    (fun state event next run last taken inductionHypothesis respects => ?_) start events
  · exact Or.inl ⟨fun transition member => absurd member List.not_mem_nil, rfl⟩
  · obtain ⟨headRespects, laterRespects⟩ := List.forall_mem_cons.mp respects
    rcases inductionHypothesis laterRespects with ⟨silent, same⟩ | empty |
      ⟨earlier, put, later, split, puts, silent⟩
    · cases headRespects with
      | untouched alone kept =>
        exact Or.inl ⟨List.forall_mem_cons.mpr ⟨alone, silent⟩, same.trans kept⟩
      | put value puts cell =>
        have written : mailbox.cell last = value := same.trans cell
        refine Or.inr (Or.inr ⟨[], _, _, rfl, ?_, silent⟩)
        rw [written]
        exact puts
      | take takes cell => exact Or.inr (Or.inl (same.trans cell))
    · exact Or.inr (Or.inl empty)
    · exact Or.inr (Or.inr ⟨_ :: earlier, put, later, congrArg _ split, puts, silent⟩)

end Mailbox

end SensorGateway
