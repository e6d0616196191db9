/-
This file is a small library on doubly linked lists in a heap of cells.

A cell has two links, one to the next cell and one to the previous one. A list is
linked when following the first from a pointer visits the listed addresses, and each
visited cell refers back to the address visited before it. Such a list is a path along
`next`, so that what holds of paths holds of it: it visits no address twice, and it
survives every write elsewhere.

An operation changes a list at one place. The cells in front of the place keep their
links but for the last one, and those behind it keep theirs but for the first one. The
two relinking rules say so, and an insertion or a removal is one use of each.
-/

import SensorGateway.Library.Heap

namespace SensorGateway.Heap

variable {Cell Value : Type}

/-- Following `next` from `start` visits the listed addresses, finds the listed values there and
arrives at `stop`; each visited cell refers back to the one visited before it, and the first one
to `before`. -/
def Linked (heap : Heap Cell) (next prev : Cell → Pointer) (value : Cell → Value) :
    Pointer → Pointer → List (Address × Value) → Pointer → Prop
  | _, start, [], stop => start = stop
  | before, start, (address, found) :: rest, stop =>
    start = some address ∧ ∃ cell, heap.read address = some cell ∧ prev cell = before ∧
      value cell = found ∧ Linked heap next prev value (some address) (next cell) rest stop

/-- The last address of a list that begins after `before`. -/
def lastAddress (before : Pointer) : List (Address × Value) → Pointer
  | [] => before
  | (address, _) :: rest => lastAddress (some address) rest

section Linked

variable {heap changed : Heap Cell} {next prev : Cell → Pointer} {value : Cell → Value}
  {before start stop : Pointer} {visited earlier later rest : List (Address × Value)}
  {address : Address} {found : Value}

@[simp] theorem linked_nil : heap.Linked next prev value before start [] stop ↔ start = stop :=
  Iff.rfl

theorem linked_cons :
    heap.Linked next prev value before start ((address, found) :: rest) stop ↔
      start = some address ∧ ∃ cell, heap.read address = some cell ∧ prev cell = before ∧
        value cell = found ∧ heap.Linked next prev value (some address) (next cell) rest stop :=
  Iff.rfl

@[simp] theorem lastAddress_append_singleton (before : Pointer) (front : List (Address × Value))
    (address : Address) (found : Value) :
    lastAddress before (front ++ [(address, found)]) = some address := by
  induction front generalizing before with
  | nil => rfl
  | cons entry rest inductionHypothesis => exact inductionHypothesis (some entry.1)

theorem linked_append :
    heap.Linked next prev value before start (earlier ++ later) stop ↔
      ∃ middle, heap.Linked next prev value before start earlier middle ∧
        heap.Linked next prev value (lastAddress before earlier) middle later stop := by
  induction earlier generalizing before start with
  | nil => simp [lastAddress]
  | cons entry rest inductionHypothesis =>
    obtain ⟨address, found⟩ := entry
    simp only [List.cons_append, linked_cons, inductionHypothesis, lastAddress]
    constructor
    · rintro ⟨begins, cell, live, back, holds, middle, first, second⟩
      exact ⟨middle, ⟨begins, cell, live, back, holds, first⟩, second⟩
    · rintro ⟨middle, ⟨begins, cell, live, back, holds, first⟩, second⟩
      exact ⟨begins, cell, live, back, holds, middle, first, second⟩

/-- A linked list is a path. -/
theorem Linked.path (linked : heap.Linked next prev value before start visited stop) :
    heap.Path next value start visited stop := by
  induction visited generalizing before start with
  | nil => exact linked
  | cons entry rest inductionHypothesis =>
    obtain ⟨begins, cell, live, back, holds, tail⟩ := linked
    exact ⟨begins, cell, live, holds, inductionHypothesis tail⟩

/-- A linked list survives every change of the heap outside the addresses it visits. -/
theorem Linked.frame (linked : heap.Linked next prev value before start visited stop)
    (agree : ∀ address ∈ visited.map Prod.fst, changed.read address = heap.read address) :
    changed.Linked next prev value before start visited stop := by
  induction visited generalizing before start with
  | nil => exact linked
  | cons entry rest inductionHypothesis =>
    obtain ⟨address, found⟩ := entry
    obtain ⟨begins, cell, live, back, holds, tail⟩ := linked
    refine ⟨begins, cell, ?_, back, holds, inductionHypothesis tail fun other member => ?_⟩
    · rw [agree address List.mem_cons_self, live]
    · exact agree other (List.mem_cons_of_mem _ member)

/-- The relinking rule for the front: when the last cell gets another successor, the list
arrives there. -/
theorem Linked.relink_front {arrival : Pointer} {old new : Cell}
    (linked : heap.Linked next prev value before start (earlier ++ [(address, found)]) stop)
    (live : heap.read address = some old) (relinked : changed.read address = some new)
    (samePrev : prev new = prev old) (sameValue : value new = value old)
    (arrives : next new = arrival)
    (agree : ∀ other ∈ earlier.map Prod.fst, changed.read other = heap.read other) :
    changed.Linked next prev value before start (earlier ++ [(address, found)]) arrival := by
  obtain ⟨middle, front, begins, cell, cellLive, back, holds, -⟩ := linked_append.mp linked
  obtain rfl := Option.some.inj (cellLive.symm.trans live)
  exact linked_append.mpr ⟨middle, front.frame agree, begins, new, relinked,
    samePrev.trans back, sameValue.trans holds, arrives⟩

/-- The relinking rule for the back: when the first cell gets another predecessor, the list
begins after it. -/
theorem Linked.relink_back {predecessor : Pointer} {old new : Cell}
    (linked : heap.Linked next prev value before start ((address, found) :: rest) stop)
    (live : heap.read address = some old) (relinked : changed.read address = some new)
    (sameNext : next new = next old) (sameValue : value new = value old)
    (follows : prev new = predecessor)
    (agree : ∀ other ∈ rest.map Prod.fst, changed.read other = heap.read other) :
    changed.Linked next prev value predecessor start ((address, found) :: rest) stop := by
  obtain ⟨begins, cell, cellLive, -, holds, tail⟩ := linked
  obtain rfl := Option.some.inj (cellLive.symm.trans live)
  refine ⟨begins, new, relinked, follows, sameValue.trans holds, ?_⟩
  rw [sameNext]
  exact tail.frame agree

/-- A visited address occurs nowhere else in the list. -/
theorem Linked.not_mem_elsewhere
    (linked : heap.Linked next prev value before start (earlier ++ (address, found) :: later)
      none) :
    address ∉ (earlier ++ later).map Prod.fst := by
  have distinct := linked.path.nodup
  rw [List.map_append, List.map_cons, List.nodup_middle, List.nodup_cons] at distinct
  rw [List.map_append]
  exact distinct.1

/-- Two neighbours occur nowhere else. -/
theorem Linked.neighbours_apart {first : Address} {other : Value}
    (linked : heap.Linked next prev value before start
      (earlier ++ [(first, other)] ++ (address, found) :: later) none) :
    (first ∉ earlier.map Prod.fst ∧ first ∉ later.map Prod.fst) ∧ first ≠ address ∧
      address ∉ earlier.map Prod.fst ∧ address ∉ later.map Prod.fst := by
  have firstAway : first ∉ (earlier ++ (address, found) :: later).map Prod.fst := by
    rw [List.append_assoc] at linked
    exact linked.not_mem_elsewhere
  have away := linked.not_mem_elsewhere
  simp only [List.map_append, List.map_cons, List.map_nil, List.mem_append, List.mem_cons,
    List.not_mem_nil, or_false, not_or] at firstAway away
  obtain ⟨notEarlier, different, notLater⟩ := firstAway
  exact ⟨⟨notEarlier, notLater⟩, different, away.1.1, away.2⟩

/-- A cell may get another value. -/
theorem Linked.revalue {other : Value} {old new : Cell}
    (linked : heap.Linked next prev value before start (earlier ++ (address, found) :: later) none)
    (live : heap.read address = some old) (revalued : changed.read address = some new)
    (sameNext : next new = next old) (samePrev : prev new = prev old)
    (holds : value new = other)
    (agree : ∀ place, place ≠ address → changed.read place = heap.read place) :
    changed.Linked next prev value before start (earlier ++ (address, other) :: later) none := by
  have away := linked.not_mem_elsewhere
  rw [List.map_append, List.mem_append, not_or] at away
  obtain ⟨middle, front, begins, cell, cellLive, back, -, tail⟩ := linked_append.mp linked
  obtain rfl := Option.some.inj (cellLive.symm.trans live)
  refine linked_append.mpr ⟨middle, ?_, begins, new, revalued, samePrev.trans back, holds, ?_⟩
  · exact front.frame fun place member => agree place (ne_of_mem_of_not_mem member away.1)
  · rw [sameNext]
    exact tail.frame fun place member => agree place (ne_of_mem_of_not_mem member away.2)

/-- The cell at a place of a linked list, with its two links. -/
theorem Linked.read (linked : heap.Linked next prev value before start
    (earlier ++ (address, found) :: later) stop) :
    ∃ cell, heap.read address = some cell ∧ prev cell = lastAddress before earlier ∧
      value cell = found ∧
      heap.Linked next prev value (some address) (next cell) later stop := by
  obtain ⟨middle, -, -, cell, live, back, holds, tail⟩ := linked_append.mp linked
  exact ⟨cell, live, back, holds, tail⟩

end Linked

end SensorGateway.Heap
