/-
This file is a small library on a heap of linked cells, for programs that allocate,
follow and free nodes through pointers.

A heap is a partial map from addresses to cells. Addresses stand for allocations,
not for machine words: `malloc` hands out a new one each time, so the list of freed
addresses records which allocation each `free` ended. A cell is live exactly when it
was allocated and not freed, and no address is freed twice; both facts are fields of
the structure, because reading, writing or freeing a dead cell has no result.

A path follows a link field from one pointer to another and lists the addresses it
visits with the values stored there. A path that ends in NULL visits no address
twice, and it survives every write outside the addresses it visits.
-/

import Mathlib.Data.List.Nodup
import Mathlib.Data.List.Perm.Subperm
import Mathlib.Logic.Function.Basic

namespace SensorGateway

/-- The identity of an allocation. -/
abbrev Address := Nat

/-- A pointer; NULL is `none`. -/
abbrev Pointer := Option Address

/-- A heap of cells, with the list of addresses freed so far. -/
structure Heap (Cell : Type) where
  cells : Address → Option Cell
  bound : Address
  freed : List Address
  live_iff : ∀ address, (cells address).isSome ↔ address < bound ∧ address ∉ freed
  freed_lt : ∀ address ∈ freed, address < bound
  freed_nodup : freed.Nodup

namespace Heap

variable {Cell Value : Type}

/-- The heap before any allocation. -/
def empty (Cell : Type) : Heap Cell where
  cells _ := none
  bound := 0
  freed := []
  live_iff _ := by simp
  freed_lt _ member := absurd member List.not_mem_nil
  freed_nodup := List.nodup_nil

/-- The cell at an address, if it is live. -/
def read (heap : Heap Cell) (address : Address) : Option Cell := heap.cells address

/-- Allocate a cell. -/
def malloc (heap : Heap Cell) (cell : Cell) : Address × Heap Cell :=
  (heap.bound, {
    cells := Function.update heap.cells heap.bound (some cell)
    bound := heap.bound + 1
    freed := heap.freed
    live_iff := fun address => by
      by_cases same : address = heap.bound
      · subst same
        have notFreed : heap.bound ∉ heap.freed := fun member =>
          absurd (heap.freed_lt _ member) (Nat.lt_irrefl _)
        simp [notFreed]
      · rw [Function.update_of_ne same, heap.live_iff]
        have boundIff : address < heap.bound + 1 ↔ address < heap.bound :=
          ⟨fun below => Nat.lt_of_le_of_ne (Nat.le_of_lt_succ below) same, Nat.lt_succ_of_lt⟩
        rw [boundIff]
    freed_lt := fun address member => Nat.lt_succ_of_lt (heap.freed_lt address member)
    freed_nodup := heap.freed_nodup })

/-- Overwrite a live cell. -/
def write (heap : Heap Cell) (address : Address) (cell : Cell) : Option (Heap Cell) :=
  if live : (heap.cells address).isSome then
    some {
      cells := Function.update heap.cells address (some cell)
      bound := heap.bound
      freed := heap.freed
      live_iff := fun other => by
        by_cases same : other = address
        · subst same
          rw [Function.update_self]
          simpa only [Option.isSome_some, true_iff] using (heap.live_iff other).mp live
        · rw [Function.update_of_ne same, heap.live_iff]
      freed_lt := heap.freed_lt
      freed_nodup := heap.freed_nodup }
  else none

/-- Free a live cell. -/
def free (heap : Heap Cell) (address : Address) : Option (Heap Cell) :=
  if live : (heap.cells address).isSome then
    some {
      cells := Function.update heap.cells address none
      bound := heap.bound
      freed := heap.freed ++ [address]
      live_iff := fun other => by
        by_cases same : other = address
        · subst same
          simp
        · rw [Function.update_of_ne same, heap.live_iff]
          simp [same]
      freed_lt := fun other member => by
        rcases List.mem_append.mp member with earlier | last
        · exact heap.freed_lt other earlier
        · rw [List.mem_singleton.mp last]
          exact ((heap.live_iff address).mp live).1
      freed_nodup := by
        refine List.nodup_append.mpr ⟨heap.freed_nodup, List.nodup_singleton _, ?_⟩
        intro other earlier last lastMember same
        rw [List.mem_singleton.mp lastMember] at same
        exact ((heap.live_iff address).mp live).2 (same ▸ earlier) }
  else none

section Cells

variable (heap : Heap Cell)

theorem read_isSome_iff (address : Address) :
    (heap.read address).isSome ↔ address < heap.bound ∧ address ∉ heap.freed :=
  heap.live_iff address

theorem lt_bound_of_read {address : Address} {cell : Cell}
    (live : heap.read address = some cell) : address < heap.bound :=
  ((heap.read_isSome_iff address).mp (live ▸ rfl)).1

theorem isSome_of_read {address : Address} {cell : Cell} (live : heap.read address = some cell) :
    (heap.cells address).isSome := Option.isSome_iff_exists.mpr ⟨cell, live⟩

theorem not_freed_of_read {address : Address} {cell : Cell}
    (live : heap.read address = some cell) : address ∉ heap.freed :=
  ((heap.read_isSome_iff address).mp (live ▸ rfl)).2

/-- A cell that was not allocated yet is dead. -/
theorem read_eq_none_of_le {address : Address} (late : heap.bound ≤ address) :
    heap.read address = none := by
  by_contra live
  obtain ⟨cell, isLive⟩ := Option.ne_none_iff_exists'.mp live
  exact absurd (heap.lt_bound_of_read isLive) (Nat.not_lt.mpr late)

@[simp] theorem malloc_fst (cell : Cell) : (heap.malloc cell).1 = heap.bound := rfl

theorem read_malloc_self (cell : Cell) : (heap.malloc cell).2.read heap.bound = some cell :=
  Function.update_self _ _ _

theorem read_malloc_of_ne {address : Address} (cell : Cell) (different : address ≠ heap.bound) :
    (heap.malloc cell).2.read address = heap.read address :=
  Function.update_of_ne different _ _

@[simp] theorem bound_malloc (cell : Cell) : (heap.malloc cell).2.bound = heap.bound + 1 := rfl

/-- What can be read after a live cell was overwritten. -/
theorem exists_write_update {address : Address} {old : Cell}
    (live : heap.read address = some old) (cell : Cell) :
    ∃ next, heap.write address cell = some next ∧ next.bound = heap.bound ∧
      next.freed = heap.freed ∧ next.read = Function.update heap.read address (some cell) :=
  ⟨_, dif_pos (heap.isSome_of_read live), rfl, rfl, rfl⟩

/-- A live cell can be overwritten, and only it changes. -/
theorem exists_write {address : Address} {old : Cell} (live : heap.read address = some old)
    (cell : Cell) :
    ∃ next, heap.write address cell = some next ∧ next.bound = heap.bound ∧
      next.freed = heap.freed ∧ next.read address = some cell ∧
      ∀ other, other ≠ address → next.read other = heap.read other := by
  obtain ⟨next, written, bound, freed, reads⟩ := heap.exists_write_update live cell
  refine ⟨next, written, bound, freed, ?_, fun other different => ?_⟩
  · rw [reads, Function.update_self]
  · rw [reads, Function.update_of_ne different]

theorem read_malloc (cell : Cell) :
    (heap.malloc cell).2.read = Function.update heap.read heap.bound (some cell) := rfl

/-- What can be read after a live cell was freed. -/
theorem exists_free_update {address : Address} {old : Cell}
    (live : heap.read address = some old) :
    ∃ next, heap.free address = some next ∧ next.read = Function.update heap.read address none :=
  ⟨_, dif_pos (heap.isSome_of_read live), rfl⟩

/-- A live cell can be freed, and only it dies. -/
theorem exists_free {address : Address} {old : Cell} (live : heap.read address = some old) :
    ∃ next, heap.free address = some next ∧ next.bound = heap.bound ∧
      next.freed = heap.freed ++ [address] ∧ next.read address = none ∧
      ∀ other, other ≠ address → next.read other = heap.read other := by
  refine ⟨_, dif_pos (heap.isSome_of_read live), rfl, rfl, Function.update_self _ _ _, ?_⟩
  exact fun other different => Function.update_of_ne different _ _

end Cells

/-! ### Paths along a link field -/

/-- Following `link` from `start` visits the listed addresses, finds the listed values there
and arrives at `stop`. -/
def Path (heap : Heap Cell) (link : Cell → Pointer) (value : Cell → Value) :
    Pointer → List (Address × Value) → Pointer → Prop
  | start, [], stop => start = stop
  | start, (address, found) :: rest, stop =>
    start = some address ∧ ∃ cell, heap.read address = some cell ∧ value cell = found ∧
      Path heap link value (link cell) rest stop

section Paths

variable {heap next : Heap Cell} {link : Cell → Pointer} {value : Cell → Value}
  {start stop middle : Pointer} {visited earlier later : List (Address × Value)}

@[simp] theorem path_nil : heap.Path link value start [] stop ↔ start = stop := Iff.rfl

theorem path_cons {address : Address} {found : Value} :
    heap.Path link value start ((address, found) :: visited) stop ↔
      start = some address ∧ ∃ cell, heap.read address = some cell ∧ value cell = found ∧
        heap.Path link value (link cell) visited stop := Iff.rfl

theorem path_append :
    heap.Path link value start (earlier ++ later) stop ↔
      ∃ middle, heap.Path link value start earlier middle ∧
        heap.Path link value middle later stop := by
  induction earlier generalizing start with
  | nil => simp
  | cons entry rest inductionHypothesis =>
    obtain ⟨address, found⟩ := entry
    simp only [List.cons_append, path_cons, inductionHypothesis]
    constructor
    · rintro ⟨begins, cell, live, holds, middle, first, second⟩
      exact ⟨middle, ⟨begins, cell, live, holds, first⟩, second⟩
    · rintro ⟨middle, ⟨begins, cell, live, holds, first⟩, second⟩
      exact ⟨begins, cell, live, holds, middle, first, second⟩

/-- A path survives every change of the heap outside the addresses it visits. -/
theorem Path.frame (path : heap.Path link value start visited stop)
    (agree : ∀ address ∈ visited.map Prod.fst, next.read address = heap.read address) :
    next.Path link value start visited stop := by
  induction visited generalizing start with
  | nil => exact path
  | cons entry rest inductionHypothesis =>
    obtain ⟨address, found⟩ := entry
    obtain ⟨begins, cell, live, holds, tail⟩ := path
    refine ⟨begins, cell, ?_, holds, inductionHypothesis tail fun other member => ?_⟩
    · rw [agree address (by simp), live]
    · exact agree other (by simp [List.mem_map.mp member])

/-- Every visited address is live. -/
theorem Path.live (path : heap.Path link value start visited stop) {address : Address}
    (member : address ∈ visited.map Prod.fst) : ∃ cell, heap.read address = some cell := by
  induction visited generalizing start with
  | nil => exact absurd member List.not_mem_nil
  | cons entry rest inductionHypothesis =>
    obtain ⟨first, found⟩ := entry
    obtain ⟨begins, cell, live, holds, tail⟩ := path
    rcases List.mem_cons.mp member with same | later
    · exact ⟨cell, same ▸ live⟩
    · exact inductionHypothesis tail later

/-- Two paths to NULL from one pointer visit the same addresses. -/
theorem Path.unique (first : heap.Path link value start earlier none)
    (second : heap.Path link value start later none) : earlier = later := by
  induction earlier generalizing start later with
  | nil =>
    cases later with
    | nil => rfl
    | cons entry rest => exact absurd (first.symm.trans second.1) (by simp)
  | cons entry rest inductionHypothesis =>
    obtain ⟨address, found⟩ := entry
    obtain ⟨begins, cell, live, holds, tail⟩ := first
    cases later with
    | nil => exact absurd (begins.symm.trans second) (by simp)
    | cons other otherRest =>
      obtain ⟨otherAddress, otherFound⟩ := other
      obtain ⟨otherBegins, otherCell, otherLive, otherHolds, otherTail⟩ := second
      have sameAddress : address = otherAddress :=
        Option.some.inj (begins.symm.trans otherBegins)
      subst sameAddress
      have sameCell : cell = otherCell := Option.some.inj (live.symm.trans otherLive)
      subst sameCell
      rw [inductionHypothesis tail otherTail, ← holds, ← otherHolds]

/-- From every visited address the rest of the path leads to NULL. -/
theorem Path.suffix (path : heap.Path link value start visited none) {address : Address}
    (member : address ∈ visited.map Prod.fst) :
    ∃ rest, rest <:+ visited ∧ heap.Path link value (some address) rest none := by
  induction visited generalizing start with
  | nil => exact absurd member List.not_mem_nil
  | cons entry rest inductionHypothesis =>
    obtain ⟨first, found⟩ := entry
    have whole := path
    obtain ⟨begins, cell, live, holds, tail⟩ := path
    rcases List.mem_cons.mp member with same | later
    · subst same
      exact ⟨_, List.suffix_refl _, begins ▸ whole⟩
    · obtain ⟨suffix, isSuffix, leads⟩ := inductionHypothesis tail later
      exact ⟨suffix, isSuffix.trans (List.suffix_cons _ _), leads⟩

/-- A path to NULL visits no address twice. -/
theorem Path.nodup (path : heap.Path link value start visited none) :
    (visited.map Prod.fst).Nodup := by
  induction visited generalizing start with
  | nil => exact List.nodup_nil
  | cons entry rest inductionHypothesis =>
    obtain ⟨address, found⟩ := entry
    have whole := path
    obtain ⟨begins, cell, live, holds, tail⟩ := path
    refine List.nodup_cons.mpr ⟨fun again => ?_, inductionHypothesis tail⟩
    obtain ⟨suffix, isSuffix, leads⟩ := tail.suffix again
    have same : suffix = (address, found) :: rest := leads.unique (begins ▸ whole)
    have shorter := isSuffix.length_le
    rw [same, List.length_cons] at shorter
    omega

/-- A path to NULL visits no more addresses than were ever allocated. -/
theorem Path.length_le_bound (path : heap.Path link value start visited none) :
    visited.length ≤ heap.bound := by
  have within : visited.map Prod.fst ⊆ List.range heap.bound := fun address member => by
    obtain ⟨cell, live⟩ := path.live member
    exact List.mem_range.mpr (heap.lt_bound_of_read live)
  have short := (List.subperm_of_subset path.nodup within).length_le
  rwa [List.length_map, List.length_range] at short

/-- A pointer from which a nonempty path starts is not NULL, and NULL starts only the empty
path. -/
theorem Path.start_eq_none_iff (path : heap.Path link value start visited none) :
    start = none ↔ visited = [] := by
  cases visited with
  | nil => simpa using path
  | cons entry rest => simp [path.1]

end Paths

end Heap

end SensorGateway
