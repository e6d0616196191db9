/-
This file is about insertion and removal at an index, and about freeing a list.

An index is meant to be clamped: below 1 it is the front of the list, and behind the end
it is the end. Both operations do so inside the list only. An insertion behind the end
fails its assertion, an insertion at the front of an empty list is lost, and the new
element is a copy whether one is asked for or not. A removal of the first node follows
NULL, and so does one behind the end; as a list is freed by removing its first node
again and again, no list with a node is freed.
-/

import SensorGateway.DplistChain

namespace SensorGateway

variable {World Element : Type}

section Operations

variable {callbacks : Callbacks World Element} {list : Dplist World Element}
  {contents other : List (Address × Element)}

theorem Dplist.Represents.unique (represents : list.Represents contents)
    (again : list.Represents other) : contents = other := represents.path.unique again.path

/-! ### Insertion -/

/-- An insertion puts one new node at the clamped index, with the element or the copy that is asked
for. -/
def InsertsAt (callbacks : Callbacks World Element) (list : Dplist World Element)
    (contents : List (Address × Element)) (element : Element) (index : Int)
    (insertCopy : Bool) : Prop :=
  ∃ after newNode inserted, list.insertAtIndex callbacks element index insertCopy = some after ∧
    Dplist.copyIf callbacks list.world element insertCopy = some (inserted, after.world) ∧
    newNode ∉ contents.map Prod.fst ∧
    after.Represents (contents.insertIdx (min index.toNat contents.length) (newNode, inserted))

/-- When the copy that is asked for is made: the insertion is right exactly when the list has a
node, the index is below its length, and `element_copy` makes what is asked for. -/
theorem insert_at_index_iff {element inserted : Element} {index : Int} {insertCopy : Bool}
    {world : World} (represents : list.Represents contents)
    (copied : Dplist.copyIf callbacks list.world element insertCopy = some (inserted, world)) :
    InsertsAt callbacks list contents element index insertCopy ↔
      contents ≠ [] ∧ index < contents.length ∧
        callbacks.elementCopy list.world element = some (inserted, world) := by
  constructor
  · rintro ⟨after, newNode, held, ran, asked, fresh, holds⟩
    obtain ⟨rfl, rfl⟩ := Prod.mk.inj (Option.some.inj (asked.symm.trans copied))
    rcases index_cases contents index with ⟨nonempty, inside⟩ | ⟨rfl, front⟩ | ⟨positive, beyond⟩
    · obtain ⟨result, same, results⟩ :=
        insertAtIndex_inside callbacks represents nonempty inside element insertCopy
      rw [same] at ran
      obtain ⟨⟨copy, copyWorld⟩, made, rfl⟩ := Option.map_eq_some_iff.mp ran
      obtain ⟨afterWorld, afterHolds⟩ := results (copy, copyWorld)
      have place : index.toNat ≤ contents.length := by omega
      have nodes := afterHolds.unique holds
      rw [Nat.min_eq_left place, insertIdx_eq_take_drop place,
        insertIdx_eq_take_drop place] at nodes
      obtain ⟨-, rfl⟩ := Prod.mk.inj (List.cons.inj (List.append_cancel_left nodes)).1
      exact ⟨nonempty, inside, afterWorld ▸ made⟩
    · -- The new node is lost, so that the list has none.
      obtain ⟨result, same, results⟩ :=
        insertAtIndex_empty callbacks represents front element insertCopy
      rw [same] at ran
      obtain ⟨copy, -, rfl⟩ := Option.map_eq_some_iff.mp ran
      have nodes := (results copy).2.unique holds
      rw [List.length_nil, Nat.min_zero, List.insertIdx_zero] at nodes
      cases nodes
    · rw [insertAtIndex_beyond represents positive beyond] at ran
      cases ran
  · rintro ⟨nonempty, inside, made⟩
    obtain ⟨result, ran, results⟩ :=
      insertAtIndex_inside callbacks represents nonempty inside element insertCopy
    obtain ⟨afterWorld, afterHolds⟩ := results (inserted, world)
    have fresh := (represents.malloc { prev := none, next := none, element }).2
    refine ⟨result (inserted, world), list.nodes.bound, inserted, ?_, ?_, fresh, ?_⟩
    · rw [ran, made, Option.map_some]
    · rw [copied, afterWorld]
    · rwa [Nat.min_eq_left (by omega)]

theorem insert_at_index_inside :
    ∃ list : Dplist Unit Int, list.Represents [(0, 5), (1, 7)] ∧
      InsertsAt numberCallbacks list [(0, 5), (1, 7)] 9 1 true := by
  obtain ⟨list, -, represents⟩ := exists_twoNumbers
  have copied : Dplist.copyIf numberCallbacks list.world 9 true = some (9, list.world) := rfl
  refine ⟨list, represents, (insert_at_index_iff represents copied).mpr ?_⟩
  exact ⟨List.cons_ne_nil _ _, by decide, rfl⟩

/-- An element inserted into an empty list is not in the list afterwards. -/
theorem insertion_lost :
    ∃ after : Dplist Unit Int,
      (Dplist.create ()).insertAtIndex numberCallbacks 5 0 true = some after ∧
        after.head = none ∧
      ¬InsertsAt numberCallbacks (Dplist.create ()) [] 5 0 true := by
  refine ⟨_, rfl, rfl, ?_⟩
  rintro ⟨after, newNode, inserted, ran, -, -, holds⟩
  obtain rfl := Option.some.inj ran
  cases holds.1

/-! ### Removal -/

/-- The memory of the elements after a removal: `element_free` is called once, on the element, if
it is to be freed. -/
def freeIf (callbacks : Callbacks World Element) (world : World) (element : Element)
    (freeElement : Bool) : Option World :=
  if freeElement then callbacks.elementFree world element else some world

/-- A removal takes the node at the clamped index out and frees it, with the element if that is
asked for; an empty list stays as it is. -/
structure RemovesAt [Zero Element] (callbacks : Callbacks World Element)
    (list : Dplist World Element) (contents : List (Address × Element)) (index : Int)
    (freeElement : Bool) : Prop where
  empty : contents = [] → list.removeAtIndex callbacks index freeElement = some list
  node : ∀ pt found, contents[min index.toNat (contents.length - 1)]? = some (pt, found) →
    ∃ after, list.removeAtIndex callbacks index freeElement = some after ∧
      freeIf callbacks list.world found freeElement = some after.world ∧
      after.nodes.freed = list.nodes.freed ++ [pt] ∧
      after.Represents (contents.eraseIdx (min index.toNat (contents.length - 1)))

/-- When `element_free` returns: the removal is right exactly when the list is empty, or the index
is above 0 and below the length. -/
theorem remove_at_index_iff [Zero Element] {index : Int} {freeElement : Bool}
    (represents : list.Represents contents)
    (returns : ∀ entry, contents[min index.toNat (contents.length - 1)]? = some entry →
      (freeIf callbacks list.world entry.2 freeElement).isSome) :
    RemovesAt callbacks list contents index freeElement ↔
      contents = [] ∨ 0 < index ∧ index < contents.length := by
  by_cases empty : contents = []
  · subst empty
    refine iff_of_true ⟨fun _ => ?_, fun pt found inside => absurd inside (by simp)⟩ (Or.inl rfl)
    unfold Dplist.removeAtIndex
    rw [if_pos (represents.head_eq_none_iff.mpr rfl)]
  · rw [or_iff_right empty]
    have some := List.length_pos_iff.mpr empty
    constructor
    · intro removes
      have within : min index.toNat (contents.length - 1) < contents.length := by omega
      obtain ⟨after, ran, -⟩ := removes.node _ _ (List.getElem?_eq_getElem within)
      constructor
      · by_contra front
        rw [removeAtIndex_front represents empty (Int.not_lt.mp front)] at ran
        cases ran
      · by_contra beyond
        rw [removeAtIndex_beyond represents empty (by omega) (Int.not_lt.mp beyond)] at ran
        cases ran
    · rintro ⟨positive, inside⟩
      have place : min index.toNat (contents.length - 1) = index.toNat := by omega
      refine ⟨fun none => absurd none empty, fun pt found present => ?_⟩
      obtain ⟨world, freed⟩ := Option.isSome_iff_exists.mp (returns _ present)
      rw [place] at present ⊢
      obtain ⟨result, ran, results⟩ :=
        removeAtIndex_inside callbacks represents positive present freeElement
      obtain ⟨afterWorld, afterFreed, holds⟩ := results world
      refine ⟨result world, ?_, ?_, afterFreed, holds⟩
      · rw [ran]
        exact congrArg (Option.map result) freed
      · rw [freed, afterWorld]

theorem remove_at_index_inside :
    ∃ list : Dplist Unit Int, list.Represents [(0, 5), (1, 7)] ∧
      RemovesAt numberCallbacks list [(0, 5), (1, 7)] 1 true := by
  obtain ⟨list, -, represents⟩ := exists_twoNumbers
  refine ⟨list, represents, (remove_at_index_iff represents fun _ _ => rfl).mpr (Or.inr ?_)⟩
  decide

/-- The first node is not removed: NULL is followed. -/
theorem first_not_removed :
    ∃ list : Dplist Unit Int, list.Represents [(0, 5), (1, 7)] ∧
      list.removeAtIndex numberCallbacks 0 true = none ∧
      ¬RemovesAt numberCallbacks list [(0, 5), (1, 7)] 0 true := by
  obtain ⟨list, -, represents⟩ := exists_twoNumbers
  have stuck : list.removeAtIndex numberCallbacks 0 true = none :=
    removeAtIndex_front represents (List.cons_ne_nil _ _) (Int.le_refl 0) true
  refine ⟨list, represents, stuck, fun removes => ?_⟩
  obtain ⟨after, ran, -⟩ := removes.node 0 5 rfl
  exact absurd (stuck.symm.trans ran) (by simp)

/-! ### Freeing a list -/

/-- The memory of the elements after each of them has been freed once, if they are to be freed. -/
def freeAllIf (callbacks : Callbacks World Element) (freeElement : Bool) :
    World → List (Address × Element) → Option World
  | world, [] => some world
  | world, entry :: rest => do
    let world ← freeIf callbacks world entry.2 freeElement
    freeAllIf callbacks freeElement world rest

/-- Freeing a list frees each node and, if that is asked for, each element once, then the struct of
the list, and makes the pointer to it NULL. -/
def FreesList [Zero Element] (callbacks : Callbacks World Element)
    (memory : DplistMemory World Element) (address : Address)
    (contents : List (Address × Element)) (freeElement : Bool) : Prop :=
  ∃ after, Dplist.free callbacks memory (some address) freeElement = some (none, after) ∧
    freeAllIf callbacks freeElement memory.world contents = some after.world ∧
    after.nodes.freed.Perm (memory.nodes.freed ++ contents.map Prod.fst) ∧
    after.lists.freed = memory.lists.freed ++ [address]

/-- The first removal from a list with a node does not return. -/
theorem free_stuck [Zero Element] (callbacks : Callbacks World Element)
    (memory : DplistMemory World Element) {address : Address} {head : Pointer}
    (live : memory.lists.read address = some head)
    (represents : Dplist.Represents ⟨head, memory.nodes, memory.world⟩ contents)
    (nonempty : contents ≠ []) (freeElement : Bool) :
    Dplist.free callbacks memory (some address) freeElement = none := by
  have stuck : Dplist.freeLoop callbacks freeElement (memory.nodes.bound + 1)
      ⟨head, memory.nodes, memory.world⟩ = none := by
    rw [Dplist.freeLoop, if_neg (mt represents.head_eq_none_iff.mp nonempty),
      removeAtIndex_front represents nonempty (Int.le_refl 0) freeElement]
    rfl
  unfold Dplist.free
  simp only [live, stuck, Option.bind_eq_bind, Option.bind_some, Option.bind_none]

/-- A list is freed exactly when it has no node. -/
theorem free_iff [Zero Element] {memory : DplistMemory World Element} {address : Address}
    {head : Pointer} {freeElement : Bool} (live : memory.lists.read address = some head)
    (represents : Dplist.Represents ⟨head, memory.nodes, memory.world⟩ contents) :
    FreesList callbacks memory address contents freeElement ↔ contents = [] := by
  constructor
  · rintro ⟨after, ran, -⟩
    by_contra nonempty
    rw [free_stuck callbacks memory live represents nonempty] at ran
    cases ran
  · rintro rfl
    obtain rfl : head = none := represents.head_eq_none_iff.mpr rfl
    obtain ⟨cleared, ranWrite, -, freedWrite, cleared_live, -⟩ :=
      memory.lists.exists_write live none
    obtain ⟨lists, ranFree, -, freed, -⟩ := cleared.exists_free cleared_live
    refine ⟨⟨lists, memory.nodes, memory.world⟩, ?_, rfl, ?_, ?_⟩
    · unfold Dplist.free
      simp only [live, Dplist.freeLoop, if_true, ranWrite, ranFree, Option.bind_eq_bind,
        Option.bind_some]
    · rw [List.map_nil, List.append_nil]
    · rw [freed, freedWrite]

/-- A list in a memory of its own, at address 0. -/
def Dplist.inMemory (list : Dplist World Element) : DplistMemory World Element where
  lists := ((Heap.empty Pointer).malloc list.head).2
  nodes := list.nodes
  world := list.world

theorem Dplist.inMemory_live (list : Dplist World Element) :
    list.inMemory.lists.read 0 = some list.head := Heap.read_malloc_self _ _

theorem free_empty :
    FreesList numberCallbacks (Dplist.create ()).inMemory 0 [] true :=
  (free_iff (Dplist.create ()).inMemory_live (create_represents ())).mpr rfl

/-- A list with two nodes is not freed. -/
theorem two_numbers_not_freed :
    ∃ list : Dplist Unit Int, list.Represents [(0, 5), (1, 7)] ∧
      Dplist.free numberCallbacks list.inMemory (some 0) true = none ∧
      ¬FreesList numberCallbacks list.inMemory 0 [(0, 5), (1, 7)] true := by
  obtain ⟨list, -, represents⟩ := exists_twoNumbers
  have stuck := free_stuck numberCallbacks list.inMemory list.inMemory_live represents
    (List.cons_ne_nil _ _) true
  refine ⟨list, represents, stuck, ?_⟩
  rintro ⟨after, ran, -⟩
  exact absurd (stuck.symm.trans ran) (by simp)

end Operations

end SensorGateway
