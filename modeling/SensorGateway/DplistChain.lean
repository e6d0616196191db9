/-
This file says once what each operation of the list does to its nodes. A list
represents the sequence of its nodes when they are doubly linked from `head` to NULL.
An insertion puts one node into the sequence and a removal takes one out, at the place
where the walk of the operation stopped, and both links of every neighbour agree
afterwards.

Two operations do not return on some lists. An insertion before the first node of a
list, which `dpl_insert_sorted` tries when the comparison is not negative there, follows
the NULL in its `prev`; and so does the removal of the first node, which has overwritten
its `next`. An insertion at the front of an empty list loses the new node.

The last part is about whole runs of the three mutators, whatever the callbacks do: the
list stays doubly linked, and no node of it is lost, duplicated or moved.
-/

import Mathlib.Algebra.Ring.Int.Defs
import SensorGateway.DplistHeap
import SensorGateway.Library.Runs

namespace SensorGateway

variable {World Element : Type}

/-! ### Links -/

section Links

variable {nodes after : Nodes Element} {address : Address} {node : DplistNode Element}
  {pointer : Pointer}

/-- The nodes between two pointers, doubly linked. -/
abbrev Chained (nodes : Nodes Element) :
    Pointer → Pointer → List (Address × Element) → Pointer → Prop :=
  nodes.Linked DplistNode.next DplistNode.prev DplistNode.element

theorem exists_modify (live : nodes.read address = some node)
    (change : DplistNode Element → DplistNode Element) :
    ∃ after, modify nodes (some address) change = some after ∧ after.bound = nodes.bound ∧
      after.freed = nodes.freed ∧
      after.read = Function.update nodes.read address (some (change node)) := by
  obtain ⟨after, written, bound, freed, reads⟩ := nodes.exists_write_update live (change node)
  refine ⟨after, ?_, bound, freed, reads⟩
  unfold modify
  simp only [Option.bind_eq_bind, Option.bind_some, live, written]

theorem read_of_modify {change : DplistNode Element → DplistNode Element}
    (ran : modify nodes (some address) change = some after)
    (live : nodes.read address = some node) :
    after.read = Function.update nodes.read address (some (change node)) := by
  obtain ⟨changed, changes, -, -, reads⟩ := exists_modify live change
  rwa [Option.some.inj (ran.symm.trans changes)]

@[simp] theorem modify_none (change : DplistNode Element → DplistNode Element) :
    modify nodes none change = none := rfl

@[simp] theorem deref_some : deref nodes (some address) = nodes.read address := rfl

@[simp] theorem deref_none : deref nodes none = none := rfl

/-- The four assignments put a new node between two nodes. -/
theorem linkBefore_middle {newNode first pt : Address} {element found other : Element}
    {start : Pointer} {front back : List (Address × Element)} {raw : DplistNode Element}
    (chained : Chained nodes none start (front ++ [(first, other)] ++ (pt, found) :: back) none)
    (fresh : newNode ∉ (front ++ [(first, other)] ++ (pt, found) :: back).map Prod.fst)
    (live : nodes.read newNode = some raw) (holds : raw.element = element) :
    ∃ after, Dplist.linkBefore nodes (some newNode) (some pt) = some after ∧
      after.bound = nodes.bound ∧
      Chained after none start
        (front ++ [(first, other)] ++ (newNode, element) :: (pt, found) :: back) none := by
  obtain ⟨⟨firstNotFront, firstNotBack⟩, firstNotPt, ptNotFront, ptNotBack⟩ :=
    chained.neighbours_apart
  simp only [List.map_append, List.map_cons, List.map_nil, List.mem_append, List.mem_cons,
    List.not_mem_nil, or_false, not_or] at fresh
  obtain ⟨⟨newNotFront, newNotFirst⟩, newNotPt, newNotBack⟩ := fresh
  obtain ⟨middle, frontChained, backChained⟩ := Heap.linked_append.mp chained
  have backCells := backChained
  obtain ⟨begins, ptCell, ptLive, ptPrev, -, -⟩ := backCells
  obtain ⟨firstCell, firstLive, -, -, -⟩ := frontChained.read
  rw [Heap.lastAddress_append_singleton] at ptPrev
  obtain ⟨afterNext, ranNext, boundNext, -, readsNext⟩ :=
    exists_modify live fun node => { node with next := some pt }
  have newLive : afterNext.read newNode = some { raw with next := some pt } := by
    rw [readsNext, Function.update_self]
  have ptFound : afterNext.read pt = some ptCell := by
    rw [readsNext, Function.update_of_ne (Ne.symm newNotPt), ptLive]
  obtain ⟨afterPrev, ranPrev, boundPrev, -, readsPrev⟩ :=
    exists_modify newLive fun node => { node with prev := some first }
  have firstKept : afterPrev.read first = some firstCell := by
    rw [readsPrev, Function.update_of_ne (Ne.symm newNotFirst), readsNext,
      Function.update_of_ne (Ne.symm newNotFirst), firstLive]
  obtain ⟨afterFirst, ranFirst, boundFirst, -, readsFirst⟩ :=
    exists_modify firstKept fun node => { node with next := some newNode }
  have ptKept : afterFirst.read pt = some ptCell := by
    rw [readsFirst, Function.update_of_ne (Ne.symm firstNotPt), readsPrev,
      Function.update_of_ne (Ne.symm newNotPt), ptFound]
  obtain ⟨after, ran, bound, -, reads⟩ :=
    exists_modify ptKept fun node => { node with prev := some newNode }
  have elsewhere (address : Address) (notNew : address ≠ newNode) (notFirst : address ≠ first)
      (notPt : address ≠ pt) : after.read address = nodes.read address := by
    rw [reads, Function.update_of_ne notPt, readsFirst, Function.update_of_ne notFirst,
      readsPrev, Function.update_of_ne notNew, readsNext, Function.update_of_ne notNew]
  have ptRelinked : after.read pt = some { ptCell with prev := some newNode } := by
    rw [reads, Function.update_self]
  have firstRelinked : after.read first = some { firstCell with next := some newNode } := by
    rw [reads, Function.update_of_ne firstNotPt, readsFirst, Function.update_self]
  have newLinked : after.read newNode = some { raw with next := some pt, prev := some first } := by
    rw [reads, Function.update_of_ne newNotPt, readsFirst, Function.update_of_ne newNotFirst,
      readsPrev, Function.update_self]
  refine ⟨after, ?_, ?_, ?_⟩
  · unfold Dplist.linkBefore setNext setPrev
    simp only [ranNext, Option.bind_eq_bind, Option.bind_some, deref_some, ptFound, ptPrev,
      ranPrev, ranFirst, ran]
  · rw [bound, boundFirst, boundPrev, boundNext]
  · refine Heap.linked_append.mpr ⟨some newNode, ?_, rfl, _, newLinked, ?_, holds, ?_⟩
    · refine frontChained.relink_front firstLive firstRelinked rfl rfl rfl fun other member => ?_
      exact elsewhere other (ne_of_mem_of_not_mem member newNotFront)
        (ne_of_mem_of_not_mem member firstNotFront) (ne_of_mem_of_not_mem member ptNotFront)
    · rw [Heap.lastAddress_append_singleton]
    · obtain rfl := begins
      refine backChained.relink_back ptLive ptRelinked rfl rfl rfl fun other member => ?_
      exact elsewhere other (ne_of_mem_of_not_mem member newNotBack)
        (ne_of_mem_of_not_mem member firstNotBack) (ne_of_mem_of_not_mem member ptNotBack)

/-- The three assignments of a sorted insertion behind the last node. -/
theorem chained_of_behind {newNode pt : Address} {found : Element} {start : Pointer}
    {front : List (Address × Element)} {raw : DplistNode Element} {first second : Nodes Element}
    (chained : Chained nodes none start (front ++ [(pt, found)]) none)
    (fresh : newNode ∉ (front ++ [(pt, found)]).map Prod.fst)
    (live : nodes.read newNode = some raw)
    (ranNext : setNext nodes (some newNode) none = some first)
    (ranPrev : setPrev first (some newNode) (some pt) = some second)
    (ranLast : setNext second (some pt) (some newNode) = some after) :
    Chained after none start (front ++ [(pt, found)] ++ [(newNode, raw.element)]) none := by
  have ptAway := chained.not_mem_elsewhere
  simp only [List.map_append, List.map_cons, List.map_nil, List.mem_append, List.mem_cons,
    List.not_mem_nil, or_false, not_or] at fresh ptAway
  obtain ⟨ptCell, ptLive, -, -, -⟩ := chained.read
  have readsNext := read_of_modify ranNext live
  have newNext : first.read newNode = some { raw with next := none } := by
    rw [readsNext, Function.update_self]
  have readsPrev := read_of_modify ranPrev newNext
  have ptKept : second.read pt = some ptCell := by
    rw [readsPrev, Function.update_of_ne (Ne.symm fresh.2), readsNext,
      Function.update_of_ne (Ne.symm fresh.2), ptLive]
  have reads := read_of_modify ranLast ptKept
  have ptRelinked : after.read pt = some { ptCell with next := some newNode } := by
    rw [reads, Function.update_self]
  have newLinked : after.read newNode = some { raw with next := none, prev := some pt } := by
    rw [reads, Function.update_of_ne fresh.2, readsPrev, Function.update_self]
  refine Heap.linked_append.mpr ⟨some newNode, ?_, rfl, _, newLinked, ?_, rfl, rfl⟩
  · refine chained.relink_front ptLive ptRelinked rfl rfl rfl fun place member => ?_
    rw [reads, Function.update_of_ne (ne_of_mem_of_not_mem member ptAway), readsPrev,
      Function.update_of_ne (ne_of_mem_of_not_mem member fresh.1), readsNext,
      Function.update_of_ne (ne_of_mem_of_not_mem member fresh.1)]
  · rw [Heap.lastAddress_append_singleton]

/-- The three assignments of a sorted insertion before the first node. -/
theorem chained_of_front {newNode pt : Address} {found : Element} {start : Pointer}
    {back : List (Address × Element)} {raw : DplistNode Element} {first second : Nodes Element}
    (chained : Chained nodes none start ((pt, found) :: back) none)
    (fresh : newNode ∉ ((pt, found) :: back).map Prod.fst)
    (live : nodes.read newNode = some raw)
    (ranPrev : setPrev nodes (some newNode) none = some first)
    (ranNext : setNext first (some newNode) (some pt) = some second)
    (ranFirst : setPrev second (some pt) (some newNode) = some after) :
    Chained after none (some newNode) ((newNode, raw.element) :: (pt, found) :: back) none := by
  have ptAway : pt ∉ ([] ++ back).map Prod.fst := Heap.Linked.not_mem_elsewhere chained
  simp only [List.map_cons, List.mem_cons, not_or] at fresh
  obtain ⟨rfl, ptCell, ptLive, -⟩ := id chained
  have readsPrev := read_of_modify ranPrev live
  have newPrev : first.read newNode = some { raw with prev := none } := by
    rw [readsPrev, Function.update_self]
  have readsNext := read_of_modify ranNext newPrev
  have ptKept : second.read pt = some ptCell := by
    rw [readsNext, Function.update_of_ne (Ne.symm fresh.1), readsPrev,
      Function.update_of_ne (Ne.symm fresh.1), ptLive]
  have reads := read_of_modify ranFirst ptKept
  have ptRelinked : after.read pt = some { ptCell with prev := some newNode } := by
    rw [reads, Function.update_self]
  have newLinked : after.read newNode = some { raw with prev := none, next := some pt } := by
    rw [reads, Function.update_of_ne fresh.1, readsNext, Function.update_self]
  refine ⟨rfl, _, newLinked, rfl, rfl, ?_⟩
  refine chained.relink_back ptLive ptRelinked rfl rfl rfl fun place member => ?_
  rw [reads, Function.update_of_ne (ne_of_mem_of_not_mem member ptAway), readsNext,
    Function.update_of_ne (ne_of_mem_of_not_mem member fresh.2), readsPrev,
    Function.update_of_ne (ne_of_mem_of_not_mem member fresh.2)]

/-- There is nothing to put a node behind: the four assignments follow NULL. -/
theorem linkBefore_first {newNode pt : Address} {found : Element}
    {start : Pointer} {back : List (Address × Element)} {raw : DplistNode Element}
    (chained : Chained nodes none start ((pt, found) :: back) none)
    (different : newNode ≠ pt) (live : nodes.read newNode = some raw) :
    Dplist.linkBefore nodes (some newNode) (some pt) = none := by
  obtain ⟨-, ptCell, ptLive, ptPrev, -, -⟩ := chained
  obtain ⟨afterNext, ranNext, -, -, readsNext⟩ :=
    exists_modify live fun node => { node with next := some pt }
  have newLive : afterNext.read newNode = some { raw with next := some pt } := by
    rw [readsNext, Function.update_self]
  have ptFound : afterNext.read pt = some ptCell := by
    rw [readsNext, Function.update_of_ne (Ne.symm different), ptLive]
  obtain ⟨afterPrev, ranPrev, -, -, -⟩ :=
    exists_modify newLive fun node => { node with prev := none }
  unfold Dplist.linkBefore setNext setPrev
  simp only [ranNext, Option.bind_eq_bind, Option.bind_some, deref_some, ptFound, ptPrev,
    ranPrev, modify_none, Option.bind_none]

/-- The end of a removal frees the node and leaves the others alone. -/
theorem exists_release [Zero Element] (live : nodes.read address = some node) :
    ∃ after, Dplist.release nodes (some address) = some after ∧
      after.freed = nodes.freed ++ [address] ∧
      ∀ other, other ≠ address → after.read other = nodes.read other := by
  obtain ⟨first, ranFirst, -, freedFirst, readsFirst⟩ :=
    exists_modify live fun node => { node with element := 0 }
  have liveFirst : first.read address = some { node with element := 0 } := by
    rw [readsFirst, Function.update_self]
  obtain ⟨second, ranSecond, -, freedSecond, readsSecond⟩ :=
    exists_modify liveFirst fun node => { node with next := none }
  have liveSecond : second.read address = some { node with element := 0, next := none } := by
    rw [readsSecond, Function.update_self]
  obtain ⟨third, ranThird, -, freedThird, readsThird⟩ :=
    exists_modify liveSecond fun node => { node with prev := none }
  have liveThird : third.read address = some { prev := none, next := none, element := 0 } := by
    rw [readsThird, Function.update_self]
  obtain ⟨after, ran, -, freed, -, reads⟩ := third.exists_free liveThird
  refine ⟨after, ?_, ?_, fun other different => ?_⟩
  · unfold Dplist.release setElement setNext setPrev
    simp only [ranFirst, ranSecond, ranThird, ran, Option.bind_eq_bind, Option.bind_some]
  · rw [freed, freedThird, freedSecond, freedFirst]
  · rw [reads other different, readsThird, Function.update_of_ne different, readsSecond,
      Function.update_of_ne different, readsFirst, Function.update_of_ne different]

/-- The neighbours of a node are linked to each other. -/
theorem exists_unlink {first pt : Address} {other found : Element} {start : Pointer}
    {front back : List (Address × Element)}
    (chained : Chained nodes none start (front ++ [(first, other)] ++ (pt, found) :: back) none)
    (live : nodes.read pt = some node) :
    ∃ after, Dplist.unlink nodes node = some after ∧ after.freed = nodes.freed ∧
      after.read pt = some node ∧
      Chained after none start (front ++ [(first, other)] ++ back) none := by
  obtain ⟨⟨firstNotFront, firstNotBack⟩, firstNotPt, -⟩ := chained.neighbours_apart
  obtain ⟨middle, frontChained, -, ptCell, ptLive, ptPrev, -, backChained⟩ :=
    Heap.linked_append.mp chained
  obtain rfl := Option.some.inj (ptLive.symm.trans live)
  rw [Heap.lastAddress_append_singleton] at ptPrev
  obtain ⟨firstCell, firstLive, -, -, -⟩ := frontChained.read
  obtain ⟨skipped, ranSkip, -, freedSkip, readsSkip⟩ :=
    exists_modify firstLive fun cell => { cell with next := ptCell.next }
  have firstRelinked : skipped.read first = some { firstCell with next := ptCell.next } := by
    rw [readsSkip, Function.update_self]
  have ptKept : skipped.read pt = some ptCell := by
    rw [readsSkip, Function.update_of_ne (Ne.symm firstNotPt), ptLive]
  have frontKept (place : Address) (member : place ∈ front.map Prod.fst) :
      skipped.read place = nodes.read place := by
    rw [readsSkip, Function.update_of_ne (ne_of_mem_of_not_mem member firstNotFront)]
  unfold Dplist.unlink setNext setPrev
  cases back with
  | nil =>
    have last : ptCell.next = none := backChained
    rw [last] at ranSkip firstRelinked
    refine ⟨skipped, ?_, freedSkip, ptKept, ?_⟩
    · rw [if_pos last, ptPrev, ranSkip]
    · rw [List.append_nil]
      exact frontChained.relink_front firstLive firstRelinked rfl rfl rfl frontKept
  | cons entry rest =>
    obtain ⟨second, behind⟩ := entry
    have secondAway :
        second ∉ (front ++ [(first, other)] ++ [(pt, found)] ++ rest).map Prod.fst := by
      rw [List.append_cons] at chained
      exact chained.not_mem_elsewhere
    simp only [List.map_append, List.map_cons, List.map_nil, List.mem_append, List.mem_cons,
      List.not_mem_nil, or_false, not_or] at secondAway firstNotBack
    obtain ⟨⟨⟨secondNotFront, secondNotFirst⟩, secondNotPt⟩, secondNotRest⟩ := secondAway
    obtain ⟨follows, secondCell, secondLive, -⟩ := id backChained
    have secondKept : skipped.read second = some secondCell := by
      rw [readsSkip, Function.update_of_ne secondNotFirst, secondLive]
    obtain ⟨after, ran, -, freed, reads⟩ :=
      exists_modify secondKept fun cell => { cell with prev := some first }
    have elsewhere (place : Address) (notSecond : place ≠ second) :
        after.read place = skipped.read place := by
      rw [reads, Function.update_of_ne notSecond]
    have secondRelinked : after.read second = some { secondCell with prev := some first } := by
      rw [reads, Function.update_self]
    refine ⟨after, ?_, freed.trans freedSkip, ?_, ?_⟩
    · rw [if_neg (by rw [follows]; exact Option.some_ne_none _), ptPrev, ranSkip,
        Option.bind_eq_bind, Option.bind_some, follows, ran]
    · rw [elsewhere pt (Ne.symm secondNotPt), ptKept]
    · refine Heap.linked_append.mpr ⟨some second, ?_, ?_⟩
      · refine frontChained.relink_front firstLive
          ((elsewhere first (Ne.symm secondNotFirst)).trans firstRelinked) rfl rfl follows
          fun place member => ?_
        rw [elsewhere place (ne_of_mem_of_not_mem member secondNotFront), frontKept place member]
      · rw [Heap.lastAddress_append_singleton]
        rw [follows] at backChained
        refine backChained.relink_back secondLive secondRelinked rfl rfl rfl fun place member => ?_
        rw [elsewhere place (ne_of_mem_of_not_mem member secondNotRest), readsSkip,
          Function.update_of_ne (ne_of_mem_of_not_mem member firstNotBack.2)]

/-! ### Walks -/

theorem walk_eq {before start : Pointer} {contents : List (Address × Element)}
    (chained : Chained nodes before start contents none) (left : Nat) :
    Dplist.walk nodes left start = some (contents[left]?.map Prod.fst) := by
  induction contents generalizing before start left with
  | nil =>
    obtain rfl := chained
    cases left with
    | zero => rfl
    | succ left => rfl
  | cons entry rest inductionHypothesis =>
    obtain ⟨rfl, node, live, -, -, tail⟩ := chained
    cases left with
    | zero => rfl
    | succ left =>
      rw [Dplist.walk, live, Option.bind_eq_bind, Option.bind_some, inductionHypothesis tail,
        List.getElem?_cons_succ]

theorem count_eq {before start : Pointer} {contents : List (Address × Element)}
    (chained : Chained nodes before start contents none) {fuel : Nat}
    (enough : contents.length ≤ fuel) (pos : Int) :
    Dplist.count nodes fuel start pos = some (none, pos + contents.length) := by
  induction contents generalizing before start fuel pos with
  | nil =>
    obtain rfl := chained
    rw [List.length_nil, Int.natCast_zero, Int.add_zero]
    cases fuel <;> rfl
  | cons entry rest inductionHypothesis =>
    obtain ⟨rfl, node, live, -, -, tail⟩ := chained
    rw [List.length_cons] at enough
    obtain ⟨fuel, rfl⟩ : ∃ less, fuel = less + 1 := ⟨fuel - 1, by omega⟩
    rw [Dplist.count, live, Option.bind_eq_bind, Option.bind_some,
      inductionHypothesis tail (by omega), List.length_cons, Int.natCast_add, Int.add_assoc,
      Int.add_comm 1]
    rfl

end Links

/-! ### The list and its nodes -/

/-- The nodes of a list, doubly linked from `head` to NULL, with their elements. -/
def Dplist.Represents (list : Dplist World Element) (contents : List (Address × Element)) : Prop :=
  Chained list.nodes none list.head contents none

section Operations

variable {list : Dplist World Element} {contents : List (Address × Element)}

theorem create_represents (world : World) :
    (Dplist.create world : Dplist World Element).Represents [] := rfl

theorem Dplist.Represents.head_eq_none_iff (represents : list.Represents contents) :
    list.head = none ↔ contents = [] := represents.path.start_eq_none_iff

theorem Dplist.Represents.head (represents : list.Represents contents) :
    list.head = contents.head?.map Prod.fst := by
  cases contents with
  | nil => exact represents
  | cons entry rest => exact represents.1

theorem Dplist.Represents.head_ne {front back : List (Address × Element)} {pt : Address}
    {found : Element} (represents : list.Represents (front ++ (pt, found) :: back))
    (later : front ≠ []) : some pt ≠ list.head := by
  have ptAway := represents.not_mem_elsewhere
  rw [List.map_append, List.mem_append, not_or] at ptAway
  obtain ⟨entry, rest, rfl⟩ := List.exists_cons_of_ne_nil later
  rw [represents.head]
  exact fun equal => ptAway.1 (Option.some.inj equal ▸ List.mem_cons_self)

/-- The node at an index: the first one below 1, none behind the end. -/
theorem getReferenceAtIndex_eq (represents : list.Represents contents) (index : Int) :
    list.getReferenceAtIndex index = some (contents[index.toNat]?.map Prod.fst) := by
  unfold Dplist.getReferenceAtIndex
  split_ifs with front empty
  · rw [Int.toNat_of_nonpos front, represents.head, List.head?_eq_getElem?]
  · rw [represents.head_eq_none_iff.mp empty]
    rfl
  · exact walk_eq represents index.toNat

/-- The size of a nonempty list comes out one too high. -/
theorem size_eq (represents : list.Represents contents) :
    list.size = some (if contents = [] then (0 : Int) else contents.length + 1) := by
  unfold Dplist.size
  by_cases empty : contents = []
  · rw [if_pos (represents.head_eq_none_iff.mpr empty), if_pos empty]
  · rw [if_neg (mt represents.head_eq_none_iff.mp empty), if_neg empty,
      count_eq represents represents.path.length_le_bound, Option.bind_eq_bind, Option.bind_some,
      Int.add_comm]

/-! ### Insertion -/

/-- A new node is not part of the list yet. -/
theorem Dplist.Represents.malloc (represents : list.Represents contents)
    (raw : DplistNode Element) :
    Chained (list.nodes.malloc raw).2 none list.head contents none ∧
      list.nodes.bound ∉ contents.map Prod.fst := by
  have unused : list.nodes.bound ∉ contents.map Prod.fst := fun member => by
    obtain ⟨node, live⟩ := represents.path.live member
    exact absurd (list.nodes.lt_bound_of_read live) (Nat.lt_irrefl _)
  refine ⟨represents.frame fun address member => ?_, unused⟩
  exact list.nodes.read_malloc_of_ne raw (ne_of_mem_of_not_mem member unused)

/-- The copy becomes the element of the new node. -/
theorem exists_setElement {nodes : Nodes Element} {head : Pointer} {newNode : Address}
    {element : Element} {front back : List (Address × Element)}
    (chained : Chained nodes none head (front ++ (newNode, element) :: back) none)
    (copy : Element) :
    ∃ after, setElement nodes (some newNode) copy = some after ∧
      Chained after none head (front ++ (newNode, copy) :: back) none := by
  obtain ⟨node, live, -, -, -⟩ := chained.read
  obtain ⟨after, ran, -, -, reads⟩ :=
    exists_modify live fun node => { node with element := copy }
  have changed : after.read newNode = some { node with element := copy } := by
    rw [reads, Function.update_self]
  refine ⟨after, ran, chained.revalue live changed rfl rfl rfl fun place other => ?_⟩
  rw [reads, Function.update_of_ne other]

/-- At the front of an empty list the new node is lost. -/
theorem insertAtIndex_empty (callbacks : Callbacks World Element) {index : Int}
    (represents : list.Represents []) (front : index ≤ 0) (element : Element)
    (insertCopy : Bool) :
    ∃ result : Element × World → Dplist World Element,
      list.insertAtIndex callbacks element index insertCopy =
        (callbacks.elementCopy list.world element).map result ∧
      ∀ copied, (result copied).world = copied.2 ∧ (result copied).Represents [] := by
  have empty : list.head = none := represents.head_eq_none_iff.mpr rfl
  set raw : DplistNode Element := { prev := none, next := none, element } with rawDef
  have live : (list.nodes.malloc raw).2.read list.nodes.bound = some raw :=
    list.nodes.read_malloc_self raw
  obtain ⟨afterNext, ranNext, -, -, readsNext⟩ :=
    exists_modify live fun node => { node with next := none }
  have liveNext : afterNext.read list.nodes.bound = some raw := by
    rw [readsNext, Function.update_self]
  obtain ⟨afterPrev, ranPrev, -, -, readsPrev⟩ :=
    exists_modify liveNext fun node => { node with prev := none }
  have livePrev : afterPrev.read list.nodes.bound = some raw := by
    rw [readsPrev, Function.update_self]
  choose after ran _ _ _ using fun copy : Element =>
    exists_modify livePrev fun node => { node with element := copy }
  refine ⟨fun copied => { head := none, nodes := after copied.1, world := copied.2 }, ?_,
    fun copied => ⟨rfl, rfl⟩⟩
  unfold Dplist.insertAtIndex setNext setPrev setElement
  simp only [front, empty, if_true, ← rawDef, Heap.malloc_fst, ranNext, ranPrev, ran,
    Option.bind_eq_bind, Option.bind_some]
  exact Option.map_eq_bind.symm

/-- An index below 1 puts the new node in front. -/
theorem insertAtIndex_front (callbacks : Callbacks World Element) {index : Int}
    (represents : list.Represents contents) (nonempty : contents ≠ []) (front : index ≤ 0)
    (element : Element) (insertCopy : Bool) :
    ∃ result : Element × World → Dplist World Element,
      list.insertAtIndex callbacks element index insertCopy =
        (callbacks.elementCopy list.world element).map result ∧
      ∀ copied, (result copied).world = copied.2 ∧
        (result copied).Represents ((list.nodes.bound, copied.1) :: contents) := by
  obtain ⟨⟨pt, found⟩, rest, rfl⟩ := List.exists_cons_of_ne_nil nonempty
  set raw : DplistNode Element := { prev := none, next := none, element } with rawDef
  have rawLive : (list.nodes.malloc raw).2.read list.nodes.bound = some raw :=
    list.nodes.read_malloc_self raw
  obtain ⟨chained, unused⟩ := represents.malloc raw
  have ptAway : pt ∉ ([] ++ rest).map Prod.fst := Heap.Linked.not_mem_elsewhere chained
  simp only [List.map_cons, List.mem_cons, not_or] at unused
  obtain ⟨headFirst, ptCell, ptLive, -⟩ := id chained
  obtain ⟨afterPt, ranPt, -, -, readsPt⟩ :=
    exists_modify ptLive fun node => { node with prev := some list.nodes.bound }
  have newLive : afterPt.read list.nodes.bound = some raw := by
    rw [readsPt, Function.update_of_ne unused.1, rawLive]
  obtain ⟨afterNext, ranNext, -, -, readsNext⟩ :=
    exists_modify newLive fun node => { node with next := some pt }
  have newNext : afterNext.read list.nodes.bound = some { raw with next := some pt } := by
    rw [readsNext, Function.update_self]
  obtain ⟨afterPrev, ranPrev, -, -, readsPrev⟩ :=
    exists_modify newNext fun node => { node with prev := none }
  have newLinked : afterPrev.read list.nodes.bound = some { raw with next := some pt } := by
    rw [readsPrev, Function.update_self]
  have elsewhere (address : Address) (notNew : address ≠ list.nodes.bound) :
      afterPrev.read address = afterPt.read address := by
    rw [readsPrev, Function.update_of_ne notNew, readsNext, Function.update_of_ne notNew]
  have ptRelinked : afterPrev.read pt = some { ptCell with prev := some list.nodes.bound } := by
    rw [elsewhere pt (Ne.symm unused.1), readsPt, Function.update_self]
  have linked : Chained afterPrev none (some list.nodes.bound)
      ([] ++ (list.nodes.bound, element) :: (pt, found) :: rest) none := by
    refine ⟨rfl, _, newLinked, rfl, rfl, headFirst ▸ ?_⟩
    refine chained.relink_back ptLive ptRelinked rfl rfl rfl fun other member => ?_
    rw [elsewhere other (ne_of_mem_of_not_mem member unused.2), readsPt,
      Function.update_of_ne (ne_of_mem_of_not_mem member ptAway)]
  choose after ran relinked using exists_setElement linked
  refine ⟨fun copied =>
    { head := some list.nodes.bound, nodes := after copied.1, world := copied.2 }, ?_,
    fun copied => ⟨rfl, relinked copied.1⟩⟩
  unfold setElement at ran
  unfold Dplist.insertAtIndex setNext setPrev setElement
  simp only [front, headFirst, if_true, ← rawDef, Heap.malloc_fst, ranPt, ranNext, ranPrev, ran,
    Option.bind_eq_bind, Option.bind_some, reduceCtorEq, if_false]
  exact Option.map_eq_bind.symm

/-- An index inside the list puts the new node there. -/
theorem insertAtIndex_middle (callbacks : Callbacks World Element) {index : Int}
    {front back : List (Address × Element)} (represents : list.Represents (front ++ back))
    (inside : index = front.length) (later : front ≠ []) (more : back ≠ [])
    (element : Element) (insertCopy : Bool) :
    ∃ result : Element × World → Dplist World Element,
      list.insertAtIndex callbacks element index insertCopy =
        (callbacks.elementCopy list.world element).map result ∧
      ∀ copied, (result copied).world = copied.2 ∧
        (result copied).Represents (front ++ (list.nodes.bound, copied.1) :: back) := by
  obtain ⟨⟨pt, found⟩, rest, rfl⟩ := List.exists_cons_of_ne_nil more
  obtain ⟨init, ⟨first, other⟩, rfl⟩ := (List.eq_nil_or_concat' front).resolve_left later
  set raw : DplistNode Element := { prev := none, next := none, element } with rawDef
  have rawLive : (list.nodes.malloc raw).2.read list.nodes.bound = some raw :=
    list.nodes.read_malloc_self raw
  obtain ⟨chained, unused⟩ := represents.malloc raw
  set grown : Dplist World Element := { list with nodes := (list.nodes.malloc raw).2 }
    with grownDef
  have grownRepresents : grown.Represents (init ++ [(first, other)] ++ (pt, found) :: rest) :=
    chained
  have positive : ¬ index ≤ 0 := by
    rw [inside, List.length_append, List.length_singleton]
    omega
  have reference : grown.getReferenceAtIndex index = some (some pt) := by
    rw [getReferenceAtIndex_eq grownRepresents, inside, Int.toNat_natCast,
      List.getElem?_append_right (Nat.le_refl _), Nat.sub_self]
    rfl
  have counted := size_eq grownRepresents
  rw [if_neg (by simp)] at counted
  have below : ¬ index ≥ ((init ++ [(first, other)] ++ (pt, found) :: rest).length : Int) + 1 := by
    have sizes : (init ++ [(first, other)] ++ (pt, found) :: rest).length =
        (init ++ [(first, other)]).length + ((pt, found) :: rest).length := List.length_append
    rw [inside, sizes]
    omega
  obtain ⟨linkedNodes, ranLink, -, linked⟩ := linkBefore_middle chained unused rawLive rfl
  choose after ran relinked using exists_setElement linked
  refine ⟨fun copied => { head := list.head, nodes := after copied.1, world := copied.2 }, ?_,
    fun copied => ⟨rfl, relinked copied.1⟩⟩
  unfold Dplist.insertAtIndex
  simp only [← rawDef, Heap.malloc_fst, ← grownDef, positive, if_false, reference, counted, below,
    Option.bind_eq_bind, Option.bind_some, reduceCtorEq, ranLink, ran]
  exact Option.map_eq_bind.symm

theorem insertIdx_eq_take_drop {Entry : Type} {entries : List Entry} {place : Nat}
    (inside : place ≤ entries.length) (entry : Entry) :
    entries.insertIdx place entry = entries.take place ++ entry :: entries.drop place := by
  induction place generalizing entries with
  | zero => rfl
  | succ place inductionHypothesis =>
    cases entries with
    | nil => exact absurd inside (Nat.not_succ_le_zero place)
    | cons first rest =>
      rw [List.insertIdx_succ_cons, inductionHypothesis (Nat.le_of_succ_le_succ inside),
        List.take_succ_cons, List.drop_succ_cons, List.cons_append]

/-- Where an index is: inside the list or before its first node, at the front of an empty list, or
behind the end. -/
theorem index_cases {Entry : Type} (entries : List Entry) (index : Int) :
    (entries ≠ [] ∧ index < entries.length) ∨ (entries = [] ∧ index ≤ 0) ∨
      (0 < index ∧ entries.length ≤ index) := by
  by_cases empty : entries = []
  · rcases Int.lt_or_le 0 index with positive | front
    · exact Or.inr (Or.inr ⟨positive, by rw [empty, List.length_nil]; exact Int.le_of_lt positive⟩)
    · exact Or.inr (Or.inl ⟨empty, front⟩)
  · have some := List.length_pos_iff.mpr empty
    rcases Int.lt_or_le index entries.length with inside | beyond
    · exact Or.inl ⟨empty, inside⟩
    · exact Or.inr (Or.inr ⟨by omega, beyond⟩)

/-- An index below the length of a nonempty list puts the new node there, or in front. -/
theorem insertAtIndex_inside (callbacks : Callbacks World Element) {index : Int}
    (represents : list.Represents contents) (nonempty : contents ≠ [])
    (inside : index < contents.length) (element : Element) (insertCopy : Bool) :
    ∃ result : Element × World → Dplist World Element,
      list.insertAtIndex callbacks element index insertCopy =
        (callbacks.elementCopy list.world element).map result ∧
      ∀ copied, (result copied).world = copied.2 ∧ (result copied).Represents
        (contents.insertIdx index.toNat (list.nodes.bound, copied.1)) := by
  by_cases front : index ≤ 0
  · rw [Int.toNat_of_nonpos front]
    exact insertAtIndex_front callbacks represents nonempty front element insertCopy
  · have length : (contents.take index.toNat).length = index.toNat := by
      rw [List.length_take]
      omega
    have later : contents.take index.toNat ≠ [] := by
      rw [ne_eq, ← List.length_eq_zero_iff, length]
      omega
    have more : contents.drop index.toNat ≠ [] := by
      rw [ne_eq, ← List.length_eq_zero_iff, List.length_drop]
      omega
    have place : index.toNat ≤ contents.length := by omega
    simp only [insertIdx_eq_take_drop place]
    rw [← List.take_append_drop index.toNat contents] at represents
    exact insertAtIndex_middle callbacks represents (by omega) later more element insertCopy

/-- An index behind the end fails the assertion. -/
theorem insertAtIndex_beyond {callbacks : Callbacks World Element} {index : Int}
    (represents : list.Represents contents) (positive : 0 < index)
    (beyond : contents.length ≤ index) (element : Element) (insertCopy : Bool) :
    list.insertAtIndex callbacks element index insertCopy = none := by
  set raw : DplistNode Element := { prev := none, next := none, element } with rawDef
  set grown : Dplist World Element := { list with nodes := (list.nodes.malloc raw).2 }
    with grownDef
  have grownRepresents : grown.Represents contents := (represents.malloc raw).1
  have reference : grown.getReferenceAtIndex index = some none := by
    rw [getReferenceAtIndex_eq grownRepresents, List.getElem?_eq_none (by omega)]
    rfl
  unfold Dplist.insertAtIndex
  simp only [← rawDef, ← grownDef, Int.not_le.mpr positive, if_false, reference, if_true,
    Option.bind_eq_bind, Option.bind_some, Option.bind_none]

/-- The walk of a sorted insertion stops at a node of the list, whatever the comparison says. -/
theorem sortedPlace_splits {callbacks : Callbacks World Element} {element : Element}
    {nodes : Nodes Element} {before start pt : Pointer} {fuel : Nat} {world later : World}
    (chained : Chained nodes before start contents none)
    (stopped : Dplist.sortedPlace callbacks element nodes fuel world start = some (pt, later)) :
    ∃ front place found back, contents = front ++ (place, found) :: back ∧ pt = some place := by
  induction fuel generalizing before start contents world with
  | zero => exact nomatch stopped
  | succ fuel inductionHypothesis =>
    unfold Dplist.sortedPlace at stopped
    obtain ⟨node, reached, stopped⟩ := Option.bind_eq_some_iff.mp stopped
    cases contents with
    | nil =>
      obtain rfl := chained
      exact nomatch reached
    | cons entry rest =>
      obtain ⟨place, found⟩ := entry
      obtain ⟨rfl, cell, live, -, -, tail⟩ := chained
      obtain rfl := Option.some.inj (live.symm.trans reached)
      obtain ⟨⟨goesOn, between⟩, compared, stopped⟩ := Option.bind_eq_some_iff.mp stopped
      dsimp only at stopped
      split_ifs at stopped with more
      · obtain ⟨front, other, held, back, split, same⟩ := inductionHypothesis tail stopped
        exact ⟨(place, found) :: front, other, held, back, by rw [split, List.cons_append], same⟩
      · rw [Option.some.injEq, Prod.mk.injEq] at stopped
        exact ⟨[], place, found, rest, rfl, stopped.1.symm⟩

theorem guard_of_compareIf {callbacks : Callbacks World Element} {guard : Prop}
    [Decidable guard] {world later : World} {element other : Element} {test : Int → Bool}
    {answer : Bool}
    (compared : Dplist.compareIf callbacks guard world element other test = some (answer, later))
    (yes : answer = true) : guard := by
  unfold Dplist.compareIf at compared
  split_ifs at compared with holds
  · exact holds
  · rw [Option.some.injEq, Prod.mk.injEq] at compared
    exact absurd (compared.1.trans yes) (by decide)

/-- A sorted insertion that returns has put one node into the list. -/
theorem insertSorted_inserts {callbacks : Callbacks World Element} {element : Element}
    {insertCopy : Bool} {after : Dplist World Element} (represents : list.Represents contents)
    (taken : list.insertSorted callbacks element insertCopy = some after) :
    ∃ inserted front back, contents = front ++ back ∧
      after.Represents (front ++ (list.nodes.bound, inserted) :: back) := by
  unfold Dplist.insertSorted at taken
  obtain ⟨⟨inserted, world⟩, copied, taken⟩ := Option.bind_eq_some_iff.mp taken
  dsimp only at taken
  set raw : DplistNode Element := { prev := none, next := none, element := inserted } with rawDef
  have rawLive : (list.nodes.malloc raw).2.read list.nodes.bound = some raw :=
    list.nodes.read_malloc_self raw
  obtain ⟨chained, unused⟩ := represents.malloc raw
  rw [Heap.malloc_fst] at taken
  refine ⟨inserted, ?_⟩
  split_ifs at taken with empty
  · obtain ⟨first, ranFirst, taken⟩ := Option.bind_eq_some_iff.mp taken
    obtain ⟨second, ranSecond, taken⟩ := Option.bind_eq_some_iff.mp taken
    rw [Option.some.injEq] at taken
    rw [← taken]
    have readsFirst := read_of_modify ranFirst rawLive
    have liveFirst : first.read list.nodes.bound = some raw := by
      rw [readsFirst, Function.update_self]
    have readsSecond := read_of_modify ranSecond liveFirst
    have liveSecond : second.read list.nodes.bound = some raw := by
      rw [readsSecond, Function.update_self]
    rw [represents.head_eq_none_iff.mp empty]
    exact ⟨[], [], rfl, rfl, raw, liveSecond, rfl, rfl, rfl⟩
  · obtain ⟨⟨pt, between⟩, stopped, taken⟩ := Option.bind_eq_some_iff.mp taken
    obtain ⟨front, place, found, back, rfl, rfl⟩ := sortedPlace_splits chained stopped
    dsimp only at taken
    obtain ⟨node, reached, taken⟩ := Option.bind_eq_some_iff.mp taken
    obtain ⟨⟨last, fromLast⟩, decided, taken⟩ := Option.bind_eq_some_iff.mp taken
    dsimp only at taken
    obtain ⟨cell, live, -, holds, tail⟩ := chained.read
    obtain rfl := Option.some.inj (live.symm.trans reached)
    have apart : place ≠ list.nodes.bound := by
      rintro rfl
      exact unused (by simp)
    split_ifs at taken with isLast
    · obtain ⟨next, ranNext, taken⟩ := Option.bind_eq_some_iff.mp taken
      obtain ⟨prev, ranPrev, taken⟩ := Option.bind_eq_some_iff.mp taken
      obtain ⟨linked, ranLast, taken⟩ := Option.bind_eq_some_iff.mp taken
      rw [Option.some.injEq] at taken
      rw [guard_of_compareIf decided isLast] at tail
      obtain rfl := tail.path.start_eq_none_iff.mp rfl
      rw [← taken]
      exact ⟨front ++ [(place, found)], [], (List.append_nil _).symm,
        chained_of_behind chained unused rawLive ranNext ranPrev ranLast⟩
    · obtain ⟨⟨first, fromFirst⟩, decidedFirst, taken⟩ := Option.bind_eq_some_iff.mp taken
      dsimp only at taken
      rcases List.eq_nil_or_concat' front with rfl | ⟨init, ⟨predecessor, held⟩, rfl⟩
      · split_ifs at taken with isFirst
        · obtain ⟨prev, ranPrev, taken⟩ := Option.bind_eq_some_iff.mp taken
          obtain ⟨next, ranNext, taken⟩ := Option.bind_eq_some_iff.mp taken
          obtain ⟨linked, ranFirst, taken⟩ := Option.bind_eq_some_iff.mp taken
          rw [Option.some.injEq] at taken
          rw [← taken]
          exact ⟨[], (place, found) :: back, rfl,
            chained_of_front chained unused rawLive ranPrev ranNext ranFirst⟩
        · obtain ⟨linked, ranLink, taken⟩ := Option.bind_eq_some_iff.mp taken
          have stuck := linkBefore_first chained (Ne.symm apart) rawLive
          exact absurd (stuck.symm.trans ranLink) (by simp)
      · have notFirst : ¬ first = true := by
          intro isFirst
          exact represents.head_ne (by simp) (guard_of_compareIf decidedFirst isFirst)
        rw [if_neg notFirst] at taken
        obtain ⟨linked, ranLink, taken⟩ := Option.bind_eq_some_iff.mp taken
        obtain ⟨other, ran, -, linkedChain⟩ :=
          linkBefore_middle chained unused rawLive rfl
        obtain rfl := Option.some.inj (ran.symm.trans ranLink)
        rw [Option.some.injEq] at taken
        rw [← taken]
        exact ⟨init ++ [(predecessor, held)], (place, found) :: back, rfl, linkedChain⟩

/-! ### Removal -/

/-- The first node cannot be removed: its `next` is lost, and the code follows NULL. -/
theorem removeAtIndex_front [Zero Element] {callbacks : Callbacks World Element} {index : Int}
    (represents : list.Represents contents) (nonempty : contents ≠ []) (front : index ≤ 0)
    (freeElement : Bool) : list.removeAtIndex callbacks index freeElement = none := by
  obtain ⟨⟨pt, found⟩, rest, rfl⟩ := List.exists_cons_of_ne_nil nonempty
  obtain ⟨headFirst, ptCell, ptLive, -⟩ := represents
  obtain ⟨afterNext, ranNext, -, -, readsNext⟩ :=
    exists_modify ptLive fun node => { node with next := none }
  have ptCut : afterNext.read pt = some { ptCell with next := none } := by
    rw [readsNext, Function.update_self]
  unfold Dplist.removeAtIndex setNext setPrev
  simp only [front, headFirst, if_true, deref_some, ptLive, ranNext, ptCut, modify_none,
    Option.bind_eq_bind, Option.bind_some, Option.bind_none, Option.bind_fun_none, reduceCtorEq,
    if_false, ite_self]

/-- Behind the end there is no node to remove. -/
theorem removeAtIndex_beyond [Zero Element] {callbacks : Callbacks World Element} {index : Int}
    (represents : list.Represents contents) (nonempty : contents ≠ []) (positive : 0 < index)
    (beyond : contents.length ≤ index) (freeElement : Bool) :
    list.removeAtIndex callbacks index freeElement = none := by
  have present := mt represents.head_eq_none_iff.mp nonempty
  have walked := walk_eq represents index.toNat
  rw [List.getElem?_eq_none (by omega), Option.map_none] at walked
  unfold Dplist.removeAtIndex
  simp only [present, if_false, Int.not_le.mpr positive, walked, deref_none, Option.bind_eq_bind,
    Option.bind_some, Option.bind_none]

/-- An index inside the list removes the node there. -/
theorem removeAtIndex_middle [Zero Element] (callbacks : Callbacks World Element) {index : Int}
    {front back : List (Address × Element)} {pt : Address} {found : Element}
    (represents : list.Represents (front ++ (pt, found) :: back))
    (inside : index = front.length) (later : front ≠ []) (freeElement : Bool) :
    ∃ result : World → Dplist World Element,
      list.removeAtIndex callbacks index freeElement =
        (if freeElement then callbacks.elementFree list.world found else some list.world).map
          result ∧
      ∀ world, (result world).world = world ∧
        (result world).nodes.freed = list.nodes.freed ++ [pt] ∧
        (result world).Represents (front ++ back) := by
  obtain ⟨init, ⟨first, other⟩, rfl⟩ := (List.eq_nil_or_concat' front).resolve_left later
  have present : list.head ≠ none := mt represents.head_eq_none_iff.mp (by simp)
  have positive : ¬ index ≤ 0 := by
    rw [inside, List.length_append, List.length_singleton]
    omega
  have walked : Dplist.walk list.nodes index.toNat list.head = some (some pt) := by
    rw [walk_eq represents, inside, Int.toNat_natCast,
      List.getElem?_append_right (Nat.le_refl _), Nat.sub_self]
    rfl
  have ptAway := represents.not_mem_elsewhere
  rw [List.map_append, List.mem_append, not_or] at ptAway
  have notHead := represents.head_ne later
  obtain ⟨node, live, -, holds, -⟩ := represents.read
  obtain ⟨unlinked, ranUnlink, freedUnlink, ptKept, chained⟩ := exists_unlink represents live
  obtain ⟨after, ranRelease, freedRelease, elsewhere⟩ := exists_release ptKept
  refine ⟨fun world => { head := list.head, nodes := after, world }, ?_, fun world =>
    ⟨rfl, by rw [freedRelease, freedUnlink], chained.frame fun place member => ?_⟩⟩
  · unfold Dplist.removeAtIndex
    simp only [present, positive, if_false, walked, deref_some, live, holds, notHead, ranUnlink,
      ranRelease, Option.bind_eq_bind, Option.bind_some]
    split_ifs
    · exact Option.map_eq_bind.symm
    · rfl
  · rw [List.map_append, List.mem_append] at member
    refine elsewhere place ?_
    rintro rfl
    exact member.elim ptAway.1 ptAway.2

/-- An index above 0 and below the length removes the node there. -/
theorem removeAtIndex_inside [Zero Element] (callbacks : Callbacks World Element) {index : Int}
    {pt : Address} {found : Element} (represents : list.Represents contents)
    (positive : 0 < index) (present : contents[index.toNat]? = some (pt, found))
    (freeElement : Bool) :
    ∃ result : World → Dplist World Element,
      list.removeAtIndex callbacks index freeElement =
        (if freeElement then callbacks.elementFree list.world found else some list.world).map
          result ∧
      ∀ world, (result world).world = world ∧
        (result world).nodes.freed = list.nodes.freed ++ [pt] ∧
        (result world).Represents (contents.eraseIdx index.toNat) := by
  obtain ⟨inside, found⟩ := List.getElem?_eq_some_iff.mp present
  have length : (contents.take index.toNat).length = index.toNat := by
    rw [List.length_take]
    omega
  have later : contents.take index.toNat ≠ [] := by
    rw [ne_eq, ← List.length_eq_zero_iff, length]
    omega
  have split : contents = contents.take index.toNat ++
      contents[index.toNat] :: contents.drop (index.toNat + 1) := by
    rw [← List.drop_eq_getElem_cons inside, List.take_append_drop]
  rw [found] at split
  rw [List.eraseIdx_eq_take_drop_succ]
  rw [split] at represents
  exact removeAtIndex_middle callbacks represents (by omega) later freeElement

end Operations

/-! ### Runs -/

/-- A call of one of the three functions that change a list. -/
inductive DplistCall (Element : Type) where
  | insertAtIndex (element : Element) (index : Int) (insertCopy : Bool)
  | insertSorted (element : Element) (insertCopy : Bool)
  | removeAtIndex (index : Int) (freeElement : Bool)
  deriving DecidableEq, Repr

/-- Answer a call. A call that does not return ends the run. -/
def Dplist.call [Zero Element] (callbacks : Callbacks World Element)
    (list : Dplist World Element) : DplistCall Element → Option (Dplist World Element)
  | .insertAtIndex element index insertCopy =>
    list.insertAtIndex callbacks element index insertCopy
  | .insertSorted element insertCopy => list.insertSorted callbacks element insertCopy
  | .removeAtIndex index freeElement => list.removeAtIndex callbacks index freeElement

/-- The second sequence of nodes is the first one with at most one node taken out. -/
def ShortenedBy (longer shorter : List (Address × Element)) : Prop :=
  longer = shorter ∨
    ∃ front node back, longer = front ++ node :: back ∧ shorter = front ++ back

/-- What a call may do to the sequence of nodes. -/
def DplistCall.Changes (contents later : List (Address × Element)) : DplistCall Element → Prop
  | .insertAtIndex _ _ _ => ShortenedBy later contents
  | .insertSorted _ _ => ShortenedBy later contents
  | .removeAtIndex _ _ => ShortenedBy contents later

section Runs

variable [Zero Element] {callbacks : Callbacks World Element} {list after : Dplist World Element}
  {contents : List (Address × Element)}

omit [Zero Element] in
theorem represents_of_insertAtIndex {element : Element} {index : Int} {insertCopy : Bool}
    (represents : list.Represents contents)
    (taken : list.insertAtIndex callbacks element index insertCopy = some after) :
    ∃ later, after.Represents later ∧ ShortenedBy later contents := by
  rcases index_cases contents index with ⟨nonempty, inside⟩ | ⟨rfl, front⟩ | ⟨positive, beyond⟩
  · obtain ⟨result, ran, holds⟩ :=
      insertAtIndex_inside callbacks represents nonempty inside element insertCopy
    rw [ran] at taken
    obtain ⟨copied, -, rfl⟩ := Option.map_eq_some_iff.mp taken
    exact ⟨_, (holds copied).2, Or.inr ⟨contents.take index.toNat, (list.nodes.bound, copied.1),
      contents.drop index.toNat, insertIdx_eq_take_drop (by omega) _,
      (List.take_append_drop _ _).symm⟩⟩
  · obtain ⟨result, ran, holds⟩ :=
      insertAtIndex_empty callbacks represents front element insertCopy
    rw [ran] at taken
    obtain ⟨copied, -, rfl⟩ := Option.map_eq_some_iff.mp taken
    exact ⟨[], (holds copied).2, Or.inl rfl⟩
  · rw [insertAtIndex_beyond represents positive beyond] at taken
    exact nomatch taken

theorem represents_of_removeAtIndex {index : Int} {freeElement : Bool}
    (represents : list.Represents contents)
    (taken : list.removeAtIndex callbacks index freeElement = some after) :
    ∃ later, after.Represents later ∧ ShortenedBy contents later := by
  by_cases empty : contents = []
  · unfold Dplist.removeAtIndex at taken
    rw [if_pos (represents.head_eq_none_iff.mpr empty), Option.some.injEq] at taken
    exact ⟨contents, taken ▸ represents, Or.inl rfl⟩
  · by_cases front : index ≤ 0
    · rw [removeAtIndex_front represents empty front] at taken
      exact nomatch taken
    · have positive : 0 < index := Int.not_le.mp front
      by_cases beyond : contents.length ≤ index
      · rw [removeAtIndex_beyond represents empty positive beyond] at taken
        exact nomatch taken
      · have inside : index.toNat < contents.length := by omega
        obtain ⟨result, ran, holds⟩ := removeAtIndex_inside callbacks represents positive
          (List.getElem?_eq_getElem inside) freeElement
        rw [ran] at taken
        obtain ⟨world, -, rfl⟩ := Option.map_eq_some_iff.mp taken
        refine ⟨_, (holds world).2.2, Or.inr ⟨contents.take index.toNat,
          contents[index.toNat], contents.drop (index.toNat + 1), ?_,
          List.eraseIdx_eq_take_drop_succ ..⟩⟩
        rw [← List.drop_eq_getElem_cons inside, List.take_append_drop]

/-- A call that returns leaves the list doubly linked, with at most one node more or less. -/
theorem represents_of_call {call : DplistCall Element} (represents : list.Represents contents)
    (taken : list.call callbacks call = some after) :
    ∃ later, after.Represents later ∧ call.Changes contents later := by
  cases call with
  | insertAtIndex element index insertCopy =>
    have ran : list.insertAtIndex callbacks element index insertCopy = some after := taken
    exact represents_of_insertAtIndex represents ran
  | insertSorted element insertCopy =>
    obtain ⟨inserted, front, back, split, holds⟩ := insertSorted_inserts represents taken
    exact ⟨_, holds, Or.inr ⟨front, _, back, rfl, split⟩⟩
  | removeAtIndex index freeElement => exact represents_of_removeAtIndex represents taken

/-- In every run from an empty list, whatever the callbacks do, each call that returns finds and
leaves the list doubly linked from `head` to NULL; an insertion adds at most one node and a removal
takes at most one out, and the other nodes stay as they are and in order. -/
theorem dplist_wellFormed (callbacks : Callbacks World Element) (world : World)
    (calls : List (DplistCall Element)) :
    ∀ transition ∈ Runs.transitions (Dplist.call callbacks) (Dplist.create world) calls,
      ∃ contents later, transition.before.Represents contents ∧
        transition.after.Represents later ∧ transition.event.Changes contents later := by
  intro transition member
  have taken := Runs.step_of_mem_transitions member
  obtain ⟨⟨contents, represents⟩, -⟩ := Runs.invariant_of_transitions
    (fun list => ∃ contents, Dplist.Represents list contents) (fun _ => True)
    ⟨[], create_represents world⟩
    (fun before call after holds ran _ => by
      obtain ⟨contents, represents⟩ := holds
      obtain ⟨later, represented, -⟩ := represents_of_call represents ran
      exact ⟨later, represented⟩)
    (fun _ _ => trivial) transition member
  obtain ⟨later, represented, changes⟩ := represents_of_call represents taken
  exact ⟨contents, later, represents, represented, changes⟩

/-- Callbacks of a list of numbers that own no memory. -/
def numberCallbacks : Callbacks Unit Int where
  elementCopy world element := some (element, world)
  elementFree world _ := some world
  elementCompare world element other := some (element - other, world)

/-- A list of two numbers. -/
theorem exists_twoNumbers :
    ∃ list, Runs.complete (Dplist.call numberCallbacks) (Dplist.create ())
        [.insertSorted 5 false, .insertSorted 7 false] = some list ∧
      list.Represents [(0, 5), (1, 7)] :=
  ⟨_, rfl, rfl, _, rfl, rfl, rfl, rfl, _, rfl, rfl, rfl, rfl⟩

/-- A run that inserts behind and before the first node, and removes the second one. -/
def threeNumbers : List (DplistCall Int) :=
  [.insertSorted 5 false, .insertSorted 7 true, .insertSorted 2 false, .removeAtIndex 1 true]

theorem dplist_wellFormed_threeNumbers :
    ∃ transition ∈
        Runs.transitions (Dplist.call numberCallbacks) (Dplist.create ()) threeNumbers,
      transition.event = .removeAtIndex 1 true ∧
        ∃ contents later, transition.before.Represents contents ∧
          transition.after.Represents later ∧ transition.event.Changes contents later := by
  have fourth : 3 < (Runs.transitions (Dplist.call numberCallbacks) (Dplist.create ())
      threeNumbers).length := by decide
  refine ⟨_, List.getElem_mem fourth, rfl, ?_⟩
  exact dplist_wellFormed numberCallbacks () threeNumbers _ (List.getElem_mem fourth)

end Runs

end SensorGateway
