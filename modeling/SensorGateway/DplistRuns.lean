/-
This file is about whole runs of the three functions that change a list.

A sequence of elements is the list without its nodes. Every call has an effect on it, or
none when the source does not return; an index is not clamped, an element put in front of
an empty list is lost, and a first element is not removed. When the comparison callback
only reads, the list in memory does exactly this in every run: it returns from the same
calls, holds the same elements in the same order, leaves the memory of the elements the
same and answers the same.

Whatever the callbacks do, an empty list gets its first node from `dpl_insert_sorted`
only, and no removal that returns takes the last node out. A list is therefore freed
exactly when it has never been inserted into in sorted order.
-/

import Mathlib.Data.List.InsertIdx
import SensorGateway.DplistIndexed
import SensorGateway.DplistSearch
import SensorGateway.Library.Simulation

namespace SensorGateway

variable {World Element : Type}

/-! ### Sequences of elements -/

/-- The elements of a list in order, and their memory. -/
structure Sequence (World Element : Type) where
  elements : List Element
  world : World

/-- An insertion at an index: the copy goes to the place, or is lost in front of an empty list. -/
def Sequence.insertAtIndex (callbacks : Callbacks World Element)
    (sequence : Sequence World Element) (element : Element) (index : Int) :
    Option (Sequence World Element) :=
  if 0 < index ∧ sequence.elements.length ≤ index then none
  else do
    let (copy, world) ← callbacks.elementCopy sequence.world element
    let elements :=
      if sequence.elements = [] then [] else sequence.elements.insertIdx index.toNat copy
    some { elements, world }

/-- A sorted insertion. -/
def Sequence.insertSorted (callbacks : Callbacks World Element)
    (compare : Element → Element → Int) (sequence : Sequence World Element) (element : Element)
    (insertCopy : Bool) : Option (Sequence World Element) := do
  let (inserted, world) ← Dplist.copyIf callbacks sequence.world element insertCopy
  let elements ← dplInsertSorted compare sequence.elements inserted
  some { elements, world }

/-- A removal: not of the first element, and not behind the end. -/
def Sequence.removeAtIndex (callbacks : Callbacks World Element)
    (sequence : Sequence World Element) (index : Int) (freeElement : Bool) :
    Option (Sequence World Element) :=
  if sequence.elements = [] then some sequence
  else if index ≤ 0 then none
  else do
    let element ← sequence.elements[index.toNat]?
    let world ← freeIf callbacks sequence.world element freeElement
    some { elements := sequence.elements.eraseIdx index.toNat, world }

/-- What a call does to a sequence. -/
def Sequence.call (callbacks : Callbacks World Element) (compare : Element → Element → Int)
    (sequence : Sequence World Element) : DplistCall Element → Option (Sequence World Element)
  | .insertAtIndex element index _ => sequence.insertAtIndex callbacks element index
  | .insertSorted element insertCopy =>
    sequence.insertSorted callbacks compare element insertCopy
  | .removeAtIndex index freeElement => sequence.removeAtIndex callbacks index freeElement

/-! ### Queries -/

/-- A question about a list. -/
inductive DplistQuery (Element : Type) where
  | size
  | elementAtIndex (index : Int)
  | indexOfElement (element : Element)
  deriving DecidableEq, Repr

/-- What a list answers: a number or an element. -/
inductive DplistAnswer (Element : Type) where
  | number (value : Int)
  | element (found : Element)
  deriving DecidableEq, Repr

section Refinement

variable [Zero Element]

/-- The answer of a list in memory. -/
def Dplist.answer (callbacks : Callbacks World Element) (list : Dplist World Element) :
    DplistQuery Element → Option (DplistAnswer Element)
  | .size => list.size.map .number
  | .elementAtIndex index => (list.getElementAtIndex index).map .element
  | .indexOfElement element =>
    (list.getIndexOfElement callbacks element).map fun found => .number found.1

/-- The answer of a sequence: the size is one too high, and above index 0 no element is read. -/
def Sequence.answer (compare : Element → Element → Int) (sequence : Sequence World Element) :
    DplistQuery Element → Option (DplistAnswer Element)
  | .size =>
    some (.number (if sequence.elements = [] then 0 else sequence.elements.length + 1))
  | .elementAtIndex index =>
    if sequence.elements = [] then some (.element 0)
    else if index ≤ 0 then sequence.elements.head?.map .element
    else none
  | .indexOfElement element =>
    some (.number (if sequence.elements = [] then -1
      else sequence.elements.findIdx fun other => compare element other = 0))

variable {callbacks : Callbacks World Element} {compare : Element → Element → Int}
  {list : Dplist World Element} {sequence : Sequence World Element}

/-- The comparison callback reads the elements and changes nothing. -/
def OnlyCompares (callbacks : Callbacks World Element) (compare : Element → Element → Int) :
    Prop :=
  ∀ world element other,
    callbacks.elementCompare world element other = some (compare element other, world)

/-- A list in memory holds a sequence of elements. -/
def Dplist.Holds (list : Dplist World Element) (sequence : Sequence World Element) : Prop :=
  list.world = sequence.world ∧
    ∃ contents, list.Represents contents ∧ contents.map Prod.snd = sequence.elements

/-! ### The refinement -/

omit [Zero Element] in
theorem create_holds (world : World) :
    (Dplist.create world).Holds { elements := ([] : List Element), world } :=
  ⟨rfl, [], create_represents world, rfl⟩

omit [Zero Element] in
/-- What is made of the same value is related when it is related for each value. -/
theorem rel_map_bind {Concrete Abstract Result : Type} {Related : Concrete → Abstract → Prop}
    {result : Result → Concrete} {abstractResult : Result → Option Abstract}
    (related : ∀ value, ∃ abstract, abstractResult value = some abstract ∧
      Related (result value) abstract) (made : Option Result) :
    Option.Rel Related (made.map result) (made.bind abstractResult) := by
  cases made with
  | some value =>
    obtain ⟨abstract, same, both⟩ := related value
    rw [Option.map_some, Option.bind_some, same]
    exact .some both
  | none => exact .none

omit [Zero Element] in
theorem insertAtIndex_holds (holds : list.Holds sequence) (element : Element) (index : Int)
    (insertCopy : Bool) :
    Option.Rel Dplist.Holds (list.insertAtIndex callbacks element index insertCopy)
      (sequence.insertAtIndex callbacks element index) := by
  obtain ⟨sameWorld, contents, represents, elements⟩ := holds
  have length : sequence.elements.length = contents.length := by
    rw [← elements, List.length_map]
  have empty : sequence.elements = [] ↔ contents = [] := by
    rw [← elements, List.map_eq_nil_iff]
  unfold Sequence.insertAtIndex
  rw [← sameWorld, length]
  rcases index_cases contents index with ⟨nonempty, inside⟩ | ⟨rfl, front⟩ | ⟨positive, beyond⟩
  · obtain ⟨result, ran, results⟩ :=
      insertAtIndex_inside callbacks represents nonempty inside element insertCopy
    rw [ran, if_neg (by omega)]
    refine rel_map_bind (fun copied => ⟨_, rfl, (results copied).1, _, (results copied).2, ?_⟩) _
    dsimp only
    rw [if_neg (mt empty.mp nonempty), List.map_insertIdx, elements]
  · obtain ⟨result, ran, results⟩ :=
      insertAtIndex_empty callbacks represents front element insertCopy
    rw [ran, if_neg (by omega)]
    refine rel_map_bind (fun copied => ⟨_, rfl, (results copied).1, _, (results copied).2, ?_⟩) _
    exact (if_pos (empty.mpr rfl)).symm
  · rw [insertAtIndex_beyond represents positive beyond, if_pos ⟨positive, beyond⟩]
    exact .none

theorem removeAtIndex_holds (holds : list.Holds sequence) (index : Int) (freeElement : Bool) :
    Option.Rel Dplist.Holds (list.removeAtIndex callbacks index freeElement)
      (sequence.removeAtIndex callbacks index freeElement) := by
  obtain ⟨sameWorld, contents, represents, elements⟩ := id holds
  have none : sequence.elements = [] ↔ contents = [] := by
    rw [← elements, List.map_eq_nil_iff]
  unfold Sequence.removeAtIndex
  by_cases empty : contents = []
  · unfold Dplist.removeAtIndex
    rw [if_pos (represents.head_eq_none_iff.mpr empty), if_pos (none.mpr empty)]
    exact .some holds
  · rw [if_neg (mt none.mp empty)]
    by_cases front : index ≤ 0
    · rw [if_pos front, removeAtIndex_front represents empty front]
      exact .none
    · rw [if_neg front, ← elements, List.getElem?_map, ← sameWorld]
      cases present : contents[index.toNat]? with
      | none =>
        have beyond := List.getElem?_eq_none_iff.mp present
        rw [removeAtIndex_beyond represents empty (by omega) (by omega)]
        exact .none
      | some entry =>
        obtain ⟨result, ran, results⟩ :=
          removeAtIndex_inside callbacks represents (by omega) present freeElement
        rw [ran]
        refine rel_map_bind (fun world => ⟨_, rfl, ?_⟩) _
        obtain ⟨sameWorld, -, holds⟩ := results world
        exact ⟨sameWorld, _, holds, by rw [List.eraseIdx_map]⟩

omit [Zero Element] in
/-- A node goes to the place among the nodes that its element goes to among the elements. -/
theorem dplInsertSorted_elements (compare : Element → Element → Int)
    (contents : List (Address × Element)) (newNode : Address × Element) :
    (dplInsertSorted (fun first second => compare first.2 second.2) contents newNode).map
        (List.map Prod.snd) =
      dplInsertSorted compare (contents.map Prod.snd) newNode.2 := by
  have held (entries : List (Address × Element)) (elements : List Element) :
      List.Forall₂ (fun entry element => entry.2 = element) entries elements ↔
        entries.map Prod.snd = elements := by
    rw [← List.forall₂_eq_eq_eq, List.forall₂_map_left_iff]
  have related : Option.Rel (List.Forall₂ fun entry element => entry.2 = element)
      (dplInsertSorted (fun first second => compare first.2 second.2) contents newNode)
      (dplInsertSorted compare (contents.map Prod.snd) newNode.2) := by
    refine dplInsertFrom_related ?_ (fun pt other same => ?_) ((held contents _).mpr rfl) true
    · rfl
    · exact congrArg (compare newNode.2) same
  generalize dplInsertSorted _ contents newNode = longer at related ⊢
  generalize dplInsertSorted compare _ newNode.2 = elements at related ⊢
  cases related with
  | some same => exact congrArg some ((held _ _).mp same)
  | none => rfl

omit [Zero Element] in
theorem insertSorted_holds (only : OnlyCompares callbacks compare) (holds : list.Holds sequence)
    (element : Element) (insertCopy : Bool) :
    Option.Rel Dplist.Holds (list.insertSorted callbacks element insertCopy)
      (sequence.insertSorted callbacks compare element insertCopy) := by
  obtain ⟨sameWorld, contents, represents, elements⟩ := holds
  unfold Sequence.insertSorted
  rw [← sameWorld, ← elements]
  cases copied : Dplist.copyIf callbacks list.world element insertCopy with
  | none =>
    unfold Dplist.insertSorted
    rw [copied]
    exact .none
  | some made =>
    obtain ⟨inserted, world⟩ := made
    obtain ⟨returns, stuck⟩ :=
      insertSorted_refines represents copied fun entry member => only world inserted entry.2
    simp only [Option.bind_eq_bind, Option.bind_some]
    rw [← dplInsertSorted_elements compare contents (list.nodes.bound, inserted)]
    cases longer : dplInsertSorted (fun first second => compare first.2 second.2) contents
        (list.nodes.bound, inserted) with
    | none =>
      rw [stuck longer]
      exact .none
    | some nodes =>
      obtain ⟨after, ran, sameWorld, holds⟩ := returns nodes longer
      rw [ran]
      exact .some ⟨sameWorld, nodes, holds, rfl⟩

/-- A call does to the list in memory what it does to the sequence. -/
theorem call_holds (only : OnlyCompares callbacks compare) (list : Dplist World Element)
    (sequence : Sequence World Element) (call : DplistCall Element)
    (holds : list.Holds sequence) :
    Option.Rel Dplist.Holds (list.call callbacks call)
      (sequence.call callbacks compare call) := by
  cases call with
  | insertAtIndex element index insertCopy =>
    exact insertAtIndex_holds holds element index insertCopy
  | insertSorted element insertCopy => exact insertSorted_holds only holds element insertCopy
  | removeAtIndex index freeElement => exact removeAtIndex_holds holds index freeElement

/-- The list in memory answers what the sequence answers. -/
theorem answer_eq (only : OnlyCompares callbacks compare) (holds : list.Holds sequence)
    (query : DplistQuery Element) :
    list.answer callbacks query = sequence.answer compare query := by
  obtain ⟨elements, world⟩ := sequence
  obtain ⟨-, contents, represents, rfl⟩ := holds
  cases query with
  | size =>
    rw [Dplist.answer, Sequence.answer, size_eq represents, List.length_map]
    simp only [List.map_eq_nil_iff, Option.map_some]
  | elementAtIndex index =>
    rw [Dplist.answer, Sequence.answer, getElementAtIndex_eq represents]
    simp only [List.map_eq_nil_iff, List.head?_map]
    split_ifs <;> rfl
  | indexOfElement element =>
    have compares : ComparesTo callbacks list.world compare element contents :=
      fun entry member => only list.world element entry.2
    rw [Dplist.answer, Sequence.answer, getIndexOfElement_eq represents compares]
    simp only [List.map_eq_nil_iff, List.findIdx_map, Option.map_some]
    rfl

/-- A list in memory holds a sequence and answers as it. -/
structure Dplist.Presents (callbacks : Callbacks World Element)
    (compare : Element → Element → Int) (list : Dplist World Element)
    (sequence : Sequence World Element) : Prop where
  holds : list.Holds sequence
  answers : ∀ query, list.answer callbacks query = sequence.answer compare query

/-- When the comparison callback only reads: a run from an empty list returns from all its calls
exactly when the sequence does, and then the list holds the elements of the sequence, has left
their memory the same, and answers the same. -/
theorem dplist_runs_as_sequence (only : OnlyCompares callbacks compare) (world : World)
    (calls : List (DplistCall Element)) :
    Option.Rel (Dplist.Presents callbacks compare)
      (Runs.complete (Dplist.call callbacks) (Dplist.create world) calls)
      (Runs.complete (Sequence.call callbacks compare) { elements := [], world } calls) := by
  have same := Runs.complete_related
    (fun list sequence call holds => call_holds only list sequence call holds)
    (create_holds world) calls
  generalize Runs.complete _ (Dplist.create world) calls = last at same ⊢
  generalize Runs.complete _ _ calls = lastSequence at same ⊢
  cases same with
  | some holds => exact .some ⟨holds, answer_eq only holds⟩
  | none => exact .none

/-- Two insertions before and behind the first node, and a removal of what has become the second. -/
theorem dplist_runs_as_sequence_threeNumbers :
    ∃ list, Runs.complete (Dplist.call numberCallbacks) (Dplist.create ()) threeNumbers =
        some list ∧
      list.Presents numberCallbacks (· - ·) { elements := [2, 7], world := () } := by
  have same : Option.Rel (Dplist.Presents numberCallbacks (· - ·)) _ _ :=
    dplist_runs_as_sequence (fun _ _ _ => rfl) () threeNumbers
  have sequence : Runs.complete (Sequence.call numberCallbacks (· - ·))
      { elements := [], world := () } threeNumbers =
        some { elements := [2, 7], world := () } := rfl
  rw [sequence] at same
  cases last : Runs.complete (Dplist.call numberCallbacks) (Dplist.create ()) threeNumbers with
  | none =>
    rw [last] at same
    cases same
  | some list =>
    rw [last] at same
    cases same with
    | some presents => exact ⟨list, rfl, presents⟩

end Refinement

/-! ### The number of nodes -/

/-- The call is a sorted insertion. -/
def DplistCall.sorted : DplistCall Element → Bool
  | .insertAtIndex _ _ _ => false
  | .insertSorted _ _ => true
  | .removeAtIndex _ _ => false

/-- The number of nodes after a call that returns. -/
def DplistCall.nodesAfter (nodes : Nat) : DplistCall Element → Nat
  | .insertAtIndex _ _ _ => if nodes = 0 then 0 else nodes + 1
  | .insertSorted _ _ => nodes + 1
  | .removeAtIndex _ _ => nodes - 1

section Counting

variable [Zero Element] {callbacks : Callbacks World Element} {list after : Dplist World Element}
  {contents : List (Address × Element)}

/-- A call that returns leaves a list without nodes exactly when it finds one and is not a sorted
insertion. -/
theorem exists_nodes_of_call {call : DplistCall Element} (represents : list.Represents contents)
    (taken : list.call callbacks call = some after) :
    ∃ later, after.Represents later ∧ later.length = call.nodesAfter contents.length ∧
      (later = [] ↔ contents = [] ∧ call.sorted = false) := by
  cases call with
  | insertAtIndex element index insertCopy =>
    rw [Dplist.call] at taken
    rcases index_cases contents index with ⟨nonempty, inside⟩ | ⟨rfl, front⟩ | ⟨positive, beyond⟩
    · obtain ⟨result, ran, results⟩ :=
        insertAtIndex_inside callbacks represents nonempty inside element insertCopy
      rw [ran] at taken
      obtain ⟨copied, -, rfl⟩ := Option.map_eq_some_iff.mp taken
      have length := List.length_insertIdx_of_le_length
        (show index.toNat ≤ contents.length by omega) (list.nodes.bound, copied.1)
      refine ⟨_, (results copied).2, ?_, ?_⟩
      · rw [length, DplistCall.nodesAfter, if_neg (mt List.length_eq_zero_iff.mp nonempty)]
      · rw [← List.length_eq_zero_iff, length]
        exact iff_of_false (Nat.succ_ne_zero _) fun both => nonempty both.1
    · obtain ⟨result, ran, results⟩ :=
        insertAtIndex_empty callbacks represents front element insertCopy
      rw [ran] at taken
      obtain ⟨copied, -, rfl⟩ := Option.map_eq_some_iff.mp taken
      exact ⟨[], (results copied).2, rfl, iff_of_true rfl ⟨rfl, rfl⟩⟩
    · rw [insertAtIndex_beyond represents positive beyond] at taken
      cases taken
  | insertSorted element insertCopy =>
    obtain ⟨inserted, front, back, rfl, holds⟩ := insertSorted_inserts represents taken
    refine ⟨_, holds, ?_, iff_of_false (by simp) fun both => Bool.noConfusion both.2⟩
    rw [DplistCall.nodesAfter, List.length_append, List.length_append, List.length_cons]
    rfl
  | removeAtIndex index freeElement =>
    rw [Dplist.call] at taken
    by_cases empty : contents = []
    · subst empty
      unfold Dplist.removeAtIndex at taken
      rw [if_pos (represents.head_eq_none_iff.mpr rfl), Option.some.injEq] at taken
      exact ⟨[], taken ▸ represents, rfl, iff_of_true rfl ⟨rfl, rfl⟩⟩
    · by_cases front : index ≤ 0
      · rw [removeAtIndex_front represents empty front] at taken
        cases taken
      · by_cases beyond : contents.length ≤ index
        · rw [removeAtIndex_beyond represents empty (by omega) beyond] at taken
          cases taken
        · have inside : index.toNat < contents.length := by omega
          obtain ⟨result, ran, results⟩ := removeAtIndex_inside callbacks represents (by omega)
            (List.getElem?_eq_getElem inside) freeElement
          rw [ran] at taken
          obtain ⟨world, -, rfl⟩ := Option.map_eq_some_iff.mp taken
          have length := List.length_eraseIdx_of_lt inside
          refine ⟨_, (results world).2.2, length, ?_⟩
          -- The node at an index above 0 is not the only one.
          rw [← List.length_eq_zero_iff, length]
          exact iff_of_false (by omega) fun both => empty both.1

theorem exists_nodes_of_complete {calls : List (DplistCall Element)}
    (represents : list.Represents contents)
    (ran : Runs.complete (Dplist.call callbacks) list calls = some after) :
    ∃ later, after.Represents later ∧
      later.length = calls.foldl DplistCall.nodesAfter contents.length ∧
      (later = [] ↔ contents = [] ∧ ∀ call ∈ calls, call.sorted = false) := by
  induction calls generalizing list contents with
  | nil =>
    obtain rfl := Option.some.inj ran
    exact ⟨contents, represents, rfl, by simp⟩
  | cons call rest inductionHypothesis =>
    obtain ⟨next, taken, ranRest⟩ := Option.bind_eq_some_iff.mp ran
    obtain ⟨middle, nextRepresents, middleLength, middleEmpty⟩ :=
      exists_nodes_of_call represents taken
    obtain ⟨later, lastRepresents, length, empty⟩ := inductionHypothesis nextRepresents ranRest
    refine ⟨later, lastRepresents, ?_, ?_⟩
    · rw [length, middleLength]
      rfl
    · rw [empty, middleEmpty, List.forall_mem_cons, and_assoc]

/-- A list without nodes is freed. -/
theorem exists_free_empty {memory : DplistMemory World Element} {address : Address}
    (live : memory.lists.read address = some none) (freeElement : Bool) :
    ∃ after, Dplist.free callbacks memory (some address) freeElement = some (none, after) := by
  obtain ⟨cleared, ranWrite, -, -, stillLive, -⟩ := memory.lists.exists_write live none
  obtain ⟨lists, ranFree, -⟩ := cleared.exists_free stillLive
  refine ⟨⟨lists, memory.nodes, memory.world⟩, ?_⟩
  unfold Dplist.free
  simp only [live, Dplist.freeLoop, if_true, ranWrite, ranFree, Option.bind_eq_bind,
    Option.bind_some]

/-- After a run from an empty list that returned from all its calls, whatever the callbacks did,
`dpl_size` is the number of nodes that the calls have left, plus one if there are any; and
`dpl_free` returns exactly when no call was a sorted insertion. -/
theorem freed_iff_never_sorted {world : World} {calls : List (DplistCall Element)}
    (ran : Runs.complete (Dplist.call callbacks) (Dplist.create world) calls = some list)
    {memory : DplistMemory World Element} {address : Address}
    (live : memory.lists.read address = some list.head) (nodes : memory.nodes = list.nodes)
    (freeElement : Bool) :
    list.size = some (if calls.foldl DplistCall.nodesAfter 0 = 0 then (0 : Int)
      else calls.foldl DplistCall.nodesAfter 0 + 1) ∧
    ((∃ after, Dplist.free callbacks memory (some address) freeElement = some after) ↔
      ∀ call ∈ calls, call.sorted = false) := by
  obtain ⟨contents, represents, length, empty⟩ :=
    exists_nodes_of_complete (create_represents world) ran
  rw [List.length_nil] at length
  rw [eq_self_iff_true, true_and] at empty
  constructor
  · rw [size_eq represents, ← length]
    simp only [List.length_eq_zero_iff]
  · rw [← empty]
    constructor
    · rintro ⟨after, freed⟩
      by_contra nonempty
      have held : Dplist.Represents ⟨list.head, memory.nodes, memory.world⟩ contents := by
        rw [nodes]
        exact represents
      rw [free_stuck callbacks memory live held nonempty] at freed
      cases freed
    · intro none
      rw [represents.head_eq_none_iff.mpr none] at live
      obtain ⟨after, freed⟩ := exists_free_empty live freeElement
      exact ⟨_, freed⟩

/-- A list that a sorted insertion has put a number into is not freed, and counts one too many. -/
theorem freed_iff_never_sorted_twoNumbers :
    ∃ list, Runs.complete (Dplist.call numberCallbacks) (Dplist.create ())
        [.insertSorted 5 false, .insertSorted 7 false] = some list ∧ list.size = some 3 ∧
      ((∃ after, Dplist.free numberCallbacks list.inMemory (some 0) true = some after) ↔
        ∀ call ∈ [DplistCall.insertSorted (5 : Int) false, .insertSorted 7 false],
          call.sorted = false) := by
  obtain ⟨list, ran, -⟩ := exists_twoNumbers
  have holds := freed_iff_never_sorted ran list.inMemory_live rfl true
  exact ⟨list, ran, holds.1, holds.2⟩

end Counting

end SensorGateway
