/-
This file models the doubly linked list at the level of its nodes in memory: every read
and write of a link is a read or write of the heap, and following NULL has no result.
A failed assertion has no result either. The element of a node is a pointer of the
caller; the list looks at it through the three callbacks only, which are arbitrary
functions on the caller's memory and may themselves not return.

A loop that follows `next` takes as many steps as there have ever been nodes, at most;
on a list that ends in NULL this is enough, and on any other the loop does not end. A
failed `malloc` is followed by a write through NULL, so that only the successful one is
modelled. The fields of a new node are written before they are read.

`dplist_note_t` is read as `dplist_node_t`, the undeclared `id` in the removal as `pos`.
The link fields are written one at a time, in the order of the source. Positions are
counted in unbounded integers: a list has fewer nodes than an `int` can count.

The struct of a list is in memory too, but only `dpl_free` depends on where: elsewhere a
list is the contents of its struct. Its callback fields are arguments here, and clearing
them before the struct is freed is left out. `element_commpare` is read as
`element_compare`.
-/

import Mathlib.Algebra.Group.Defs
import SensorGateway.Library.Linked

namespace SensorGateway

variable {World Element : Type}

/-- A node of the list. -/
structure DplistNode (Element : Type) where
  prev : Pointer
  next : Pointer
  element : Element
  deriving DecidableEq, Repr

/-- The callbacks of a list, as functions on the memory of its elements. -/
structure Callbacks (World Element : Type) where
  elementCopy : World → Element → Option (Element × World)
  elementFree : World → Element → Option World
  elementCompare : World → Element → Element → Option (Int × World)

/-- A list: `head`, the memory with its nodes, and the memory of its elements. -/
structure Dplist (World Element : Type) where
  head : Pointer
  nodes : Heap (DplistNode Element)
  world : World

/-- The memory of the nodes. -/
abbrev Nodes (Element : Type) := Heap (DplistNode Element)

/-- The memory around lists: their structs with the field `head`, the nodes, and the elements. -/
structure DplistMemory (World Element : Type) where
  lists : Heap Pointer
  nodes : Nodes Element
  world : World

/-- Change the node behind a pointer. -/
def modify (nodes : Nodes Element) (pointer : Pointer)
    (change : DplistNode Element → DplistNode Element) : Option (Nodes Element) := do
  let address ← pointer
  let node ← nodes.read address
  nodes.write address (change node)

/-- The assignment `pointer->prev = prev`. -/
def setPrev (nodes : Nodes Element) (pointer prev : Pointer) : Option (Nodes Element) :=
  modify nodes pointer fun node => { node with prev }

/-- The assignment `pointer->next = next`. -/
def setNext (nodes : Nodes Element) (pointer next : Pointer) : Option (Nodes Element) :=
  modify nodes pointer fun node => { node with next }

/-- The assignment `pointer->element = element`. -/
def setElement (nodes : Nodes Element) (pointer : Pointer) (element : Element) :
    Option (Nodes Element) :=
  modify nodes pointer fun node => { node with element }

/-- The node behind a pointer. -/
def deref (nodes : Nodes Element) (pointer : Pointer) : Option (DplistNode Element) := do
  let address ← pointer
  nodes.read address

namespace Dplist

/-- Make an empty list. -/
def create (world : World) : Dplist World Element where
  head := none
  nodes := Heap.empty (DplistNode Element)
  world := world

/-! ### The loops -/

/-- The loop `while ((pt != NULL) && (pos < index))`; the first argument is `index - pos`. -/
def walk (nodes : Nodes Element) : Nat → Pointer → Option Pointer
  | 0, pt => some pt
  | _ + 1, none => some none
  | left + 1, some pt => do
    let node ← nodes.read pt
    walk nodes left node.next

/-- The loop `while (pt != NULL)` that counts `size` or `pos`. -/
def count (nodes : Nodes Element) : Nat → Pointer → Int → Option (Pointer × Int)
  | _, none, pos => some (none, pos)
  | 0, some _, _ => none
  | fuel + 1, some pt, pos => do
    let node ← nodes.read pt
    count nodes fuel node.next (pos + 1)

/-- The loop of `dpl_get_index_of_element`. -/
def search (callbacks : Callbacks World Element) (element : Element) (nodes : Nodes Element) :
    Nat → World → Pointer → Int → Option (Int × World)
  | _, world, none, pos => some (pos, world)
  | 0, _, some _, _ => none
  | fuel + 1, world, some pt, pos => do
    let node ← nodes.read pt
    let (result, world) ← callbacks.elementCompare world element node.element
    if result = 0 then some (pos, world)
    else search callbacks element nodes fuel world node.next (pos + 1)

/-- A condition `guard && test(element_compare(element, other))`: when the guard fails, nothing is
compared. -/
def compareIf (callbacks : Callbacks World Element) (guard : Prop) [Decidable guard]
    (world : World) (element other : Element) (test : Int → Bool) : Option (Bool × World) :=
  if guard then
    (callbacks.elementCompare world element other).map fun compared =>
      (test compared.1, compared.2)
  else some (false, world)

/-- The loop of `dpl_insert_sorted`: it stops at the last node, or at one that the new element
does not come after. -/
def sortedPlace (callbacks : Callbacks World Element) (element : Element)
    (nodes : Nodes Element) : Nat → World → Pointer → Option (Pointer × World)
  | 0, _, _ => none
  | fuel + 1, world, pt => do
    let node ← deref nodes pt
    let (goesOn, world) ←
      compareIf callbacks (node.next ≠ none) world element node.element (· > 0)
    if goesOn then sortedPlace callbacks element nodes fuel world node.next
    else some (pt, world)

/-- The loop of `dpl_get_reference_of_element`: it stops at the last node, or at one that compares
equal. -/
def searchPlace (callbacks : Callbacks World Element) (element : Element)
    (nodes : Nodes Element) : Nat → World → Pointer → Option (Pointer × World)
  | 0, _, _ => none
  | fuel + 1, world, pt => do
    let node ← deref nodes pt
    let (goesOn, world) ←
      compareIf callbacks (node.next ≠ none) world element node.element (· ≠ 0)
    if goesOn then searchPlace callbacks element nodes fuel world node.next
    else some (pt, world)

/-- The loop of `dpl_get_element_at_reference`. It does not move `pt`, so that it gets nowhere from
another node than the one it looks for, whatever the number of its turns. -/
def awaitReference [Zero Element] (nodes : Nodes Element) (reference : Pointer) :
    Nat → Pointer → Option Element
  | _, none => some 0
  | 0, some _ => none
  | turns + 1, some pt =>
    if some pt = reference then do
      let node ← nodes.read pt
      some node.element
    else awaitReference nodes reference turns (some pt)

/-! ### The operations -/

/-- The four assignments that put a new node before `pt`, the same in both insertions. -/
def linkBefore (nodes : Nodes Element) (newNode pt : Pointer) : Option (Nodes Element) := do
  let nodes ← setNext nodes newNode pt
  let node ← deref nodes pt
  let nodes ← setPrev nodes newNode node.prev
  let nodes ← setNext nodes node.prev newNode
  setPrev nodes pt newNode

/-- The node at an index. -/
def getReferenceAtIndex (list : Dplist World Element) (index : Int) : Option Pointer :=
  if index ≤ 0 then some list.head
  else if list.head = none then some none
  else walk list.nodes index.toNat list.head

/-- The number of nodes, as the source counts them. -/
def size (list : Dplist World Element) : Option Int :=
  if list.head = none then some 0
  else do
    let (_, size) ← count list.nodes list.nodes.bound list.head 1
    some size

/-- The element at an index. -/
def getElementAtIndex [Zero Element] (list : Dplist World Element) (index : Int) :
    Option Element :=
  if list.head = none then some 0
  else if index ≤ 0 then do
    let node ← deref list.nodes list.head
    some node.element
  else do
    -- The loop does not look at `index`: it ends with `pt == NULL`.
    let (pt, _) ← count list.nodes list.nodes.bound list.head 0
    let node ← deref list.nodes pt
    some node.element

/-- The index of an element. -/
def getIndexOfElement (callbacks : Callbacks World Element) (list : Dplist World Element)
    (element : Element) : Option (Int × World) :=
  if list.head = none then some (-1, list.world)
  else search callbacks element list.nodes list.nodes.bound list.world list.head 0

/-- The element of a node, with the number of turns that the loop may take. -/
def getElementAtReference [Zero Element] (list : Dplist World Element) (reference : Pointer)
    (turns : Nat) : Option Element :=
  if list.head = none then some 0
  else if reference = none then do
    -- The loop ends with `pt == NULL`.
    let (pt, _) ← count list.nodes list.nodes.bound list.head 0
    let node ← deref list.nodes pt
    some node.element
  else awaitReference list.nodes reference turns list.head

/-- The node of an element. -/
def getReferenceOfElement (callbacks : Callbacks World Element) (list : Dplist World Element)
    (element : Element) : Option (Pointer × World) :=
  if list.head = none then some (none, list.world)
  else do
    let (pt, world) ←
      searchPlace callbacks element list.nodes list.nodes.bound list.world list.head
    let node ← deref list.nodes pt
    let (compared, world) ← callbacks.elementCompare world element node.element
    some (if compared = 0 then pt else none, world)

/-- Insert an element at an index. The test `insert_copy = true` is an assignment: the element is
copied whatever the argument is. -/
def insertAtIndex (callbacks : Callbacks World Element) (list : Dplist World Element)
    (element : Element) (index : Int) (_insertCopy : Bool) : Option (Dplist World Element) := do
  let (pt, nodes) := list.nodes.malloc { prev := none, next := none, element }
  let list := { list with nodes }
  let list ←
    if index ≤ 0 then do
      let list ←
        if list.head = none then do
          -- `list->head == pt` compares; `head` stays NULL.
          let nodes ← setNext list.nodes (some pt) none
          some { list with nodes }
        else do
          let nodes ← setPrev list.nodes list.head (some pt)
          let nodes ← setNext nodes (some pt) list.head
          some { list with nodes, head := some pt }
      let nodes ← setPrev list.nodes (some pt) none
      some { list with nodes }
    else do
      let pt1 ← list.getReferenceAtIndex index
      if pt1 = none then none
      else
        let size ← list.size
        if index ≥ size then do
          let nodes ← setNext list.nodes pt1 (some pt)
          let nodes ← setPrev nodes (some pt) pt1
          let nodes ← setNext nodes (some pt) none
          some { list with nodes }
        else do
          let nodes ← linkBefore list.nodes (some pt) pt1
          some { list with nodes }
  let (copy, world) ← callbacks.elementCopy list.world element
  let nodes ← setElement list.nodes (some pt) copy
  some { list with nodes, world }

/-- The assignments that take a node other than the first one out of the list. -/
def unlink (nodes : Nodes Element) (node : DplistNode Element) : Option (Nodes Element) :=
  if node.next = none then setNext nodes node.prev none
  else do
    let nodes ← setNext nodes node.prev node.next
    setPrev nodes node.next node.prev

/-- The end of a removal: `pt->prev = pt->next = pt->element = NULL; free(pt)`. -/
def release [Zero Element] (nodes : Nodes Element) (pt : Pointer) : Option (Nodes Element) := do
  let nodes ← setElement nodes pt 0
  let nodes ← setNext nodes pt none
  let nodes ← setPrev nodes pt none
  let address ← pt
  nodes.free address

/-- Remove the node at an index. -/
def removeAtIndex [Zero Element] (callbacks : Callbacks World Element)
    (list : Dplist World Element) (index : Int) (freeElement : Bool) :
    Option (Dplist World Element) :=
  if list.head = none then some list
  else if index ≤ 0 then do
    let first ← deref list.nodes list.head
    let world ← if freeElement then callbacks.elementFree list.world first.element
      else some list.world
    -- `list->head->next = NULL` assigns; its value is NULL, so that the else branch follows.
    let nodes ← setNext list.nodes list.head none
    let node ← deref nodes list.head
    let nodes ← setPrev nodes node.next none
    some { head := node.next, nodes, world }
  else do
    let pt ← walk list.nodes index.toNat list.head
    let node ← deref list.nodes pt
    let world ← if freeElement then callbacks.elementFree list.world node.element
      else some list.world
    if pt = list.head then do
      let nodes ← release list.nodes pt
      some { head := none, nodes, world }
    else do
      let nodes ← unlink list.nodes node
      let nodes ← release nodes pt
      some { list with nodes, world }

/-- The loop `while ((*list)->head != NULL)` of `dpl_free`. -/
def freeLoop [Zero Element] (callbacks : Callbacks World Element) (freeElement : Bool) :
    Nat → Dplist World Element → Option (Dplist World Element)
  | 0, _ => none
  | fuel + 1, list =>
    if list.head = none then some list
    else do
      let list ← list.removeAtIndex callbacks 0 freeElement
      freeLoop callbacks freeElement fuel list

/-- Free a list: `*list` afterwards, and the memory. -/
def free [Zero Element] (callbacks : Callbacks World Element)
    (memory : DplistMemory World Element) (list : Pointer) (freeElement : Bool) :
    Option (Pointer × DplistMemory World Element) := do
  let address ← list
  let head ← memory.lists.read address
  let emptied ← freeLoop callbacks freeElement (memory.nodes.bound + 1)
    { head, nodes := memory.nodes, world := memory.world }
  let lists ← memory.lists.write address none
  let lists ← lists.free address
  some (none, { lists, nodes := emptied.nodes, world := emptied.world })

/-- The element to insert: a copy, if one is asked for. -/
def copyIf (callbacks : Callbacks World Element) (world : World) (element : Element)
    (insertCopy : Bool) : Option (Element × World) :=
  if insertCopy then callbacks.elementCopy world element else some (element, world)

/-- Insert an element in sorted order. -/
def insertSorted (callbacks : Callbacks World Element) (list : Dplist World Element)
    (element : Element) (insertCopy : Bool) : Option (Dplist World Element) := do
  let (element, world) ← copyIf callbacks list.world element insertCopy
  let (newNode, nodes) := list.nodes.malloc { prev := none, next := none, element }
  if list.head = none then do
    let nodes ← setNext nodes (some newNode) none
    let nodes ← setPrev nodes (some newNode) none
    some { head := some newNode, nodes, world }
  else do
    let (pt, world) ← sortedPlace callbacks element nodes nodes.bound world list.head
    let node ← deref nodes pt
    let (last, world) ← compareIf callbacks (node.next = none) world element node.element (· ≥ 0)
    if last then do
      let nodes ← setNext nodes (some newNode) none
      let nodes ← setPrev nodes (some newNode) pt
      let nodes ← setNext nodes pt (some newNode)
      some { list with nodes, world }
    else do
      let (first, world) ← compareIf callbacks (pt = list.head) world element node.element (· < 0)
      if first then do
        let nodes ← setPrev nodes (some newNode) none
        let nodes ← setNext nodes (some newNode) pt
        let nodes ← setPrev nodes pt (some newNode)
        some { head := some newNode, nodes, world }
      else do
        let nodes ← linkBefore nodes (some newNode) pt
        some { list with nodes, world }

end Dplist

end SensorGateway
