/-
This file models the shared buffer between the connection manager and its two
consumers, at the level of pointers: a heap of `sbuffer_node_t` cells linked by
`next`, a heap of `sbuffer_t` cells with their `head` and `tail`, and the four
functions that allocate, follow and free them.

Every function returns `none` where the C function would dereference NULL or a freed
cell, free a cell twice, or loop past the number of nodes ever allocated. Whether a
`malloc` succeeds is an argument. `sensor_data_t` is only copied, so the element type
is a variable.
-/

import SensorGateway.Library.Heap

namespace SensorGateway

/-- The return codes of the buffer functions. -/
inductive SbufferStatus where
  | failure
  | success
  | noData
  deriving DecidableEq, Repr

/-- The basic node of the buffer. -/
structure SbufferNode (Data : Type) where
  next : Pointer
  data : Data
  deriving DecidableEq

/-- The structure that keeps track of the buffer. -/
structure Sbuffer where
  head : Pointer
  tail : Pointer
  deriving DecidableEq

/-- The memory the buffer functions work in. -/
structure Memory (Data : Type) where
  nodes : Heap (SbufferNode Data)
  buffers : Heap Sbuffer

/-- The memory before the first call. -/
def Memory.empty (Data : Type) : Memory Data where
  nodes := Heap.empty _
  buffers := Heap.empty _

variable {Data : Type}

/-- Allocate an empty buffer; the second component is the new value of `*buffer`. -/
def sbufferInit (memory : Memory Data) (granted : Bool) :
    SbufferStatus × Pointer × Memory Data :=
  if granted then
    let (self, buffers) := memory.buffers.malloc { head := none, tail := none }
    (.success, some self, { memory with buffers })
  else (.failure, none, memory)

/-- The loop of `sbuffer_free`: unlink and free the head until there is none. -/
def sbufferFreeLoop (self : Address) : Nat → Memory Data → Option (Memory Data)
  | 0, _ => none
  | fuel + 1, memory => do
    let buffer ← memory.buffers.read self
    match buffer.head with
    | none => some memory
    | some dummy =>
      let node ← memory.nodes.read dummy
      let buffers ← memory.buffers.write self { buffer with head := node.next }
      let nodes ← memory.nodes.free dummy
      sbufferFreeLoop self fuel { nodes, buffers }

/-- Free a buffer with all its nodes. The argument is the double pointer: NULL, or a variable
that holds a buffer pointer; the second component is the variable afterwards. -/
def sbufferFree (memory : Memory Data) (buffer : Option Pointer) :
    Option (SbufferStatus × Option Pointer × Memory Data) :=
  match buffer with
  | none => some (.failure, none, memory)
  | some none => some (.failure, some none, memory)
  | some (some self) => do
    let memory ← sbufferFreeLoop self (memory.nodes.bound + 1) memory
    let buffers ← memory.buffers.free self
    some (.success, some none, { memory with buffers })

/-- Take the reading at the head; the second component is `*data` afterwards. -/
def sbufferRemove (memory : Memory Data) (buffer : Pointer) (data : Data) :
    Option (SbufferStatus × Data × Memory Data) :=
  match buffer with
  | none => some (.failure, data, memory)
  | some self => do
    let sbuffer ← memory.buffers.read self
    match sbuffer.head with
    | none => some (.noData, data, memory)
    | some dummy =>
      let node ← memory.nodes.read dummy
      let buffers ← memory.buffers.write self
        (if sbuffer.head = sbuffer.tail then { head := none, tail := none }
          else { sbuffer with head := node.next })
      let nodes ← memory.nodes.free dummy
      some (.success, node.data, { nodes, buffers })

/-- Append a reading at the tail. -/
def sbufferInsert (memory : Memory Data) (buffer : Pointer) (data : Data) (granted : Bool) :
    Option (SbufferStatus × Memory Data) :=
  match buffer with
  | none => some (.failure, memory)
  | some self =>
    if granted then do
      let (dummy, nodes) := memory.nodes.malloc { next := none, data }
      let sbuffer ← memory.buffers.read self
      match sbuffer.tail with
      | none =>
        let buffers ← memory.buffers.write self { head := some dummy, tail := some dummy }
        some (.success, { nodes, buffers })
      | some tail =>
        let last ← nodes.read tail
        let nodes ← nodes.write tail { last with next := some dummy }
        let last ← nodes.read tail
        let buffers ← memory.buffers.write self { sbuffer with tail := last.next }
        some (.success, { nodes, buffers })
    else some (.failure, memory)

/-! ### What a buffer holds -/

/-- The buffer's pointers describe a chain of nodes: `next` leads from `head` through the
listed nodes to NULL, and `tail` is the last of them. -/
structure Sbuffer.Chains (sbuffer : Sbuffer) (nodes : Heap (SbufferNode Data))
    (contents : List (Address × Data)) : Prop where
  path : nodes.Path SbufferNode.next SbufferNode.data sbuffer.head contents none
  tail : sbuffer.tail = contents.getLast?.map Prod.fst

/-- The buffer at an address is live and holds the listed nodes with their readings. -/
def Memory.Holds (memory : Memory Data) (self : Address) (contents : List (Address × Data)) :
    Prop :=
  ∃ sbuffer, memory.buffers.read self = some sbuffer ∧ sbuffer.Chains memory.nodes contents

/-- A call on one buffer leaves every other buffer alone, and every node outside `touched`. -/
structure Memory.Frame (before after : Memory Data) (owner : Address) (touched : List Address) :
    Prop where
  nodes : ∀ address, address ∉ touched → after.nodes.read address = before.nodes.read address
  buffers : ∀ other, other ≠ owner → after.buffers.read other = before.buffers.read other
  bound : after.buffers.bound = before.buffers.bound

theorem Sbuffer.Chains.head_eq_none_iff {sbuffer : Sbuffer} {nodes : Heap (SbufferNode Data)}
    {contents : List (Address × Data)} (chains : sbuffer.Chains nodes contents) :
    sbuffer.head = none ↔ sbuffer.tail = none := by
  rw [chains.path.start_eq_none_iff, chains.tail, Option.map_eq_none_iff,
    List.getLast?_eq_none_iff]

/-- A buffer's chain is determined by its pointers. -/
theorem Memory.Holds.unique {memory : Memory Data} {self : Address}
    {first second : List (Address × Data)} (holds : memory.Holds self first)
    (other : memory.Holds self second) : first = second := by
  obtain ⟨sbuffer, live, chains⟩ := holds
  obtain ⟨otherSbuffer, otherLive, otherChains⟩ := other
  have same : sbuffer = otherSbuffer := Option.some.inj (live.symm.trans otherLive)
  subst same
  exact chains.path.unique otherChains.path

/-- A call on another buffer does not change what this one holds, as long as it touches none
of its nodes. -/
theorem Memory.Frame.holds {before after : Memory Data} {self other : Address}
    {touched : List Address} {contents : List (Address × Data)}
    (frame : before.Frame after self touched) (different : other ≠ self)
    (apart : ∀ address ∈ contents.map Prod.fst, address ∉ touched)
    (holds : before.Holds other contents) : after.Holds other contents := by
  obtain ⟨sbuffer, live, chains⟩ := holds
  refine ⟨sbuffer, (frame.buffers other different).trans live, ?_, chains.tail⟩
  exact chains.path.frame fun address member => frame.nodes address (apart address member)

/-! ### One specification for each function -/

theorem sbufferInsert_null (memory : Memory Data) (data : Data) (granted : Bool) :
    sbufferInsert memory none data granted = some (.failure, memory) := rfl

theorem sbufferInsert_refused (memory : Memory Data) (buffer : Pointer) (data : Data) :
    sbufferInsert memory buffer data false = some (.failure, memory) := by
  cases buffer <;> rfl

theorem sbufferRemove_null (memory : Memory Data) (data : Data) :
    sbufferRemove memory none data = some (.failure, data, memory) := rfl

/-- On an empty buffer nothing is taken and `*data` keeps its value. -/
theorem sbufferRemove_empty {memory : Memory Data} {self : Address} (holds : memory.Holds self [])
    (data : Data) : sbufferRemove memory (some self) data = some (.noData, data, memory) := by
  obtain ⟨sbuffer, live, chains⟩ := holds
  have headNull : sbuffer.head = none := chains.path
  simp only [sbufferRemove, live, Option.bind_eq_bind, Option.bind_some, headNull]

/-- Appending to a chain: the new node is linked behind the last one and becomes the tail. -/
theorem sbufferInsert_success {memory : Memory Data} {self : Address}
    {contents : List (Address × Data)} (holds : memory.Holds self contents) (data : Data) :
    ∃ after, sbufferInsert memory (some self) data true = some (.success, after) ∧
      after.Holds self (contents ++ [(memory.nodes.bound, data)]) ∧
      memory.Frame after self (memory.nodes.bound :: contents.map Prod.fst) ∧
      after.nodes.bound = memory.nodes.bound + 1 ∧ after.nodes.freed = memory.nodes.freed := by
  obtain ⟨sbuffer, live, chains⟩ := holds
  set fresh : SbufferNode Data := { next := none, data } with freshDef
  have freshRead := memory.nodes.read_malloc_self fresh
  have oldRead : ∀ address ∈ contents.map Prod.fst,
      (memory.nodes.malloc fresh).2.read address = memory.nodes.read address := by
    intro address member
    obtain ⟨cell, cellLive⟩ := chains.path.live member
    exact memory.nodes.read_malloc_of_ne fresh
      (Nat.ne_of_lt (memory.nodes.lt_bound_of_read cellLive))
  rcases List.eq_nil_or_concat contents with rfl | ⟨front, ⟨last, lastData⟩, rfl⟩
  · have tailNull : sbuffer.tail = none := chains.tail
    obtain ⟨buffers, written, boundEq, -, selfRead, othersRead⟩ :=
      memory.buffers.exists_write live
        { head := some memory.nodes.bound, tail := some memory.nodes.bound }
    refine ⟨{ nodes := (memory.nodes.malloc fresh).2, buffers }, ?_, ?_, ?_, rfl, rfl⟩
    · simp only [sbufferInsert, if_true, live, Option.bind_eq_bind, Option.bind_some, tailNull,
        Heap.malloc_fst, written]
      rfl
    · exact ⟨_, selfRead, ⟨rfl, fresh, freshRead, rfl, rfl⟩, rfl⟩
    · refine ⟨fun address outside => ?_, othersRead, boundEq⟩
      exact memory.nodes.read_malloc_of_ne fresh (by simpa using outside)
  · simp only [List.concat_eq_append] at chains oldRead ⊢
    have tailLast : sbuffer.tail = some last := by simpa using chains.tail
    obtain ⟨middle, frontPath, lastBegins, cell, lastLive, lastHolds, lastEnds⟩ :=
      Heap.path_append.mp chains.path
    have lastLiveNow : (memory.nodes.malloc fresh).2.read last = some cell := by
      rw [oldRead last (by simp), lastLive]
    obtain ⟨nodes, linked, nodesBound, nodesFreed, lastRead, nodesRead⟩ :=
      (memory.nodes.malloc fresh).2.exists_write lastLiveNow
        { cell with next := some memory.nodes.bound }
    obtain ⟨buffers, written, boundEq, -, selfRead, othersRead⟩ :=
      memory.buffers.exists_write live { sbuffer with tail := some memory.nodes.bound }
    have lastNotFresh : memory.nodes.bound ≠ last :=
      (Nat.ne_of_lt (memory.nodes.lt_bound_of_read lastLive)).symm
    have distinct := chains.path.nodup
    refine ⟨{ nodes, buffers }, ?_, ?_, ?_, nodesBound, nodesFreed⟩
    · simp only [sbufferInsert, if_true, live, Option.bind_eq_bind, Option.bind_some, tailLast,
        Heap.malloc_fst, ← freshDef, lastLiveNow, linked, lastRead]
      rw [written]
      rfl
    · refine ⟨_, selfRead, ?_, by simp⟩
      refine Heap.path_append.mpr ⟨some memory.nodes.bound, ?_, rfl, fresh, ?_, rfl, rfl⟩
      · refine Heap.path_append.mpr ⟨middle, frontPath.frame fun address member => ?_,
          lastBegins, { cell with next := some memory.nodes.bound }, lastRead, lastHolds, rfl⟩
        have notLast : address ≠ last := by
          intro same
          rw [List.map_append, List.nodup_append] at distinct
          exact distinct.2.2 address member last (by simp) same
        rw [nodesRead address notLast, oldRead address (by simp [List.mem_map.mp member])]
      · rw [nodesRead _ lastNotFresh, freshRead]
    · refine ⟨fun address outside => ?_, othersRead, boundEq⟩
      simp only [List.map_append, List.map_cons, List.map_nil, List.mem_cons, List.mem_append,
        List.not_mem_nil, or_false, not_or] at outside
      rw [nodesRead address outside.2.2]
      exact memory.nodes.read_malloc_of_ne fresh outside.1

/-- Taking from a nonempty chain: the head's reading is returned and its node freed. -/
theorem sbufferRemove_success {memory : Memory Data} {self address : Address} {found : Data}
    {contents : List (Address × Data)} (holds : memory.Holds self ((address, found) :: contents))
    (data : Data) :
    ∃ after, sbufferRemove memory (some self) data = some (.success, found, after) ∧
      after.Holds self contents ∧ memory.Frame after self [address] ∧
      after.nodes.bound = memory.nodes.bound ∧
      after.nodes.freed = memory.nodes.freed ++ [address] := by
  obtain ⟨sbuffer, live, chains⟩ := holds
  have distinct := chains.path.nodup
  obtain ⟨headFirst, cell, cellLive, rfl, rest⟩ := chains.path
  obtain ⟨nodes, released, nodesBound, nodesFreed, -, nodesRead⟩ :=
    memory.nodes.exists_free cellLive
  have restKept : nodes.Path SbufferNode.next SbufferNode.data cell.next contents none := by
    refine rest.frame fun other member => nodesRead other ?_
    rintro rfl
    exact (List.nodup_cons.mp distinct).1 member
  have onlyNode : sbuffer.head = sbuffer.tail ↔ contents = [] := by
    rw [headFirst, chains.tail]
    constructor
    · intro same
      rcases List.eq_nil_or_concat contents with empty | ⟨front, ⟨last, lastData⟩, rfl⟩
      · exact empty
      · have lastSame : address = last := by simpa [List.getLast?_cons] using same
        subst lastSame
        exact absurd distinct (by simp)
    · rintro rfl
      rfl
  set changed : Sbuffer :=
    if sbuffer.head = sbuffer.tail then { head := none, tail := none }
    else { sbuffer with head := cell.next } with changedDef
  obtain ⟨buffers, written, boundEq, -, selfRead, othersRead⟩ :=
    memory.buffers.exists_write live changed
  refine ⟨{ nodes, buffers }, ?_, ⟨changed, selfRead, ?_⟩, ?_, nodesBound, nodesFreed⟩
  · simp only [sbufferRemove, live, Option.bind_eq_bind, Option.bind_some]
    rw [headFirst] at changedDef ⊢
    simp only [cellLive, Option.bind_some, ← changedDef, written, released]
  · by_cases single : contents = []
    · subst single
      rw [changedDef, if_pos (onlyNode.mpr rfl)]
      exact ⟨rfl, rfl⟩
    · rw [changedDef, if_neg (mt onlyNode.mp single)]
      refine ⟨restKept, ?_⟩
      obtain ⟨entry, others, rfl⟩ := List.exists_cons_of_ne_nil single
      rw [chains.tail, List.getLast?_cons_cons]
  · exact ⟨fun other outside => nodesRead other (by simpa using outside), othersRead, boundEq⟩

end SensorGateway
