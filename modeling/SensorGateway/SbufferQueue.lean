/-
This file proves that the pointer-level buffer refines a first-in first-out queue.

A session is a sequence of buffer calls, in any order, through one buffer variable,
together with a ledger: for every buffer ever allocated, the nodes and readings its
successful inserts appended and those its successful removes returned. Initialising
the variable again, or freeing it, starts a new buffer; the ledger of the old one
stays. The invariant of a session says where every appended node is: already
returned, or in the chain of its live buffer, or freed together with its buffer. No
call of a session ever faults, so no node is freed twice and the loop of
`sbuffer_free` ends.
-/

import SensorGateway.Library.Runs
import SensorGateway.Library.Fifo
import SensorGateway.Sbuffer
import Mathlib.Data.Finset.Card

namespace SensorGateway

variable {Data : Type}

/-! ### The buffer as a queue -/

/-- The buffer at an address is live and the readings along its chain are the queue. -/
def Memory.Represents (memory : Memory Data) (self : Address) (queue : List Data) : Prop :=
  ∃ contents, memory.Holds self contents ∧ contents.map Prod.snd = queue

theorem sbufferInit_represents (memory : Memory Data) :
    ({ memory with
      buffers :=
        (memory.buffers.malloc { head := none, tail := none }).2 } : Memory Data).Represents
          memory.buffers.bound [] :=
  ⟨[], ⟨_, memory.buffers.read_malloc_self _, rfl, rfl⟩, rfl⟩

/-- Inserting into the buffer is putting at the back of the queue. -/
theorem sbufferInsert_represents {memory : Memory Data} {self : Address} {queue : List Data}
    (represents : memory.Represents self queue) (data : Data) :
    ∃ after, sbufferInsert memory (some self) data true = some (.success, after) ∧
      after.Represents self (Fifo.put queue data) := by
  obtain ⟨contents, holds, rfl⟩ := represents
  obtain ⟨after, ran, afterHolds, -⟩ := sbufferInsert_success holds data
  refine ⟨after, ran, _, afterHolds, ?_⟩
  rw [List.map_append, Fifo.put]
  rfl

/-- Removing from the buffer of an empty queue reports that there is no data. -/
theorem sbufferRemove_of_take_none {memory : Memory Data} {self : Address} {queue : List Data}
    (represents : memory.Represents self queue) (nothing : Fifo.take queue = none) (data : Data) :
    sbufferRemove memory (some self) data = some (.noData, data, memory) := by
  obtain ⟨contents, holds, rfl⟩ := represents
  cases contents with
  | nil => exact sbufferRemove_empty holds data
  | cons entry rest => exact absurd nothing (by simp [Fifo.take])

/-- Removing from the buffer is taking from the front of the queue. -/
theorem sbufferRemove_of_take_some {memory : Memory Data} {self : Address}
    {queue rest : List Data} {item : Data} (represents : memory.Represents self queue)
    (taken : Fifo.take queue = some (item, rest)) (data : Data) :
    ∃ after, sbufferRemove memory (some self) data = some (.success, item, after) ∧
      after.Represents self rest := by
  obtain ⟨contents, holds, rfl⟩ := represents
  cases contents with
  | nil => exact absurd taken (by simp [Fifo.take])
  | cons entry others =>
    obtain ⟨address, found⟩ := entry
    obtain ⟨after, ran, afterHolds, -⟩ := sbufferRemove_success holds data
    simp only [List.map_cons, Fifo.take, Option.some.injEq, Prod.mk.injEq] at taken
    obtain ⟨rfl, rfl⟩ := taken
    exact ⟨after, ran, others, afterHolds, rfl⟩

/-! ### Freeing a whole chain -/

/-- The loop of `sbuffer_free` frees the nodes of the chain, each once, from the head on. The
tail pointer is not used and not changed. -/
theorem sbufferFreeLoop_spec {self : Address} {contents : List (Address × Data)} {fuel : Nat}
    {memory : Memory Data} {sbuffer : Sbuffer} (live : memory.buffers.read self = some sbuffer)
    (path : memory.nodes.Path SbufferNode.next SbufferNode.data sbuffer.head contents none)
    (enough : contents.length < fuel) :
    ∃ after, sbufferFreeLoop self fuel memory = some after ∧
      after.buffers.read self = some { sbuffer with head := none } ∧
      memory.Frame after self (contents.map Prod.fst) ∧
      after.nodes.bound = memory.nodes.bound ∧
      after.nodes.freed = memory.nodes.freed ++ contents.map Prod.fst := by
  induction contents generalizing fuel memory sbuffer with
  | nil =>
    obtain ⟨head, tail⟩ := sbuffer
    cases fuel with
    | zero => exact absurd enough (Nat.not_lt_zero _)
    | succ fuel =>
      have headNull : head = none := path
      subst headNull
      refine ⟨memory, ?_, live, ⟨fun _ _ => rfl, fun _ _ => rfl, rfl⟩, rfl, by simp⟩
      simp only [sbufferFreeLoop, live, Option.bind_eq_bind, Option.bind_some]
  | cons entry rest inductionHypothesis =>
    obtain ⟨address, found⟩ := entry
    have distinct := path.nodup
    obtain ⟨headFirst, cell, cellLive, holds, tailPath⟩ := path
    cases fuel with
    | zero => exact absurd enough (Nat.not_lt_zero _)
    | succ fuel =>
      obtain ⟨nodes, released, nodesBound, nodesFreed, -, nodesRead⟩ :=
        memory.nodes.exists_free cellLive
      obtain ⟨buffers, written, boundEq, -, selfRead, othersRead⟩ :=
        memory.buffers.exists_write live { sbuffer with head := cell.next }
      have restKept :
          nodes.Path SbufferNode.next SbufferNode.data cell.next rest none := by
        refine tailPath.frame fun other member => nodesRead other ?_
        rintro rfl
        exact (List.nodup_cons.mp distinct).1 member
      have unlinked : ({ nodes, buffers } : Memory Data).buffers.read self =
          some { sbuffer with head := cell.next } := selfRead
      obtain ⟨after, ran, afterRead, frame, afterBound, afterFreed⟩ :=
        inductionHypothesis unlinked restKept (Nat.lt_of_succ_lt_succ enough)
      refine ⟨after, ?_, afterRead, ⟨fun other outside => ?_, fun other different => ?_, ?_⟩,
        afterBound.trans nodesBound, ?_⟩
      · simp only [sbufferFreeLoop, live, Option.bind_eq_bind, Option.bind_some, headFirst,
          cellLive, written, released, ran]
      · simp only [List.map_cons, List.mem_cons, not_or] at outside
        rw [frame.nodes other outside.2, nodesRead other outside.1]
      · rw [frame.buffers other different, othersRead other different]
      · rw [frame.bound, boundEq]
      · rw [afterFreed, nodesFreed, List.map_cons, List.append_assoc, List.singleton_append]

/-- A chain has at most as many nodes as were ever allocated. -/
theorem Memory.Holds.length_le {memory : Memory Data} {self : Address}
    {contents : List (Address × Data)} (holds : memory.Holds self contents) :
    contents.length ≤ memory.nodes.bound := by
  obtain ⟨sbuffer, -, chains⟩ := holds
  have within : contents.map Prod.fst ⊆ List.range memory.nodes.bound := by
    intro address member
    obtain ⟨cell, live⟩ := chains.path.live member
    exact List.mem_range.mpr (memory.nodes.lt_bound_of_read live)
  have bounded := (chains.path.nodup.subperm within).length_le
  rwa [List.length_map, List.length_range] at bounded

/-- Freeing a buffer frees every node it holds, each once, and then the buffer, and clears the
variable. -/
theorem sbufferFree_success {memory : Memory Data} {self : Address}
    {contents : List (Address × Data)} (holds : memory.Holds self contents) :
    ∃ after, sbufferFree memory (some (some self)) = some (.success, some none, after) ∧
      after.buffers.read self = none ∧ memory.Frame after self (contents.map Prod.fst) ∧
      after.nodes.bound = memory.nodes.bound ∧
      after.nodes.freed = memory.nodes.freed ++ contents.map Prod.fst := by
  have enough : contents.length < memory.nodes.bound + 1 := Nat.lt_succ_of_le holds.length_le
  obtain ⟨sbuffer, live, chains⟩ := holds
  obtain ⟨emptied, ran, emptiedRead, frame, emptiedBound, emptiedFreed⟩ :=
    sbufferFreeLoop_spec live chains.path enough
  obtain ⟨buffers, released, boundEq, -, selfRead, othersRead⟩ :=
    emptied.buffers.exists_free emptiedRead
  refine ⟨{ emptied with buffers }, ?_, selfRead,
    ⟨frame.nodes, fun other different => ?_, boundEq.trans frame.bound⟩, emptiedBound, emptiedFreed⟩
  · simp only [sbufferFree, Option.bind_eq_bind, ran, Option.bind_some, released]
  · rw [othersRead other different, frame.buffers other different]

/-! ### Sessions -/

/-- One call of a session, with the outcome of its `malloc`; `remove` also has the value of
`*data` before the call. -/
inductive SbufferCall (Data : Type) where
  | init (granted : Bool)
  | insert (data : Data) (granted : Bool)
  | remove (target : Data)
  | free

/-- The memory, the callers' buffer variable, and the ledger of every buffer. -/
structure Session (Data : Type) where
  memory : Memory Data
  buffer : Pointer
  inserted : Address → List (Address × Data)
  removed : Address → List (Address × Data)

/-- The session before the first call: the variable is a static and starts as NULL. -/
def Session.start (Data : Type) : Session Data where
  memory := Memory.empty Data
  buffer := none
  inserted _ := []
  removed _ := []

/-- Add an entry to the ledger of one buffer. -/
def record (ledger : Address → List (Address × Data)) (self : Address) (entry : Address × Data) :
    Address → List (Address × Data) :=
  Function.update ledger self (ledger self ++ [entry])

/-- Run one call and enter its outcome in the ledger: a successful insert under the node its
`malloc` returned, a successful remove under the node that was at the head. -/
def Session.step (session : Session Data) : SbufferCall Data → Option (Session Data)
  | .init granted =>
    let (_, buffer, memory) := sbufferInit session.memory granted
    some { session with memory, buffer }
  | .insert data granted => do
    let (status, memory) ← sbufferInsert session.memory session.buffer data granted
    match status with
    | .success =>
      let self ← session.buffer
      some { session with
        memory
        inserted := record session.inserted self (session.memory.nodes.bound, data) }
    | _ => some { session with memory }
  | .remove target => do
    let (status, data, memory) ← sbufferRemove session.memory session.buffer target
    match status with
    | .success =>
      let self ← session.buffer
      let sbuffer ← session.memory.buffers.read self
      let node ← sbuffer.head
      some { session with memory, removed := record session.removed self (node, data) }
    | _ => some { session with memory }
  | .free => do
    let (_, buffer, memory) ← sbufferFree session.memory (some session.buffer)
    some { session with memory, buffer := buffer.join }

theorem record_self (ledger : Address → List (Address × Data)) (self : Address)
    (entry : Address × Data) : record ledger self entry self = ledger self ++ [entry] :=
  Function.update_self _ _ _

theorem record_of_ne (ledger : Address → List (Address × Data)) {self other : Address}
    (entry : Address × Data) (different : other ≠ self) :
    record ledger self entry other = ledger other :=
  Function.update_of_ne different _ _

theorem prefix_record (ledger : Address → List (Address × Data)) (self other : Address)
    (entry : Address × Data) : ledger other <+: record ledger self entry other := by
  by_cases same : other = self
  · subst same
    rw [record_self]
    exact List.prefix_append _ _
  · rw [record_of_ne _ _ same]

theorem mem_record {ledger : Address → List (Address × Data)} {self other : Address}
    {entry new : Address × Data} :
    entry ∈ record ledger self new other ↔ entry ∈ ledger other ∨ other = self ∧ entry = new := by
  by_cases same : other = self
  · subst same
    rw [record_self, List.mem_append, List.mem_singleton, and_iff_right rfl]
  · rw [record_of_ne _ _ same, or_iff_left fun both => same both.1]

theorem Memory.Holds.isSome {memory : Memory Data} {self : Address}
    {contents : List (Address × Data)} (holds : memory.Holds self contents) :
    (memory.buffers.read self).isSome := by
  obtain ⟨sbuffer, live, -⟩ := holds
  rw [live, Option.isSome_some]

/-- The invariant of a session: where each appended node is. -/
structure Accounted (memory : Memory Data) (buffer : Pointer)
    (inserted removed : Address → List (Address × Data)) : Prop where
  /-- The variable is NULL or points to a live buffer. -/
  variable_live : ∀ self, buffer = some self →
    (memory.buffers.read self).isSome
  /-- A live buffer holds what was appended to it and not yet returned. -/
  chains : ∀ self, (memory.buffers.read self).isSome → ∃ contents,
    memory.Holds self contents ∧
      inserted self = removed self ++ contents
  /-- Every buffer returned a prefix of what was appended to it. -/
  taken : ∀ self, removed self <+: inserted self
  /-- A node is freed when its reading was returned, or with its buffer. -/
  freed : ∀ self, ∀ entry ∈ inserted self, entry.1 ∈ memory.nodes.freed ↔
    entry ∈ removed self ∨ memory.buffers.read self = none
  /-- One buffer never appends the same node twice. -/
  nodup : ∀ self, ((inserted self).map Prod.fst).Nodup
  /-- Two buffers never share a node. -/
  apart : ∀ self other, self ≠ other → ∀ entry ∈ inserted self,
    ∀ foreign ∈ inserted other, entry.1 ≠ foreign.1
  /-- The nodes allocated so far are exactly those of the successful inserts. -/
  allocated : ∀ address, address < memory.nodes.bound ↔
    ∃ self, ∃ entry ∈ inserted self, entry.1 = address
  /-- A buffer that was not allocated yet has an empty ledger. -/
  unborn : ∀ self, memory.buffers.bound ≤ self → inserted self = []

theorem accounted_start :
    Accounted (Memory.empty Data) none (fun _ => []) (fun _ => []) where
  variable_live _ points := absurd points (by simp)
  chains self live := absurd live (by simp [Memory.empty, Heap.empty, Heap.read])
  taken _ := List.prefix_refl _
  freed _ _ member := absurd member List.not_mem_nil
  nodup _ := List.nodup_nil
  apart _ _ _ _ member := absurd member List.not_mem_nil
  allocated address := by simp [Memory.empty, Heap.empty]
  unborn _ _ := rfl

namespace Accounted

variable {memory : Memory Data} {buffer : Pointer}
  {inserted removed : Address → List (Address × Data)}
  (accounted : Accounted memory buffer inserted removed)

include accounted

/-- An initialisation that fails only clears the variable. -/
theorem init_failure : Accounted memory none inserted removed where
  variable_live _ points := absurd points (by simp)
  chains := accounted.chains
  taken := accounted.taken
  freed := accounted.freed
  nodup := accounted.nodup
  apart := accounted.apart
  allocated := accounted.allocated
  unborn := accounted.unborn

/-- A successful initialisation adds an empty buffer; a buffer the variable pointed to before
stays as it was. -/
theorem init_success :
    Accounted
      { memory with buffers := (memory.buffers.malloc { head := none, tail := none }).2 }
      (some memory.buffers.bound) inserted removed where
  variable_live self points := by
    rw [← Option.some.inj points, Heap.read_malloc_self, Option.isSome_some]
  chains self live := by
    by_cases same : self = memory.buffers.bound
    · subst same
      have nothing := accounted.unborn _ (Nat.le_refl memory.buffers.bound)
      have returned : removed memory.buffers.bound = [] :=
        List.prefix_nil.mp (nothing ▸ accounted.taken _)
      exact ⟨[], ⟨_, Heap.read_malloc_self _ _, rfl, rfl⟩, by simp only [nothing, returned,
        List.append_nil]⟩
    · have kept := memory.buffers.read_malloc_of_ne { head := none, tail := none } same
      rw [kept] at live
      obtain ⟨contents, ⟨sbuffer, isLive, chains⟩, ledger⟩ := accounted.chains self live
      exact ⟨contents, ⟨sbuffer, kept.trans isLive, chains⟩, ledger⟩
  taken := accounted.taken
  freed self entry member := by
    have different : self ≠ memory.buffers.bound := by
      rintro rfl
      rw [accounted.unborn _ (Nat.le_refl _)] at member
      exact absurd member List.not_mem_nil
    rw [memory.buffers.read_malloc_of_ne _ different]
    exact accounted.freed self entry member
  nodup := accounted.nodup
  apart := accounted.apart
  allocated := accounted.allocated
  unborn self late := accounted.unborn self (Nat.le_of_succ_le late)

/-- The nodes a live buffer holds were appended to it, so no other buffer holds any of them. -/
theorem untouched {self other : Address} {contents foreign : List (Address × Data)}
    (ledger : inserted self = removed self ++ contents)
    (otherLedger : inserted other = removed other ++ foreign)
    (different : other ≠ self) :
    ∀ address ∈ foreign.map Prod.fst, address ∉ contents.map Prod.fst := by
  intro address member again
  obtain ⟨entry, entryMember, rfl⟩ := List.mem_map.mp member
  obtain ⟨own, ownMember, same⟩ := List.mem_map.mp again
  exact accounted.apart other self different entry
    (otherLedger ▸ List.mem_append_right _ entryMember) own
    (ledger ▸ List.mem_append_right _ ownMember) same.symm

/-- The next node is not in any ledger yet. -/
theorem bound_fresh {self : Address} {entry : Address × Data}
    (member : entry ∈ inserted self) : entry.1 ≠ memory.nodes.bound :=
  Nat.ne_of_lt ((accounted.allocated entry.1).mpr ⟨self, entry, member, rfl⟩)

/-- A call that leaves the buffer of the variable alive frees no buffer. -/
theorem dead_iff {self : Address} {touched : List Address} {contents : List (Address × Data)}
    {after : Memory Data} (points : buffer = some self) (holds : after.Holds self contents)
    (frame : memory.Frame after self touched) (other : Address) :
    after.buffers.read other = none ↔ memory.buffers.read other = none := by
  by_cases same : other = self
  · subst same
    exact iff_of_false (Option.isSome_iff_ne_none.mp holds.isSome)
      (Option.isSome_iff_ne_none.mp (accounted.variable_live other points))
  · rw [frame.buffers other same]

/-- A successful insert appends the node it allocated. -/
theorem insert_success {self : Address} {contents : List (Address × Data)} {data : Data}
    {after : Memory Data} (points : buffer = some self)
    (ledger : inserted self = removed self ++ contents)
    (holds : after.Holds self (contents ++ [(memory.nodes.bound, data)]))
    (frame : memory.Frame after self
      (memory.nodes.bound :: contents.map Prod.fst))
    (boundNext : after.nodes.bound = memory.nodes.bound + 1)
    (freedSame : after.nodes.freed = memory.nodes.freed) :
    Accounted after buffer (record inserted self (memory.nodes.bound, data)) removed where
  variable_live other points' := by
    rw [← Option.some.inj (points.symm.trans points')]
    exact holds.isSome
  chains other live := by
    by_cases same : other = self
    · subst same
      refine ⟨_, holds, ?_⟩
      rw [record_self, ledger, List.append_assoc]
    · rw [frame.buffers other same] at live
      obtain ⟨foreign, otherHolds, otherLedger⟩ := accounted.chains other live
      refine ⟨foreign, frame.holds same (fun address member => ?_) otherHolds, ?_⟩
      · obtain ⟨entry, entryMember, rfl⟩ := List.mem_map.mp member
        have owned : entry ∈ inserted other :=
          otherLedger ▸ List.mem_append_right _ entryMember
        refine List.not_mem_cons_of_ne_of_not_mem (accounted.bound_fresh owned) ?_
        exact accounted.untouched ledger otherLedger same _ member
      · rw [record_of_ne _ _ same, otherLedger]
  taken other := (accounted.taken other).trans (prefix_record inserted self other _)
  freed other entry member := by
    rw [freedSame, accounted.dead_iff points holds frame other]
    rcases mem_record.mp member with earlier | ⟨rfl, rfl⟩
    · exact accounted.freed other entry earlier
    · refine iff_of_false (fun wasFreed => ?_) ?_
      · exact absurd (memory.nodes.freed_lt _ wasFreed) (Nat.lt_irrefl _)
      · rintro (returned | dead)
        · exact absurd rfl (accounted.bound_fresh ((accounted.taken other).subset returned))
        · exact absurd dead (Option.isSome_iff_ne_none.mp (accounted.variable_live other points))
  nodup other := by
    by_cases same : other = self
    · subst same
      rw [record_self, List.map_append, List.nodup_append]
      refine ⟨accounted.nodup other, List.nodup_singleton _, ?_⟩
      intro address earlier fresh freshMember
      obtain ⟨entry, entryMember, rfl⟩ := List.mem_map.mp earlier
      rw [List.mem_singleton.mp freshMember]
      exact accounted.bound_fresh entryMember
    · rw [record_of_ne _ _ same]
      exact accounted.nodup other
  apart first second different entry member foreign foreignMember := by
    rcases mem_record.mp member with earlier | ⟨firstSelf, rfl⟩
    · rcases mem_record.mp foreignMember with foreignEarlier | ⟨-, rfl⟩
      · exact accounted.apart first second different entry earlier foreign foreignEarlier
      · exact accounted.bound_fresh earlier
    · rcases mem_record.mp foreignMember with foreignEarlier | ⟨secondSelf, -⟩
      · exact (accounted.bound_fresh foreignEarlier).symm
      · exact absurd (firstSelf.trans secondSelf.symm) different
  allocated address := by
    rw [boundNext, Nat.lt_succ_iff_lt_or_eq, accounted.allocated address]
    constructor
    · rintro (⟨other, entry, member, named⟩ | last)
      · exact ⟨other, entry, mem_record.mpr (Or.inl member), named⟩
      · exact ⟨self, _, mem_record.mpr (Or.inr ⟨rfl, rfl⟩), last.symm⟩
    · rintro ⟨other, entry, member, named⟩
      rcases mem_record.mp member with earlier | ⟨-, rfl⟩
      · exact Or.inl ⟨other, entry, earlier, named⟩
      · exact Or.inr named.symm
  unborn other late := by
    rw [frame.bound] at late
    have different : other ≠ self := by
      rintro rfl
      have lives := accounted.variable_live other points
      rw [memory.buffers.read_eq_none_of_le late] at lives
      exact absurd lives (by simp)
    rw [record_of_ne _ _ different]
    exact accounted.unborn other late

/-- A successful remove returns the oldest reading and frees its node. -/
theorem remove_success {self : Address} {entry : Address × Data}
    {contents : List (Address × Data)} {after : Memory Data}
    (points : buffer = some self)
    (ledger : inserted self = removed self ++ entry :: contents)
    (holds : after.Holds self contents) (frame : memory.Frame after self [entry.1])
    (boundSame : after.nodes.bound = memory.nodes.bound)
    (freedNext : after.nodes.freed = memory.nodes.freed ++ [entry.1]) :
    Accounted after buffer inserted (record removed self entry) where
  variable_live other points' := by
    rw [← Option.some.inj (points.symm.trans points')]
    exact holds.isSome
  chains other live := by
    by_cases same : other = self
    · subst same
      refine ⟨_, holds, ?_⟩
      rw [record_self, ledger, List.append_assoc, List.singleton_append]
    · rw [frame.buffers other same] at live
      obtain ⟨foreign, otherHolds, otherLedger⟩ := accounted.chains other live
      refine ⟨foreign, frame.holds same (fun address member again => ?_) otherHolds, ?_⟩
      · refine accounted.untouched ledger otherLedger same address member ?_
        rw [List.mem_singleton.mp again]
        exact List.mem_cons_self
      · rw [record_of_ne _ _ same, otherLedger]
  taken other := by
    by_cases same : other = self
    · subst same
      rw [record_self, ledger]
      exact ⟨contents, by rw [List.append_assoc, List.singleton_append]⟩
    · rw [record_of_ne _ _ same]
      exact accounted.taken other
  freed other appended member := by
    have ownMember : entry ∈ inserted self := by
      rw [ledger]
      exact List.mem_append_right _ List.mem_cons_self
    have named : appended.1 = entry.1 ↔ other = self ∧ appended = entry := by
      by_cases same : other = self
      · subst same
        refine ⟨fun named => ⟨rfl, ?_⟩, fun both => both.2 ▸ rfl⟩
        exact List.inj_on_of_nodup_map (accounted.nodup other) member ownMember named
      · exact iff_of_false (accounted.apart other self same appended member entry ownMember)
          fun both => same both.1
    rw [freedNext, List.mem_append, List.mem_singleton, accounted.freed other appended member,
      mem_record, accounted.dead_iff points holds frame other, named, or_right_comm]
  nodup := accounted.nodup
  apart := accounted.apart
  allocated address := by
    rw [boundSame]
    exact accounted.allocated address
  unborn other late := by
    rw [frame.bound] at late
    exact accounted.unborn other late

/-- Freeing a live buffer frees what it holds and clears the variable. -/
theorem free_success {self : Address} {contents : List (Address × Data)} {after : Memory Data}
    (points : buffer = some self)
    (ledger : inserted self = removed self ++ contents)
    (dead : after.buffers.read self = none)
    (frame : memory.Frame after self (contents.map Prod.fst))
    (boundSame : after.nodes.bound = memory.nodes.bound)
    (freedNext : after.nodes.freed = memory.nodes.freed ++ contents.map Prod.fst) :
    Accounted after none inserted removed where
  variable_live _ points' := absurd points' (by simp)
  chains other live := by
    have different : other ≠ self := by
      rintro rfl
      rw [dead] at live
      exact absurd live (by simp)
    rw [frame.buffers other different] at live
    obtain ⟨foreign, otherHolds, otherLedger⟩ := accounted.chains other live
    exact ⟨foreign, frame.holds different
      (accounted.untouched ledger otherLedger different) otherHolds, otherLedger⟩
  taken := accounted.taken
  freed other entry member := by
    rw [freedNext, List.mem_append, accounted.freed other entry member]
    by_cases same : other = self
    · subst same
      have lives : memory.buffers.read other ≠ none :=
        Option.isSome_iff_ne_none.mp (accounted.variable_live other points)
      simp only [lives, dead, or_false, or_true, iff_true]
      rw [ledger] at member
      exact (List.mem_append.mp member).imp_right List.mem_map_of_mem
    · have notHeld : entry.1 ∉ contents.map Prod.fst := by
        intro held
        obtain ⟨own, ownMember, named⟩ := List.mem_map.mp held
        exact accounted.apart other self same entry member own
          (ledger ▸ List.mem_append_right _ ownMember) named.symm
      rw [frame.buffers other same]
      simp only [notHeld, or_false]
  nodup := accounted.nodup
  apart := accounted.apart
  allocated address := by
    rw [boundSame]
    exact accounted.allocated address
  unborn other late := by
    rw [frame.bound] at late
    exact accounted.unborn other late

end Accounted

/-- The invariant of sessions. -/
def Session.Consistent (session : Session Data) : Prop :=
  Accounted session.memory session.buffer session.inserted session.removed

theorem Session.start_consistent : (Session.start Data).Consistent := accounted_start

/-- No call of a consistent session faults, and the session stays consistent. -/
theorem Session.step_consistent (session : Session Data) (call : SbufferCall Data)
    (accounted : session.Consistent) :
    ∃ next, session.step call = some next ∧ next.Consistent := by
  obtain ⟨memory, buffer, inserted, removed⟩ := session
  have accounts : Accounted memory buffer inserted removed := accounted
  cases call with
  | init granted =>
    cases granted with
    | false => exact ⟨_, rfl, accounts.init_failure⟩
    | true => exact ⟨_, rfl, accounts.init_success⟩
  | insert data granted =>
    cases buffer with
    | none => exact ⟨_, rfl, accounted⟩
    | some self =>
      cases granted with
      | false => exact ⟨_, rfl, accounted⟩
      | true =>
        obtain ⟨contents, holds, ledger⟩ := accounts.chains self (accounts.variable_live self rfl)
        obtain ⟨after, ran, afterHolds, frame, boundNext, freedSame⟩ :=
          sbufferInsert_success holds data
        refine ⟨⟨after, some self, record inserted self (memory.nodes.bound, data), removed⟩, ?_,
          accounts.insert_success rfl ledger afterHolds frame boundNext freedSame⟩
        simp only [Session.step, ran, Option.bind_eq_bind, Option.bind_some]
  | remove target =>
    cases buffer with
    | none => exact ⟨_, rfl, accounted⟩
    | some self =>
      obtain ⟨contents, holds, ledger⟩ := accounts.chains self (accounts.variable_live self rfl)
      cases contents with
      | nil =>
        refine ⟨_, ?_, accounted⟩
        simp only [Session.step, sbufferRemove_empty holds, Option.bind_eq_bind, Option.bind_some]
      | cons entry rest =>
        obtain ⟨address, found⟩ := entry
        obtain ⟨after, ran, afterHolds, frame, boundSame, freedNext⟩ :=
          sbufferRemove_success holds target
        obtain ⟨sbuffer, live, chains⟩ := holds
        refine ⟨⟨after, some self, inserted, record removed self (address, found)⟩, ?_,
          accounts.remove_success rfl ledger afterHolds frame boundSame freedNext⟩
        simp only [Session.step, ran, Option.bind_eq_bind, Option.bind_some, live, chains.path.1]
  | free =>
    cases buffer with
    | none => exact ⟨_, rfl, accounted⟩
    | some self =>
      obtain ⟨contents, holds, ledger⟩ := accounts.chains self (accounts.variable_live self rfl)
      obtain ⟨after, ran, dead, frame, boundSame, freedNext⟩ := sbufferFree_success holds
      refine ⟨⟨after, none, inserted, removed⟩, ?_,
        accounts.free_success rfl ledger dead frame boundSame freedNext⟩
      simp only [Session.step, ran, Option.bind_eq_bind, Option.bind_some, Option.join_some]

/-! ### The refinement -/

/-- The pointers, the nodes and the readings of a session, buffer by buffer. -/
structure Session.RefinesQueue (session : Session Data) : Prop where
  /-- In a live buffer `head` is NULL exactly when `tail` is. -/
  ends : ∀ self sbuffer, session.memory.buffers.read self = some sbuffer →
    (sbuffer.head = none ↔ sbuffer.tail = none)
  /-- From `head`, `next` leads to NULL through finitely many nodes, the last one `tail`; they
  are the nodes that successful inserts allocated for this buffer and nobody freed; and the
  readings returned so far followed by the readings along the chain are those inserted. -/
  chain : ∀ self sbuffer, session.memory.buffers.read self = some sbuffer → ∃ contents,
    session.memory.nodes.Path SbufferNode.next SbufferNode.data sbuffer.head contents none ∧
    sbuffer.tail = contents.getLast?.map Prod.fst ∧
    (∀ address, address ∈ contents.map Prod.fst ↔
      address ∈ (session.inserted self).map Prod.fst ∧
        address ∉ session.memory.nodes.freed) ∧
    (session.removed self).map Prod.snd ++ contents.map Prod.snd =
      (session.inserted self).map Prod.snd
  /-- Every node ever allocated was allocated by one successful insert. -/
  allocated : ∀ address, address < session.memory.nodes.bound ↔
    ∃ self, ∃ entry ∈ session.inserted self, entry.1 = address
  /-- A node is freed by the remove that returned its reading, or with its buffer. -/
  freed : ∀ self, ∀ entry ∈ session.inserted self, entry.1 ∈ session.memory.nodes.freed ↔
    entry ∈ session.removed self ∨ session.memory.buffers.read self = none
  /-- No node is freed twice. -/
  freed_once : session.memory.nodes.freed.Nodup

/-- What each call on the session's buffer does to the queue it represents. -/
structure Session.ServesQueue (session : Session Data) : Prop where
  /-- An initialisation that gets memory makes a new live buffer with an empty queue, and leaves
  the nodes and the other buffers alone. -/
  init_success : ∃ self after, sbufferInit session.memory true = (.success, some self, after) ∧
    session.memory.buffers.read self = none ∧ after.Represents self [] ∧
    after.nodes = session.memory.nodes ∧
    ∀ other, other ≠ self → after.buffers.read other = session.memory.buffers.read other
  /-- An initialisation that gets no memory clears the variable. -/
  init_failure : sbufferInit session.memory false = (.failure, none, session.memory)
  /-- An insert appends. -/
  insert_success : ∀ self queue data, session.buffer = some self →
    session.memory.Represents self queue →
    ∃ after, sbufferInsert session.memory session.buffer data true = some (.success, after) ∧
      after.Represents self (Fifo.put queue data)
  /-- An insert that has no buffer or gets no memory reports a failure and changes nothing. -/
  insert_failure : ∀ data granted, session.buffer = none ∨ granted = false →
    sbufferInsert session.memory session.buffer data granted = some (.failure, session.memory)
  /-- A remove returns the oldest reading and drops it. -/
  remove_success : ∀ self queue rest item target, session.buffer = some self →
    session.memory.Represents self queue → Fifo.take queue = some (item, rest) →
    ∃ after, sbufferRemove session.memory session.buffer target = some (.success, item, after) ∧
      after.Represents self rest
  /-- A remove from an empty buffer changes neither the buffer nor `*data`. -/
  remove_empty : ∀ self queue target, session.buffer = some self →
    session.memory.Represents self queue → Fifo.take queue = none →
    sbufferRemove session.memory session.buffer target = some (.noData, target, session.memory)
  /-- A remove without a buffer reports a failure and changes nothing. -/
  remove_failure : ∀ target, session.buffer = none →
    sbufferRemove session.memory session.buffer target = some (.failure, target, session.memory)
  /-- Freeing the buffer frees the nodes it still holds, each once and no other one, and then the
  buffer, and clears the variable. -/
  free_success : ∀ self contents, session.buffer = some self →
    session.memory.Holds self contents →
    ∃ after, sbufferFree session.memory (some session.buffer) =
        some (.success, some none, after) ∧
      after.buffers.read self = none ∧
      after.nodes.freed = session.memory.nodes.freed ++ contents.map Prod.fst ∧
      session.memory.Frame after self (contents.map Prod.fst)
  /-- Freeing without a buffer, or without a variable, reports a failure and changes nothing. -/
  free_failure : session.buffer = none →
    sbufferFree session.memory (some session.buffer) =
        some (.failure, some none, session.memory) ∧
      sbufferFree session.memory none = some (.failure, none, session.memory)
  /-- A live buffer represents some queue. -/
  represents : ∀ self, session.buffer = some self → ∃ queue,
    session.memory.Represents self queue

theorem Session.refinesQueue_of_consistent {session : Session Data}
    (accounted : session.Consistent) :
    session.RefinesQueue where
  ends self sbuffer live := by
    obtain ⟨contents, ⟨other, otherLive, chains⟩, -⟩ :=
      accounted.chains self (by rw [live, Option.isSome_some])
    rw [← Option.some.inj (otherLive.symm.trans live)]
    exact chains.head_eq_none_iff
  chain self sbuffer live := by
    have lives : session.memory.buffers.read self ≠ none := by
      rw [live]
      exact Option.some_ne_none _
    obtain ⟨contents, ⟨other, otherLive, chains⟩, ledger⟩ :=
      accounted.chains self (Option.isSome_iff_ne_none.mpr lives)
    have same : other = sbuffer := Option.some.inj (otherLive.symm.trans live)
    subst same
    refine ⟨contents, chains.path, chains.tail, fun address => ⟨fun member => ?_, ?_⟩, ?_⟩
    · obtain ⟨cell, cellLive⟩ := chains.path.live member
      refine ⟨?_, session.memory.nodes.not_freed_of_read cellLive⟩
      rw [ledger, List.map_append]
      exact List.mem_append_right _ member
    · rintro ⟨member, kept⟩
      obtain ⟨entry, entryMember, rfl⟩ := List.mem_map.mp member
      have notReturned : entry ∉ session.removed self := fun returned =>
        kept ((accounted.freed self entry entryMember).mpr (Or.inl returned))
      rw [ledger] at entryMember
      rcases List.mem_append.mp entryMember with returned | held
      · exact absurd returned notReturned
      · exact List.mem_map_of_mem held
    · rw [← List.map_append, ledger]
  allocated := accounted.allocated
  freed := accounted.freed
  freed_once := session.memory.nodes.freed_nodup

theorem Session.servesQueue_of_consistent {session : Session Data}
    (accounted : session.Consistent) :
    session.ServesQueue where
  init_success := by
    refine ⟨session.memory.buffers.bound, _, rfl,
      session.memory.buffers.read_eq_none_of_le (Nat.le_refl _),
      sbufferInit_represents session.memory, rfl, fun other different => ?_⟩
    exact session.memory.buffers.read_malloc_of_ne _ different
  init_failure := rfl
  insert_success self queue data points represents := by
    rw [points]
    exact sbufferInsert_represents represents data
  insert_failure data granted reason := by
    rcases reason with null | refused
    · rw [null, sbufferInsert_null]
    · rw [refused, sbufferInsert_refused]
  remove_success self queue rest item target points represents taken := by
    rw [points]
    exact sbufferRemove_of_take_some represents taken target
  remove_empty self queue target points represents nothing := by
    rw [points]
    exact sbufferRemove_of_take_none represents nothing target
  remove_failure target null := by
    rw [null, sbufferRemove_null]
  free_success self contents points holds := by
    obtain ⟨after, ran, dead, frame, -, freed⟩ := sbufferFree_success holds
    rw [points]
    exact ⟨after, ran, dead, freed, frame⟩
  free_failure null := by
    rw [null]
    exact ⟨rfl, rfl⟩
  represents self points := by
    obtain ⟨contents, holds, -⟩ := accounted.chains self (accounted.variable_live self points)
    exact ⟨_, contents, holds, rfl⟩

/-- Every sequence of buffer calls, with any of its allocations failing, runs without a fault,
and the session it ends in refines a queue. -/
theorem sbuffer_refines_queue (calls : List (SbufferCall Data)) :
    ∃ session, Runs.complete Session.step (Session.start Data) calls = some session ∧
      session.RefinesQueue ∧ session.ServesQueue := by
  obtain ⟨session, ran, consistent⟩ :=
    Runs.complete_of_progress Session.start_consistent Session.step_consistent
  exact ⟨session, ran, Session.refinesQueue_of_consistent consistent,
    Session.servesQueue_of_consistent consistent⟩

/-- An initialisation that gets no memory and one that does, three inserts of which one gets no
memory, and a remove; the free then releases the node that is left. -/
theorem sbuffer_refines_queue_freed :
    ∃ session, Runs.complete Session.step (Session.start Nat)
        [.init false, .insert 7 true, .init true, .insert 1 true, .insert 2 false, .insert 3 true,
          .remove 0] = some session ∧
      (session.RefinesQueue ∧ session.ServesQueue) ∧ session.memory.Represents 0 [3] ∧
      ∃ after, sbufferFree session.memory (some session.buffer) =
          some (.success, some none, after) ∧
        after.buffers.read 0 = none ∧ after.nodes.freed = [0, 1] := by
  obtain ⟨session, ran, refines, serves⟩ := sbuffer_refines_queue
    [.init false, .insert 7 true, .init true, .insert 1 true, .insert 2 false, .insert 3 true,
      .remove 0]
  obtain ⟨same, here, points, holds, freed⟩ : ∃ same, Runs.complete Session.step
        (Session.start Nat) [.init false, .insert 7 true, .init true, .insert 1 true,
          .insert 2 false, .insert 3 true, .remove 0] = some same ∧
      same.buffer = some 0 ∧ same.memory.Holds 0 [(1, 3)] ∧ same.memory.nodes.freed = [0] :=
    ⟨_, rfl, rfl, ⟨⟨some 1, some 1⟩, rfl, ⟨rfl, _, rfl, rfl, rfl⟩, rfl⟩, rfl⟩
  obtain rfl := Option.some.inj (here.symm.trans ran)
  obtain ⟨after, frees, dead, all, -⟩ := serves.free_success 0 [(1, 3)] points holds
  rw [freed] at all
  exact ⟨_, ran, ⟨refines, serves⟩, ⟨_, holds, rfl⟩, after, frees, dead, all⟩

end SensorGateway
