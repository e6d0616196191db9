/-
This file is about `sock_list`, the list of the clients of the connection manager, in
memory. Its elements are pointers to the structs of the clients, which point to their
sockets.

The comparison callback of the list is no order: it is 0 for equal descriptors and -1
for all others. Clients with different descriptors all go to the front, so that the list
has the newest first and no insertion gets to the node before the head. The search for a
descriptor then finds the one client that has it.

The poll loop is modelled with the clients themselves in a list. The last part shows that
the list in memory does the same to them. What `tcp_close` does to the descriptor of a
socket is left out here: it is no part of the memory.
-/

import SensorGateway.ConnmgrScan
import SensorGateway.DplistOrdered
import SensorGateway.DplistSearch

namespace SensorGateway

/-! ### The callbacks -/

/-- The struct of a client in memory. -/
structure ClientStruct where
  sockPt : Pointer
  sd : Int
  lastActive : Int
  sensor : BitVec 16
  deriving DecidableEq, Repr

/-- The memory of the clients and of their sockets. -/
structure ClientMemory where
  clients : Heap ClientStruct
  sockets : Heap Tcpsock

namespace ClientMemory

/-- The struct behind a pointer. -/
def deref (memory : ClientMemory) (client : Pointer) : Option ClientStruct := do
  let address ← client
  memory.clients.read address

/-- The descriptor of a client. -/
def sd (memory : ClientMemory) (client : Pointer) : Option Int :=
  (memory.deref client).map ClientStruct.sd

/-- The effect of `tcp_close(&client->sock_pt)` on the memory. -/
def tcpClose (memory : ClientMemory) (client : Pointer) : Option ClientMemory := do
  let address ← client
  let struct ← memory.clients.read address
  if struct.sockPt = none then some memory
  else do
    let socket ← struct.sockPt
    let sockets ← memory.sockets.write socket { cookie := 0, sd := -1 }
    let sockets ← sockets.free socket
    let clients ← memory.clients.write address { struct with sockPt := none }
    some { clients, sockets }

/-- The callback `element_copy`: the copy shares the socket. -/
def elementCopy (memory : ClientMemory) (element : Pointer) : Option (Pointer × ClientMemory) := do
  let struct ← memory.deref element
  let (temp, clients) := memory.clients.malloc struct
  some (some temp, { memory with clients })

/-- The callback `element_free`. -/
def elementFree (memory : ClientMemory) (element : Pointer) : Option ClientMemory := do
  let memory ← memory.tcpClose element
  let address ← element
  let clients ← memory.clients.free address
  some { memory with clients }

/-- The callback `element_compare`. -/
def elementCompare (memory : ClientMemory) (x y : Pointer) : Option (Int × ClientMemory) := do
  let a ← memory.sd x
  let b ← memory.sd y
  some (if a = b then 0 else -1, memory)

/-- The callbacks of `sock_list`. -/
def callbacks : Callbacks ClientMemory Pointer where
  elementCopy := elementCopy
  elementFree := elementFree
  elementCompare := elementCompare

/-- What the comparison gives for two clients. -/
def compareSd (memory : ClientMemory) (x y : Pointer) : Int :=
  if memory.sd x = memory.sd y then 0 else -1

theorem elementCompare_eq {memory : ClientMemory} {x y : Pointer} (first : (memory.sd x).isSome)
    (second : (memory.sd y).isSome) :
    elementCompare memory x y = some (memory.compareSd x y, memory) := by
  obtain ⟨a, hasA⟩ := Option.isSome_iff_exists.mp first
  obtain ⟨b, hasB⟩ := Option.isSome_iff_exists.mp second
  unfold elementCompare compareSd
  simp only [hasA, hasB, Option.bind_eq_bind, Option.bind_some, Option.some.injEq]

end ClientMemory

/-! ### A map from descriptors -/

section Clients

variable {memory : ClientMemory} {clients : List Pointer}

/-- Clients are inserted as they are. -/
theorem supplies_clients {earlier : List Pointer}
    (live : ∀ client ∈ clients, (memory.sd client).isSome)
    (liveEarlier : ∀ client ∈ earlier, (memory.sd client).isSome) :
    Supplies ClientMemory.callbacks memory.compareSd memory earlier
      (clients.map fun client => (client, false)) clients memory := by
  induction clients generalizing earlier with
  | nil => exact .done memory earlier
  | cons client rest inductionHypothesis =>
    obtain ⟨liveClient, liveRest⟩ := List.forall_mem_cons.mp live
    refine .next rfl (fun other member => ?_)
      (inductionHypothesis liveRest (List.forall_mem_cons.mpr ⟨liveClient, liveEarlier⟩))
    exact ClientMemory.elementCompare_eq liveClient (liveEarlier other member)

/-- With pairwise different descriptors, the list has the clients with the newest first. -/
theorem insertAllSorted_clients (live : ∀ client ∈ clients, (memory.sd client).isSome)
    (distinct : (clients.map memory.sd).Nodup) :
    ∃ list contents, (Dplist.create memory).insertAllSorted ClientMemory.callbacks
        (clients.map fun client => (client, false)) = some list ∧ list.world = memory ∧
      list.Represents contents ∧ contents.map Prod.snd = clients.reverse := by
  have before : clients.reverse.Pairwise fun new other => memory.compareSd new other < 0 := by
    rw [List.pairwise_reverse]
    refine (List.pairwise_map.mp distinct).imp fun different => ?_
    unfold ClientMemory.compareSd
    rw [if_neg (Ne.symm different)]
    decide
  have supplies : Supplies ClientMemory.callbacks memory.compareSd memory []
      (clients.map fun client => (client, false)) clients memory :=
    supplies_clients live (by simp)
  obtain ⟨list, contents, ran, world, represents, order⟩ := insertAllSorted_front
    (create_represents memory) supplies (by rwa [List.map_nil, List.append_nil])
  rw [List.map_nil, List.append_nil] at order
  exact ⟨list, contents, ran, world, represents, order⟩

/-- The search for a descriptor is one by key. -/
theorem getReferenceOfElement_clients {list : Dplist ClientMemory Pointer}
    {contents : List (Address × Pointer)} {dummy : Pointer} {s : Int}
    (represents : list.Represents contents)
    (live : ∀ entry ∈ contents, (list.world.sd entry.2).isSome)
    (asked : list.world.sd dummy = some s) :
    list.getReferenceOfElement ClientMemory.callbacks dummy = some
      ((Table.lookup (fun entry => list.world.sd entry.2) contents (some s)).map Prod.fst,
        list.world) := by
  have compares : ComparesTo ClientMemory.callbacks list.world list.world.compareSd dummy
      contents := fun entry member =>
    ClientMemory.elementCompare_eq (by rw [asked]; rfl) (live entry member)
  have equal (entry : Address × Pointer) :
      list.world.compareSd dummy entry.2 = 0 ↔ list.world.sd entry.2 = some s := by
    unfold ClientMemory.compareSd
    rw [asked]
    split_ifs with same
    · simpa using same.symm
    · simpa using Ne.symm same
  rw [getReferenceOfElement_eq represents compares]
  simp only [equal]
  rfl

/-- The list is a map from descriptors to clients: after clients with different descriptors were
inserted, and as long as they keep these, the search for a descriptor finds the node of the client
that has it, and NULL exactly when none does. -/
theorem sockList_is_map (live : ∀ client ∈ clients, (memory.sd client).isSome)
    (distinct : (clients.map memory.sd).Nodup) :
    ∃ list contents, (Dplist.create memory).insertAllSorted ClientMemory.callbacks
        (clients.map fun client => (client, false)) = some list ∧ list.world = memory ∧
      list.Represents contents ∧ contents.map Prod.snd = clients.reverse ∧
      ∀ (later : ClientMemory) (dummy : Pointer) (s : Int),
        (∀ client ∈ clients, later.sd client = memory.sd client) → later.sd dummy = some s →
        ∃ node, Dplist.getReferenceOfElement ClientMemory.callbacks
            { list with world := later } dummy = some (node, later) ∧
          (∀ client ∈ clients, memory.sd client = some s →
            ∃ cell, deref list.nodes node = some cell ∧ cell.element = client) ∧
          (node = none ↔ ∀ client ∈ clients, memory.sd client ≠ some s) := by
  obtain ⟨list, contents, ran, world, represents, order⟩ := insertAllSorted_clients live distinct
  refine ⟨list, contents, ran, world, represents, order, fun later dummy s same asked => ?_⟩
  have inserted (entry : Address × Pointer) (member : entry ∈ contents) : entry.2 ∈ clients := by
    rw [← List.mem_reverse, ← order]
    exact List.mem_map_of_mem member
  have lives : ∀ entry ∈ contents, (later.sd entry.2).isSome := fun entry member => by
    rw [same _ (inserted entry member)]
    exact live _ (inserted entry member)
  have keys : contents.map (fun entry => later.sd entry.2) = (clients.map memory.sd).reverse := by
    rw [← List.map_reverse, ← order, List.map_map]
    exact List.map_congr_left fun entry member => same _ (inserted entry member)
  have representsLater : Dplist.Represents { list with world := later } contents := represents
  refine ⟨_, getReferenceOfElement_clients representsLater lives asked, ?_, ?_⟩
  · intro client member has
    obtain ⟨⟨place, held⟩, listed, rfl⟩ : ∃ entry ∈ contents, entry.2 = client := by
      rwa [← List.mem_map, order, List.mem_reverse]
    have found := Table.lookup_of_mem (by rw [keys]; exact List.nodup_reverse.mpr distinct) listed
    rw [same held member, has] at found
    obtain ⟨front, back, rfl⟩ := List.append_of_mem listed
    obtain ⟨cell, read, -, holds, -⟩ := represents.read
    exact ⟨cell, by rw [found, Option.map_some, deref_some, read], holds⟩
  · rw [Option.map_eq_none_iff, Table.lookup_eq_none_iff, keys, List.mem_reverse, List.mem_map]
    simp only [not_exists, not_and, ne_eq]

/-- Two clients on the descriptors 4 and 5, and a struct to search with. -/
def twoClients : ClientMemory where
  clients :=
    let (_, clients) := (Heap.empty ClientStruct).malloc ⟨none, 4, 100, 0⟩
    let (_, clients) := clients.malloc ⟨none, 5, 100, 0⟩
    let (_, clients) := clients.malloc ⟨none, 5, 0, 0⟩
    clients
  sockets := Heap.empty Tcpsock

theorem sockList_finds_five :
    ∃ list, (Dplist.create twoClients).insertAllSorted ClientMemory.callbacks
        [(some 0, false), (some 1, false)] = some list ∧
      ∃ node cell, list.getReferenceOfElement ClientMemory.callbacks (some 2) =
          some (node, twoClients) ∧
        deref list.nodes node = some cell ∧ cell.element = some 1 := by
  have live : ∀ client ∈ [some 0, some 1], (twoClients.sd client).isSome := by decide
  obtain ⟨list, contents, ran, world, -, -, finds⟩ := sockList_is_map live (by decide)
  obtain ⟨node, found, holds, -⟩ := finds twoClients (some 2) 5 (fun _ _ => rfl) (by decide)
  obtain ⟨cell, read, element⟩ := holds (some 1) (by decide) (by decide)
  exact ⟨list, ran, node, cell, by rwa [← world] at found ⊢, read, element⟩

end Clients

/-! ### The clients of the poll loop -/

/-- The client behind a pointer, with its socket. -/
def ClientMemory.client (memory : ClientMemory) (pointer : Pointer) : Option TcpsockDpl := do
  let struct ← memory.deref pointer
  let address ← struct.sockPt
  let sockPt ← memory.sockets.read address
  some { sockPt, sd := struct.sd, lastActive := struct.lastActive, sensor := struct.sensor }

/-- A node has a pointer to a client. -/
def ClientMemory.Holds (memory : ClientMemory) (entry : Address × Pointer)
    (client : TcpsockDpl) : Prop := memory.client entry.2 = some client

/-- A list in memory has the clients of the poll loop, in order. -/
structure HoldsClients (list : Dplist ClientMemory Pointer) (contents : List (Address × Pointer))
    (sockList : List TcpsockDpl) : Prop where
  represents : list.Represents contents
  clients : List.Forall₂ list.world.Holds contents sockList

theorem ClientMemory.sd_of_client {memory : ClientMemory} {pointer : Pointer}
    {client : TcpsockDpl} (held : memory.client pointer = some client) :
    memory.sd pointer = some client.sd := by
  unfold ClientMemory.client at held
  simp only [Option.bind_eq_bind, Option.bind_eq_some_iff, Option.some.injEq] at held
  obtain ⟨struct, live, _, -, _, -, rfl⟩ := held
  unfold ClientMemory.sd
  rw [live, Option.map_some]

section Refinement

variable {list : Dplist ClientMemory Pointer} {contents : List (Address × Pointer)}
  {sockList : List TcpsockDpl}

/-- The descriptors in memory are those of the clients. -/
theorem HoldsClients.map_sd (holds : HoldsClients list contents sockList) :
    contents.map (fun entry => list.world.sd entry.2) =
      sockList.map fun client => some client.sd := by
  refine List.forall₂_eq_eq_eq ▸ List.forall₂_map_left_iff.mpr
    (List.forall₂_map_right_iff.mpr (holds.clients.imp fun entry client held => ?_))
  exact ClientMemory.sd_of_client held

theorem HoldsClients.live (holds : HoldsClients list contents sockList) :
    ∀ entry ∈ contents, (list.world.sd entry.2).isSome := by
  intro entry member
  have listed : list.world.sd entry.2 ∈ sockList.map fun client => some client.sd := by
    rw [← holds.map_sd]
    exact List.mem_map_of_mem member
  obtain ⟨client, -, same⟩ := List.mem_map.mp listed
  rw [← same]
  rfl

/-- An insertion into the list in memory does what the poll loop does to its clients. -/
theorem insertSorted_holdsClients (holds : HoldsClients list contents sockList)
    {pointer : Pointer} {client : TcpsockDpl} (held : list.world.client pointer = some client) :
    (∀ longer, dplInsertSorted elementCompare sockList client = some longer →
      ∃ after contents, list.insertSorted ClientMemory.callbacks pointer false = some after ∧
        after.world = list.world ∧ HoldsClients after contents longer) ∧
    (dplInsertSorted elementCompare sockList client = none →
      list.insertSorted ClientMemory.callbacks pointer false = none) := by
  have hasSd := ClientMemory.sd_of_client held
  have compares : ComparesTo ClientMemory.callbacks list.world list.world.compareSd pointer
      contents := fun entry member =>
    ClientMemory.elementCompare_eq (by rw [hasSd]; rfl) (holds.live entry member)
  have copied : Dplist.copyIf ClientMemory.callbacks list.world pointer false =
      some (pointer, list.world) := rfl
  obtain ⟨runs, stuck⟩ := insertSorted_refines holds.represents copied compares
  have agree (entry : Address × Pointer) (other : TcpsockDpl)
      (same : list.world.Holds entry other) :
      list.world.compareSd pointer entry.2 = elementCompare client other := by
    unfold ClientMemory.compareSd elementCompare
    simp only [hasSd, ClientMemory.sd_of_client same, Option.some.injEq]
  have new : list.world.Holds (list.nodes.bound, pointer) client := held
  have related : Option.Rel (List.Forall₂ list.world.Holds)
      (dplInsertFrom (fun first second => list.world.compareSd first.2 second.2)
        (list.nodes.bound, pointer) true contents)
      (dplInsertFrom elementCompare client true sockList) :=
    dplInsertFrom_related new agree holds.clients true
  generalize done : dplInsertFrom _ _ true contents = result at related
  constructor
  · intro longer inserted
    rw [dplInsertSorted] at inserted
    rw [inserted] at related
    cases related with
    | some both =>
      obtain ⟨after, ran, world, represents⟩ := runs _ done
      exact ⟨after, _, ran, world, represents, world ▸ both⟩
  · intro failed
    rw [dplInsertSorted] at failed
    rw [failed] at related
    cases related
    exact stuck done

/-- A search in memory finds the node of the client that the search of the poll loop finds. -/
theorem getReferenceOfElement_holdsClients (holds : HoldsClients list contents sockList)
    {dummy : Pointer} {sd : Int} (asked : list.world.sd dummy = some sd) :
    list.getReferenceOfElement ClientMemory.callbacks dummy = some
      ((dplGetReferenceOfElement elementCompare sockList (sockDum sd)).bind fun node =>
        contents[node]?.map Prod.fst, list.world) := by
  have samePosition : Table.position (fun entry => list.world.sd entry.2) contents (some sd) =
      Table.position TcpsockDpl.sd sockList sd := by
    have inMemory := congrArg (List.findIdx? fun key => key = some sd) holds.map_sd
    rw [List.findIdx?_map, List.findIdx?_map] at inMemory
    refine inMemory.trans (congrArg (List.findIdx? · sockList) (funext fun client => ?_))
    exact decide_eq_decide.mpr (Option.some_inj)
  have searched : dplGetReferenceOfElement elementCompare sockList (sockDum sd) =
      Table.position TcpsockDpl.sd sockList sd :=
    dplGetReferenceOfElement_eq_position elementCompare_eq_zero_iff sockList (sockDum sd)
  rw [getReferenceOfElement_clients holds.represents holds.live asked, searched, ← samePosition]
  cases found : Table.position (fun entry => list.world.sd entry.2) contents (some sd) with
  | none => rw [Table.lookup_of_position_none found]; rfl
  | some node => rw [← Table.getElem?_position found]; rfl

end Refinement

end SensorGateway
