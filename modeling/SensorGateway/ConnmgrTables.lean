/-
This file relates the two tables of connections, the array `poll_fd` and the list
`sock_list`, over whole runs in which `accept` keeps its promise: a connection that is
registered has been accepted, and its descriptor was not open.

In every state the descriptors that are polled are distinct and each belongs to one
element of the list. A stop request drops the entry of a connection and leaves its
element in the list with its socket open, so the tables agree, and every dropped
connection is closed, exactly as long as no iteration serves a stop request.
-/

import SensorGateway.ConnmgrScan

namespace SensorGateway

variable {config : Config} {layout : Layout}

/-- The descriptors in `poll_fd[1..counter]`. -/
def Connmgr.polledDescriptors (manager : Connmgr config) : List Int :=
  manager.pollFd.tail.map PollFd.fd

/-- The `sd` fields of the elements of `sock_list`. -/
def Connmgr.listedDescriptors (manager : Connmgr config) : List Int :=
  manager.sockList.map TcpsockDpl.sd

/-- The promise of `accept`: it has succeeded, the socket is bound, and its descriptor is not
one that the connection manager has open. -/
structure AcceptInput.Fresh (input : AcceptInput) (manager : Connmgr config) : Prop where
  succeeded : input.status = .noError
  bound : input.socket.cookie = magicCookie
  unlisted : input.socket.sd ∉ manager.listedDescriptors
  unpolled : input.socket.sd ∉ manager.pollFd.map PollFd.fd

/-- A connection that the transition registers keeps the promise of `accept`. -/
def Lawful (transition : Runs.Transition (Connmgr config) ConnmgrEvent) : Prop :=
  ∀ outcome input, transition.event = .poll outcome input →
    transition.before.counter < transition.after.counter → input.Fresh transition.before

instance (input : AcceptInput) (manager : Connmgr config) : Decidable (input.Fresh manager) :=
  decidable_of_iff (input.status = .noError ∧ input.socket.cookie = magicCookie ∧
      input.socket.sd ∉ manager.listedDescriptors ∧
      input.socket.sd ∉ manager.pollFd.map PollFd.fd)
    ⟨fun ⟨succeeded, bound, unlisted, unpolled⟩ => ⟨succeeded, bound, unlisted, unpolled⟩,
      fun ⟨succeeded, bound, unlisted, unpolled⟩ => ⟨succeeded, bound, unlisted, unpolled⟩⟩

instance : DecidablePred (@Lawful config)
  | ⟨before, .poll outcome input, after⟩ =>
    decidable_of_iff (before.counter < after.counter → input.Fresh before)
      ⟨fun holds _ _ same => by cases same; exact holds, fun lawful => lawful outcome input rfl⟩
  | ⟨_, .scan _, _⟩ => .isTrue fun _ _ same => nomatch same
  | ⟨_, .endScan _, _⟩ => .isTrue fun _ _ same => nomatch same
  | ⟨_, .store _, _⟩ => .isTrue fun _ _ same => nomatch same

/-- The tables of a run in which `accept` keeps its promise. -/
structure Connmgr.Tabled (manager : Connmgr config) : Prop where
  sized : manager.Sized
  covered : Table.Covered manager.polledDescriptors manager.listedDescriptors
  bound : ∀ client ∈ manager.sockList,
    client.sockPt.cookie = magicCookie ∧ client.sockPt.sd = client.sd

theorem start_tabled (listener : Int) (revents : BitVec 16) (pollRet tcpConnRet : Int)
    (uninitialised : SensorData config.layout) :
    (Connmgr.start listener revents pollRet tcpConnRet uninitialised).Tabled where
  sized := start_sized listener revents pollRet tcpConnRet uninitialised
  covered := Table.covered_nil
  bound _ member := absurd member List.not_mem_nil

/-! ### The poll and the accept -/

theorem map_fd_polledEntries (pollFd : List PollFd) (revents : Nat → BitVec 16) :
    (polledEntries pollFd revents).map PollFd.fd = pollFd.map PollFd.fd := by
  refine List.ext_getElem? fun index => ?_
  rw [List.getElem?_map, getElem?_polledEntries, Option.map_map, List.getElem?_map]
  rfl

theorem tail_map_fd_polledEntries (pollFd : List PollFd) (revents : Nat → BitVec 16) :
    (polledEntries pollFd revents).tail.map PollFd.fd = pollFd.tail.map PollFd.fd := by
  rw [List.map_tail, map_fd_polledEntries, List.map_tail]

/-- The descriptor of a fresh connection. -/
theorem AcceptInput.Fresh.sd_acceptedClient {input : AcceptInput} {manager : Connmgr config}
    (fresh : input.Fresh manager) : (acceptedClient input).sd = input.socket.sd := by
  show tcpGetSd input.socket input.memory.fd = input.socket.sd
  rw [tcpGetSd, if_neg (not_not.mpr fresh.bound)]

/-- A registered connection comes last in `poll_fd`. -/
theorem tail_registered {manager : Connmgr config} (sized : manager.Sized)
    (revents : Nat → BitVec 16) (memory entry : PollFd) :
    ((polledEntries manager.pollFd revents ++ [memory]).set (manager.counter + 1) entry).tail =
      (polledEntries manager.pollFd revents).tail ++ [entry] := by
  rw [set_append_acceptedEntry sized.length]
  refine List.tail_append_of_ne_nil fun empty => ?_
  have size := length_polledEntries manager.pollFd revents
  rw [empty, sized.length] at size
  exact nomatch size

/-- Registering a fresh connection adds its descriptor to both tables. -/
theorem Connmgr.Tabled.poll {manager after : Connmgr config} (tabled : manager.Tabled)
    {outcome : Poll} {input : AcceptInput} (taken : manager.poll outcome input = some after)
    (lawful : manager.counter < after.counter → input.Fresh manager) : after.Tabled := by
  have sized := tabled.sized.poll taken
  have kept (revents : Nat → BitVec 16) :
      Table.Covered ((polledEntries manager.pollFd revents).tail.map PollFd.fd)
        manager.listedDescriptors := by
    rw [tail_map_fd_polledEntries]
    exact tabled.covered
  obtain ⟨-, polled⟩ := poll_polled taken
  cases polled with
  | failed result => exact ⟨sized, tabled.covered, tabled.bound⟩
  | finished revents result nothing unconnected => exact ⟨sized, kept revents, tabled.bound⟩
  | skipped revents result unready => exact ⟨sized, kept revents, tabled.bound⟩
  | refused revents result ready => exact ⟨sized, kept revents, tabled.bound⟩
  | registered revents result ready sockList inserted =>
    have fresh := lawful (Nat.lt_succ_self _)
    have added := dplInsertSorted_perm inserted
    refine ⟨sized, ?_, fun client member => ?_⟩
    · have new : (acceptedClient input).sd ∉ manager.listedDescriptors := by
        rw [fresh.sd_acceptedClient]
        exact fresh.unlisted
      have larger := (kept revents).add new (added.map TcpsockDpl.sd)
      unfold Connmgr.polledDescriptors
      dsimp only
      rw [tail_registered tabled.sized, List.map_append]
      exact larger
    · rcases List.mem_cons.mp (added.mem_iff.mp member) with rfl | old
      · exact ⟨fresh.bound, fresh.sd_acceptedClient.symm⟩
      · exact tabled.bound client old

/-! ### The scan -/

/-- Dropping the entry of an iteration takes one descriptor out of `poll_fd[1..counter]`. -/
theorem tail_perm_of_getElem? {pollFd : List PollFd} {i : Nat} {entry : PollFd}
    (positive : 1 ≤ i) (present : pollFd[i]? = some entry) :
    pollFd.tail.Perm (entry :: (pollFd.eraseIdx i).tail) := by
  obtain ⟨index, rfl⟩ := Nat.exists_eq_add_of_le' positive
  cases pollFd with
  | nil => exact absurd present (by simp)
  | cons listener tail =>
    rw [List.getElem?_cons_succ] at present
    exact Table.eraseIdx_perm present

theorem mem_tail_of_getElem? {pollFd : List PollFd} {i : Nat} {entry : PollFd}
    (positive : 1 ≤ i) (present : pollFd[i]? = some entry) : entry ∈ pollFd.tail :=
  (tail_perm_of_getElem? positive present).mem_iff.mpr List.mem_cons_self

section Iteration

variable {manager : Connmgr config} {input : ScanInput} {examination : Examination config}
  (examined : Examined manager input examination)

include examined

/-- The client that an iteration leaves behind sits at its node, under its descriptor. -/
theorem Examined.node_of_visit_client {client : TcpsockDpl}
    (found : examination.visit.client = some client) :
    ∃ before node, examination.client = some before ∧ examination.node = some node ∧
      manager.sockList[node]? = some before ∧ client.sd = before.sd ∧
      client.sockPt = before.sockPt ∧ client.sd = examination.entry.fd ∧
      (manager.examined examination).sockList = manager.sockList.set node client := by
  have present : examination.client ≠ none := fun missing =>
    nomatch found.symm.trans (examined.visited.client_none missing)
  obtain ⟨before, foundBefore⟩ := Option.ne_none_iff_exists'.mp present
  obtain ⟨node, place, holds, sd⟩ := examined.node_of_client foundBefore
  obtain ⟨after, foundAfter, sameSd, sameSocket⟩ := examined.visited.client_some foundBefore
  obtain rfl := Option.some.inj (found.symm.trans foundAfter)
  refine ⟨before, node, foundBefore, place, holds, sameSd, sameSocket, sameSd.trans sd, ?_⟩
  unfold Connmgr.examined writeElement
  dsimp only
  rw [place, found]

omit examined in
/-- Without a client the first part of an iteration leaves the list as it was. -/
theorem sockList_examined_of_none (missing : examination.visit.client = none) :
    (manager.examined examination).sockList = manager.sockList := by
  unfold Connmgr.examined writeElement
  dsimp only
  rw [missing]
  cases examination.node <;> rfl

/-- The first part of an iteration leaves the list of descriptors as it was. -/
theorem Examined.listedDescriptors :
    (manager.examined examination).listedDescriptors = manager.listedDescriptors := by
  cases found : examination.visit.client with
  | none => exact congrArg (List.map TcpsockDpl.sd) (sockList_examined_of_none found)
  | some client =>
    obtain ⟨before, node, -, -, holds, sameSd, -, -, written⟩ := examined.node_of_visit_client found
    unfold Connmgr.listedDescriptors
    rw [written]
    exact Table.map_set_of_key_eq holds sameSd

/-- The clients after an iteration are old ones, and the one it has examined. -/
theorem Examined.mem_sockList_scanned {after : Connmgr config}
    (scanned : Scanned manager input examination after) {client : TcpsockDpl}
    (member : client ∈ after.sockList) :
    client ∈ manager.sockList ∨ examination.visit.client = some client := by
  have visited (present : client ∈ (manager.examined examination).sockList) :
      client ∈ manager.sockList ∨ examination.visit.client = some client := by
    cases found : examination.visit.client with
    | none =>
      rw [sockList_examined_of_none found] at present
      exact Or.inl present
    | some other =>
      obtain ⟨before, node, -, -, -, -, -, -, written⟩ := examined.node_of_visit_client found
      rw [written] at present
      rcases List.mem_or_eq_of_mem_set present with old | rfl
      · exact Or.inl old
      · exact Or.inr rfl
  cases scanned with
  | kept lives => exact visited member
  | stopped other found wanted => exact visited member
  | closed other node found place different reason =>
    exact visited (List.mem_of_mem_eraseIdx member)
  | orphaned missing reason => exact visited member

theorem Examined.length_sockList :
    (manager.examined examination).sockList.length = manager.sockList.length := by
  have same := congrArg List.length examined.listedDescriptors
  unfold Connmgr.listedDescriptors at same
  rw [List.length_map, List.length_map] at same
  exact same

/-- An iteration leaves the sockets of the list and their descriptors as they were. -/
theorem Examined.sockets_scanned (Holds : Tcpsock → Int → Prop)
    (before : ∀ client ∈ manager.sockList, Holds client.sockPt client.sd)
    {after : Connmgr config} (scanned : Scanned manager input examination after) :
    ∀ client ∈ after.sockList, Holds client.sockPt client.sd := by
  intro client member
  rcases examined.mem_sockList_scanned scanned member with old | visited
  · exact before client old
  · obtain ⟨found, node, -, -, holds, sameSd, sameSocket, -, -⟩ :=
      examined.node_of_visit_client visited
    rw [sameSocket, sameSd]
    exact before found (List.mem_of_getElem? holds)

theorem Examined.polledDescriptors :
    (manager.examined examination).polledDescriptors = manager.polledDescriptors := by
  have same : (manager.pollFd.set examination.i examination.visit.entry).map PollFd.fd =
      manager.pollFd.map PollFd.fd :=
    Table.map_set_of_key_eq examined.entry examined.visited.entry_fd
  unfold Connmgr.polledDescriptors
  rw [List.map_tail, List.map_tail]
  exact congrArg List.tail same

/-- The client of the iteration is found, because its descriptor is listed. -/
theorem Examined.exists_client (tabled : manager.Tabled) :
    ∃ client, examination.client = some client := by
  have positive := tabled.sized.index _ examined.position
  have polled : examination.entry.fd ∈ manager.polledDescriptors :=
    List.mem_map_of_mem (mem_tail_of_getElem? positive examined.entry)
  have listed := tabled.covered.subset polled
  refine Option.ne_none_iff_exists'.mp fun missing => ?_
  rw [examined.client] at missing
  exact Table.lookup_eq_none_iff.mp missing listed

/-- Dropping the entry of an iteration removes its descriptor from those that are polled. -/
theorem Examined.polledDescriptors_perm (sized : manager.Sized) :
    manager.polledDescriptors.Perm (examination.entry.fd ::
      ((manager.pollFd.set examination.i examination.visit.entry).eraseIdx
        examination.i).tail.map PollFd.fd) := by
  rw [List.eraseIdx_set_eq]
  exact (tail_perm_of_getElem? (sized.index _ examined.position) examined.entry).map PollFd.fd

/-- The client of the iteration is found as the first part leaves it. -/
theorem Examined.clientOf_self {client : TcpsockDpl}
    (found : examination.visit.client = some client) :
    (manager.examined examination).clientOf examination.entry.fd = some client := by
  obtain ⟨before, node, -, place, -, -, -, sd, written⟩ := examined.node_of_visit_client found
  unfold Connmgr.clientOf
  rw [written]
  exact Table.lookup_set_position (examined.node.symm.trans place) sd

/-- The first part of an iteration does not touch the clients of other descriptors. -/
theorem Examined.clientOf_of_ne {fd : Int} (other : examination.entry.fd ≠ fd) :
    (manager.examined examination).clientOf fd = manager.clientOf fd := by
  cases found : examination.visit.client with
  | none =>
    unfold Connmgr.clientOf
    rw [sockList_examined_of_none found]
  | some client =>
    obtain ⟨before, node, -, -, holds, sameSd, -, sd, written⟩ :=
      examined.node_of_visit_client found
    unfold Connmgr.clientOf
    rw [written]
    refine Table.lookup_set_of_ne holds sameSd ?_
    rw [← sameSd, sd]
    exact other

/-- An iteration does not touch the clients of other descriptors. -/
theorem Examined.clientOf_scanned {after : Connmgr config} {fd : Int}
    (scanned : Scanned manager input examination after) (other : examination.entry.fd ≠ fd) :
    after.clientOf fd = manager.clientOf fd := by
  have same := examined.clientOf_of_ne other
  cases scanned with
  | kept lives => exact same
  | stopped client found wanted => exact same
  | closed client node found place different reason =>
    obtain ⟨before, otherNode, -, otherPlace, holds, -, -, sd, written⟩ :=
      examined.node_of_visit_client found
    obtain rfl := Option.some.inj (place.symm.trans otherPlace)
    have present : (manager.examined examination).sockList[node]? = some client := by
      rw [written, List.getElem?_set_self (List.getElem?_eq_some_iff.mp holds).1]
    rw [← same]
    exact Table.lookup_eraseIdx_of_ne present (sd.trans_ne other)
  | orphaned missing reason => exact same

end Iteration

/-- Entries before that of the iteration stay where they are. -/
theorem Scanned.getElem?_of_lt {manager after : Connmgr config} {input : ScanInput}
    {examination : Examination config} {index : Nat}
    (scanned : Scanned manager input examination after) (before : index < examination.i) :
    after.pollFd[index]? = manager.pollFd[index]? := by
  have set : (manager.pollFd.set examination.i examination.visit.entry)[index]? =
      manager.pollFd[index]? := List.getElem?_set_ne (Nat.ne_of_gt before)
  have erased : ((manager.pollFd.set examination.i examination.visit.entry).eraseIdx
      examination.i)[index]? = manager.pollFd[index]? := by
    rw [List.getElem?_eraseIdx_of_lt before, set]
  cases scanned with
  | kept lives => exact set
  | stopped client found wanted => exact erased
  | closed client node found place different reason => exact erased
  | orphaned missing reason => exact erased

/-- Two entries of connections have different descriptors. -/
theorem Connmgr.Tabled.fd_ne {manager : Connmgr config} (tabled : manager.Tabled)
    {first second : Nat} {entry other : PollFd} (firstPositive : 1 ≤ first)
    (secondPositive : 1 ≤ second) (different : first ≠ second)
    (atFirst : manager.pollFd[first]? = some entry)
    (atSecond : manager.pollFd[second]? = some other) : entry.fd ≠ other.fd := by
  have descriptor {index : Nat} {found : PollFd} (positive : 1 ≤ index)
      (present : manager.pollFd[index]? = some found) :
      manager.polledDescriptors[index - 1]? = some found.fd := by
    unfold Connmgr.polledDescriptors
    rw [List.getElem?_map, List.getElem?_tail, Nat.sub_add_cancel positive, present,
      Option.map_some]
  have firstAt := descriptor firstPositive atFirst
  have secondAt := descriptor secondPositive atSecond
  intro same
  rw [same] at firstAt
  have inside := (List.getElem?_eq_some_iff.mp firstAt).1
  have samePlace := (List.getElem?_inj inside tabled.covered.distinct).mp
    (firstAt.trans secondAt.symm)
  omega

/-- Whatever an iteration does, the polled descriptors stay distinct and listed. -/
theorem Connmgr.Tabled.scan {manager after : Connmgr config} (tabled : manager.Tabled)
    {input : ScanInput} (taken : manager.scan input = some after) : after.Tabled := by
  have sized := tabled.sized.scan taken
  obtain ⟨examination, answered, examined, scanned⟩ := scan_scanned tabled.sized taken
  have listed := examined.listedDescriptors
  have polled := examined.polledDescriptors
  have sockets := examined.sockets_scanned
    (fun socket sd => socket.cookie = magicCookie ∧ socket.sd = sd) tabled.bound scanned
  have removed := examined.polledDescriptors_perm tabled.sized
  cases scanned with
  | kept lives =>
    refine ⟨sized, ?_, sockets⟩
    show Table.Covered (manager.examined examination).polledDescriptors
      (manager.examined examination).listedDescriptors
    rw [polled, listed]
    exact tabled.covered
  | stopped client found wanted =>
    refine ⟨sized, ?_, sockets⟩
    show Table.Covered _ (manager.examined examination).listedDescriptors
    rw [listed]
    exact tabled.covered.forget removed
  | closed client node found place other reason =>
    obtain ⟨before, same, -, samePlace, holds, sameSd, -, sd, written⟩ :=
      examined.node_of_visit_client found
    obtain rfl := Option.some.inj (place.symm.trans samePlace)
    have present : (manager.examined examination).sockList[node]? = some client := by
      rw [written, List.getElem?_set_self (List.getElem?_eq_some_iff.mp holds).1]
    have removedSecond := (Table.eraseIdx_perm present).map TcpsockDpl.sd
    rw [List.map_cons, sd] at removedSecond
    have covered : Table.Covered manager.polledDescriptors
        ((manager.examined examination).sockList.map TcpsockDpl.sd) := by
      show Table.Covered _ (manager.examined examination).listedDescriptors
      rw [listed]
      exact tabled.covered
    exact ⟨sized, covered.remove removed removedSecond, sockets⟩
  | orphaned missing reason =>
    refine ⟨sized, ?_, sockets⟩
    show Table.Covered _ (manager.examined examination).listedDescriptors
    rw [listed]
    exact tabled.covered.forget removed

/-- Every lawful step keeps the tables. -/
theorem Connmgr.Tabled.step {manager after : Connmgr config} (tabled : manager.Tabled)
    {event : ConnmgrEvent} (taken : manager.step event = some after)
    (lawful : Lawful ⟨manager, event, after⟩) : after.Tabled := by
  cases event with
  | poll outcome input => exact tabled.poll taken (lawful outcome input rfl)
  | scan input => exact tabled.scan taken
  | endScan messageTime =>
    have sized := tabled.sized.step taken
    obtain ⟨-, rfl | rfl⟩ := endScan_ended taken
    · exact ⟨sized, tabled.covered, tabled.bound⟩
    · exact ⟨sized, tabled.covered, tabled.bound⟩
  | store id =>
    have sized := tabled.sized.step taken
    obtain rfl := Option.some.inj taken
    exact ⟨sized, tabled.covered, tabled.bound⟩

/-- The tables of every state that a lawful run reaches. -/
theorem tabled_of_complete {start last : Connmgr config} {events : List ConnmgrEvent}
    (tabled : start.Tabled)
    (lawful : ∀ transition ∈ Runs.transitions Connmgr.step start events, Lawful transition)
    (ran : Runs.complete Connmgr.step start events = some last) : last.Tabled :=
  Runs.invariant_of_complete Connmgr.Tabled Lawful tabled
    (fun _ _ _ before taken admitted => before.step taken admitted) lawful ran

/-! ### When the tables agree -/

/-- The descriptors of the entries that were dropped from `poll_fd`. -/
def droppedDescriptors (log : List (Action layout)) : List Int :=
  log.filterMap fun action =>
    match action with
    | .dropped entry _ => some entry.fd
    | _ => none

/-- The descriptors of the sockets that were passed to `tcp_close`. -/
def closedDescriptors (log : List (Action layout)) : List Int :=
  log.filterMap fun action =>
    match action with
    | .tcpClose socket => some socket.sd
    | _ => none

/-- The two tables have the same descriptors, each of them once, and the sockets that were
closed are those of the connections that were dropped, one by one. -/
structure Connmgr.Agrees (manager : Connmgr config) : Prop where
  tables : Table.Agree manager.polledDescriptors manager.listedDescriptors
  closed : closedDescriptors manager.log = droppedDescriptors manager.log

/-- The iteration serves a stop request. -/
def ServesStop (manager : Connmgr config) (input : ScanInput) : Prop :=
  ∃ examination client, manager.examine input = some examination ∧
    examination.visit.client = some client ∧ client.sensor = manager.connmgrSensorStopsig

instance (manager : Connmgr config) (input : ScanInput) : Decidable (ServesStop manager input) :=
  decidable_of_iff (∃ examination ∈ manager.examine input,
      ∃ client ∈ examination.visit.client, client.sensor = manager.connmgrSensorStopsig)
    ⟨fun ⟨examination, answered, client, found, wanted⟩ =>
        ⟨examination, client, answered, found, wanted⟩,
      fun ⟨examination, client, answered, found, wanted⟩ =>
        ⟨examination, answered, client, found, wanted⟩⟩

/-- Covered tables agree when there are as many connections as elements of the list. -/
theorem Connmgr.Tabled.agree_iff {manager : Connmgr config} (tabled : manager.Tabled) :
    Table.Agree manager.polledDescriptors manager.listedDescriptors ↔
      manager.counter = manager.sockList.length := by
  rw [tabled.covered.agree_iff]
  unfold Connmgr.polledDescriptors Connmgr.listedDescriptors
  rw [List.length_map, List.length_map, List.length_tail, tabled.sized.length,
    Nat.add_sub_cancel]

@[simp]
theorem droppedDescriptors_append (first second : List (Action layout)) :
    droppedDescriptors (first ++ second) =
      droppedDescriptors first ++ droppedDescriptors second := List.filterMap_append

@[simp]
theorem closedDescriptors_append (first second : List (Action layout)) :
    closedDescriptors (first ++ second) =
      closedDescriptors first ++ closedDescriptors second := List.filterMap_append

/-- The first part of an iteration neither drops nor closes a connection. -/
theorem Visited.descriptors_eq_nil {client : Option TcpsockDpl} {entry : PollFd}
    {data : SensorData config.layout} {input : ScanInput} {visit : Visit config}
    (visited : Visited client entry data input visit) :
    droppedDescriptors visit.actions = [] ∧ closedDescriptors visit.actions = [] :=
  ⟨visited.filterMap_eq_nil fun action kind => by cases kind <;> rfl,
    visited.filterMap_eq_nil fun action kind => by cases kind <;> rfl⟩

/-- The tables of a run without stop requests: there are as many connections as elements of
the list, and the connections dropped are those closed. -/
structure Connmgr.Balanced (manager : Connmgr config) : Prop where
  tabled : manager.Tabled
  count : manager.counter = manager.sockList.length
  closed : closedDescriptors manager.log = droppedDescriptors manager.log

theorem Connmgr.Balanced.agrees {manager : Connmgr config} (balanced : manager.Balanced) :
    manager.Agrees :=
  ⟨balanced.tabled.agree_iff.mpr balanced.count, balanced.closed⟩

/-- An iteration that serves a stop request takes an entry from `poll_fd` only. -/
theorem not_agrees_of_servesStop {manager after : Connmgr config} {input : ScanInput}
    (balanced : manager.Balanced) (taken : manager.scan input = some after)
    (stops : ServesStop manager input) : ¬ after.Agrees := by
  obtain ⟨answer, client, same, found, wanted⟩ := stops
  obtain ⟨examination, answered, examined, scanned⟩ :=
    scan_scanned balanced.tabled.sized taken
  obtain rfl := Option.some.inj (answered.symm.trans same)
  intro agrees
  have count := (balanced.tabled.scan taken).agree_iff.mp agrees.tables
  have positive : 1 ≤ manager.counter := by
    have first := balanced.tabled.sized.index _ examined.position
    have bound := examined.bound
    omega
  have listed := examined.length_sockList
  cases scanned with
  | kept lives => exact lives (Or.inl (Or.inl ⟨client, found, wanted⟩))
  | stopped other otherFound otherWanted =>
    have shorter : manager.counter - 1 = (manager.examined examination).sockList.length := count
    rw [listed, ← balanced.count] at shorter
    omega
  | closed other node otherFound place different reason =>
    obtain rfl := Option.some.inj (found.symm.trans otherFound)
    exact different wanted
  | orphaned missing reason => exact nomatch missing.symm.trans found

/-- An iteration that serves no stop request keeps the balance. -/
theorem Connmgr.Balanced.scan {manager after : Connmgr config} (balanced : manager.Balanced)
    {input : ScanInput} (taken : manager.scan input = some after)
    (noStop : ¬ ServesStop manager input) : after.Balanced := by
  have tabled := balanced.tabled.scan taken
  obtain ⟨examination, answered, examined, scanned⟩ :=
    scan_scanned balanced.tabled.sized taken
  obtain ⟨noDrop, noClose⟩ := examined.visited.descriptors_eq_nil
  have closed := balanced.closed
  have listed := examined.length_sockList
  have logged : closedDescriptors (manager.examined examination).log =
      droppedDescriptors (manager.examined examination).log := by
    unfold Connmgr.examined
    dsimp only
    rw [closedDescriptors_append, closedDescriptors_append, droppedDescriptors_append,
      droppedDescriptors_append, noDrop, noClose, closed]
    rfl
  cases scanned with
  | kept lives =>
    refine ⟨tabled, balanced.count.trans listed.symm, ?_⟩
    unfold Connmgr.keep
    dsimp only
    rw [closedDescriptors_append, droppedDescriptors_append, logged]
    rfl
  | stopped client found wanted =>
    exact absurd ⟨examination, client, answered, found, wanted⟩ noStop
  | closed client node found place other reason =>
    obtain ⟨before, same, foundBefore, samePlace, holds, sameSd, sameSocket, sd, written⟩ :=
      examined.node_of_visit_client found
    obtain rfl := Option.some.inj (place.symm.trans samePlace)
    have socket := (balanced.tabled.bound before (List.mem_of_getElem? holds)).2
    refine ⟨tabled, ?_, ?_⟩
    · show manager.counter - 1 = ((manager.examined examination).sockList.eraseIdx node).length
      have inside := (List.getElem?_eq_some_iff.mp holds).1
      rw [List.length_eraseIdx, listed, if_pos inside, balanced.count]
    · unfold Connmgr.drop Connmgr.close
      dsimp only
      rw [closedDescriptors_append, closedDescriptors_append, droppedDescriptors_append,
        droppedDescriptors_append, logged]
      have sameDescriptor : client.sockPt.sd = examination.visit.entry.fd := by
        rw [sameSocket, socket, ← sameSd, sd, examined.visited.entry_fd]
      show _ ++ [client.sockPt.sd] ++ [] = _ ++ [] ++ [examination.visit.entry.fd]
      rw [sameDescriptor, List.append_nil, List.append_nil]
  | orphaned missing reason =>
    obtain ⟨client, found⟩ := examined.exists_client balanced.tabled
    obtain ⟨visited, foundVisited, -⟩ := examined.visited.client_some found
    exact nomatch missing.symm.trans foundVisited

/-- The other steps keep the balance. -/
theorem Connmgr.Balanced.step {manager after : Connmgr config} (balanced : manager.Balanced)
    {event : ConnmgrEvent} (taken : manager.step event = some after)
    (lawful : Lawful ⟨manager, event, after⟩) (other : ∀ input, event ≠ .scan input) :
    after.Balanced := by
  have tabled := balanced.tabled.step taken lawful
  obtain ⟨rest, log, outside⟩ := log_of_not_scan taken other
  have noClose : closedDescriptors rest = [] := by
    refine List.filterMap_eq_nil_iff.mpr fun action member => ?_
    cases outside action member <;> rfl
  have noDrop : droppedDescriptors rest = [] := by
    refine List.filterMap_eq_nil_iff.mpr fun action member => ?_
    cases outside action member <;> rfl
  have closed : closedDescriptors after.log = droppedDescriptors after.log := by
    rw [log, closedDescriptors_append, droppedDescriptors_append, noClose, noDrop,
      balanced.closed]
  refine ⟨tabled, ?_, closed⟩
  cases event with
  | scan input => exact absurd rfl (other input)
  | store id =>
    obtain rfl := Option.some.inj taken
    exact balanced.count
  | endScan messageTime => obtain ⟨-, rfl | rfl⟩ := endScan_ended taken <;> exact balanced.count
  | poll outcome input =>
    obtain ⟨-, polled⟩ := poll_polled taken
    cases polled with
    | failed result => exact balanced.count
    | finished revents result nothing unconnected => exact balanced.count
    | skipped revents result unready => exact balanced.count
    | refused revents result ready => exact balanced.count
    | registered revents result ready sockList inserted =>
      show manager.counter + 1 = sockList.length
      rw [(dplInsertSorted_perm inserted).length_eq, List.length_cons, balanced.count]

/-- In a run in which `accept` keeps its promise, the two tables agree and every dropped
connection has been closed at the end of every iteration of the scan, exactly when no
iteration serves a stop request. -/
theorem tables_agree_iff (listener : Int) (revents : BitVec 16) (pollRet tcpConnRet : Int)
    (uninitialised : SensorData config.layout) (events : List ConnmgrEvent)
    (lawful : ∀ transition ∈ Runs.transitions Connmgr.step
      (Connmgr.start listener revents pollRet tcpConnRet uninitialised) events,
        Lawful transition) :
    (∀ transition ∈ Runs.transitions Connmgr.step
        (Connmgr.start listener revents pollRet tcpConnRet uninitialised) events,
      ∀ input, transition.event = .scan input → transition.after.Agrees) ↔
    ∀ transition ∈ Runs.transitions Connmgr.step
        (Connmgr.start listener revents pollRet tcpConnRet uninitialised) events,
      ∀ input, transition.event = .scan input → ¬ ServesStop transition.before input := by
  have initial : (Connmgr.start listener revents pollRet tcpConnRet uninitialised).Balanced :=
    ⟨start_tabled listener revents pollRet tcpConnRet uninitialised, rfl, rfl⟩
  refine Runs.all_iff_of_guard Connmgr.Balanced Lawful initial ?_ ?_ lawful
  · intro transition balanced taken transitionLawful condition
    by_cases scanning : ∃ input, transition.event = .scan input
    · obtain ⟨input, scan⟩ := scanning
      have stepped := taken
      rw [scan] at stepped
      have after := balanced.scan stepped (condition input scan)
      exact ⟨after, fun _ _ => after.agrees⟩
    · have notScan : ∀ input, transition.event ≠ .scan input := fun input same =>
        scanning ⟨input, same⟩
      exact ⟨balanced.step taken transitionLawful notScan, fun input same =>
        absurd same (notScan input)⟩
  · intro transition balanced taken transitionLawful violated agrees
    push Not at violated
    obtain ⟨input, scan, stops⟩ := violated
    have stepped := taken
    rw [scan] at stepped
    exact not_agrees_of_servesStop balanced stepped stops (agrees input scan)

/-- A sensor connects and sends a reading; the theorem applies to this run. -/
def oneReading : List ConnmgrEvent :=
  [.poll (.returns [pollin]) (accepted 4 0 0), .endScan 0,
    .poll (.returns [0, pollin]) (accepted 5 0 0),
    .scan (scanAt 1 [5, 0] [0, 0, 0, 0, 0, 0, 0, 0] [0, 0, 0, 0, 0, 0, 0, 0])]

theorem tables_agree_oneReading :
    ∃ transition ∈ Runs.transitions Connmgr.step gatewayStart oneReading,
      transition.after.counter = 1 ∧ transition.after.Agrees := by
  have agrees := (tables_agree_iff 3 0 0 (-1) zeroData oneReading (by decide)).mpr (by decide)
  have inside : 3 < (Runs.transitions Connmgr.step gatewayStart oneReading).length := by decide
  exact ⟨_, List.getElem_mem inside, rfl, agrees _ (List.getElem_mem inside) _ rfl⟩

/-- The data manager asks to stop sensor 5: its connection leaves `poll_fd` but stays in
`sock_list`, and its socket stays open. -/
theorem tables_disagree_after_stop :
    ¬ ∀ events : List ConnmgrEvent,
      (∀ transition ∈ Runs.transitions Connmgr.step gatewayStart events, Lawful transition) →
      ∀ transition ∈ Runs.transitions Connmgr.step gatewayStart events,
        ∀ input, transition.event = .scan input → transition.after.Agrees := by
  intro holds
  have counted (events : List ConnmgrEvent)
      (lawful : ∀ transition ∈ Runs.transitions Connmgr.step gatewayStart events,
        Lawful transition) :
      ∀ transition ∈ Runs.transitions Connmgr.step gatewayStart events,
        ∀ input, transition.event = .scan input →
          transition.after.polledDescriptors.length =
            transition.after.listedDescriptors.length := fun transition member input scan =>
    (holds events lawful transition member input scan).tables.same.length_eq
  refine absurd (counted (oneReading ++ [.endScan 1, .store 5,
    .poll (.returns [0, pollin]) (accepted 5 0 0),
    .scan (scanAt 2 [5, 0] [0, 0, 0, 0, 0, 0, 0, 0] [0, 0, 0, 0, 0, 0, 0, 0])]) (by decide)) ?_
  decide

end SensorGateway
