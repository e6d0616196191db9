/-
This file puts the connection manager on top of the socket library and the kernel: the
result of an accept and the descriptor of a new connection are no longer inputs but come
from `tcp_wait_for_connection`, and `tcp_close` gives descriptors back. Of the library
it keeps what the connection manager can see, the descriptors; what the calls in memory
do to them is proved below.

As long as no failed accept is registered, the tables of the connection manager are
consistent, because the kernel hands out a descriptor only when nobody has it. A
connection that is dropped because its sensor is what the stop slot holds keeps its
descriptor: it stays open and stays in `sock_list`, and the connection manager never looks
at it again. The slot may hold a stop request, or 0 like the sensor of a silent client.
-/

import SensorGateway.ConnmgrReceives
import SensorGateway.SocketOpens

namespace SensorGateway

variable {config : Config}

/-! ### The calls, seen from the connection manager -/

/-- What `tcp_wait_for_connection` returns on a bound socket. -/
def WaitInput.status (input : WaitInput) : TcpStatus :=
  if ¬ input.malloc then .memoryError
  else if ¬ input.accept then .sockopError
  else if ¬ input.mallocAddress then .memoryError
  else .noError

/-- The open descriptors after `tcp_wait_for_connection`. -/
def WaitInput.descriptors (kernel : Kernel) (descriptors : Finset Int) (input : WaitInput) :
    Finset Int :=
  if input.malloc ∧ input.accept then insert (kernel.allocate descriptors) descriptors
  else descriptors

/-- The open descriptors after `tcp_close`. -/
def closeDescriptor (shutdown : Bool) (descriptors : Finset Int) (socket : Tcpsock) :
    Finset Int :=
  if socket.cookie = magicCookie ∧ 0 ≤ socket.sd ∧ shutdown then descriptors.erase socket.sd
  else descriptors

theorem giveUp_status {host : Host} {s : Address} {status : TcpStatus} {outcome : SocketOutcome}
    (ran : host.giveUp s status = some outcome) : outcome.status = status := by
  obtain ⟨sockets, -, built⟩ := Option.bind_eq_some_iff.mp ran
  rw [← Option.some.inj built]

theorem bindTo_status {host : Host} {s : Address} {peer : PeerAddress} {malloc : Bool}
    {outcome : SocketOutcome} (ran : host.bindTo s peer malloc = some outcome) :
    outcome.status = if ¬ malloc then .memoryError else .noError := by
  cases malloc with
  | false => exact giveUp_status ran
  | true =>
    obtain ⟨assigned, -, built⟩ := Option.bind_eq_some_iff.mp ran
    rw [← Option.some.inj built]
    rfl

/-- The call in memory returns this status. -/
theorem tcpWaitForConnection_status {kernel : Kernel} {host : Host} {listener : Address}
    {listening : SocketStruct} (live : host.sockets.read listener = some listening)
    (bound : listening.cookie = magicCookie) {input : WaitInput} {outcome : SocketOutcome}
    (ran : tcpWaitForConnection kernel host (some listener) input = some outcome) :
    outcome.status = input.status := by
  simp only [tcpWaitForConnection, live, Option.bind_eq_bind, Option.bind_some] at ran
  rw [if_neg (not_not.mpr bound)] at ran
  obtain ⟨malloc, accept, peer, mallocAddress⟩ := input
  cases malloc with
  | false =>
    rw [← Option.some.inj ran]
    rfl
  | true =>
    cases accept with
    | false => exact giveUp_status ran
    | true =>
      obtain ⟨obtained, -, rest⟩ := Option.bind_eq_some_iff.mp ran
      exact bindTo_status rest

/-- The call in memory returns this status, leaves these descriptors, and a new socket has the new
one. -/
theorem tcpWaitForConnection_service {kernel : Kernel} {host : Host} {listener : Address}
    {listening : SocketStruct} (live : host.sockets.read listener = some listening)
    (bound : listening.cookie = magicCookie) (input : WaitInput) :
    ∃ outcome, tcpWaitForConnection kernel host (some listener) input = some outcome ∧
      outcome.host.descriptors = input.descriptors kernel host.descriptors ∧
      outcome.status = input.status ∧
      (input.status = .noError → ∃ s cell, outcome.assigned = some (some s) ∧
        outcome.host.sockets.read s = some cell ∧
        cell.value = { cookie := magicCookie, sd := kernel.allocate host.descriptors }) := by
  obtain ⟨outcome, ran, opens⟩ := tcpWaitForConnection_opens kernel live bound input
  have status := tcpWaitForConnection_status live bound ran
  have noError : ∀ status ∈ openErrors, status ≠ .noError := by decide
  refine ⟨outcome, ran, ?_⟩
  rw [← status]
  cases opens with
  | refused nothing failed kept same descriptors =>
    refine ⟨by rw [descriptors, WaitInput.descriptors, if_neg nothing], rfl, fun succeeded => ?_⟩
    exact absurd succeeded (noError _ failed)
  | lost obtained stopped failed kept same descriptors =>
    refine ⟨by rw [descriptors, WaitInput.descriptors, if_pos obtained], rfl, fun succeeded => ?_⟩
    exact absurd succeeded (noError _ failed)
  | opened obtained completed succeeded s cell assigned fresh sockets bound sd descriptors
      address =>
    refine ⟨by rw [descriptors, WaitInput.descriptors, if_pos obtained], rfl, fun _ => ?_⟩
    refine ⟨s, cell, assigned, by rw [sockets, Function.update_self], ?_⟩
    rw [SocketStruct.value, bound, sd]

/-- The call in memory leaves these descriptors. -/
theorem tcpClose_service {host : Host} {s : Address} {cell : SocketStruct}
    (live : host.sockets.read s = some cell) (bound : cell.cookie = magicCookie)
    (nonneg : 0 ≤ cell.sd)
    (owned : ∀ ip, cell.ipAddr = some ip → ∃ text, host.addresses.read ip = some text)
    (shutdown : Bool) :
    ∃ outcome, tcpClose host (some s) shutdown = some outcome ∧
      outcome.host.descriptors = closeDescriptor shutdown host.descriptors cell.value := by
  obtain ⟨after, ran, -, -, descriptors⟩ := tcpClose_of_live live bound nonneg owned shutdown
  refine ⟨_, ran, ?_⟩
  rw [descriptors]
  simp only [closeDescriptor, SocketStruct.value, bound, nonneg, true_and]

theorem WaitInput.obtains_of_noError {input : WaitInput} (succeeded : input.status = .noError) :
    input.malloc ∧ input.accept := by
  obtain ⟨malloc, accept, peer, mallocAddress⟩ := input
  cases malloc with
  | false => exact TcpStatus.noConfusion succeeded
  | true =>
    cases accept with
    | false => exact TcpStatus.noConfusion succeeded
    | true => exact ⟨rfl, rfl⟩

/-! ### The service -/

/-- What the accept part gets from the call: `client->sock_pt` refers to the new socket, or to
whatever it referred to before. -/
def WaitInput.accepted (kernel : Kernel) (descriptors : Finset Int) (wait : WaitInput)
    (unset : Tcpsock) (memory : PollFd) (activeTime messageTime : Int) : AcceptInput where
  status := wait.status
  socket := if wait.status = .noError then
    { cookie := magicCookie, sd := kernel.allocate descriptors } else unset
  memory := memory
  activeTime := activeTime
  messageTime := messageTime

theorem WaitInput.accepted_socket {wait : WaitInput} (succeeded : wait.status = .noError)
    (kernel : Kernel) (descriptors : Finset Int) (unset : Tcpsock) (memory : PollFd)
    (activeTime messageTime : Int) :
    (wait.accepted kernel descriptors unset memory activeTime messageTime).socket =
      { cookie := magicCookie, sd := kernel.allocate descriptors } := if_pos succeeded

/-- The connection manager and the descriptors that its process has open. -/
structure Service (config : Config) where
  manager : Connmgr config
  descriptors : Finset Int

/-- A step of the connection manager with what the system calls do, or a stop request. A poll has
the socket that an uninitialised `sock_pt` refers to. -/
inductive ServiceEvent where
  | poll (outcome : Poll) (wait : WaitInput) (unset : Tcpsock) (memory : PollFd)
    (activeTime messageTime : Int)
  | scan (input : ScanInput) (shutdown : Bool)
  | endScan (messageTime : Int)
  | store (id : BitVec 16)

/-- The event of the connection manager: an accept yields what the call yields. -/
def ServiceEvent.plain (kernel : Kernel) (descriptors : Finset Int) : ServiceEvent → ConnmgrEvent
  | .poll outcome wait unset memory activeTime messageTime =>
    .poll outcome (wait.accepted kernel descriptors unset memory activeTime messageTime)
  | .scan input _ => .scan input
  | .endScan messageTime => .endScan messageTime
  | .store id => .store id

/-- The body waits for a connection after this poll. -/
def Connmgr.WaitsAfter (manager : Connmgr config) : Poll → Prop
  | .failed => False
  | .ready revents => manager.Accepts revents

instance (manager : Connmgr config) (outcome : Poll) : Decidable (manager.WaitsAfter outcome) :=
  match outcome with
  | .failed => .isFalse id
  | .ready revents => inferInstanceAs (Decidable (manager.Accepts revents))

/-- The sockets that were passed to `tcp_close`. -/
def closedSockets {layout : Layout} (log : List (Action layout)) : List Tcpsock :=
  log.filterMap fun action =>
    match action with
    | .tcpClose socket => some socket
    | _ => none

/-- The open descriptors after a step. -/
def Service.descriptorsAfter (kernel : Kernel) (service : Service config) (event : ServiceEvent)
    (after : Connmgr config) : Finset Int :=
  match event with
  | .poll outcome wait _ _ _ _ =>
    if service.manager.WaitsAfter outcome then wait.descriptors kernel service.descriptors
    else service.descriptors
  | .scan _ shutdown =>
    (closedSockets (newActions service.manager after)).foldl (closeDescriptor shutdown)
      service.descriptors
  | .endScan _ => service.descriptors
  | .store _ => service.descriptors

/-- Answer one event. -/
def Service.step (kernel : Kernel) (service : Service config) (event : ServiceEvent) :
    Option (Service config) :=
  (service.manager.step (event.plain kernel service.descriptors)).map fun manager =>
    { manager, descriptors := service.descriptorsAfter kernel event manager }

/-- The descriptors that a step leaves open without a client: of an accept that failed late, or that
succeeded and was taken for a failure because `tcp_conn_ret` holds its result, or of a close that
could not shut down. -/
def Service.loses (kernel : Kernel) (service : Service config) (event : ServiceEvent)
    (after : Connmgr config) : List Int :=
  match event with
  | .poll outcome wait _ _ _ _ =>
    if (service.manager.WaitsAfter outcome ∧ wait.malloc ∧ wait.accept) ∧
        ¬ service.manager.counter < after.counter then
      [kernel.allocate service.descriptors]
    else []
  | .scan _ shutdown =>
    if shutdown then []
    else (closedSockets (newActions service.manager after)).map Tcpsock.sd
  | .endScan _ => []
  | .store _ => []

/-- The descriptor of a client that the stop test drops: its sensor is what the slot holds, a stop
request or 0 on both sides. -/
def Service.strands (service : Service config) (event : ServiceEvent) : List Int :=
  match event with
  | .poll _ _ _ _ _ _ => []
  | .scan input _ =>
    if ServesStop service.manager input then
      ((service.manager.examine input).map fun examination => examination.entry.fd).toList
    else []
  | .endScan _ => []
  | .store _ => []

/-- A connection that the transition registers has been accepted. -/
def Succeeds (transition : Runs.Transition (Service config) ServiceEvent) : Prop :=
  ∀ outcome wait unset memory activeTime messageTime,
    transition.event = .poll outcome wait unset memory activeTime messageTime →
    transition.before.manager.counter < transition.after.manager.counter →
    wait.status = .noError

instance : DecidablePred (@Succeeds config)
  | ⟨before, .poll outcome wait unset memory activeTime messageTime, after⟩ =>
    decidable_of_iff (before.manager.counter < after.manager.counter → wait.status = .noError)
      ⟨fun holds _ _ _ _ _ _ same => by cases same; exact holds, fun all =>
        all outcome wait unset memory activeTime messageTime rfl⟩
  | ⟨_, .scan _ _, _⟩ => .isTrue fun _ _ _ _ _ _ same => nomatch same
  | ⟨_, .endScan _, _⟩ => .isTrue fun _ _ _ _ _ _ same => nomatch same
  | ⟨_, .store _, _⟩ => .isTrue fun _ _ _ _ _ _ same => nomatch same

/-- The descriptor of a connection that the transition registers is in neither table, whatever an
uninitialised `sock_pt` refers to. -/
def RegistersNew (kernel : Kernel)
    (transition : Runs.Transition (Service config) ServiceEvent) : Prop :=
  ∀ outcome wait unset memory activeTime messageTime,
    transition.event = .poll outcome wait unset memory activeTime messageTime →
    transition.before.manager.counter < transition.after.manager.counter →
    ∀ (other : Tcpsock) (fd : Int),
      fd = (acceptedClient (wait.accepted kernel transition.before.descriptors other memory
        activeTime messageTime)).sd →
      fd ∉ transition.before.manager.listedDescriptors ∧
        fd ∉ transition.before.manager.pollFd.map PollFd.fd

/-! ### What the steps do to the descriptors -/

@[simp]
theorem closedSockets_append {layout : Layout} (first second : List (Action layout)) :
    closedSockets (first ++ second) = closedSockets first ++ closedSockets second :=
  List.filterMap_append

/-- A poll registers at most one connection, the accepted one. -/
theorem poll_tables {manager after : Connmgr config} (sized : manager.Sized) {outcome : Poll}
    {input : AcceptInput} (taken : manager.poll outcome input = some after) :
    after.pollFd[0]?.map PollFd.fd = manager.pollFd[0]?.map PollFd.fd ∧
      (after.counter = manager.counter + 1 ∧ manager.WaitsAfter outcome ∧
          after.listedDescriptors.Perm
            ((acceptedClient input).sd :: manager.listedDescriptors) ∧
          after.polledDescriptors =
            manager.polledDescriptors ++ [(acceptedClient input).sd] ∨
        after.counter = manager.counter ∧
          after.listedDescriptors = manager.listedDescriptors ∧
          after.polledDescriptors = manager.polledDescriptors) := by
  have same (revents : Nat → BitVec 16) :
      (polledEntries manager.pollFd revents)[0]?.map PollFd.fd =
        manager.pollFd[0]?.map PollFd.fd := by
    rw [← List.getElem?_map, map_fd_polledEntries, List.getElem?_map]
  have tail (revents : Nat → BitVec 16) := tail_map_fd_polledEntries manager.pollFd revents
  obtain ⟨-, polled⟩ := poll_polled taken
  cases polled with
  | failed result => exact ⟨rfl, Or.inr ⟨rfl, rfl, rfl⟩⟩
  | finished revents result nothing unconnected =>
    exact ⟨same revents, Or.inr ⟨rfl, rfl, tail revents⟩⟩
  | skipped revents result unready => exact ⟨same revents, Or.inr ⟨rfl, rfl, tail revents⟩⟩
  | refused revents result ready => exact ⟨same revents, Or.inr ⟨rfl, rfl, tail revents⟩⟩
  | registered revents result ready sockList inserted =>
    refine ⟨?_, Or.inl ⟨rfl, ?_, (dplInsertSorted_perm inserted).map TcpsockDpl.sd, ?_⟩⟩
    · dsimp only
      rw [set_append_acceptedEntry sized.length, List.getElem?_append_left]
      · exact same revents
      · rw [length_polledEntries, sized.length]
        exact Nat.succ_pos _
    · rw [result]
      exact ready
    · unfold Connmgr.polledDescriptors
      dsimp only
      rw [tail_registered sized, List.map_append, tail]
      rfl

/-- What an iteration does to the tables, and which sockets it closes. -/
inductive ScanTables (manager : Connmgr config) (input : ScanInput) (after : Connmgr config) :
    Prop
  | kept (noStop : ¬ ServesStop manager input) (counter : after.counter = manager.counter)
    (listed : after.listedDescriptors = manager.listedDescriptors)
    (polled : after.polledDescriptors = manager.polledDescriptors)
    (closed : closedSockets (newActions manager after) = [])
  | stopped (stops : ServesStop manager input) (counter : after.counter + 1 = manager.counter)
    (listed : after.listedDescriptors = manager.listedDescriptors) (fd : Int)
    (examined : ∀ examination, manager.examine input = some examination →
      examination.entry.fd = fd)
    (polled : manager.polledDescriptors.Perm (fd :: after.polledDescriptors))
    (closed : closedSockets (newActions manager after) = [])
  | closed (noStop : ¬ ServesStop manager input) (counter : after.counter + 1 = manager.counter)
    (socket : Tcpsock) (bound : socket.cookie = magicCookie)
    (listed : manager.listedDescriptors.Perm (socket.sd :: after.listedDescriptors))
    (polled : manager.polledDescriptors.Perm (socket.sd :: after.polledDescriptors))
    (closed : closedSockets (newActions manager after) = [socket])

theorem scan_tables {manager after : Connmgr config} (tabled : manager.Tabled) {input : ScanInput}
    (taken : manager.scan input = some after) : ScanTables manager input after := by
  obtain ⟨examination, answered, examined, scanned⟩ := scan_scanned tabled.sized taken
  have silent : closedSockets examination.visit.actions = [] :=
    examined.visited.filterMap_eq_nil fun action kind => by cases kind <;> rfl
  have listed := examined.listedDescriptors
  have removed := examined.polledDescriptors_perm tabled.sized
  have counter : manager.counter - 1 + 1 = manager.counter := by
    have first := tabled.sized.index _ examined.position
    have bound := examined.bound
    omega
  have logged (tail : List (Action config.layout)) (log : after.log =
      manager.log ++ examination.visit.actions ++ [.mutexLock .connmgr] ++ tail) :
      closedSockets (newActions manager after) = closedSockets tail := by
    rw [List.append_assoc, List.append_assoc] at log
    rw [newActions_of_append log, closedSockets_append, silent]
    rfl
  have unserved (different : ∀ client, examination.visit.client = some client →
      client.sensor ≠ manager.connmgrSensorStopsig) : ¬ ServesStop manager input := by
    rintro ⟨other, client, same, found, wanted⟩
    obtain rfl := Option.some.inj (answered.symm.trans same)
    exact different client found wanted
  cases scanned with
  | kept lives =>
    refine .kept (unserved fun client found wanted => lives ?_) rfl listed
      examined.polledDescriptors (logged [.mutexUnlock .connmgr] rfl)
    exact Or.inl (Or.inl ⟨client, found, wanted⟩)
  | stopped client found wanted =>
    refine .stopped ⟨examination, client, answered, found, wanted⟩ counter listed
      examination.entry.fd (fun other same => ?_) removed (logged _ (List.append_assoc _ _ _))
    rw [Option.some.inj (answered.symm.trans same)]
  | orphaned missing reason =>
    obtain ⟨client, found⟩ := examined.exists_client tabled
    obtain ⟨visited, foundVisited, -⟩ := examined.visited.client_some found
    exact nomatch missing.symm.trans foundVisited
  | closed client node found place other reason =>
    obtain ⟨before, otherNode, -, otherPlace, holds, sameSd, sameSocket, sd, written⟩ :=
      examined.node_of_visit_client found
    obtain rfl := Option.some.inj (place.symm.trans otherPlace)
    obtain ⟨bound, socketSd⟩ := tabled.bound before (List.mem_of_getElem? holds)
    have sameFd : client.sockPt.sd = client.sd := by rw [sameSocket, socketSd, sameSd]
    refine .closed (unserved fun client' found' wanted => ?_) counter client.sockPt ?_ ?_ ?_
      (logged _ (List.append_assoc _ _ _))
    · exact other (Option.some.inj (found.symm.trans found') ▸ wanted)
    · rw [sameSocket, bound]
    · have present : (manager.examined examination).sockList[node]? = some client := by
        rw [written, List.getElem?_set_self (List.getElem?_eq_some_iff.mp holds).1]
      have gone := (Table.eraseIdx_perm present).map TcpsockDpl.sd
      rw [List.map_cons] at gone
      rw [sameFd, ← listed]
      exact gone
    · rw [sameFd, sd]
      exact removed

/-! ### What holds of the descriptors -/

/-- The tables are consistent, and the open descriptors are those from before the poll loop, those
of the clients and the lost ones. -/
structure Service.Holding (initial : Finset Int) (lost : List Int) (service : Service config) :
    Prop where
  tabled : service.manager.Tabled
  listener : ∀ fd ∈ service.manager.pollFd[0]?.map PollFd.fd, fd ∈ initial
  open_iff : ∀ sd, sd ∈ service.descriptors ↔
    sd ∈ initial ∨ sd ∈ service.manager.listedDescriptors ∨ sd ∈ lost
  apart : ∀ sd ∈ service.manager.listedDescriptors, 0 ≤ sd ∧ sd ∉ initial ∧ sd ∉ lost
  lostApart : ∀ sd ∈ lost, sd ∉ initial
  lostOnce : lost.Nodup

section Holding

variable {kernel : Kernel} {initial : Finset Int} {lost : List Int} {service next : Service config}

theorem Service.Holding.allocate_new (holding : service.Holding initial lost) (kernel : Kernel) :
    kernel.allocate service.descriptors ∉ initial ∧
      kernel.allocate service.descriptors ∉ service.manager.listedDescriptors ∧
        kernel.allocate service.descriptors ∉ lost := by
  have new := kernel.fresh service.descriptors
  rw [holding.open_iff, not_or, not_or] at new
  exact new

/-- No descriptor that the connection manager polls is handed out again. -/
theorem Service.Holding.allocate_unpolled (holding : service.Holding initial lost)
    (kernel : Kernel) :
    kernel.allocate service.descriptors ∉ service.manager.pollFd.map PollFd.fd := by
  obtain ⟨notInitial, notListed, -⟩ := holding.allocate_new kernel
  have listener := holding.listener
  have polled := holding.tabled.covered.subset
  unfold Connmgr.polledDescriptors at polled
  cases entries : service.manager.pollFd with
  | nil => exact List.not_mem_nil
  | cons head tail =>
    rw [entries] at listener polled
    rw [List.map_cons, List.mem_cons, not_or]
    exact ⟨fun same => notInitial (same ▸ listener head.fd rfl), fun member =>
      notListed (polled member)⟩

/-- The descriptors of the clients and of the kernel after a new client. -/
theorem Service.Holding.add (holding : service.Holding initial lost)
    (tabled : next.manager.Tabled)
    (listener : next.manager.pollFd[0]?.map PollFd.fd = service.manager.pollFd[0]?.map PollFd.fd)
    (listed : next.manager.listedDescriptors.Perm
      (kernel.allocate service.descriptors :: service.manager.listedDescriptors))
    (descriptors : next.descriptors =
      insert (kernel.allocate service.descriptors) service.descriptors) :
    next.Holding initial lost := by
  obtain ⟨notInitial, notListed, notLost⟩ := holding.allocate_new kernel
  exact {
    tabled
    listener := listener ▸ holding.listener
    open_iff := fun sd => by
      rw [descriptors, Finset.mem_insert, holding.open_iff, listed.mem_iff, List.mem_cons]
      tauto
    apart := fun sd member => by
      rcases List.mem_cons.mp (listed.mem_iff.mp member) with rfl | earlier
      · exact ⟨kernel.nonneg _, notInitial, notLost⟩
      · exact holding.apart sd earlier
    lostApart := holding.lostApart
    lostOnce := holding.lostOnce }

/-- The descriptors after one was opened for nobody. -/
theorem Service.Holding.lose (holding : service.Holding initial lost)
    (tabled : next.manager.Tabled)
    (listener : next.manager.pollFd[0]?.map PollFd.fd = service.manager.pollFd[0]?.map PollFd.fd)
    (listed : next.manager.listedDescriptors = service.manager.listedDescriptors)
    (descriptors : next.descriptors =
      insert (kernel.allocate service.descriptors) service.descriptors) :
    next.Holding initial (lost ++ [kernel.allocate service.descriptors]) := by
  obtain ⟨notInitial, notListed, notLost⟩ := holding.allocate_new kernel
  exact {
    tabled
    listener := listener ▸ holding.listener
    open_iff := fun sd => by
      rw [descriptors, Finset.mem_insert, holding.open_iff, listed, List.mem_append,
        List.mem_singleton]
      tauto
    apart := fun sd member => by
      rw [listed] at member
      obtain ⟨nonneg, apartInitial, apartLost⟩ := holding.apart sd member
      refine ⟨nonneg, apartInitial, fun now => ?_⟩
      rcases List.mem_append.mp now with earlier | last
      · exact apartLost earlier
      · exact notListed (List.mem_singleton.mp last ▸ member)
    lostApart := List.forall_mem_append.mpr
      ⟨holding.lostApart, List.forall_mem_singleton.mpr notInitial⟩
    lostOnce := (List.perm_append_singleton _ lost).nodup_iff.mpr
      (List.nodup_cons.mpr ⟨notLost, holding.lostOnce⟩) }

/-- The descriptors after a client was closed. -/
theorem Service.Holding.close (holding : service.Holding initial lost)
    (tabled : next.manager.Tabled)
    (listener : next.manager.pollFd[0]?.map PollFd.fd = service.manager.pollFd[0]?.map PollFd.fd)
    {socket : Tcpsock} (bound : socket.cookie = magicCookie)
    (removed : service.manager.listedDescriptors.Perm
      (socket.sd :: next.manager.listedDescriptors)) {shutdown : Bool}
    (descriptors : next.descriptors = closeDescriptor shutdown service.descriptors socket) :
    next.Holding initial (lost ++ if shutdown then [] else [socket.sd]) := by
  have member := removed.mem_iff.mpr List.mem_cons_self
  obtain ⟨nonneg, notInitial, notLost⟩ := holding.apart socket.sd member
  have gone := (List.nodup_cons.mp
    (removed.nodup_iff.mp holding.tabled.covered.distinctSecond)).1
  have listed_iff (sd : Int) : sd ∈ service.manager.listedDescriptors ↔
      sd = socket.sd ∨ sd ∈ next.manager.listedDescriptors := by
    rw [removed.mem_iff, List.mem_cons]
  have apart (sd : Int) (still : sd ∈ next.manager.listedDescriptors) :=
    holding.apart sd ((listed_iff sd).mpr (Or.inr still))
  cases shutdown with
  | true =>
    rw [closeDescriptor, if_pos ⟨bound, nonneg, rfl⟩] at descriptors
    rw [if_pos rfl, List.append_nil]
    refine {
      tabled
      listener := listener ▸ holding.listener
      open_iff := fun sd => ?_
      apart
      lostApart := holding.lostApart
      lostOnce := holding.lostOnce }
    rw [descriptors, Finset.mem_erase, holding.open_iff, listed_iff]
    constructor
    · rintro ⟨different, inInitial | (same | stays) | inLost⟩
      · exact Or.inl inInitial
      · exact absurd same different
      · exact Or.inr (Or.inl stays)
      · exact Or.inr (Or.inr inLost)
    · rintro (inInitial | stays | inLost)
      · exact ⟨fun same => notInitial (same ▸ inInitial), Or.inl inInitial⟩
      · exact ⟨fun same => gone (same ▸ stays), Or.inr (Or.inl (Or.inr stays))⟩
      · exact ⟨fun same => notLost (same ▸ inLost), Or.inr (Or.inr inLost)⟩
  | false =>
    rw [closeDescriptor, if_neg fun all => Bool.false_ne_true all.2.2] at descriptors
    rw [if_neg Bool.false_ne_true]
    refine {
      tabled
      listener := listener ▸ holding.listener
      open_iff := fun sd => ?_
      apart := fun sd still => ?_
      lostApart := List.forall_mem_append.mpr
        ⟨holding.lostApart, List.forall_mem_singleton.mpr notInitial⟩
      lostOnce := (List.perm_append_singleton _ lost).nodup_iff.mpr
        (List.nodup_cons.mpr ⟨notLost, holding.lostOnce⟩) }
    · rw [descriptors, holding.open_iff, listed_iff, List.mem_append, List.mem_singleton]
      tauto
    · obtain ⟨stillNonneg, apartInitial, apartLost⟩ := apart sd still
      refine ⟨stillNonneg, apartInitial, fun now => ?_⟩
      rcases List.mem_append.mp now with earlier | last
      · exact apartLost earlier
      · exact gone (List.mem_singleton.mp last ▸ still)

/-- The descriptors after a step that neither opens nor closes any. -/
theorem Service.Holding.keep (holding : service.Holding initial lost)
    (tabled : next.manager.Tabled)
    (listener : next.manager.pollFd[0]?.map PollFd.fd = service.manager.pollFd[0]?.map PollFd.fd)
    (listed : next.manager.listedDescriptors = service.manager.listedDescriptors)
    (descriptors : next.descriptors = service.descriptors) : next.Holding initial lost where
  tabled
  listener := listener ▸ holding.listener
  open_iff sd := by rw [descriptors, listed, holding.open_iff]
  apart := listed ▸ holding.apart
  lostApart := holding.lostApart
  lostOnce := holding.lostOnce

/-- A step keeps the accounts, and the accept in it keeps its promise. -/
theorem Service.Holding.step (holding : service.Holding initial lost) {event : ServiceEvent}
    (taken : service.step kernel event = some next)
    (succeeds : Succeeds ⟨service, event, next⟩) :
    Lawful ⟨service.manager, event.plain kernel service.descriptors, next.manager⟩ ∧
      next.Holding initial (lost ++ service.loses kernel event next.manager) := by
  obtain ⟨manager, stepped, rfl⟩ := Option.map_eq_some_iff.mp taken
  have lawful : Lawful ⟨service.manager, event.plain kernel service.descriptors, manager⟩ := by
    intro outcome input same registered
    cases event with
    | poll polled wait unset memory activeTime messageTime =>
      obtain ⟨rfl, rfl⟩ := ConnmgrEvent.poll.inj same
      have succeeded := succeeds _ _ _ _ _ _ rfl registered
      have socket := WaitInput.accepted_socket succeeded kernel service.descriptors unset memory
        activeTime messageTime
      exact {
        succeeded
        bound := congrArg Tcpsock.cookie socket
        unlisted := by
          rw [socket]
          exact (holding.allocate_new kernel).2.1
        unpolled := by
          rw [socket]
          exact holding.allocate_unpolled kernel }
    | scan input shutdown => exact ConnmgrEvent.noConfusion same
    | endScan messageTime => exact ConnmgrEvent.noConfusion same
    | store id => exact ConnmgrEvent.noConfusion same
  have tabled := holding.tabled.step stepped lawful
  refine ⟨lawful, ?_⟩
  cases event with
  | poll outcome wait unset memory activeTime messageTime =>
    obtain ⟨listener, moved⟩ := poll_tables holding.tabled.sized stepped
    rcases moved with ⟨counter, waits, listed, -⟩ | ⟨counter, listed, -⟩
    · have registered : service.manager.counter < manager.counter := by omega
      have succeeded := succeeds _ _ _ _ _ _ rfl registered
      have obtained := WaitInput.obtains_of_noError succeeded
      have fresh := lawful _ _ rfl registered
      rw [fresh.sd_acceptedClient, WaitInput.accepted_socket succeeded] at listed
      have none_ : service.loses kernel (.poll outcome wait unset memory activeTime
          messageTime) manager = [] := if_neg fun both => both.2 registered
      rw [none_, List.append_nil]
      refine holding.add tabled listener listed ?_
      show (if service.manager.WaitsAfter outcome then _ else _) = _
      rw [if_pos waits, WaitInput.descriptors, if_pos obtained]
    · have unregistered : ¬ service.manager.counter < manager.counter := by omega
      by_cases waits : service.manager.WaitsAfter outcome ∧ wait.malloc ∧ wait.accept
      · have lost_ : service.loses kernel (.poll outcome wait unset memory activeTime
            messageTime) manager = [kernel.allocate service.descriptors] :=
          if_pos ⟨waits, unregistered⟩
        rw [lost_]
        refine holding.lose tabled listener listed ?_
        show (if service.manager.WaitsAfter outcome then _ else _) = _
        rw [if_pos waits.1, WaitInput.descriptors, if_pos waits.2]
      · have none_ : service.loses kernel (.poll outcome wait unset memory activeTime
            messageTime) manager = [] := if_neg fun both => waits both.1
        rw [none_, List.append_nil]
        refine holding.keep tabled listener listed ?_
        show (if service.manager.WaitsAfter outcome then _ else _) = _
        split_ifs with waited
        · rw [WaitInput.descriptors, if_neg fun both => waits ⟨waited, both⟩]
        · rfl
  | scan input shutdown =>
    have listener : manager.pollFd[0]?.map PollFd.fd =
        service.manager.pollFd[0]?.map PollFd.fd := by
      obtain ⟨examination, -, examined, scanned⟩ := scan_scanned holding.tabled.sized stepped
      rw [scanned.getElem?_of_lt (holding.tabled.sized.index _ examined.position)]
    have quiet (nothing : closedSockets (newActions service.manager manager) = [])
        (listed : manager.listedDescriptors = service.manager.listedDescriptors) :
        Service.Holding initial (lost ++ service.loses kernel (.scan input shutdown) manager)
          ⟨manager, service.descriptorsAfter kernel (.scan input shutdown) manager⟩ := by
      have none_ : service.loses kernel (.scan input shutdown) manager = [] := by
        show (if shutdown then _ else _) = _
        rw [nothing, List.map_nil, ite_self]
      rw [none_, List.append_nil]
      refine holding.keep tabled listener listed ?_
      show (closedSockets _).foldl _ _ = _
      rw [nothing, List.foldl_nil]
    cases scan_tables holding.tabled stepped with
    | kept noStop counter listed polled closed => exact quiet closed listed
    | stopped stops counter listed fd examined polled closed => exact quiet closed listed
    | closed noStop counter socket bound listed polled closed =>
      have lost_ : service.loses kernel (.scan input shutdown) manager =
          if shutdown then [] else [socket.sd] := by
        show (if shutdown then _ else _) = _
        rw [closed, List.map_singleton]
      rw [lost_]
      refine holding.close tabled listener bound listed ?_
      show (closedSockets _).foldl _ _ = _
      rw [closed, List.foldl_cons, List.foldl_nil]
  | endScan messageTime =>
    rw [Service.loses, List.append_nil]
    obtain ⟨-, rfl | rfl⟩ := endScan_ended stepped
    · exact holding.keep tabled rfl rfl rfl
    · exact holding.keep tabled rfl rfl rfl
  | store id =>
    rw [Service.loses, List.append_nil]
    obtain rfl := Option.some.inj stepped
    exact holding.keep tabled rfl rfl rfl

/-- A step moves the client of a stop request from the polled to the stranded descriptors. -/
theorem Service.Holding.strand (holding : service.Holding initial lost) {event : ServiceEvent}
    (taken : service.step kernel event = some next)
    (succeeds : Succeeds ⟨service, event, next⟩) {stranded : List Int}
    (parted : service.manager.listedDescriptors.Perm
      (service.manager.polledDescriptors ++ stranded)) :
    next.manager.listedDescriptors.Perm
      (next.manager.polledDescriptors ++ (stranded ++ service.strands event)) := by
  obtain ⟨manager, stepped, rfl⟩ := Option.map_eq_some_iff.mp taken
  cases event with
  | poll outcome wait unset memory activeTime messageTime =>
    rw [Service.strands, List.append_nil]
    obtain ⟨-, ⟨counter, -, listed, polled⟩ | ⟨-, listed, polled⟩⟩ :=
      poll_tables holding.tabled.sized stepped
    · refine listed.trans ?_
      dsimp only
      rw [polled, List.append_assoc, List.singleton_append]
      exact (parted.cons _).trans List.perm_middle.symm
    · dsimp only
      rw [listed, polled]
      exact parted
  | scan input shutdown =>
    rw [Service.strands]
    cases scan_tables holding.tabled stepped with
    | kept noStop counter listed polled closed =>
      rw [if_neg noStop, List.append_nil]
      dsimp only
      rw [listed, polled]
      exact parted
    | stopped stops counter listed fd examined polled closed =>
      rw [if_pos stops]
      obtain ⟨examination, client, answered, -⟩ := stops
      rw [answered, Option.map_some, examined examination answered, Option.toList_some]
      dsimp only
      rw [listed]
      refine parted.trans ((polled.append_right stranded).trans ?_)
      rw [← List.append_assoc]
      exact (List.perm_append_singleton fd _).symm
    | closed noStop counter socket bound listed polled closed =>
      rw [if_neg noStop, List.append_nil]
      exact (listed.symm.trans (parted.trans (polled.append_right stranded))).cons_inv
  | endScan messageTime =>
    rw [Service.strands, List.append_nil]
    obtain ⟨-, rfl | rfl⟩ := endScan_ended stepped <;> exact parted
  | store id =>
    rw [Service.strands, List.append_nil]
    obtain rfl := Option.some.inj stepped
    exact parted

end Holding

/-! ### Whole runs -/

/-- The transition of the connection manager in a transition of the service. -/
def managerTransition (kernel : Kernel)
    (transition : Runs.Transition (Service config) ServiceEvent) :
    Runs.Transition (Connmgr config) ConnmgrEvent where
  before := transition.before.manager
  event := transition.event.plain kernel transition.before.descriptors
  after := transition.after.manager

theorem Connmgr.Sized.serviceStep {kernel : Kernel} {service next : Service config}
    (sized : service.manager.Sized) {event : ServiceEvent}
    (taken : service.step kernel event = some next) : next.manager.Sized := by
  obtain ⟨manager, stepped, rfl⟩ := Option.map_eq_some_iff.mp taken
  exact sized.step stepped

section Registering

variable {kernel : Kernel} {transition : Runs.Transition (Service config) ServiceEvent}

/-- A failed accept that is registered may have any descriptor, such as the listening one. -/
theorem succeeds_of_registersNew (sized : transition.before.manager.Sized)
    (registersNew : RegistersNew kernel transition) : Succeeds transition := by
  intro outcome wait unset memory activeTime messageTime same registered
  by_contra failed
  have first : 0 < transition.before.manager.pollFd.length := by
    rw [sized.length]
    exact Nat.succ_pos _
  have apart := registersNew outcome wait unset memory activeTime messageTime same registered
    { cookie := magicCookie, sd := (transition.before.manager.pollFd[0]).fd } _ rfl
  refine apart.2 (List.mem_map.mpr ⟨_, List.getElem_mem first, ?_⟩)
  simp only [acceptedClient, WaitInput.accepted, if_neg failed, tcpGetSd, ne_eq,
    not_true_eq_false, if_false]

/-- An accept that succeeds does not depend on what `sock_pt` referred to. -/
theorem registersNew_of_succeeds (lawful : Lawful (managerTransition kernel transition))
    (succeeds : Succeeds transition) : RegistersNew kernel transition := by
  intro outcome wait unset memory activeTime messageTime same registered other fd descriptor
  have succeeded := succeeds outcome wait unset memory activeTime messageTime same registered
  have event : (managerTransition kernel transition).event = .poll outcome
      (wait.accepted kernel transition.before.descriptors unset memory activeTime
        messageTime) := by
    rw [managerTransition, same]
    rfl
  have fresh := lawful _ _ event registered
  have same : wait.accepted kernel transition.before.descriptors other memory activeTime
      messageTime = wait.accepted kernel transition.before.descriptors unset memory activeTime
        messageTime := by
    simp only [WaitInput.accepted, if_pos succeeded]
  rw [descriptor, same, fresh.sd_acceptedClient]
  exact ⟨fresh.unlisted, fresh.unpolled⟩

end Registering

/-- The descriptors that a run leaves open without a client. -/
def lostDescriptors (kernel : Kernel)
    (run : List (Runs.Transition (Service config) ServiceEvent)) : List Int :=
  run.flatMap fun transition =>
    transition.before.loses kernel transition.event transition.after.manager

/-- The descriptors of the clients that the stop test has dropped in a run. -/
def strandedDescriptors (run : List (Runs.Transition (Service config) ServiceEvent)) :
    List Int :=
  run.flatMap fun transition => transition.before.strands transition.event

/-- The service before the poll loop. -/
def Service.start (descriptors : Finset Int) (listener : Int) (revents : BitVec 16)
    (pollRet tcpConnRet : Int) (uninitialised : SensorData config.layout) : Service config where
  manager := Connmgr.start listener revents pollRet tcpConnRet uninitialised
  descriptors

theorem Service.start_holding {descriptors : Finset Int} {listener : Int}
    (listens : listener ∈ descriptors) (revents : BitVec 16) (pollRet tcpConnRet : Int)
    (uninitialised : SensorData config.layout) :
    (Service.start descriptors listener revents pollRet tcpConnRet uninitialised).Holding
      descriptors [] where
  tabled := start_tabled listener revents pollRet tcpConnRet uninitialised
  listener fd first := Option.some.inj first ▸ listens
  open_iff sd := by simp [Service.start, Connmgr.start, Connmgr.listedDescriptors]
  apart sd member := absurd member List.not_mem_nil
  lostApart sd member := absurd member List.not_mem_nil
  lostOnce := List.nodup_nil

/-- The accounts of a run that begins with some. -/
theorem Service.Holding.run (kernel : Kernel) {initial : Finset Int} (start : Service config)
    (events : List ServiceEvent) :
    ∀ earlier stranded, start.Holding initial earlier →
      start.manager.listedDescriptors.Perm (start.manager.polledDescriptors ++ stranded) →
      (∀ transition ∈ Runs.transitions (Service.step kernel) start events,
        Succeeds transition) →
      (∀ transition ∈ Runs.transitions (Service.step kernel) start events,
          Lawful (managerTransition kernel transition)) ∧
        (Runs.final (Service.step kernel) start events).Holding initial
          (earlier ++ lostDescriptors kernel
            (Runs.transitions (Service.step kernel) start events)) ∧
        (Runs.final (Service.step kernel) start events).manager.listedDescriptors.Perm
          ((Runs.final (Service.step kernel) start events).manager.polledDescriptors ++
            (stranded ++ strandedDescriptors
              (Runs.transitions (Service.step kernel) start events))) := by
  refine Runs.run_induction (fun state earlier stranded holding parted _ => ?_)
    (fun state event next rest last taken inductionHypothesis earlier stranded holding parted
      succeeds => ?_) start events
  · refine ⟨fun transition member => absurd member List.not_mem_nil, ?_, ?_⟩
    · rw [lostDescriptors, List.flatMap_nil, List.append_nil]
      exact holding
    · rw [strandedDescriptors, List.flatMap_nil, List.append_nil]
      exact parted
  · have first := succeeds _ List.mem_cons_self
    obtain ⟨lawful, held⟩ := holding.step taken first
    have moved := holding.strand taken first parted
    obtain ⟨lawfulRest, heldLast, partedLast⟩ := inductionHypothesis _ _ held moved
      fun transition member => succeeds transition (List.mem_cons_of_mem _ member)
    refine ⟨List.forall_mem_cons.mpr ⟨lawful, lawfulRest⟩, ?_, ?_⟩
    · rw [lostDescriptors, List.flatMap_cons, ← List.append_assoc]
      exact heldLast
    · rw [strandedDescriptors, List.flatMap_cons, ← List.append_assoc stranded]
      exact partedLast

theorem Service.Holding.polled_length {initial : Finset Int} {lost : List Int}
    {service : Service config} (holding : service.Holding initial lost) :
    service.manager.polledDescriptors.length = service.manager.counter := by
  rw [Connmgr.polledDescriptors, List.length_map, List.length_tail,
    holding.tabled.sized.length, Nat.add_sub_cancel]

/-- The descriptors of the polled clients, the stranded and the lost ones account for every
descriptor opened. -/
theorem Service.Holding.card {initial : Finset Int} {lost stranded : List Int}
    {service : Service config} (holding : service.Holding initial lost)
    (parted : service.manager.listedDescriptors.Perm
      (service.manager.polledDescriptors ++ stranded)) :
    service.descriptors.card =
      initial.card + (service.manager.counter + stranded.length + lost.length) := by
  have distinct : (service.manager.polledDescriptors ++ stranded ++ lost).Nodup := by
    refine List.Nodup.append (parted.nodup_iff.mp holding.tabled.covered.distinctSecond)
      holding.lostOnce fun sd member inLost => ?_
    exact (holding.apart sd (parted.mem_iff.mpr member)).2.2 inLost
  have disjoint : Disjoint initial
      (service.manager.polledDescriptors ++ stranded ++ lost).toFinset := by
    refine Finset.disjoint_left.mpr fun sd inInitial member => ?_
    rcases List.mem_append.mp (List.mem_toFinset.mp member) with client | inLost
    · exact (holding.apart sd (parted.mem_iff.mpr client)).2.1 inInitial
    · exact holding.lostApart sd inLost inInitial
  have all : service.descriptors =
      initial ∪ (service.manager.polledDescriptors ++ stranded ++ lost).toFinset := by
    refine Finset.ext fun sd => ?_
    rw [holding.open_iff, Finset.mem_union, List.mem_toFinset, List.mem_append,
      parted.mem_iff]
  rw [all, Finset.card_union_of_disjoint disjoint, List.toFinset_card_of_nodup distinct,
    List.length_append, List.length_append, holding.polled_length]

section Runs

variable (kernel : Kernel) {descriptors : Finset Int} {listener : Int} (revents : BitVec 16)
  (pollRet tcpConnRet : Int) (uninitialised : SensorData config.layout)
  (events : List ServiceEvent)

/-- The descriptors of new connections are in neither table, in every run, exactly when no failed
accept is registered. Then `accept` keeps its promise, the tables are consistent, and the open
descriptors are those from before the poll loop, those of the clients, and the lost ones. -/
theorem service_accounts (listens : listener ∈ descriptors) :
    ((∀ transition ∈ Runs.transitions (Service.step kernel)
          (Service.start descriptors listener revents pollRet tcpConnRet uninitialised) events,
        RegistersNew kernel transition) ↔
      ∀ transition ∈ Runs.transitions (Service.step kernel)
          (Service.start descriptors listener revents pollRet tcpConnRet uninitialised) events,
        Succeeds transition) ∧
    ((∀ transition ∈ Runs.transitions (Service.step kernel)
          (Service.start descriptors listener revents pollRet tcpConnRet uninitialised) events,
        Succeeds transition) →
      (∀ transition ∈ Runs.transitions (Service.step kernel)
          (Service.start descriptors listener revents pollRet tcpConnRet uninitialised) events,
        Lawful (managerTransition kernel transition)) ∧
      (Runs.final (Service.step kernel)
        (Service.start descriptors listener revents pollRet tcpConnRet uninitialised)
        events).Holding descriptors (lostDescriptors kernel (Runs.transitions
          (Service.step kernel)
          (Service.start descriptors listener revents pollRet tcpConnRet uninitialised)
          events))) := by
  have accounts := Service.Holding.run kernel
    (Service.start descriptors listener revents pollRet tcpConnRet uninitialised) events [] []
    (Service.start_holding listens revents pollRet tcpConnRet uninitialised) (List.Perm.refl _)
  refine ⟨⟨fun registersNew transition member => ?_, fun succeeds transition member => ?_⟩,
    fun succeeds => ⟨(accounts succeeds).1, (accounts succeeds).2.1⟩⟩
  · have sized := Runs.invariant_of_transitions (fun service => service.manager.Sized)
      (fun _ => True) (start_sized listener revents pollRet tcpConnRet uninitialised)
      (fun _ _ _ before taken _ => before.serviceStep taken) (fun _ _ => trivial)
      transition member
    exact succeeds_of_registersNew sized.1 (registersNew transition member)
  · exact registersNew_of_succeeds ((accounts succeeds).1 transition member)
      (succeeds transition member)

/-- A connection whose calls all succeed. -/
def connects : WaitInput where
  malloc := true
  accept := true
  remoteAddress := { text := ['1', '2', '7', '.', '0', '.', '0', '.', '1'], port := 40000 }
  mallocAddress := true

/-- A poll that reports an event of the listening socket only, before a connection. -/
def connection (time : Int) : ServiceEvent :=
  .poll (.returns [pollin]) connects { cookie := 0, sd := 0 }
    { fd := 0, events := 0, revents := 0 } time time

/-- A poll that reports data of the first client. -/
def dataReady (time : Int) : ServiceEvent :=
  .poll (.returns [0, pollin]) connects { cookie := 0, sd := 0 }
    { fd := 0, events := 0, revents := 0 } time time

/-- A reading of sensor 5 arrives. -/
def readingOfFive (time : Int) : ServiceEvent :=
  .scan (scanAt time [5, 0] [0, 0, 0, 0, 0, 0, 0, 0] [0, 0, 0, 0, 0, 0, 0, 0]) true

/-- A sensor connects and sends a reading, the data manager asks to stop it, and another sensor
connects. -/
def stoppedThenConnected : List ServiceEvent :=
  [connection 0, .endScan 0, dataReady 0, readingOfFive 1, .endScan 1, .store 5, dataReady 1,
    readingOfFive 2, .endScan 2, connection 2]

/-- The service of a process with the standard streams and the listening socket. -/
def serviceStart : Service gatewayConfig := Service.start {0, 1, 2, 3} 3 0 0 (-1) zeroData

theorem service_accounts_stoppedThenConnected :
    (Runs.final (Service.step .lowest) serviceStart stoppedThenConnected).Holding {0, 1, 2, 3}
      (lostDescriptors .lowest
        (Runs.transitions (Service.step .lowest) serviceStart stoppedThenConnected)) :=
  ((service_accounts .lowest 0 0 (-1) zeroData stoppedThenConnected (by decide)).2
    (by decide)).2

/-- A client that the stop test drops keeps its descriptor: the descriptors of the clients are
the polled ones and the stranded ones, every stranded descriptor is open and not polled, and
together with the lost ones they are all that the poll loop has opened. -/
theorem stopped_clients_stranded (listens : listener ∈ descriptors)
    (succeeds : ∀ transition ∈ Runs.transitions (Service.step kernel)
        (Service.start descriptors listener revents pollRet tcpConnRet uninitialised) events,
      Succeeds transition)
    {run : List (Runs.Transition (Service config) ServiceEvent)} {last : Service config}
    (ran : run = Runs.transitions (Service.step kernel)
      (Service.start descriptors listener revents pollRet tcpConnRet uninitialised) events)
    (ends : last = Runs.final (Service.step kernel)
      (Service.start descriptors listener revents pollRet tcpConnRet uninitialised) events) :
    last.manager.listedDescriptors.Perm
        (last.manager.polledDescriptors ++ strandedDescriptors run) ∧
      (∀ sd ∈ strandedDescriptors run,
        sd ∈ last.descriptors ∧ sd ∉ last.manager.polledDescriptors) ∧
      last.descriptors.card = descriptors.card + (last.manager.counter +
        (strandedDescriptors run).length + (lostDescriptors kernel run).length) := by
  obtain ⟨-, holding, parted⟩ := Service.Holding.run kernel
    (Service.start descriptors listener revents pollRet tcpConnRet uninitialised) events [] []
    (Service.start_holding listens revents pollRet tcpConnRet uninitialised) (List.Perm.refl _)
    succeeds
  rw [← ran, ← ends] at holding parted
  refine ⟨parted, fun sd member => ⟨?_, fun polled => ?_⟩, holding.card parted⟩
  · rw [holding.open_iff, parted.mem_iff]
    exact Or.inr (Or.inl (List.mem_append_right _ member))
  · have distinct := parted.nodup_iff.mp holding.tabled.covered.distinctSecond
    exact List.disjoint_of_nodup_append distinct polled member

/-- Descriptor 4 of the stopped sensor stays open next to descriptor 5 of the other one. -/
theorem stopped_clients_stranded_stoppedThenConnected :
    4 ∈ (Runs.final (Service.step .lowest) serviceStart stoppedThenConnected).descriptors ∧
      4 ∉ (Runs.final (Service.step .lowest) serviceStart
        stoppedThenConnected).manager.polledDescriptors :=
  (stopped_clients_stranded .lowest 0 0 (-1) zeroData stoppedThenConnected (by decide)
    (by decide) rfl rfl).2.1 4 (by decide)

end Runs

end SensorGateway
