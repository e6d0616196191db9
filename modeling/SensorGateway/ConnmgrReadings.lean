/-
This file follows the bytes of one connection through whole runs of the connection
manager, whatever else happens in between: whatever `recv` returns on a descriptor, the
calls come in passages of three, one for each field, and the readings inserted for the
descriptor are those of its passages.

So the connection manager hands on the readings that a sensor node has sent, for every
sequence of readings and in every run, exactly when no receive cuts a field short.
-/

import SensorGateway.ConnmgrHistory
import SensorGateway.Reception

namespace SensorGateway

open Fragments

variable {config : Config} {layout : Layout}

/-! ### Passages -/

/-- The calls of `recv` on a descriptor come in passages, and the readings inserted for it are
those of the passages. -/
def Passes (fd : Int) (log : List (Action layout)) : Prop :=
  ∃ passages : List (Passage layout), receivesOn fd log = passages.flatMap Passage.calls ∧
    insertedReadings fd log = passages.filterMap Passage.reading

/-- An action that neither receives nor inserts anything. -/
def Action.Quiet (action : Action layout) : Prop :=
  ∀ fd, action.receivedOn fd = none ∧ action.insertedFor fd = none

theorem sinceRegistered_append_singleton (fd : Int) (log : List (Action layout))
    (action : Action layout) :
    sinceRegistered fd (log ++ [action]) = [] ∨
      sinceRegistered fd (log ++ [action]) = sinceRegistered fd log ++ [action] := by
  cases action with
  | registered client =>
    have last : sinceRegistered fd (log ++ [.registered client]) =
        if client.sd = fd then [] else sinceRegistered fd log ++ [.registered client] :=
      List.foldl_append
    rw [last]
    split_ifs
    · exact Or.inl rfl
    · exact Or.inr rfl
  | _ => exact Or.inr List.foldl_append

/-- Quiet actions, and new connections, leave the passages of a descriptor complete. -/
theorem Passes.append_of_quiet {fd : Int} {first second : List (Action layout)}
    (passes : Passes fd first) (quiet : ∀ action ∈ second, action.Quiet) :
    Passes fd (first ++ second) := by
  induction second generalizing first with
  | nil => rwa [List.append_nil]
  | cons action rest inductionHypothesis =>
    rw [List.append_cons]
    refine inductionHypothesis ?_ fun other member => quiet other (List.mem_cons_of_mem _ member)
    obtain ⟨nothingReceived, nothingInserted⟩ := quiet action List.mem_cons_self fd
    unfold Passes receivesOn insertedReadings
    rcases sinceRegistered_append_singleton fd first action with anew | longer
    · rw [anew]
      exact ⟨[], rfl, rfl⟩
    · rw [longer, List.filterMap_append, List.filterMap_append,
        List.filterMap_cons_none nothingReceived, List.filterMap_cons_none nothingInserted,
        List.filterMap_nil, List.filterMap_nil, List.append_nil, List.append_nil]
      exact passes

/-- The receives of an iteration. -/
def ScanInput.reception (input : ScanInput) : Reception where
  id := input.id
  value := input.value
  ts := input.ts

section Bound

variable {client : TcpsockDpl} (bound : client.sockPt.cookie = magicCookie)

include bound

theorem tcpReceive_field_of_bound {size : Nat} (field : Field size) (recv : Recv) :
    (tcpReceive client.sockPt field recv).2.2 = field.overwrite recv := by
  unfold tcpReceive
  rw [if_neg (not_not.mpr bound)]
  split_ifs <;> rfl

/-- On a bound socket the variable `data` takes what the receives return. -/
theorem receivedData_of_bound (data : SensorData config.layout) (input : ScanInput) :
    receivedData client data input = input.reception.into data := by
  unfold receivedData
  rw [tcpReceive_field_of_bound bound, tcpReceive_field_of_bound bound,
    tcpReceive_field_of_bound bound]
  rfl

/-- The calls of an iteration on a bound socket, seen from its descriptor. -/
theorem filterMap_receivedOn_recvCalls {fd : Int} (socket : client.sockPt.sd = fd)
    (input : ScanInput) :
    (recvCalls client.sockPt input : List (Action config.layout)).filterMap
      (Action.receivedOn fd) = input.reception.calls config.layout := by
  have calls : (recvCalls client.sockPt input : List (Action config.layout)) =
      [.recv fd 2 input.id, .recv fd config.layout.sizeofValue input.value,
        .recv fd config.layout.sizeofTs input.ts] := by
    rw [← socket]
    exact if_neg (not_not.mpr bound)
  rw [calls]
  simp only [List.filterMap_cons, List.filterMap_nil, Action.receivedOn, if_true]
  rfl

/-- On a bound socket the last receive succeeds when it returns something. -/
theorem receivedStatus_eq_noError_iff (data : SensorData config.layout) (input : ScanInput) :
    receivedStatus client data input = .noError ↔
      input.ts.chunk config.layout.sizeofTs ≠ [] := by
  constructor
  · exact fun succeeded => (chunk_ne_nil_of_noError succeeded).2
  · intro some
    unfold receivedStatus
    rw [tcpReceive_of_chunk bound data.ts some]

end Bound

/-- The calls of a client with a bound socket, and what follows them, are a passage of its
descriptor. -/
theorem exists_passages_of_bound (fd : Int) {client : TcpsockDpl}
    (bound : client.sockPt.cookie = magicCookie) (socket : client.sockPt.sd = client.sd)
    (data : SensorData config.layout) (input : ScanInput) {rest : List (Action config.layout)}
    (unreceived : rest.filterMap (Action.receivedOn fd) = [])
    (inserts : rest.filterMap (Action.insertedFor fd) =
      if client.sd = fd then (input.reception.reading data).toList else []) :
    ∃ passages : List (Passage config.layout),
      (recvCalls client.sockPt input ++ rest).filterMap (Action.receivedOn fd) =
          passages.flatMap Passage.calls ∧
        (recvCalls client.sockPt input ++ rest).filterMap (Action.insertedFor fd) =
          passages.filterMap Passage.reading := by
  have calls : (recvCalls client.sockPt input : List (Action config.layout)) =
      [.recv client.sd 2 input.id, .recv client.sd config.layout.sizeofValue input.value,
        .recv client.sd config.layout.sizeofTs input.ts] := by
    rw [← socket]
    exact if_neg (not_not.mpr bound)
  rw [calls, List.filterMap_append, List.filterMap_append, unreceived, inserts, List.append_nil]
  simp only [List.filterMap_cons, List.filterMap_nil, Action.receivedOn, Action.insertedFor,
    List.nil_append]
  by_cases same : client.sd = fd
  · refine ⟨[⟨data, input.reception⟩], ?_, ?_⟩
    · simp only [if_pos same]
      rfl
    · rw [if_pos same]
      show _ = [Passage.mk data input.reception].filterMap Passage.reading
      have passage : Passage.reading ⟨data, input.reception⟩ = input.reception.reading data := rfl
      rw [List.filterMap_cons, passage]
      cases input.reception.reading data <;> rfl
  · refine ⟨[], ?_, if_neg same⟩
    simp only [if_neg same]
    rfl

/-- The first part of an iteration, seen from a descriptor, is a passage or nothing. -/
theorem Visited.exists_passages (fd : Int) {client : Option TcpsockDpl} {entry : PollFd}
    {data : SensorData config.layout} {input : ScanInput} {visit : Visit config}
    (visited : Visited client entry data input visit)
    (sockets : ∀ before, client = some before → before.sockPt.cookie = magicCookie →
      before.sockPt.sd = before.sd) :
    ∃ passages : List (Passage config.layout),
      visit.actions.filterMap (Action.receivedOn fd) = passages.flatMap Passage.calls ∧
        visit.actions.filterMap (Action.insertedFor fd) = passages.filterMap Passage.reading := by
  -- A passage whose last receive does not succeed inserts nothing.
  have unsuccessful {before : TcpsockDpl} (bound : before.sockPt.cookie = magicCookie)
      (status : receivedStatus before data input ≠ .noError) :
      (if before.sd = fd then (input.reception.reading data).toList else []) = [] := by
    have nothing := not_not.mp (mt (receivedStatus_eq_noError_iff bound data input).mpr status)
    have none : input.reception.reading data = none := if_pos nothing
    rw [none, Option.toList_none, ite_self]
  cases visited with
  | passed silent => exact ⟨[], rfl, rfl⟩
  | reading before found receives status =>
    have bound := (chunk_ne_nil_of_noError status).1
    have inserted : input.reception.reading data = some (input.reception.into data) :=
      if_neg ((receivedStatus_eq_noError_iff bound data input).mp status)
    refine exists_passages_of_bound fd bound (sockets before found bound) data input rfl ?_
    rw [receivedData_of_bound bound, inserted]
    simp only [List.filterMap_cons, List.filterMap_nil, Action.insertedFor]
    by_cases same : before.sd = fd
    · rw [if_pos same, if_pos same]
      rfl
    · rw [if_neg same, if_neg same]
  | lost before found receives status =>
    have bound : before.sockPt.cookie = magicCookie := by
      by_contra unbound
      rw [receivedStatus, tcpReceive_of_unbound unbound] at status
      exact nomatch status
    refine exists_passages_of_bound fd bound (sockets before found bound) data input rfl ?_
    rw [unsuccessful bound (by rw [status]; decide)]
    rfl
  | failed before found receives statusNoError statusClosed =>
    by_cases bound : before.sockPt.cookie = magicCookie
    · have calls := exists_passages_of_bound fd bound (sockets before found bound) data input
        List.filterMap_nil (unsuccessful bound statusNoError).symm
      rwa [List.append_nil] at calls
    · have calls : (recvCalls before.sockPt input : List (Action config.layout)) = [] :=
        if_pos bound
      rw [calls]
      exact ⟨[], rfl, rfl⟩

/-- An iteration keeps the passages of a descriptor complete. -/
theorem Passes.append_visit {fd : Int} {log : List (Action config.layout)} (passes : Passes fd log)
    {client : Option TcpsockDpl} {entry : PollFd} {data : SensorData config.layout}
    {input : ScanInput} {visit : Visit config} (visited : Visited client entry data input visit)
    (sockets : ∀ before, client = some before → before.sockPt.cookie = magicCookie →
      before.sockPt.sd = before.sd) : Passes fd (log ++ visit.actions) := by
  obtain ⟨passages, received, inserted⟩ := passes
  obtain ⟨more, moreReceived, moreInserted⟩ := visited.exists_passages fd sockets
  have since : sinceRegistered fd (log ++ visit.actions) =
      sinceRegistered fd log ++ visit.actions :=
    sinceRegistered_append_of_other log fun action member other same =>
      absurd same (visited.not_registered action member other)
  refine ⟨passages ++ more, ?_, ?_⟩
  · rw [receivesOn, since, List.filterMap_append, moreReceived, List.flatMap_append, ← received]
    rfl
  · rw [insertedReadings, since, List.filterMap_append, moreInserted, List.filterMap_append,
      ← inserted]
    rfl

/-! ### Every run -/

/-- The passages of every descriptor are complete, and the sockets of the clients belong to
their descriptors. -/
structure Connmgr.Followed (manager : Connmgr config) : Prop where
  sized : manager.Sized
  sockets : ∀ client ∈ manager.sockList,
    client.sockPt.cookie = magicCookie → client.sockPt.sd = client.sd
  passes : ∀ fd, Passes fd manager.log

theorem start_followed (listener : Int) (revents : BitVec 16) (pollRet tcpConnRet : Int)
    (uninitialised : SensorData config.layout) :
    (Connmgr.start listener revents pollRet tcpConnRet uninitialised).Followed where
  sized := start_sized listener revents pollRet tcpConnRet uninitialised
  sockets _ member := absurd member List.not_mem_nil
  passes _ := ⟨[], rfl, rfl⟩

theorem Action.OfEnding.quiet {action : Action layout} (ending : action.OfEnding) :
    action.Quiet := by
  cases ending <;> exact fun _ => ⟨rfl, rfl⟩

theorem Action.OutsideScan.quiet {action : Action layout} (outside : action.OutsideScan) :
    action.Quiet := by
  cases outside <;> exact fun _ => ⟨rfl, rfl⟩

theorem Connmgr.Followed.scan {manager after : Connmgr config} (followed : manager.Followed)
    {input : ScanInput} (taken : manager.scan input = some after) : after.Followed := by
  have sized := followed.sized.scan taken
  obtain ⟨examination, answered, examined, scanned⟩ := scan_scanned followed.sized taken
  have sockets := examined.sockets_scanned
    (fun socket sd => socket.cookie = magicCookie → socket.sd = sd) followed.sockets scanned
  refine ⟨sized, sockets, fun fd => ?_⟩
  obtain ⟨rest, log, kinds⟩ := scanned.exists_rest
  rw [log]
  refine Passes.append_of_quiet ?_ fun action member => ?_
  · refine (followed.passes fd).append_visit examined.visited fun client found bound => ?_
    obtain ⟨node, -, holds, -⟩ := examined.node_of_client found
    exact followed.sockets client (List.mem_of_getElem? holds) bound
  · rcases kinds action member with ending | rfl
    · exact ending.quiet
    · exact fun _ => ⟨rfl, rfl⟩

theorem Connmgr.Followed.step {manager after : Connmgr config} (followed : manager.Followed)
    {event : ConnmgrEvent} (taken : manager.step event = some after) : after.Followed := by
  by_cases scanning : ∃ input, event = .scan input
  · obtain ⟨input, rfl⟩ := scanning
    exact followed.scan taken
  have other : ∀ input, event ≠ .scan input := fun input same => scanning ⟨input, same⟩
  obtain ⟨rest, log, outside⟩ := log_of_not_scan taken other
  refine ⟨followed.sized.step taken, ?_, fun fd => ?_⟩
  · cases event with
    | scan input => exact absurd rfl (other input)
    | store id =>
      obtain rfl := Option.some.inj taken
      exact followed.sockets
    | endScan messageTime =>
      obtain ⟨-, rfl | rfl⟩ := endScan_ended taken <;> exact followed.sockets
    | poll outcome input =>
      obtain ⟨-, polled⟩ := poll_polled taken
      cases polled with
      | failed result => exact followed.sockets
      | finished revents result nothing unconnected => exact followed.sockets
      | skipped revents result unready => exact followed.sockets
      | refused revents result ready => exact followed.sockets
      | registered revents result ready sockList inserted =>
        intro client member bound
        rcases List.mem_cons.mp ((dplInsertSorted_perm inserted).mem_iff.mp member) with rfl | old
        · show input.socket.sd = tcpGetSd input.socket input.memory.fd
          exact (if_neg (not_not.mpr bound)).symm
        · exact followed.sockets client old bound
  · rw [log]
    exact (followed.passes fd).append_of_quiet fun action member => (outside action member).quiet

/-! ### Whole fields -/

/-- The readings sent on a connection have been handed on, one for each three receives, and all
of them once a receive has found the end of the connection. -/
structure Transferred (fd : Int) (log : List (Action layout))
    (readings : List (SensorData layout)) : Prop where
  order : insertedReadings fd log = readings.take ((receivesOn fd log).length / 3)
  complete : (∃ call ∈ receivesOn fd log, call.2.chunk call.1 = []) →
    insertedReadings fd log = readings

/-- When no field is cut short, the readings are handed on. -/
theorem Passes.transferred {fd : Int} {log : List (Action layout)} (passes : Passes fd log)
    {readings : List (SensorData layout)} {cut : Fragmentation}
    (whole : cut.Whole (layout.fieldSizes readings.length))
    (delivers : Delivers cut (sentStream readings) (receivesOn fd log)) :
    Transferred fd log readings := by
  obtain ⟨passages, received, inserted⟩ := passes
  rw [received] at delivers
  obtain ⟨order, ended⟩ := readings_of_whole whole delivers
  have count : (receivesOn fd log).length / 3 = passages.length := by
    rw [received, length_flatMap_calls, Nat.mul_div_cancel_left _ (by decide)]
  refine ⟨?_, fun found => ?_⟩
  · rw [inserted, order, count]
  · rw [received] at found
    rw [inserted, order, List.take_of_length_le (Nat.le_of_lt (ended found))]

/-! ### A run for any receptions -/

/-- The entry of a sensor node that is connected on descriptor 4. -/
def nodeEntry (revents : BitVec 16) : PollFd where
  fd := 4
  events := pollin ||| pollhup
  revents := revents

/-- The client of a sensor node that is connected on descriptor 4. -/
def nodeClient (sensor : BitVec 16) : TcpsockDpl where
  sockPt := { cookie := magicCookie, sd := 4 }
  sd := 4
  lastActive := 0
  sensor := sensor

/-- A sensor node is connected on descriptor 4, and nothing else. -/
def receiving (listenerEvents nodeEvents : BitVec 16) (pollRet : Int)
    (data : SensorData config.layout) (sensor slot : BitVec 16)
    (log : List (Action config.layout)) : Connmgr config where
  pollFd := [{ fd := 3, events := pollin, revents := listenerEvents }, nodeEntry nodeEvents]
  counter := 1
  pollRet := pollRet
  tcpConnRet := -1
  sockList := [nodeClient sensor]
  data := data
  connmgrSensorStopsig := slot
  retval := .threadSuccess
  position := .polling
  log := log

/-- The inputs of an iteration that receives in the first second. -/
def Reception.input (reception : Reception) : ScanInput where
  aliveTime := 0
  activeTime := 0
  lostTime := 0
  closeTime := 0
  messageTime := 0
  id := reception.id
  value := reception.value
  ts := reception.ts

theorem complete_connect (admits : 0 < config.maxConn) (data : SensorData config.layout) :
    Runs.complete Connmgr.step (Connmgr.start 3 0 0 (-1) data : Connmgr config)
      [.poll (.returns [pollin]) (accepted 4 0 0), .endScan 0] =
        some (receiving pollin 0 0 data 0 0 [.polled [⟨3, pollin, pollin⟩],
          .registered (nodeClient 0), message 0 "received new connection"]) := by
  obtain ⟨layout, timeout, maxConn⟩ := config
  cases maxConn with
  | zero => exact absurd admits (Nat.lt_irrefl 0)
  | succ most => rfl

/-- A poll that accepts nothing goes on to the scan when there are connections. -/
theorem poll_of_not_accepts {manager : Connmgr config} {revents : Nat → BitVec 16}
    (point : manager.position = .polling) {listener : PollFd}
    (present : manager.pollFd[0]? = some listener) (connected : manager.counter ≠ 0)
    (unready : ¬ manager.Accepts revents) (input : AcceptInput) :
    manager.poll (.ready revents) input =
      some { manager.polled revents with position := .scanning 1 } := by
  have unadmitted : ¬ (manager.polled revents).Admits { listener with revents := revents 0 } :=
    unready
  unfold Connmgr.poll
  rw [point]
  dsimp only
  rw [if_neg fun ended => connected ended.2, polled_listener present revents,
    Option.bind_eq_bind, Option.bind_some, if_neg unadmitted]

/-- What a body of the poll loop records in which the node is received from once. -/
def bodyLog (slot : BitVec 16) (reception : Reception) (reading : SensorData config.layout) :
    List (Action config.layout) :=
  [.mutexLock .datamgr, .writeStopsig .datamgr slot, .mutexUnlock .datamgr,
    .polled [{ fd := 3, events := pollin, revents := 0 }, nodeEntry pollin]] ++
  recvCalls (nodeClient 0).sockPt reception.input ++
  [.sbufferInsert 4 reading, .mutexLock .connmgr, .mutexUnlock .connmgr]

section Receiving

variable (waits : 0 < config.timeout) (data : SensorData config.layout)
  (sensor slot : BitVec 16) {reception : Reception}
  (going : reception.ts.chunk config.layout.sizeofTs ≠ [])

include waits going

theorem visitClient_receiving :
    visitClient (some (nodeClient sensor)) (nodeEntry pollin) data reception.input = {
      entry := nodeEntry pollin
      client := some (refreshed (nodeClient sensor) data reception.input)
      data := reception.into data
      actions := recvCalls (nodeClient sensor).sockPt reception.input ++
        [.sbufferInsert 4 (reception.into data)] } := by
  have bound : (nodeClient sensor).sockPt.cookie = magicCookie := rfl
  have status := (receivedStatus_eq_noError_iff bound data reception.input).mpr going
  have alive : (0 : Int) + config.timeout > 0 := by omega
  have receives : Receives (nodeClient sensor) (nodeEntry pollin) config reception.input :=
    ⟨alive, by decide⟩
  rw [visitClient_reading receives status, receivedData_of_bound bound]
  rfl

/-- The iteration on the node inserts its reading and keeps the connection. -/
theorem scan_receiving (log : List (Action config.layout))
    (other : (refreshed (nodeClient sensor) data reception.input).sensor ≠ slot) :
    Connmgr.scan { receiving 0 pollin 1 data sensor slot log with position := .scanning 1 }
        reception.input =
      some { receiving 0 pollin 1 (reception.into data)
          (refreshed (nodeClient sensor) data reception.input).sensor slot
          (log ++ (recvCalls (nodeClient sensor).sockPt reception.input ++
            [.sbufferInsert 4 (reception.into data)]) ++ [.mutexLock .connmgr] ++
              [.mutexUnlock .connmgr]) with
        position := .scanning 2 } := by
  have examine : Connmgr.examine
      { receiving 0 pollin 1 data sensor slot log with position := .scanning 1 }
      reception.input = some {
        i := 1
        entry := nodeEntry pollin
        node := some 0
        client := some (nodeClient sensor)
        visit := visitClient (some (nodeClient sensor)) (nodeEntry pollin) data
          reception.input } := rfl
  rw [visitClient_receiving waits data sensor going] at examine
  unfold Connmgr.scan
  rw [examine, Option.bind_eq_bind, Option.bind_some, conclude_of_not_closes]
  · rfl
  · rintro ((⟨client, found, wanted⟩ | ⟨client, found, late⟩) | hangup | lost)
    · obtain rfl := Option.some.inj found
      exact other wanted
    · obtain rfl := Option.some.inj found
      have early : (0 : Int) + config.timeout < 0 := late
      omega
    · exact absurd hangup (show ¬ HasFlag pollin pollhup by decide)
    · exact absurd lost (show pollin ||| pollhup ≠ -1 by decide)

/-- A body of the poll loop in which the node is received from once. -/
theorem complete_receiving (listenerEvents nodeEvents : BitVec 16) (pollRet : Int)
    (log : List (Action config.layout)) {slotAfter : BitVec 16}
    (other : (refreshed (nodeClient sensor) data reception.input).sensor ≠ slotAfter) :
    Runs.complete Connmgr.step
        (receiving listenerEvents nodeEvents pollRet data sensor slot log)
        [.store slotAfter, .poll (.returns [0, pollin]) (accepted 5 0 0), .scan reception.input,
          .endScan 0] =
      some (receiving 0 pollin 1 (reception.into data)
        (refreshed (nodeClient sensor) data reception.input).sensor slotAfter
        (log ++ bodyLog slotAfter reception (reception.into data))) := by
  have stored : Connmgr.step (receiving listenerEvents nodeEvents pollRet data sensor slot log)
      (.store slotAfter) = some (receiving listenerEvents nodeEvents pollRet data sensor slotAfter
        (log ++ [.mutexLock .datamgr, .writeStopsig .datamgr slotAfter,
          .mutexUnlock .datamgr])) := rfl
  have unready : ¬ (receiving listenerEvents nodeEvents pollRet data sensor slotAfter
      (log ++ [.mutexLock .datamgr, .writeStopsig .datamgr slotAfter,
        .mutexUnlock .datamgr])).Accepts fun index => [0, pollin].getD index 0 := by
    rintro ⟨ready, -⟩
    exact absurd ready (by decide)
  have polled : Connmgr.step (receiving listenerEvents nodeEvents pollRet data sensor slotAfter
      (log ++ [.mutexLock .datamgr, .writeStopsig .datamgr slotAfter, .mutexUnlock .datamgr]))
      (.poll (.returns [0, pollin]) (accepted 5 0 0)) =
        some { receiving 0 pollin 1 data sensor slotAfter (log ++ [.mutexLock .datamgr,
            .writeStopsig .datamgr slotAfter, .mutexUnlock .datamgr] ++
              [.polled [{ fd := 3, events := pollin, revents := 0 }, nodeEntry pollin]]) with
          position := .scanning 1 } :=
    poll_of_not_accepts rfl rfl Nat.one_ne_zero unready (accepted 5 0 0)
  have scanned := scan_receiving waits data sensor slotAfter going (log ++ [.mutexLock .datamgr,
    .writeStopsig .datamgr slotAfter, .mutexUnlock .datamgr] ++
      [.polled [{ fd := 3, events := pollin, revents := 0 }, nodeEntry pollin]]) other
  rw [Runs.complete, stored, Option.bind_some, Runs.complete, polled, Option.bind_some,
    Runs.complete]
  refine (congrArg (fun state => Option.bind state _) scanned).trans ?_
  unfold bodyLog
  simp only [List.append_assoc, List.cons_append, List.nil_append]
  rfl

end Receiving

/-- The node is received from once, and stays connected. -/
theorem exists_body_receiving (waits : 0 < config.timeout) (data : SensorData config.layout)
    (sensor slot : BitVec 16) {reception : Reception}
    (going : reception.ts.chunk config.layout.sizeofTs ≠ [])
    (listenerEvents nodeEvents : BitVec 16) (pollRet : Int) (log : List (Action config.layout)) :
    ∃ (events : List ConnmgrEvent) (sensorAfter slotAfter : BitVec 16)
      (logAfter : List (Action config.layout)),
      Runs.complete Connmgr.step
        (receiving listenerEvents nodeEvents pollRet data sensor slot log) events =
          some (receiving 0 pollin 1 (reception.into data) sensorAfter slotAfter logAfter) ∧
      receivesOn 4 logAfter = receivesOn 4 log ++ reception.calls config.layout ∧
      insertedReadings 4 logAfter = insertedReadings 4 log ++ [reception.into data] := by
  -- The slot holds some other sensor, so that the node is not stopped.
  obtain ⟨slotAfter, other⟩ :
      ∃ slotAfter, (refreshed (nodeClient sensor) data reception.input).sensor ≠ slotAfter := by
    by_cases zero : (refreshed (nodeClient sensor) data reception.input).sensor = 0
    · rw [zero]
      exact ⟨1, by decide⟩
    · exact ⟨0, zero⟩
  have ran := complete_receiving waits data sensor slot going listenerEvents nodeEvents pollRet
    log other
  have since : sinceRegistered 4 (log ++ bodyLog slotAfter reception (reception.into data)) =
      sinceRegistered 4 log ++ bodyLog slotAfter reception (reception.into data) := by
    refine sinceRegistered_append_of_other log fun action member client same => ?_
    rw [same] at member
    unfold bodyLog recvCalls at member
    simp at member
  refine ⟨_, _, _, _, ran, ?_, ?_⟩
  · rw [receivesOn, since, List.filterMap_append]
    rfl
  · rw [insertedReadings, since, List.filterMap_append]
    rfl

/-- The node is received from as often as one likes. -/
theorem exists_bodies_receiving (waits : 0 < config.timeout) {receptions : List Reception}
    (going : ∀ reception ∈ receptions, reception.ts.chunk config.layout.sizeofTs ≠ [])
    (listenerEvents nodeEvents : BitVec 16) (pollRet : Int) (data : SensorData config.layout)
    (sensor slot : BitVec 16) (log : List (Action config.layout)) :
    ∃ (events : List ConnmgrEvent) (last : Connmgr config),
      Runs.complete Connmgr.step
        (receiving listenerEvents nodeEvents pollRet data sensor slot log) events = some last ∧
      receivesOn 4 last.log =
        receivesOn 4 log ++ receptions.flatMap (Reception.calls config.layout) ∧
      insertedReadings 4 last.log = insertedReadings 4 log ++ received data receptions := by
  induction receptions generalizing listenerEvents nodeEvents pollRet data sensor slot log with
  | nil => exact ⟨[], _, rfl, (List.append_nil _).symm, (List.append_nil _).symm⟩
  | cons reception rest inductionHypothesis =>
    obtain ⟨goingFirst, goingRest⟩ := List.forall_mem_cons.mp going
    obtain ⟨body, sensorAfter, slotAfter, logAfter, ran, receives, inserted⟩ :=
      exists_body_receiving waits data sensor slot goingFirst listenerEvents nodeEvents pollRet log
    obtain ⟨bodies, last, ranRest, receivesRest, insertedRest⟩ :=
      inductionHypothesis goingRest 0 pollin 1 (reception.into data) sensorAfter slotAfter logAfter
    refine ⟨body ++ bodies, last, ?_, ?_, ?_⟩
    · rw [Runs.complete_append, ran, Option.bind_some, ranRest]
    · rw [receivesRest, receives, List.append_assoc, List.flatMap_cons]
    · rw [insertedRest, inserted, List.append_assoc, received]
      rfl

/-- There is a run in which a node is connected and its receives return what one likes. -/
theorem exists_run_receiving (admits : 0 < config.maxConn) (waits : 0 < config.timeout)
    (data : SensorData config.layout) {receptions : List Reception}
    (going : ∀ reception ∈ receptions, reception.ts.chunk config.layout.sizeofTs ≠ []) :
    ∃ (events : List ConnmgrEvent) (last : Connmgr config),
      Runs.complete Connmgr.step (Connmgr.start 3 0 0 (-1) data) events = some last ∧
      receivesOn 4 last.log = receptions.flatMap (Reception.calls config.layout) ∧
      insertedReadings 4 last.log = received data receptions := by
  obtain ⟨bodies, last, ran, receives, inserted⟩ := exists_bodies_receiving waits going pollin 0 0
    data 0 0 [.polled [⟨3, pollin, pollin⟩], .registered (nodeClient 0),
      message 0 "received new connection"]
  refine ⟨[.poll (.returns [pollin]) (accepted 4 0 0), .endScan 0] ++ bodies, last, ?_, receives,
    inserted⟩
  rw [Runs.complete_append, complete_connect admits, Option.bind_some, ran]

/-! ### Readings are handed on exactly when no field is cut short -/

/-- In every run in which the receives on a connection deliver these readings in fragments, the
readings are handed on. -/
def HandedOn (config : Config) (cut : Fragmentation)
    (readings : List (SensorData config.layout)) : Prop :=
  ∀ (listener : Int) (revents : BitVec 16) (pollRet tcpConnRet : Int)
    (uninitialised : SensorData config.layout) (events : List ConnmgrEvent)
    (last : Connmgr config) (fd : Int),
    Runs.complete Connmgr.step
      (Connmgr.start listener revents pollRet tcpConnRet uninitialised) events = some last →
    Delivers cut (sentStream readings) (receivesOn fd last.log) →
    Transferred fd last.log readings

theorem handedOn_of_whole {cut : Fragmentation} {readings : List (SensorData config.layout)}
    (whole : cut.Whole (config.layout.fieldSizes readings.length)) :
    HandedOn config cut readings := by
  intro listener revents pollRet tcpConnRet uninitialised events last fd ran delivers
  have followed := Runs.invariant_of_complete Connmgr.Followed (fun _ => True)
    (start_followed listener revents pollRet tcpConnRet uninitialised)
    (fun _ _ _ before taken _ => before.step taken) (fun _ _ => trivial) ran
  exact (followed.passes fd).transferred whole delivers

/-- The readings that a sensor node sends are handed on, in every run and for every sequence of
readings, exactly when the fragmentation leaves their fields whole; and a single sensor id is
enough to tell. -/
theorem readings_handed_on_iff (admits : 0 < config.maxConn) (waits : 0 < config.timeout)
    (cut : Fragmentation) (count : Nat) (id : Field 2) :
    ((∀ readings : List (SensorData config.layout), readings.length = count →
        HandedOn config cut readings) ↔ cut.Whole (config.layout.fieldSizes count)) ∧
      ((∀ readings : List (SensorData config.layout), readings.length = count →
        (∀ reading ∈ readings, reading.id = id) → HandedOn config cut readings) ↔
          cut.Whole (config.layout.fieldSizes count)) := by
  have enough (whole : cut.Whole (config.layout.fieldSizes count))
      (readings : List (SensorData config.layout)) (size : readings.length = count) :
      HandedOn config cut readings := by
    rw [← size] at whole
    exact handedOn_of_whole whole
  have needed (handedOn : ∀ readings : List (SensorData config.layout),
      readings.length = count → (∀ reading ∈ readings, reading.id = id) →
        HandedOn config cut readings) : cut.Whole (config.layout.fieldSizes count) := by
    by_contra short
    let data : SensorData config.layout :=
      { id, value := .constant _ 0, ts := .constant _ 0 }
    obtain ⟨readings, receptions, size, ids, going, delivers, altered⟩ :=
      exists_readings_altered short id data
    obtain ⟨events, last, ran, receives, inserted⟩ :=
      exists_run_receiving admits waits data going
    rw [← receives] at delivers
    have transferred := handedOn readings size ids 3 0 0 (-1) data events last 4 ran delivers
    rw [← inserted, transferred.order] at altered
    exact altered (List.take_prefix _ _)
  exact ⟨⟨fun handedOn => needed fun readings size _ => handedOn readings size, enough⟩,
    ⟨needed, fun whole readings size _ => enough whole readings size⟩⟩

/-- A reading with distinct bytes. -/
def countingData : SensorData gatewayConfig.layout where
  id := ⟨[5, 0], rfl⟩
  value := ⟨[1, 2, 3, 4, 5, 6, 7, 8], rfl⟩
  ts := ⟨[9, 10, 11, 12, 13, 14, 15, 16], rfl⟩

/-- A sensor node connects, and its first reading is received in three pieces. -/
def receivedInPieces (id value ts : List UInt8) : List ConnmgrEvent :=
  [.poll (.returns [pollin]) (accepted 4 0 0), .endScan 0,
    .poll (.returns [0, pollin]) (accepted 5 0 0), .scan (scanAt 1 id value ts)]

/-- Receives of up to eight bytes leave the fields of the gateway whole: the reading is handed
on. -/
theorem countingData_handed_on :
    ∃ last, Runs.complete Connmgr.step gatewayStart (receivedInPieces [5, 0]
      [1, 2, 3, 4, 5, 6, 7, 8] [9, 10, 11, 12, 13, 14, 15, 16]) = some last ∧
        Transferred 4 last.log [countingData] := by
  have handedOn := (readings_handed_on_iff (by decide) (by decide)
    ⟨fun _ => 8, fun _ => by decide⟩ 1 countingData.id).1.mpr (by
      simp only [Layout.fieldSizes, Fragmentation.whole_cons_iff, Fragmentation.whole_nil]
      decide) [countingData] rfl
  exact ⟨_, rfl, handedOn 3 0 0 (-1) zeroData (receivedInPieces [5, 0]
    [1, 2, 3, 4, 5, 6, 7, 8] [9, 10, 11, 12, 13, 14, 15, 16]) _ 4 rfl (by decide)⟩

/-- The first receive returns one byte of the id. -/
def firstByte : Fragmentation where
  most receive := if receive = 0 then 1 else 8
  positive receive := by split_ifs <;> decide

/-- The id is cut after its first byte: its second byte becomes the first one of the value, and
every byte after it is shifted. -/
theorem short_receive_alters_reading :
    ¬ ∀ (cut : Fragmentation) (readings : List (SensorData gatewayConfig.layout)),
      HandedOn gatewayConfig cut readings := by
  intro handedOn
  have transferred := handedOn firstByte [countingData] 3 0 0 (-1) zeroData
    (receivedInPieces [5] [0, 1, 2, 3, 4, 5, 6, 7] [8, 9, 10, 11, 12, 13, 14, 15]) _ 4 rfl
    (by decide)
  exact absurd transferred.order (by decide)

end SensorGateway
