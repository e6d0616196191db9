/-
This file models `connmgr_listen`, the poll loop of the connection manager, as a step
function. One `poll` event is the loop condition and the part of the body that accepts
a connection; one `scan` event is one iteration of the loop over the clients; `endScan`
is the end of the body; `store` is a stop request of the data manager, whose critical
section is one step between two steps of this thread. The results of the system calls
and the readings of the clock are part of the events.

What the code does to the world outside its own variables is recorded in a log: the
result of poll, the messages, the calls of `recv`, the readings inserted, the
operations on the mutex and on the shared slot, and the sockets closed. The log also
notes where a connection is registered and where an entry of `poll_fd` is dropped.

A locked mutex does not block in this model: the log says who locked what. Answers of
the step function are `none` for events that do not fit the point of execution and for
accesses outside an array.

The pointer `retval` is what the caller of `connmgr_init` passes. It is taken to point to
a variable that holds THREAD_SUCCESS when `connmgr_listen` begins; the thread of `main.c`
passes the null pointer, and the first report of an error would follow it.

Names that the source leaves undeclared are read as follows: `last_alive` as
`last_active`, `conn_counter` as `counter`, `sockdum` as `sock_dum`.
-/

import Mathlib.Data.BitVec
import SensorGateway.Dplist
import SensorGateway.Tcpsock

namespace SensorGateway

/-- What the build fixes: the sizes of the fields, TIMEOUT and MAX_CONN. -/
structure Config where
  layout : Layout
  timeout : Nat
  maxConn : Nat

/-- The errors the connection manager reports in `*retval`. -/
inductive ConnmgrStatus where
  | threadSuccess
  | openSocketError
  | pollError
  | closeSocketError
  | acceptConnectionError
  deriving DecidableEq, Repr

/-- An entry of `poll_fd`. -/
structure PollFd where
  fd : Int
  events : BitVec 16
  revents : BitVec 16
  deriving DecidableEq, Repr

/-- The flag for data to read. -/
def pollin : BitVec 16 := 0x001

/-- The flag for a hang-up. -/
def pollhup : BitVec 16 := 0x010

/-- The test `flags & mask`. -/
def HasFlag (flags mask : BitVec 16) : Prop := flags &&& mask ≠ 0

instance (flags mask : BitVec 16) : Decidable (HasFlag flags mask) :=
  inferInstanceAs (Decidable (flags &&& mask ≠ 0))

/-- The element of `sock_list` that describes a client. -/
structure TcpsockDpl where
  sockPt : Tcpsock
  sd : Int
  lastActive : Int
  sensor : BitVec 16
  deriving DecidableEq, Repr

/-- The comparison callback of `sock_list`. -/
def elementCompare (x y : TcpsockDpl) : Int := if x.sd = y.sd then 0 else -1

/-- The search key `sock_dum`: only its `sd` is set. -/
def sockDum (sd : Int) : TcpsockDpl where
  sockPt := { cookie := 0, sd := -1 }
  sd := sd
  lastActive := 0
  sensor := 0

/-- The two threads that share the stop slot. -/
inductive Thread where
  | connmgr
  | datamgr
  deriving DecidableEq, Repr

/-- What a step does to the world outside the variables of `connmgr_listen`. -/
inductive Action (layout : Layout) where
  | polled (entries : List PollFd)
  | registered (client : TcpsockDpl)
  | writePipe (text : String)
  | recv (sd : Int) (size : Nat) (result : Recv)
  | sbufferInsert (sd : Int) (data : SensorData layout)
  | mutexLock (thread : Thread)
  | mutexUnlock (thread : Thread)
  | writeStopsig (thread : Thread) (value : BitVec 16)
  | tcpClose (socket : Tcpsock)
  | dropped (entry : PollFd) (client : Option TcpsockDpl)
  deriving DecidableEq

/-- Where the thread is: at the condition of the poll loop, at the condition of the client scan
with index `i`, or returned. -/
inductive Position where
  | polling
  | scanning (i : Nat)
  | returned
  deriving DecidableEq, Repr

/-- The variables of `connmgr_listen`, the shared slot, and the log. -/
structure Connmgr (config : Config) where
  pollFd : List PollFd
  counter : Nat
  pollRet : Int
  tcpConnRet : Int
  sockList : List TcpsockDpl
  data : SensorData config.layout
  connmgrSensorStopsig : BitVec 16
  retval : ConnmgrStatus
  position : Position
  log : List (Action config.layout)

/-- What `poll` does: it fails, or it sets the returned events of every entry. -/
inductive Poll where
  | failed
  | ready (revents : Nat → BitVec 16)

/-- The inputs of the accept part of the body: the result of `tcp_wait_for_connection` and the
socket that `client->sock_pt` refers to afterwards, the contents of the memory that `realloc`
adds to `poll_fd`, and the readings of the clock. -/
structure AcceptInput where
  status : TcpStatus
  socket : Tcpsock
  memory : PollFd
  activeTime : Int
  messageTime : Int
  deriving Repr

/-- The inputs of one iteration of the scan: the readings of the clock at the five places where
the code may read it, and the results of the three receives. -/
structure ScanInput where
  aliveTime : Int
  activeTime : Int
  lostTime : Int
  closeTime : Int
  messageTime : Int
  id : Recv
  value : Recv
  ts : Recv
  deriving Repr

/-- One atomic step of the connection manager, or a stop request of the data manager. -/
inductive ConnmgrEvent where
  | poll (outcome : Poll) (accept : AcceptInput)
  | scan (input : ScanInput)
  | endScan (messageTime : Int)
  | store (id : BitVec 16)

/-- What is said of the iterations of the scan can be checked event by event. -/
instance (event : ConnmgrEvent) (property : ScanInput → Prop) [DecidablePred property] :
    Decidable (∀ input, event = .scan input → property input) :=
  match event with
  | .scan input => decidable_of_iff (property input)
      ⟨fun holds _ same => ConnmgrEvent.scan.inj same ▸ holds, fun all => all input rfl⟩
  | .poll _ _ => .isTrue fun _ same => nomatch same
  | .endScan _ => .isTrue fun _ same => nomatch same
  | .store _ => .isTrue fun _ same => nomatch same

variable {config : Config}

/-- The state before the poll loop: `poll_fd` has the listening socket only. -/
def Connmgr.start (listener : Int) (revents : BitVec 16) (pollRet tcpConnRet : Int)
    (uninitialised : SensorData config.layout) : Connmgr config where
  pollFd := [{ fd := listener, events := pollin, revents }]
  counter := 0
  pollRet := pollRet
  tcpConnRet := tcpConnRet
  sockList := []
  data := uninitialised
  connmgrSensorStopsig := 0
  retval := .threadSuccess
  position := .polling
  log := []

/-- A message of the connection manager: `asprintf(&buf, "%ld Connmgr: ...", time(NULL), ...)`. -/
def message (time : Int) (text : String) : Action config.layout :=
  .writePipe (toString time ++ " Connmgr: " ++ text)

/-! ### The poll and the accept -/

/-- The result of `tcp_conn_ret == tcp_wait_for_connection(...)`. -/
def acceptComparison (tcpConnRet : Int) (status : TcpStatus) : Int :=
  if tcpConnRet = status.code then 1 else 0

/-- The client that the accept part sets up. -/
def acceptedClient (input : AcceptInput) : TcpsockDpl where
  sockPt := input.socket
  sd := tcpGetSd input.socket input.memory.fd
  lastActive := input.activeTime
  sensor := 0

/-- The entry of `poll_fd` that the accept part sets up; `revents` keeps what the new memory
held. -/
def acceptedEntry (input : AcceptInput) : PollFd where
  fd := tcpGetSd input.socket input.memory.fd
  events := pollin ||| pollhup
  revents := input.memory.revents

/-- The part of the body that accepts a connection. -/
def Connmgr.accept (manager : Connmgr config) (input : AcceptInput) : Option (Connmgr config) :=
  if acceptComparison manager.tcpConnRet input.status ≠ TcpStatus.noError.code then
    some { manager with
      retval := .acceptConnectionError
      log := manager.log ++ [message input.messageTime
        ("can not accept new connection (" ++ toString manager.tcpConnRet ++ ")")] }
  else do
    let counter := manager.counter + 1
    let sockList ← dplInsertSorted elementCompare manager.sockList (acceptedClient input)
    some { manager with
      counter
      pollFd := (manager.pollFd ++ [input.memory]).set counter (acceptedEntry input)
      sockList
      log := manager.log ++ [.registered (acceptedClient input),
        message input.messageTime "received new connection"] }

/-- The entries of `poll_fd` after `poll`. -/
def polledEntries (pollFd : List PollFd) (revents : Nat → BitVec 16) : List PollFd :=
  pollFd.mapIdx fun index entry => { entry with revents := revents index }

/-- The return value of `poll`: the number of entries with returned events. -/
def pollCount (entries : List PollFd) : Int := entries.countP fun entry => entry.revents ≠ 0

/-- The state after `poll` has returned. -/
def Connmgr.polled (manager : Connmgr config) (revents : Nat → BitVec 16) : Connmgr config :=
  { manager with
    pollFd := polledEntries manager.pollFd revents
    pollRet := pollCount (polledEntries manager.pollFd revents)
    log := manager.log ++ [.polled (polledEntries manager.pollFd revents)] }

/-- The test of the accept part: the listening socket is ready, and there is room. -/
def Connmgr.Admits (manager : Connmgr config) (listener : PollFd) : Prop :=
  HasFlag listener.revents pollin ∧ manager.counter < config.maxConn

instance (manager : Connmgr config) (listener : PollFd) : Decidable (manager.Admits listener) :=
  inferInstanceAs (Decidable (_ ∧ _))

/-- The condition of the poll loop and the body up to the client scan. -/
def Connmgr.poll (manager : Connmgr config) (outcome : Poll) (input : AcceptInput) :
    Option (Connmgr config) :=
  match manager.position, outcome with
  | .polling, .failed => some { manager with pollRet := -1, position := .returned }
  | .polling, .ready revents =>
    let manager := manager.polled revents
    if manager.pollRet = 0 ∧ manager.counter = 0 then some { manager with position := .returned }
    else do
      let listener ← manager.pollFd[0]?
      if manager.Admits listener then
        let manager ← manager.accept input
        some { manager with pollRet := manager.pollRet - 1, position := .scanning 1 }
      else some { manager with position := .scanning 1 }
  | .scanning _, _ => none
  | .returned, _ => none

/-! ### One iteration of the scan -/

/-- What the first part of an iteration leaves behind: the entry, the client and `data`
afterwards, and the actions on the way. -/
structure Visit (config : Config) where
  entry : PollFd
  client : Option TcpsockDpl
  data : SensorData config.layout
  actions : List (Action config.layout)

/-- The calls of `recv` that the three receives make: none on an unbound socket. -/
def recvCalls (socket : Tcpsock) (input : ScanInput) : List (Action config.layout) :=
  if socket.cookie ≠ magicCookie then []
  else [.recv socket.sd 2 input.id, .recv socket.sd config.layout.sizeofValue input.value,
    .recv socket.sd config.layout.sizeofTs input.ts]

/-- Receive a reading: three receives, of which only the last one is checked. -/
def receiveReading (client : TcpsockDpl) (entry : PollFd) (data : SensorData config.layout)
    (input : ScanInput) : Visit config :=
  let id := (tcpReceive client.sockPt data.id input.id).2.2
  let value := (tcpReceive client.sockPt data.value input.value).2.2
  let (tcpRet, sizeRet, ts) := tcpReceive client.sockPt data.ts input.ts
  let data := { id, value, ts }
  if tcpRet = .noError ∧ sizeRet ≠ 0 then
    { entry
      client := some { client with
        lastActive := input.activeTime
        sensor := if client.sensor = 0 then id.word else client.sensor }
      data
      actions := recvCalls client.sockPt input ++ [.sbufferInsert client.sd data] }
  else if tcpRet = .connectionClosed then
    { entry := { entry with events := -1 }
      client := some client
      data
      actions := recvCalls client.sockPt input ++ [message input.lostTime "Lost connection"] }
  else { entry, client := some client, data, actions := recvCalls client.sockPt input }

/-- The test before the receives: the client is alive and has data. -/
def Receives (client : TcpsockDpl) (entry : PollFd) (config : Config) (input : ScanInput) : Prop :=
  client.lastActive + config.timeout > input.aliveTime ∧ HasFlag entry.revents pollin

instance (client : TcpsockDpl) (entry : PollFd) (config : Config) (input : ScanInput) :
    Decidable (Receives client entry config input) := inferInstanceAs (Decidable (_ ∧ _))

/-- The first part of an iteration, up to the lock. -/
def visitClient (client : Option TcpsockDpl) (entry : PollFd) (data : SensorData config.layout)
    (input : ScanInput) : Visit config :=
  match client with
  | some client =>
    if Receives client entry config input then receiveReading client entry data input
    else { entry, client := some client, data, actions := [] }
  | none => { entry, client := none, data, actions := [] }

/-- An iteration in progress: its index, its node of `sock_list`, what it found there, and what
its first part left behind. -/
structure Examination (config : Config) where
  i : Nat
  entry : PollFd
  node : Option Nat
  client : Option TcpsockDpl
  visit : Visit config

/-- The condition of the scan, the search for the client, and the first part of the iteration. -/
def Connmgr.examine (manager : Connmgr config) (input : ScanInput) :
    Option (Examination config) :=
  match manager.position with
  | .scanning i =>
    if i < manager.counter + 1 ∧ manager.pollRet > 0 then do
      let entry ← manager.pollFd[i]?
      let node := dplGetReferenceOfElement elementCompare manager.sockList (sockDum entry.fd)
      let client := node.bind (dplGetElementOfReference manager.sockList)
      some { i, entry, node, client, visit := visitClient client entry manager.data input }
    else none
  | .polling => none
  | .returned => none

/-- Write an element of the list through its pointer. -/
def writeElement (sockList : List TcpsockDpl) (node : Option Nat) (client : Option TcpsockDpl) :
    List TcpsockDpl :=
  match node, client with
  | some node, some client => sockList.set node client
  | _, _ => sockList

/-- The state after the first part of an iteration and the lock. -/
def Connmgr.examined (manager : Connmgr config) (examination : Examination config) :
    Connmgr config :=
  { manager with
    pollFd := manager.pollFd.set examination.i examination.visit.entry
    sockList := writeElement manager.sockList examination.node examination.visit.client
    data := examination.visit.data
    log := manager.log ++ examination.visit.actions ++ [.mutexLock .connmgr] }

/-- The client's sensor is the one in the slot. -/
def Visit.Stops (visit : Visit config) (stopsig : BitVec 16) : Prop :=
  ∃ client ∈ visit.client, client.sensor = stopsig

/-- The client has been silent for too long. -/
def Visit.TimedOut (visit : Visit config) (input : ScanInput) : Prop :=
  ∃ client ∈ visit.client, client.lastActive + config.timeout < input.closeTime

/-- The receives found the connection closed. -/
def Visit.Lost (visit : Visit config) : Prop := visit.entry.events = -1

/-- The test that closes a connection. -/
def Visit.Closes (visit : Visit config) (stopsig : BitVec 16) (input : ScanInput) : Prop :=
  (visit.Stops stopsig ∨ visit.TimedOut input) ∨ HasFlag visit.entry.revents pollhup ∨ visit.Lost

instance (visit : Visit config) (stopsig : BitVec 16) : Decidable (visit.Stops stopsig) :=
  inferInstanceAs (Decidable (∃ client ∈ visit.client, client.sensor = stopsig))

instance (visit : Visit config) (input : ScanInput) : Decidable (visit.TimedOut input) :=
  inferInstanceAs (Decidable (∃ client ∈ visit.client, _))

instance (visit : Visit config) : Decidable visit.Lost :=
  inferInstanceAs (Decidable (_ = _))

instance (visit : Visit config) (stopsig : BitVec 16) (input : ScanInput) :
    Decidable (visit.Closes stopsig input) := inferInstanceAs (Decidable ((_ ∨ _) ∨ _ ∨ _))

/-- The loop that closes the gap in `poll_fd`, from `id1` and `id2` on; the first argument is
the number of iterations left. -/
def compactLoop (i : Nat) : Nat → Nat → Nat → List PollFd → Option (List PollFd)
  | 0, _, _, pollFd => some pollFd
  | left + 1, id1, id2, pollFd => do
    let id2 := id2 + if id2 = i then 1 else 0
    let entry ← pollFd[id2]?
    if id1 < pollFd.length then compactLoop i left (id1 + 1) (id2 + 1) (pollFd.set id1 entry)
    else none

/-- The branches that end a connection: a stop request, another reason, or no client. -/
def Connmgr.endConnection (manager : Connmgr config) (node : Option Nat)
    (client : Option TcpsockDpl) (input : ScanInput) : Connmgr config :=
  match client with
  | some client =>
    if client.sensor = manager.connmgrSensorStopsig then
      { manager with
        connmgrSensorStopsig := 0
        log := manager.log ++ [.writeStopsig .connmgr 0, .mutexUnlock .connmgr,
          message input.messageTime
            ("Stop connection to " ++ toString client.sensor.toNat ++ " by signal")] }
    else
      { manager with
        sockList := (node.map (dplRemoveNode manager.sockList)).getD manager.sockList
        log := manager.log ++
          [message input.messageTime ("Close connection to " ++ toString client.sensor.toNat),
            .tcpClose client.sockPt] }
  | none => { manager with log := manager.log ++ [.mutexUnlock .connmgr] }

/-- The second part of an iteration, from the lock on. -/
def Connmgr.conclude (manager : Connmgr config) (examination : Examination config)
    (input : ScanInput) : Option (Connmgr config) :=
  let visit := examination.visit
  if visit.Closes manager.connmgrSensorStopsig input then do
    let manager := manager.endConnection examination.node visit.client input
    let pollFd ← compactLoop examination.i manager.counter 0 0 manager.pollFd
    some { manager with
      pollFd := pollFd.take manager.counter
      counter := manager.counter - 1
      position := .scanning examination.i
      log := manager.log ++ [.dropped visit.entry visit.client] }
  else
    some { manager with
      position := .scanning (examination.i + 1)
      log := manager.log ++ [.mutexUnlock .connmgr] }

/-- One iteration of the scan. -/
def Connmgr.scan (manager : Connmgr config) (input : ScanInput) : Option (Connmgr config) := do
  let examination ← manager.examine input
  (manager.examined examination).conclude examination input

/-! ### The machine -/

/-- The end of the scan and of the body. -/
def Connmgr.endScan (manager : Connmgr config) (messageTime : Int) : Option (Connmgr config) :=
  match manager.position with
  | .scanning i =>
    if i < manager.counter + 1 ∧ manager.pollRet > 0 then none
    else if manager.pollRet = -1 then
      some { manager with
        retval := .pollError
        position := .polling
        log := manager.log ++ [message messageTime "Poll sockets error"] }
    else some { manager with position := .polling }
  | .polling => none
  | .returned => none

/-- A stop request of the data manager. -/
def Connmgr.store (manager : Connmgr config) (id : BitVec 16) : Connmgr config :=
  { manager with
    connmgrSensorStopsig := id
    log := manager.log ++
      [.mutexLock .datamgr, .writeStopsig .datamgr id, .mutexUnlock .datamgr] }

/-- Answer one event. -/
def Connmgr.step (manager : Connmgr config) : ConnmgrEvent → Option (Connmgr config)
  | .poll outcome input => manager.poll outcome input
  | .scan input => manager.scan input
  | .endScan messageTime => manager.endScan messageTime
  | .store id => some (manager.store id)

/-! ### Concrete inputs -/

/-- The configuration of the Makefile on a machine with eight-byte `double` and `time_t`. -/
def gatewayConfig : Config where
  layout := {
    sizeofValue := 8
    sizeofTs := 8
    valuePositive := by decide
    tsPositive := by decide }
  timeout := 5
  maxConn := 10

/-- The reading whose bytes are all zero. -/
def zeroData : SensorData gatewayConfig.layout where
  id := ⟨[0, 0], rfl⟩
  value := ⟨[0, 0, 0, 0, 0, 0, 0, 0], rfl⟩
  ts := ⟨[0, 0, 0, 0, 0, 0, 0, 0], rfl⟩

/-- The connection manager at the start of its poll loop, listening on descriptor 3. -/
def gatewayStart : Connmgr gatewayConfig := Connmgr.start 3 0 0 (-1) zeroData

/-- A poll that returns these events, entry by entry. -/
def Poll.returns (revents : List (BitVec 16)) : Poll := .ready fun index => revents.getD index 0

/-- An accepted connection, with what the new memory of `poll_fd` held in `revents`. -/
def accepted (fd time : Int) (revents : BitVec 16) : AcceptInput where
  status := .noError
  socket := { cookie := magicCookie, sd := fd }
  memory := { fd := 0, events := 0, revents }
  activeTime := time
  messageTime := time

/-- An iteration of the scan at a given time. -/
def scanAt (time : Int) (id value ts : List UInt8) : ScanInput where
  aliveTime := time
  activeTime := time
  lostTime := time
  closeTime := time
  messageTime := time
  id := .delivered id
  value := .delivered value
  ts := .delivered ts

end SensorGateway
