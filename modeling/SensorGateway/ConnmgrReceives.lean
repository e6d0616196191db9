/-
This file is about receives that fail. A reading should be handed on, and its client
refreshed, only if all three receives of the iteration have succeeded, so that a reading
consists of what this client has sent in this iteration; and a connection that one of
the receives finds closed should be marked lost.

The three receives leave their results in the same variable, and the code looks at the
last one only. When the last one succeeds after another has failed, the reading is
handed on with what `data` still held for the missing field: a field of the client that
was served before. When an earlier one finds the connection closed and the last one does
not, the connection is not marked.
-/

import SensorGateway.ConnmgrClosing

namespace SensorGateway

variable {config : Config} {layout : Layout}

/-! ### What the receives should do -/

/-- A receive takes a whole field or nothing. -/
def Recv.WholeOrNothing (recv : Recv) (size : Nat) : Prop :=
  (recv.chunk size).length = size ∨ recv.chunk size = []

/-- Each receive of the iteration takes its whole field or nothing. -/
def ScanInput.WholeOrNothing (input : ScanInput) (layout : Layout) : Prop :=
  input.id.WholeOrNothing 2 ∧ input.value.WholeOrNothing layout.sizeofValue ∧
    input.ts.WholeOrNothing layout.sizeofTs

/-- The results of the three calls of `tcp_receive`, in their order. -/
def receiveResults (client : TcpsockDpl) (data : SensorData config.layout) (input : ScanInput) :
    List TcpStatus :=
  [(tcpReceive client.sockPt data.id input.id).1,
    (tcpReceive client.sockPt data.value input.value).1, receivedStatus client data input]

/-- The iteration receives from the client, and all three calls succeed. -/
def Received (manager : Connmgr config) (input : ScanInput) (examination : Examination config)
    (client : TcpsockDpl) : Prop :=
  client ∈ examination.client ∧ Receives client examination.entry config input ∧
    ∀ result ∈ receiveResults client manager.data input, result = .noError

/-- The reading consists of the bytes that the receives of the iteration deliver. -/
structure Delivered (input : ScanInput) (reading : SensorData layout) : Prop where
  id : reading.id.bytes = input.id.chunk 2
  value : reading.value.bytes = input.value.chunk layout.sizeofValue
  ts : reading.ts.bytes = input.ts.chunk layout.sizeofTs

/-- The actions that a step records. -/
def newActions (before after : Connmgr config) : List (Action config.layout) :=
  after.log.drop before.log.length

theorem newActions_of_append {before after : Connmgr config}
    {actions : List (Action config.layout)} (log : after.log = before.log ++ actions) :
    newActions before after = actions := by
  rw [newActions, log, List.drop_left]

/-- An iteration inserts a reading and refreshes a client only if all three receives on this client
have succeeded, the reading is what they delivered, and a connection found closed is marked. -/
structure ReceivesSoundly (before : Connmgr config) (input : ScanInput)
    (examination : Examination config) (after : Connmgr config) : Prop where
  readings : ∀ sd reading, .sbufferInsert sd reading ∈ newActions before after →
    ∃ client, Received before input examination client ∧ client.sd = sd ∧
      Delivered input reading
  clients : ∀ client ∈ after.sockList, client ∉ before.sockList →
    ∃ earlier ∈ before.sockList, Received before input examination earlier ∧
      client = refreshed earlier before.data input
  lost : PeerClosed before input examination → examination.visit.Lost

/-! ### When they do -/

/-- The last receive does not speak for the others: it succeeds after one that has failed, or it
does not find closed a connection that another one has found closed. -/
def Misjudges (manager : Connmgr config) (input : ScanInput) (examination : Examination config) :
    Prop :=
  ∃ client ∈ examination.client, Receives client examination.entry config input ∧
    (receivedStatus client manager.data input = .noError ∧
        (∃ result ∈ receiveResults client manager.data input, result ≠ .noError) ∨
      .connectionClosed ∈ receiveResults client manager.data input ∧
        receivedStatus client manager.data input ≠ .connectionClosed)

instance (recv : Recv) (size : Nat) : Decidable (recv.WholeOrNothing size) :=
  inferInstanceAs (Decidable (_ ∨ _))

instance (input : ScanInput) (layout : Layout) : Decidable (input.WholeOrNothing layout) :=
  inferInstanceAs (Decidable (_ ∧ _ ∧ _))

instance (manager : Connmgr config) (input : ScanInput) (examination : Examination config) :
    Decidable (Misjudges manager input examination) :=
  inferInstanceAs (Decidable (∃ client ∈ examination.client, _))

/-- The peer has closed the connection when one of the results says so. -/
theorem peerClosed_iff {manager : Connmgr config} {input : ScanInput}
    {examination : Examination config} :
    PeerClosed manager input examination ↔
      ∃ client ∈ examination.client, Receives client examination.entry config input ∧
        .connectionClosed ∈ receiveResults client manager.data input := by
  unfold PeerClosed receiveResults receivedStatus
  simp only [List.mem_cons, List.not_mem_nil, or_false, eq_comm]

/-! ### Whole fields -/

/-- A receive that takes a whole field or nothing, and succeeds, replaces the field. -/
theorem bytes_of_wholeOrNothing {size : Nat} {socket : Tcpsock} {field : Field size} {recv : Recv}
    (clean : recv.WholeOrNothing size)
    (succeeded : (tcpReceive socket field recv).1 = .noError) :
    (tcpReceive socket field recv).2.2.bytes = recv.chunk size := by
  obtain ⟨bound, some⟩ := chunk_ne_nil_of_noError succeeded
  rw [tcpReceive_of_chunk bound field some]
  rcases clean with whole | nothing
  · exact field.overwrite_of_full whole
  · exact absurd nothing some

theorem delivered_of_received {client : TcpsockDpl} {data : SensorData config.layout}
    {input : ScanInput} (clean : input.WholeOrNothing config.layout)
    (succeeded : ∀ result ∈ receiveResults client data input, result = .noError) :
    Delivered input (receivedData client data input) := by
  obtain ⟨id, value, ts⟩ := clean
  unfold receiveResults at succeeded
  simp only [List.forall_mem_cons, List.not_mem_nil, false_imp_iff, implies_true, and_true]
    at succeeded
  exact ⟨bytes_of_wholeOrNothing id succeeded.1, bytes_of_wholeOrNothing value succeeded.2.1,
    bytes_of_wholeOrNothing ts succeeded.2.2⟩

/-! ### One iteration -/

/-- A reading is inserted only if the last receive has succeeded. -/
theorem Visited.of_sbufferInsert {client : Option TcpsockDpl} {entry : PollFd}
    {data : SensorData config.layout} {input : ScanInput} {visit : Visit config}
    (visited : Visited client entry data input visit) {sd : Int}
    {reading : SensorData config.layout} (inserted : .sbufferInsert sd reading ∈ visit.actions) :
    ∃ before, client = some before ∧ Receives before entry config input ∧
      receivedStatus before data input = .noError ∧ before.sd = sd ∧
      receivedData before data input = reading := by
  have notReceived (socket : Tcpsock) :
      .sbufferInsert sd reading ∉ (recvCalls socket input : List (Action config.layout)) := by
    unfold recvCalls
    split_ifs <;> simp
  cases visited with
  | passed silent => exact absurd inserted List.not_mem_nil
  | reading before found receives status =>
    rcases List.mem_append.mp inserted with received | last
    · exact absurd received (notReceived _)
    · obtain ⟨sameSd, sameReading⟩ := Action.sbufferInsert.inj (List.mem_singleton.mp last)
      exact ⟨before, found, receives, status, sameSd.symm, sameReading.symm⟩
  | lost before found receives status =>
    rcases List.mem_append.mp inserted with received | last
    · exact absurd received (notReceived _)
    · exact nomatch List.mem_singleton.mp last
  | failed before found receives statusNoError statusClosed =>
    exact absurd inserted (notReceived _)

/-- A client is changed only if the last receive has succeeded. -/
theorem Visited.of_changed {client : Option TcpsockDpl} {entry : PollFd}
    {data : SensorData config.layout} {input : ScanInput} {visit : Visit config}
    (visited : Visited client entry data input visit) {later : TcpsockDpl}
    (found : visit.client = some later) (changed : client ≠ some later) :
    ∃ before, client = some before ∧ Receives before entry config input ∧
      receivedStatus before data input = .noError ∧ later = refreshed before data input := by
  cases visited with
  | passed silent => exact absurd found changed
  | reading before present receives status =>
    exact ⟨before, present, receives, status, (Option.some.inj found).symm⟩
  | lost before present receives status => exact absurd (present.trans found) changed
  | failed before present receives statusNoError statusClosed =>
    exact absurd (present.trans found) changed

section Iteration

variable {before after : Connmgr config} {input : ScanInput} {examination : Examination config}

/-- The new actions of an iteration are those of its first part and those from the lock on. -/
theorem Scanned.exists_newActions (scanned : Scanned before input examination after) :
    ∃ rest, newActions before after = examination.visit.actions ++ rest ∧
      ∀ action ∈ rest, action.OfEnding ∨ action = .writeStopsig .connmgr 0 := by
  obtain ⟨rest, log, kinds⟩ := scanned.exists_rest
  refine ⟨rest, ?_, kinds⟩
  rw [newActions, log, List.append_assoc, List.drop_left]

theorem Scanned.sbufferInsert_of_new (scanned : Scanned before input examination after) {sd : Int}
    {reading : SensorData config.layout}
    (new : .sbufferInsert sd reading ∈ newActions before after) :
    .sbufferInsert sd reading ∈ examination.visit.actions := by
  obtain ⟨rest, actions, kinds⟩ := scanned.exists_newActions
  rw [actions] at new
  rcases List.mem_append.mp new with visited | later
  · exact visited
  · rcases kinds _ later with ending | written
    · exact nomatch ending
    · exact nomatch written

/-- When the last receive succeeds, the iteration inserts a reading. -/
theorem exists_sbufferInsert (examined : Examined before input examination)
    (scanned : Scanned before input examination after) {client : TcpsockDpl}
    (found : examination.client = some client)
    (receives : Receives client examination.entry config input)
    (succeeded : receivedStatus client before.data input = .noError) :
    ∃ sd reading, .sbufferInsert sd reading ∈ newActions before after := by
  obtain ⟨rest, actions, -⟩ := scanned.exists_newActions
  have visit := examined.visit
  rw [found, visitClient_reading receives succeeded] at visit
  rw [actions, visit]
  exact ⟨_, _, List.mem_append_left _ (List.mem_append_right _ (List.mem_singleton_self _))⟩

/-- When the last receive finds the connection closed, the connection is marked. -/
theorem lost_of_closed (examined : Examined before input examination) {client : TcpsockDpl}
    (found : examination.client = some client)
    (receives : Receives client examination.entry config input)
    (closed : receivedStatus client before.data input = .connectionClosed) :
    examination.visit.Lost := by
  have visit := examined.visit
  rw [found, visitClient_lost receives closed] at visit
  rw [visit]
  rfl

/-- Unless the last receive is misjudged, its success is that of all three. -/
theorem received_of_not_misjudges (rightly : ¬ Misjudges before input examination)
    {client : TcpsockDpl} (found : examination.client = some client)
    (receives : Receives client examination.entry config input)
    (succeeded : receivedStatus client before.data input = .noError) :
    Received before input examination client := by
  refine ⟨found, receives, fun result member => ?_⟩
  by_contra failed
  exact rightly ⟨client, found, receives, Or.inl ⟨succeeded, result, member, failed⟩⟩

/-- An iteration receives soundly exactly when the last receive speaks for the others. -/
theorem receivesSoundly_iff (unmarked : examination.entry.events ≠ -1)
    (examined : Examined before input examination)
    (scanned : Scanned before input examination after)
    (clean : input.WholeOrNothing config.layout) :
    ReceivesSoundly before input examination after ↔ ¬ Misjudges before input examination := by
  constructor
  · rintro sound ⟨client, found, receives, ⟨succeeded, result, member, failed⟩ | ⟨member, open_⟩⟩
    · obtain ⟨sd, reading, inserted⟩ :=
        exists_sbufferInsert examined scanned found receives succeeded
      obtain ⟨other, ⟨same, -, all⟩, -⟩ := sound.readings sd reading inserted
      obtain rfl := Option.some.inj (found.symm.trans same)
      exact failed (all result member)
    · have lost := sound.lost (peerClosed_iff.mpr ⟨client, found, receives, member⟩)
      obtain ⟨other, same, -, closed⟩ := examined.visited.closed_of_lost unmarked lost
      obtain rfl := Option.some.inj (found.symm.trans same)
      exact open_ closed
  · intro rightly
    refine ⟨fun sd reading inserted => ?_, fun client member new => ?_, fun closed => ?_⟩
    · obtain ⟨client, found, receives, succeeded, sameSd, rfl⟩ :=
        examined.visited.of_sbufferInsert (scanned.sbufferInsert_of_new inserted)
      have received := received_of_not_misjudges rightly found receives succeeded
      exact ⟨client, received, sameSd, delivered_of_received clean received.2.2⟩
    · rcases examined.mem_sockList_scanned scanned member with old | visited
      · exact absurd old new
      · obtain ⟨earlier, node, present, -, holds, -⟩ := examined.node_of_visit_client visited
        have listed := List.mem_of_getElem? holds
        have changed : examination.client ≠ some client := by
          rw [present]
          exact fun same => new (Option.some.inj same ▸ listed)
        obtain ⟨other, same, receives, succeeded, rfl⟩ :=
          examined.visited.of_changed visited changed
        obtain rfl := Option.some.inj (present.symm.trans same)
        exact ⟨earlier, listed, received_of_not_misjudges rightly present receives succeeded, rfl⟩
    · obtain ⟨client, found, receives, member⟩ := peerClosed_iff.mp closed
      refine lost_of_closed examined found receives ?_
      by_contra open_
      exact rightly ⟨client, found, receives, Or.inr ⟨member, open_⟩⟩

end Iteration

/-! ### Every run -/

/-- In every run, an iteration receives soundly exactly when its last receive speaks for the
others. -/
theorem receivesSoundly_iff_of_run {listener : Int} {revents : BitVec 16}
    {pollRet tcpConnRet : Int} {uninitialised : SensorData config.layout}
    {events : List ConnmgrEvent}
    {transition : Runs.Transition (Connmgr config) ConnmgrEvent}
    (member : transition ∈ Runs.transitions Connmgr.step
      (Connmgr.start listener revents pollRet tcpConnRet uninitialised) events)
    {input : ScanInput} (scan : transition.event = .scan input)
    (clean : input.WholeOrNothing config.layout) {examination : Examination config}
    (answered : transition.before.examine input = some examination) :
    ReceivesSoundly transition.before input examination transition.after ↔
      ¬ Misjudges transition.before input examination := by
  have unmarked := (Runs.invariant_of_transitions Connmgr.Unmarked (fun _ => True)
    (start_unmarked listener revents pollRet tcpConnRet uninitialised)
    (fun _ _ _ before taken _ => before.step taken) (fun _ _ => trivial) transition member).1
  have taken := Runs.step_of_mem_transitions member
  rw [scan] at taken
  obtain ⟨other, same, examined, scanned⟩ := scan_scanned unmarked.sized taken
  obtain rfl := Option.some.inj (answered.symm.trans same)
  have positive := unmarked.sized.index _ examined.position
  have current := mem_tail_of_getElem? positive examined.entry
  exact receivesSoundly_iff (unmarked.events _ current) examined scanned clean

/-- In every run, every iteration whose receives each take a whole field or nothing receives
soundly, if and only if in each of them the last receive speaks for the others. -/
theorem receives_soundly_iff (listener : Int) (revents : BitVec 16) (pollRet tcpConnRet : Int)
    (uninitialised : SensorData config.layout) (events : List ConnmgrEvent) :
    (∀ transition ∈ Runs.transitions Connmgr.step
        (Connmgr.start listener revents pollRet tcpConnRet uninitialised) events,
      ∀ input, transition.event = .scan input → input.WholeOrNothing config.layout →
        ∀ examination ∈ transition.before.examine input,
          ReceivesSoundly transition.before input examination transition.after) ↔
    ∀ transition ∈ Runs.transitions Connmgr.step
        (Connmgr.start listener revents pollRet tcpConnRet uninitialised) events,
      ∀ input, transition.event = .scan input → input.WholeOrNothing config.layout →
        ∀ examination ∈ transition.before.examine input,
          ¬ Misjudges transition.before input examination :=
  forall₂_congr fun _ member => forall₂_congr fun _ scan => forall_congr' fun clean =>
    forall₂_congr fun _ answered => receivesSoundly_iff_of_run member scan clean answered

/-- Two sensor nodes are connected. The first one sends a reading with id 5; the receive of the id
of the second one fails, and those of its value and timestamp succeed. -/
def interruptedReading : List ConnmgrEvent :=
  [.poll (.returns [pollin]) (accepted 4 0 0), .endScan 0,
    .poll (.returns [pollin]) (accepted 5 0 0), .endScan 0,
    .poll (.returns [0, pollin, pollin]) (accepted 6 0 0),
    .scan (scanAt 1 [5, 0] [1, 2, 3, 4, 5, 6, 7, 8] [1, 0, 0, 0, 0, 0, 0, 0]),
    .scan { scanAt 1 [] [8, 7, 6, 5, 4, 3, 2, 1] [1, 0, 0, 0, 0, 0, 0, 0] with
      id := .failed false }]

/-- The reading of the second node is inserted with the id of the first one. -/
theorem reading_with_foreign_id :
    ¬ ∀ events, ∀ transition ∈ Runs.transitions Connmgr.step gatewayStart events,
      ∀ input, transition.event = .scan input → input.WholeOrNothing gatewayConfig.layout →
        ∀ examination ∈ transition.before.examine input,
          ReceivesSoundly transition.before input examination transition.after := by
  intro holds
  have rightly : ∀ transition ∈ Runs.transitions Connmgr.step gatewayStart interruptedReading,
      ∀ input, transition.event = .scan input → input.WholeOrNothing gatewayConfig.layout →
        ∀ examination ∈ transition.before.examine input,
          ¬ Misjudges transition.before input examination :=
    fun _ member _ scan clean _ answered =>
      (receivesSoundly_iff_of_run member scan clean answered).mp
        (holds _ _ member _ scan clean _ answered)
  exact absurd rightly (by decide)

end SensorGateway
