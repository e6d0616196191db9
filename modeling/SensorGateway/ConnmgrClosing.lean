/-
This file is about the reasons for which a connection is dropped: poll has reported a
hang-up, a receive has found it closed, it has been silent for too long, or the data
manager has an outstanding stop request for a sensor id that it has reported.

Three drops have none of these reasons. A client without a reading has sensor 0, which is
also the value of the empty slot, and is taken for the target of a stop request. When a
receive on a connection fails or is cut short, the id that the client takes over is not
one that its connection has sent: it may be the id that another client has left in `data`.
And the entry of a connection that was accepted in this round has never been polled: the
flags that the scan tests are those of uninitialised memory.
-/

import SensorGateway.ConnmgrReadings

namespace SensorGateway

variable {config : Config} {layout : Layout}

/-! ### Reasons -/

/-- Poll has reported a hang-up for the descriptor in this round. -/
def HungUp (manager : Connmgr config) (examination : Examination config) : Prop :=
  ∃ polled ∈ lastPolled manager.log,
    polled.fd = examination.entry.fd ∧ HasFlag polled.revents pollhup

/-- A receive of this iteration returns TCP_CONNECTION_CLOSED. -/
def PeerClosed (manager : Connmgr config) (input : ScanInput)
    (examination : Examination config) : Prop :=
  ∃ client ∈ examination.client, Receives client examination.entry config input ∧
    ((tcpReceive client.sockPt manager.data.id input.id).1 = .connectionClosed ∨
      (tcpReceive client.sockPt manager.data.value input.value).1 = .connectionClosed ∨
      (tcpReceive client.sockPt manager.data.ts input.ts).1 = .connectionClosed)

/-- The data manager has an outstanding request for a sensor id that the connection has
reported. -/
def Requested (manager : Connmgr config) (examination : Examination config) : Prop :=
  ∃ id ∈ (stopRequests manager.log).outstanding,
    id ∈ reportedIds examination.entry.fd (manager.log ++ examination.visit.actions)

/-- The iteration has a reason to drop its connection. -/
def HasReason (manager : Connmgr config) (input : ScanInput) : Prop :=
  ∃ examination ∈ manager.examine input, HungUp manager examination ∨
    PeerClosed manager input examination ∨ examination.visit.TimedOut input ∨
    Requested manager examination

/-- The client has no sensor yet, and the slot is empty. -/
def BothUnset (manager : Connmgr config) (examination : Examination config) : Prop :=
  manager.connmgrSensorStopsig = 0 ∧ ∃ client ∈ examination.visit.client, client.sensor = 0

/-- The client has the sensor of the slot, but a receive on its connection was cut short, so that
the sensor need not be one that the connection has sent. -/
def CutShort (manager : Connmgr config) (examination : Examination config) : Prop :=
  (∃ client ∈ examination.visit.client, client.sensor = manager.connmgrSensorStopsig) ∧
    ¬ ReceivedWhole examination.entry.fd (manager.log ++ examination.visit.actions)

/-- The entry has not been polled yet, and the memory it was put in has the flag for a
hang-up. -/
def StaleHangup (manager : Connmgr config) (examination : Examination config) : Prop :=
  examination.entry.fd ∉ (lastPolled manager.log).map PollFd.fd ∧
    HasFlag examination.entry.revents pollhup

/-- The iteration meets one of the three conditions that are mistaken for a reason. -/
def Mistakes (manager : Connmgr config) (input : ScanInput) : Prop :=
  ∃ examination ∈ manager.examine input, BothUnset manager examination ∨
    CutShort manager examination ∨ StaleHangup manager examination

instance (manager : Connmgr config) (examination : Examination config) :
    Decidable (HungUp manager examination) := inferInstanceAs (Decidable (∃ _ ∈ _, _))

instance (manager : Connmgr config) (input : ScanInput) (examination : Examination config) :
    Decidable (PeerClosed manager input examination) :=
  inferInstanceAs (Decidable (∃ client ∈ examination.client, _))

instance (manager : Connmgr config) (examination : Examination config) :
    Decidable (Requested manager examination) :=
  decidable_of_iff ((stopRequests manager.log).outstanding.any fun id =>
      id ∈ reportedIds examination.entry.fd (manager.log ++ examination.visit.actions))
    (by simp only [Requested, List.any_eq_true, decide_eq_true_eq])

instance (manager : Connmgr config) (input : ScanInput) : Decidable (HasReason manager input) :=
  inferInstanceAs (Decidable (∃ examination ∈ manager.examine input, _))

instance (manager : Connmgr config) (examination : Examination config) :
    Decidable (BothUnset manager examination) :=
  inferInstanceAs (Decidable (_ ∧ ∃ client ∈ examination.visit.client, _))

instance (manager : Connmgr config) (examination : Examination config) :
    Decidable (CutShort manager examination) :=
  have : Decidable (∃ client ∈ examination.visit.client,
      client.sensor = manager.connmgrSensorStopsig) := inferInstance
  inferInstanceAs (Decidable (_ ∧ ¬ ReceivedWhole _ _))

instance (manager : Connmgr config) (examination : Examination config) :
    Decidable (StaleHangup manager examination) := inferInstanceAs (Decidable (_ ∧ _))

instance (manager : Connmgr config) (input : ScanInput) : Decidable (Mistakes manager input) :=
  inferInstanceAs (Decidable (∃ examination ∈ manager.examine input, _))

/-! ### Marks -/

/-- Polling changes the returned events only. -/
theorem mem_tail_polledEntries {pollFd : List PollFd} {revents : Nat → BitVec 16}
    {entry : PollFd} (member : entry ∈ (polledEntries pollFd revents).tail) :
    ∃ before ∈ pollFd.tail, entry.events = before.events := by
  obtain ⟨index, present⟩ := List.mem_iff_getElem?.mp member
  rw [List.getElem?_tail, getElem?_polledEntries] at present
  obtain ⟨before, found, rfl⟩ := Option.map_eq_some_iff.mp present
  refine ⟨before, List.mem_iff_getElem?.mpr ⟨index, ?_⟩, rfl⟩
  rw [List.getElem?_tail, found]

/-- The entries after an iteration are old ones, and the one it has kept. -/
theorem Examined.mem_tail_scanned {manager after : Connmgr config} {input : ScanInput}
    {examination : Examination config} (examined : Examined manager input examination)
    (sized : manager.Sized) (scanned : Scanned manager input examination after)
    {entry : PollFd} (member : entry ∈ after.pollFd.tail) :
    entry ∈ manager.pollFd.tail ∨ entry = examination.visit.entry ∧
      ¬ examination.visit.Closes manager.connmgrSensorStopsig input := by
  have positive := sized.index _ examined.position
  have old (remaining : entry ∈ ((manager.pollFd.set examination.i
      examination.visit.entry).eraseIdx examination.i).tail) : entry ∈ manager.pollFd.tail := by
    rw [List.eraseIdx_set_eq] at remaining
    exact (tail_perm_of_getElem? positive examined.entry).mem_iff.mpr
      (List.mem_cons_of_mem _ remaining)
  cases scanned with
  | kept lives =>
    have present : entry ∈ (manager.pollFd.set examination.i examination.visit.entry).tail :=
      member
    obtain ⟨index, next⟩ := Nat.exists_eq_add_of_le' positive
    rw [next, ← List.set_tail] at present
    rcases List.mem_or_eq_of_mem_set present with before | new
    · exact Or.inl before
    · exact Or.inr ⟨new, lives⟩
  | stopped client found wanted => exact Or.inl (old member)
  | closed client node found place other reason => exact Or.inl (old member)
  | orphaned missing reason => exact Or.inl (old member)

/-- No connection is marked lost between two iterations. -/
structure Connmgr.Unmarked (manager : Connmgr config) : Prop where
  sized : manager.Sized
  events : ∀ entry ∈ manager.pollFd.tail, entry.events ≠ -1

theorem start_unmarked (listener : Int) (revents : BitVec 16) (pollRet tcpConnRet : Int)
    (uninitialised : SensorData config.layout) :
    (Connmgr.start listener revents pollRet tcpConnRet uninitialised).Unmarked where
  sized := start_sized listener revents pollRet tcpConnRet uninitialised
  events _ member := absurd member List.not_mem_nil

theorem Connmgr.Unmarked.poll {manager after : Connmgr config} (unmarked : manager.Unmarked)
    {outcome : Poll} {input : AcceptInput} (taken : manager.poll outcome input = some after) :
    after.Unmarked := by
  refine ⟨unmarked.sized.poll taken, ?_⟩
  have polledUnmarked (revents : Nat → BitVec 16) :
      ∀ entry ∈ (polledEntries manager.pollFd revents).tail, entry.events ≠ -1 := by
    intro entry member
    obtain ⟨before, old, same⟩ := mem_tail_polledEntries member
    rw [same]
    exact unmarked.events before old
  obtain ⟨-, polled⟩ := poll_polled taken
  cases polled with
  | failed result => exact unmarked.events
  | finished revents result nothing unconnected => exact polledUnmarked revents
  | skipped revents result unready => exact polledUnmarked revents
  | refused revents result ready => exact polledUnmarked revents
  | registered revents result ready sockList inserted =>
    dsimp only
    rw [tail_registered unmarked.sized]
    exact List.forall_mem_append.mpr ⟨polledUnmarked revents,
      List.forall_mem_singleton.mpr (show pollin ||| pollhup ≠ -1 by decide)⟩

theorem Connmgr.Unmarked.scan {manager after : Connmgr config} (unmarked : manager.Unmarked)
    {input : ScanInput} (taken : manager.scan input = some after) : after.Unmarked := by
  obtain ⟨examination, -, examined, scanned⟩ := scan_scanned unmarked.sized taken
  refine ⟨unmarked.sized.scan taken, fun entry member => ?_⟩
  rcases examined.mem_tail_scanned unmarked.sized scanned member with old | ⟨rfl, lives⟩
  · exact unmarked.events entry old
  · exact fun lost => lives (Or.inr (Or.inr lost))

theorem Connmgr.Unmarked.step {manager after : Connmgr config} (unmarked : manager.Unmarked)
    {event : ConnmgrEvent} (taken : manager.step event = some after) : after.Unmarked := by
  have sized := unmarked.sized.step taken
  cases event with
  | poll outcome input => exact unmarked.poll taken
  | scan input => exact unmarked.scan taken
  | endScan messageTime =>
    obtain ⟨-, rfl | rfl⟩ := endScan_ended taken <;> exact ⟨sized, unmarked.events⟩
  | store id =>
    obtain rfl := Option.some.inj taken
    exact ⟨sized, unmarked.events⟩

/-! ### Ids in front of readings -/

/-- Passages of whole fields deliver as many bytes as their readings have. -/
theorem length_deliveredBytes_of_whole {passages : List (Passage layout)}
    (whole : ∀ call ∈ passages.flatMap Passage.calls, (call.2.chunk call.1).length = call.1) :
    (deliveredBytes (passages.flatMap Passage.calls)).length =
      passages.length * (2 + (layout.sizeofValue + layout.sizeofTs)) := by
  induction passages with
  | nil => exact (Nat.zero_mul _).symm
  | cons passage rest inductionHypothesis =>
    rw [List.flatMap_cons] at whole ⊢
    obtain ⟨first, later⟩ := List.forall_mem_append.mp whole
    have delivered : (deliveredBytes passage.calls).length =
        2 + (layout.sizeofValue + layout.sizeofTs) := by
      simp only [Passage.calls, Reception.calls, List.forall_mem_cons] at first
      simp only [deliveredBytes, Passage.calls, Reception.calls, List.flatMap_cons,
        List.flatMap_nil, List.length_append, List.length_nil, first.1, first.2.1, first.2.2.1]
      rfl
    rw [deliveredBytes_append, List.length_append, delivered, inductionHypothesis later,
      List.length_cons, Nat.succ_mul, Nat.add_comm]

/-- Behind complete passages, the id that a receive delivers whole is in front of a reading. -/
theorem Passes.vouched {fd : Int} {first second : List (Action layout)} (passes : Passes fd first)
    {reception : Reception} (data : SensorData layout)
    (longer : receivesOn fd second = receivesOn fd first ++ reception.calls layout) :
    Vouched fd (reception.into data).id.word second := by
  intro whole
  obtain ⟨passages, received, -⟩ := passes
  rw [ReceivedWhole, longer, received] at whole
  obtain ⟨wholeBefore, wholeNow⟩ := List.forall_mem_append.mp whole
  have wholeId : (reception.id.chunk 2).length = 2 := wholeNow _ List.mem_cons_self
  refine mem_reportedIds_iff.mpr ⟨passages.length, ?_⟩
  have bytes : ((deliveredBytes (receivesOn fd second)).drop
      (passages.length * (2 + (layout.sizeofValue + layout.sizeofTs)))).take 2 =
        reception.id.chunk 2 := by
    rw [longer, received, deliveredBytes_append,
      List.drop_left' (length_deliveredBytes_of_whole wholeBefore)]
    exact List.take_left' wholeId
  have same : (data.id.overwrite reception.id).bytes = reception.id.chunk 2 :=
    data.id.overwrite_of_full wholeId
  unfold Layout.sentId
  dsimp only
  rw [dif_pos ((congrArg List.length bytes).trans wholeId)]
  exact congrArg some (congrArg Field.word (Field.ext_bytes (bytes.trans same.symm)))

/-! ### What the log says in every reachable state -/

/-- The log accounts for the slot, the sensors of the clients and the flags of the entries. -/
structure Connmgr.Traced (manager : Connmgr config) : Prop where
  tabled : manager.Tabled
  followed : manager.Followed
  slot : (stopRequests manager.log).slot = manager.connmgrSensorStopsig
  outstanding : manager.connmgrSensorStopsig ≠ 0 →
    manager.connmgrSensorStopsig ∈ (stopRequests manager.log).outstanding
  reported : ∀ client ∈ manager.sockList, client.sensor ≠ 0 →
    Vouched client.sd client.sensor manager.log
  events : ∀ entry ∈ manager.pollFd.tail, entry.events ≠ -1
  polled : ∀ i, manager.position = .scanning i → ∀ entry ∈ manager.pollFd.tail,
    entry.fd ∈ (lastPolled manager.log).map PollFd.fd →
      ∃ polled ∈ lastPolled manager.log,
        polled.fd = entry.fd ∧ polled.revents = entry.revents

theorem start_traced (listener : Int) (revents : BitVec 16) (pollRet tcpConnRet : Int)
    (uninitialised : SensorData config.layout) :
    (Connmgr.start listener revents pollRet tcpConnRet uninitialised).Traced where
  tabled := start_tabled listener revents pollRet tcpConnRet uninitialised
  followed := start_followed listener revents pollRet tcpConnRet uninitialised
  slot := rfl
  outstanding nonzero := absurd rfl nonzero
  reported _ member := absurd member List.not_mem_nil
  events _ member := absurd member List.not_mem_nil
  polled _ point := nomatch point

theorem Connmgr.Traced.unmarked {manager : Connmgr config} (traced : manager.Traced) :
    manager.Unmarked := ⟨traced.tabled.sized, traced.events⟩

/-- The actions of the accept part. -/
inductive Action.OfAccept (client : TcpsockDpl) : Action layout → Prop
  | registered : OfAccept client (.registered client)
  | writePipe (text : String) : OfAccept client (.writePipe text)

/-- The log of a poll event accounts for what the log before it accounted for. -/
theorem traced_log_of_accept {manager : Connmgr config} {client : TcpsockDpl}
    (revents : Nat → BitVec 16) {rest : List (Action config.layout)}
    (ofAccept : ∀ action ∈ rest, action.OfAccept client) :
    stopRequests ((manager.polled revents).log ++ rest) = stopRequests manager.log ∧
      lastPolled ((manager.polled revents).log ++ rest) =
        polledEntries manager.pollFd revents ∧
      ∀ fd id, (∀ other, .registered other ∈ rest → other.sd ≠ fd) →
        Vouched fd id manager.log → Vouched fd id ((manager.polled revents).log ++ rest) := by
  refine ⟨?_, ?_, fun fd id others vouched => ?_⟩
  · have polled : stopRequests (manager.polled revents).log = stopRequests manager.log := by
      refine stopRequests_append_of_quiet manager.log fun action member thread value same => ?_
      rw [List.mem_singleton.mp member] at same
      exact nomatch same
    rw [← polled]
    refine stopRequests_append_of_quiet _ fun action member thread value same => ?_
    have kind := ofAccept action member
    rw [same] at kind
    exact nomatch kind
  · rw [← lastPolled_polled]
    refine lastPolled_append_of_quiet _ fun action member entries same => ?_
    have kind := ofAccept action member
    rw [same] at kind
    exact nomatch kind
  · have polled : Vouched fd id (manager.polled revents).log := by
      refine vouched.append fun action member other same => ?_
      rw [List.mem_singleton.mp member] at same
      exact nomatch same
    refine polled.append fun action member other same => ?_
    rw [same] at member
    exact others other member

/-- A state after the poll: each client is one of before that keeps its descriptor, or has no
sensor yet; each entry is one that was polled, or is new. -/
theorem Connmgr.Traced.of_polled {manager after : Connmgr config} {client : TcpsockDpl}
    (traced : manager.Traced) (tabled : after.Tabled) (followed : after.Followed)
    (unmarked : after.Unmarked) (revents : Nat → BitVec 16) {rest : List (Action config.layout)}
    (ofAccept : ∀ action ∈ rest, action.OfAccept client)
    (log : after.log = (manager.polled revents).log ++ rest)
    (slot : after.connmgrSensorStopsig = manager.connmgrSensorStopsig)
    (clients : ∀ other ∈ after.sockList, other.sensor = 0 ∨ other ∈ manager.sockList ∧
      ∀ new, .registered new ∈ rest → new.sd ≠ other.sd)
    (entries : ∀ entry ∈ after.pollFd.tail,
      entry ∈ (polledEntries manager.pollFd revents).tail ∨
        entry.fd ∉ manager.pollFd.map PollFd.fd) : after.Traced := by
  obtain ⟨requests, reportedPoll, reported⟩ := traced_log_of_accept revents ofAccept
  rw [← log] at requests reportedPoll
  refine ⟨tabled, followed, ?_, ?_, fun other member nonzero => ?_, unmarked.events,
    fun i point entry member found => ?_⟩
  · rw [requests, slot, traced.slot]
  · rw [requests, slot]
    exact traced.outstanding
  · rcases clients other member with unset | ⟨old, others⟩
    · exact absurd unset nonzero
    · rw [log]
      exact reported other.sd other.sensor others (traced.reported other old nonzero)
  · rw [reportedPoll, map_fd_polledEntries] at found
    rw [reportedPoll]
    rcases entries entry member with old | new
    · exact ⟨entry, List.mem_of_mem_tail old, rfl, rfl⟩
    · exact absurd found new

theorem Connmgr.Traced.poll {manager after : Connmgr config} (traced : manager.Traced)
    {outcome : Poll} {input : AcceptInput} (taken : manager.poll outcome input = some after)
    (lawful : manager.counter < after.counter → input.Fresh manager) : after.Traced := by
  have tabled := traced.tabled.poll taken lawful
  have stepped : manager.step (.poll outcome input) = some after := taken
  have followed := traced.followed.step stepped
  have unmarked := traced.unmarked.poll taken
  have nothing : ∀ action ∈ ([] : List (Action config.layout)),
      action.OfAccept (acceptedClient input) := fun action member =>
    absurd member List.not_mem_nil
  obtain ⟨-, polled⟩ := poll_polled taken
  cases polled with
  | failed result =>
    exact ⟨tabled, followed, traced.slot, traced.outstanding, traced.reported, traced.events,
      fun i point => nomatch point⟩
  | finished revents result unready unconnected =>
    exact traced.of_polled tabled followed unmarked revents nothing (List.append_nil _).symm rfl
      (fun other member => Or.inr ⟨member, fun new registered =>
        absurd registered List.not_mem_nil⟩) fun entry member => Or.inl member
  | skipped revents result unready =>
    exact traced.of_polled tabled followed unmarked revents nothing (List.append_nil _).symm rfl
      (fun other member => Or.inr ⟨member, fun new registered =>
        absurd registered List.not_mem_nil⟩) fun entry member => Or.inl member
  | refused revents result ready =>
    have ofAccept : ∀ action ∈ ([message input.messageTime ("can not accept new connection (" ++
        toString manager.tcpConnRet ++ ")")] : List (Action config.layout)),
        action.OfAccept (acceptedClient input) := List.forall_mem_singleton.mpr (.writePipe _)
    refine traced.of_polled tabled followed unmarked revents ofAccept rfl rfl
      (fun other member => ?_) fun entry member => Or.inl member
    refine Or.inr ⟨member, fun new registered => ?_⟩
    exact nomatch List.mem_singleton.mp registered
  | registered revents result ready sockList inserted =>
    have fresh := lawful (Nat.lt_succ_self _)
    have ofAccept : ∀ action ∈ ([.registered (acceptedClient input),
        message input.messageTime "received new connection"] : List (Action config.layout)),
        action.OfAccept (acceptedClient input) :=
      List.forall_mem_cons.mpr ⟨.registered, List.forall_mem_singleton.mpr (.writePipe _)⟩
    refine traced.of_polled tabled followed unmarked revents ofAccept rfl rfl
      (fun other member => ?_) fun entry member => ?_
    · rcases List.mem_cons.mp ((dplInsertSorted_perm inserted).mem_iff.mp member) with
        rfl | old
      · exact Or.inl rfl
      · refine Or.inr ⟨old, fun new registered same => ?_⟩
        rcases List.mem_cons.mp registered with isNew | isMessage
        · rw [Action.registered.inj isNew, fresh.sd_acceptedClient] at same
          exact fresh.unlisted (same ▸ List.mem_map_of_mem old)
        · exact nomatch List.mem_singleton.mp isMessage
    · dsimp only at member
      rw [tail_registered traced.tabled.sized] at member
      rcases List.mem_append.mp member with old | last
      · exact Or.inl old
      · rw [List.mem_singleton.mp last]
        have descriptor : (acceptedEntry input).fd = input.socket.sd := fresh.sd_acceptedClient
        rw [descriptor]
        exact Or.inr fresh.unpolled

/-! ### The scan -/

section Iteration

variable {manager after : Connmgr config} {input : ScanInput}
  {examination : Examination config} (examined : Examined manager input examination)

include examined

/-- The sensor of the client that an iteration examines has been reported, unless a receive was cut
short. -/
theorem Examined.vouched_sensor (followed : manager.Followed)
    (reported : ∀ client ∈ manager.sockList, client.sensor ≠ 0 →
      Vouched client.sd client.sensor manager.log) {client : TcpsockDpl}
    (found : examination.visit.client = some client) (nonzero : client.sensor ≠ 0) :
    Vouched examination.entry.fd client.sensor (manager.log ++ examination.visit.actions) := by
  have visited := examined.visited
  have unregistered : ∀ action ∈ examination.visit.actions, ∀ other, action = .registered other →
      other.sd ≠ examination.entry.fd := fun action member other same =>
    absurd same (visited.not_registered action member other)
  have old {before : TcpsockDpl} (present : examination.client = some before)
      (set : before.sensor ≠ 0) : Vouched examination.entry.fd before.sensor
        (manager.log ++ examination.visit.actions) := by
    obtain ⟨node, -, holds, sd⟩ := examined.node_of_client present
    have known := reported before (List.mem_of_getElem? holds) set
    rw [sd] at known
    exact known.append unregistered
  generalize visitEq : examination.visit = visit at visited found unregistered old ⊢
  cases visited with
  | passed silent => exact old found nonzero
  | reading before present receives status =>
    rw [← Option.some.inj found] at nonzero ⊢
    by_cases unset : before.sensor = 0
    · -- The client takes over the id that its receive has put into `data`.
      obtain ⟨node, -, holds, sd⟩ := examined.node_of_client present
      have bound := (chunk_ne_nil_of_noError status).1
      have socket : before.sockPt.sd = examination.entry.fd :=
        (followed.sockets before (List.mem_of_getElem? holds) bound).trans sd
      have sensor : (refreshed before manager.data input).sensor =
          (receivedData before manager.data input).id.word := if_pos unset
      have longer := receivesOn_append_of_other manager.log unregistered
      rw [List.filterMap_append, filterMap_receivedOn_recvCalls bound socket] at longer
      have vouched := (followed.passes examination.entry.fd).vouched manager.data
        (longer.trans (congrArg _ (List.append_nil _)))
      rw [← receivedData_of_bound bound] at vouched
      rwa [sensor]
    · have sensor : (refreshed before manager.data input).sensor = before.sensor := if_neg unset
      rw [sensor]
      exact old present unset
  | lost before present receives status =>
    obtain rfl := Option.some.inj found
    exact old present nonzero
  | failed before present receives statusNoError statusClosed =>
    obtain rfl := Option.some.inj found
    exact old present nonzero

/-- An iteration keeps the requests that the slot still holds, and clears those it serves. -/
theorem Examined.stopRequests_scanned (scanned : Scanned manager input examination after)
    (slot : (stopRequests manager.log).slot = manager.connmgrSensorStopsig)
    (outstanding : manager.connmgrSensorStopsig ≠ 0 →
      manager.connmgrSensorStopsig ∈ (stopRequests manager.log).outstanding) :
    (stopRequests after.log).slot = after.connmgrSensorStopsig ∧
      (after.connmgrSensorStopsig ≠ 0 →
        after.connmgrSensorStopsig ∈ (stopRequests after.log).outstanding) := by
  obtain ⟨emptied, ending, log, ofEnding, served⟩ := scanned.log
  have front : stopRequests (manager.log ++ examination.visit.actions ++
      [.mutexLock .connmgr]) = stopRequests manager.log := by
    rw [List.append_assoc]
    refine stopRequests_append_of_quiet manager.log fun action member thread value same => ?_
    rw [same] at member
    rcases List.mem_append.mp member with visited | locked
    · exact nomatch examined.visited.ofVisit _ visited
    · exact nomatch List.mem_singleton.mp locked
  have back : stopRequests after.log = stopRequests (manager.log ++ examination.visit.actions ++
      [.mutexLock .connmgr] ++ emptied) := by
    rw [log]
    refine stopRequests_append_of_quiet _ fun action member thread value same => ?_
    have kind := ofEnding action member
    rw [same] at kind
    exact nomatch kind
  rw [back]
  rcases served with ⟨rfl, sameSlot⟩ | ⟨rfl, emptySlot⟩
  · rw [List.append_nil, front, sameSlot]
    exact ⟨slot, outstanding⟩
  · rw [stopRequests_append, emptySlot]
    exact ⟨rfl, fun nonzero => absurd rfl nonzero⟩

/-- An iteration polls nothing. -/
theorem Examined.lastPolled_scanned (scanned : Scanned manager input examination after) :
    lastPolled after.log = lastPolled manager.log := by
  obtain ⟨rest, log, kinds⟩ := scanned.exists_rest
  rw [log, List.append_assoc]
  refine lastPolled_append_of_quiet _ fun action member entries same => ?_
  rw [same] at member
  rcases List.mem_append.mp member with visited | later
  · exact nomatch examined.visited.ofVisit _ visited
  · rcases kinds _ later with ending | written
    · exact nomatch ending
    · exact nomatch written

omit examined in
/-- What is vouched for after the first part of an iteration stays so. -/
theorem Scanned.vouched (scanned : Scanned manager input examination after) {fd : Int}
    {id : BitVec 16} (vouched : Vouched fd id (manager.log ++ examination.visit.actions)) :
    Vouched fd id after.log := by
  obtain ⟨rest, log, kinds⟩ := scanned.exists_rest
  rw [log]
  refine vouched.append fun action member other same => ?_
  rw [same] at member
  rcases kinds _ member with ending | written
  · exact nomatch ending
  · exact nomatch written

end Iteration

theorem Connmgr.Traced.scan {manager after : Connmgr config} (traced : manager.Traced)
    {input : ScanInput} (taken : manager.scan input = some after) : after.Traced := by
  have tabled := traced.tabled.scan taken
  obtain ⟨examination, answered, examined, scanned⟩ := scan_scanned traced.tabled.sized taken
  have positive := traced.tabled.sized.index _ examined.position
  have requests := examined.stopRequests_scanned scanned traced.slot traced.outstanding
  have current := mem_tail_of_getElem? positive examined.entry
  have samePoll := examined.lastPolled_scanned scanned
  refine ⟨tabled, traced.followed.scan taken, requests.1, requests.2,
    fun client member nonzero => ?_, (traced.unmarked.scan taken).events,
    fun i point entry member found => ?_⟩
  · apply scanned.vouched
    rcases examined.mem_sockList_scanned scanned member with old | visited
    · refine (traced.reported client old nonzero).append fun action recorded other same => ?_
      exact absurd same (examined.visited.not_registered action recorded other)
    · obtain ⟨-, -, -, -, -, -, -, sd, -⟩ := examined.node_of_visit_client visited
      rw [sd]
      exact examined.vouched_sensor traced.followed traced.reported visited nonzero
  · rw [samePoll] at found ⊢
    rcases examined.mem_tail_scanned traced.tabled.sized scanned member with old | ⟨rfl, -⟩
    · exact traced.polled _ examined.position entry old found
    · rw [examined.visited.entry_fd] at found ⊢
      rw [examined.visited.entry_revents]
      exact traced.polled _ examined.position examination.entry current found

/-! ### The other steps -/

/-- A step that changes neither table and records neither a poll nor a connection. -/
theorem Connmgr.Traced.of_same {manager after : Connmgr config} (traced : manager.Traced)
    (tabled : after.Tabled) (followed : after.Followed) (pollFd : after.pollFd = manager.pollFd)
    (sockList : after.sockList = manager.sockList)
    (position : ∀ i, after.position = .scanning i → manager.position = .scanning i)
    {rest : List (Action config.layout)} (log : after.log = manager.log ++ rest)
    (unregistered : ∀ client, .registered client ∉ rest)
    (unpolled : ∀ entries, .polled entries ∉ rest)
    (slot : (stopRequests after.log).slot = after.connmgrSensorStopsig)
    (outstanding : after.connmgrSensorStopsig ≠ 0 →
      after.connmgrSensorStopsig ∈ (stopRequests after.log).outstanding) : after.Traced := by
  have samePoll : lastPolled after.log = lastPolled manager.log := by
    rw [log]
    refine lastPolled_append_of_quiet _ fun action member entries same => ?_
    rw [same] at member
    exact unpolled entries member
  refine ⟨tabled, followed, slot, outstanding, fun client member nonzero => ?_, ?_,
    fun i point => ?_⟩
  · rw [sockList] at member
    rw [log]
    refine (traced.reported client member nonzero).append fun action recorded other same => ?_
    rw [same] at recorded
    exact absurd recorded (unregistered other)
  · rw [pollFd]
    exact traced.events
  · rw [pollFd, samePoll]
    exact traced.polled i (position i point)

theorem Connmgr.Traced.endScan {manager after : Connmgr config} (traced : manager.Traced)
    {messageTime : Int} (taken : manager.endScan messageTime = some after)
    (tabled : after.Tabled) (followed : after.Followed) : after.Traced := by
  obtain ⟨-, rfl | rfl⟩ := endScan_ended taken
  · exact traced.of_same tabled followed rfl rfl (fun i point => nomatch point)
      (List.append_nil _).symm (fun client => List.not_mem_nil)
      (fun entries => List.not_mem_nil) traced.slot traced.outstanding
  · have quiet : stopRequests (manager.log ++ [message messageTime "Poll sockets error"]) =
        stopRequests manager.log := by
      refine stopRequests_append_of_quiet _ fun action member thread value same => ?_
      rw [same] at member
      exact nomatch List.mem_singleton.mp member
    refine traced.of_same tabled followed rfl rfl (fun i point => nomatch point) rfl
      (fun client member => nomatch List.mem_singleton.mp member)
      (fun entries member => nomatch List.mem_singleton.mp member) ?_ ?_
    · exact (congrArg Requests.slot quiet).trans traced.slot
    · dsimp only
      rw [quiet]
      exact traced.outstanding

theorem Connmgr.Traced.store {manager : Connmgr config} (traced : manager.Traced)
    (id : BitVec 16) (tabled : (manager.store id).Tabled)
    (followed : (manager.store id).Followed) : (manager.store id).Traced := by
  have requests : stopRequests (manager.store id).log =
      { slot := id, outstanding := id :: (stopRequests manager.log).outstanding } :=
    stopRequests_append _ _
  refine traced.of_same tabled followed rfl rfl (fun i point => point) rfl
    (fun client member => ?_) (fun entries member => ?_) ?_ fun nonzero => ?_
  · simp at member
  · simp at member
  · rw [requests]
    rfl
  · rw [requests]
    exact List.mem_cons_self

theorem Connmgr.Traced.step {manager after : Connmgr config} (traced : manager.Traced)
    {event : ConnmgrEvent} (taken : manager.step event = some after)
    (lawful : Lawful ⟨manager, event, after⟩) : after.Traced := by
  have tabled := traced.tabled.step taken lawful
  have followed := traced.followed.step taken
  cases event with
  | poll outcome input => exact traced.poll taken (lawful outcome input rfl)
  | scan input => exact traced.scan taken
  | endScan messageTime => exact traced.endScan taken tabled followed
  | store id =>
    obtain rfl := Option.some.inj taken
    exact traced.store id tabled followed

/-! ### Reasons and drops -/

/-- Without any reason, the iteration meets a condition that is mistaken for one. -/
def Misled (manager : Connmgr config) (input : ScanInput) : Prop :=
  Mistakes manager input ∧ ¬ HasReason manager input

instance (manager : Connmgr config) (input : ScanInput) : Decidable (Misled manager input) :=
  inferInstanceAs (Decidable (_ ∧ _))

/-- An entry is found lost only by a receive that returns TCP_CONNECTION_CLOSED. -/
theorem Visited.closed_of_lost {client : Option TcpsockDpl} {entry : PollFd}
    {data : SensorData config.layout} {input : ScanInput} {visit : Visit config}
    (visited : Visited client entry data input visit) (before : entry.events ≠ -1)
    (lost : visit.Lost) : ∃ found ∈ client, Receives found entry config input ∧
      receivedStatus found data input = .connectionClosed := by
  cases visited with
  | passed silent => exact absurd lost before
  | reading found present receives status => exact absurd lost before
  | lost found present receives status => exact ⟨found, present, receives, status⟩
  | failed found present receives statusNoError statusClosed => exact absurd lost before

section Drops

variable {manager : Connmgr config} {input : ScanInput} {examination : Examination config}

/-- An iteration drops an entry exactly when the test that closes a connection succeeds. -/
theorem length_scanned_lt_iff {after : Connmgr config} (sized : manager.Sized)
    (examined : Examined manager input examination)
    (scanned : Scanned manager input examination after) :
    after.pollFd.length < manager.pollFd.length ↔
      examination.visit.Closes manager.connmgrSensorStopsig input := by
  have shorter : ((manager.pollFd.set examination.i examination.visit.entry).eraseIdx
      examination.i).length < manager.pollFd.length := by
    have bound := examined.bound
    rw [List.length_eraseIdx, List.length_set, sized.length, if_pos bound]
    omega
  cases scanned with
  | kept lives =>
    have same : (manager.pollFd.set examination.i examination.visit.entry).length =
        manager.pollFd.length := List.length_set
    exact iff_of_false (fun less => absurd same (Nat.ne_of_lt less)) lives
  | stopped client found wanted =>
    exact iff_of_true shorter (Or.inl (Or.inl ⟨client, found, wanted⟩))
  | closed client node found place other reason =>
    refine iff_of_true shorter ?_
    rcases reason with late | reason
    · exact Or.inl (Or.inr late)
    · exact Or.inr reason
  | orphaned missing reason => exact iff_of_true shorter (Or.inr reason)

/-- The test succeeds for what is mistaken for a reason. -/
theorem closes_of_mistaken (examined : Examined manager input examination)
    (mistaken : BothUnset manager examination ∨ CutShort manager examination ∨
      StaleHangup manager examination) :
    examination.visit.Closes manager.connmgrSensorStopsig input := by
  rcases mistaken with ⟨empty, client, found, unset⟩ | ⟨wanted, -⟩ | ⟨-, hangup⟩
  · exact Or.inl (Or.inl ⟨client, found, unset.trans empty.symm⟩)
  · exact Or.inl (Or.inl wanted)
  · rw [← examined.visited.entry_revents] at hangup
    exact Or.inr (Or.inl hangup)

/-- When nothing is mistaken for a reason, the test succeeds only for a reason. -/
theorem Connmgr.Traced.reason_of_closes (traced : manager.Traced)
    (examined : Examined manager input examination)
    (closes : examination.visit.Closes manager.connmgrSensorStopsig input)
    (set : ¬ BothUnset manager examination) (uncut : ¬ CutShort manager examination)
    (current : ¬ StaleHangup manager examination) :
    HungUp manager examination ∨ PeerClosed manager input examination ∨
      examination.visit.TimedOut input ∨ Requested manager examination := by
  have positive := traced.tabled.sized.index _ examined.position
  have member := mem_tail_of_getElem? positive examined.entry
  rcases closes with (⟨client, found, wanted⟩ | late) | hangup | lost
  · -- The slot is not empty, because the client has a sensor.
    have nonzero : client.sensor ≠ 0 := fun unset =>
      set ⟨wanted.symm.trans unset, client, found, unset⟩
    have pending : manager.connmgrSensorStopsig ≠ 0 := wanted ▸ nonzero
    have whole := not_not.mp fun cut => uncut ⟨⟨client, found, wanted⟩, cut⟩
    have reported := examined.vouched_sensor traced.followed traced.reported found nonzero whole
    rw [wanted] at reported
    exact Or.inr (Or.inr (Or.inr ⟨_, traced.outstanding pending, reported⟩))
  · exact Or.inr (Or.inr (Or.inl late))
  · rw [examined.visited.entry_revents] at hangup
    have polledNow : examination.entry.fd ∈ (lastPolled manager.log).map PollFd.fd := by
      by_contra unpolled
      exact current ⟨unpolled, hangup⟩
    obtain ⟨polled, recorded, descriptor, revents⟩ :=
      traced.polled _ examined.position examination.entry member polledNow
    rw [← revents] at hangup
    exact Or.inl ⟨polled, recorded, descriptor, hangup⟩
  · obtain ⟨client, found, receives, closed⟩ :=
      examined.visited.closed_of_lost (traced.events _ member) lost
    exact Or.inr (Or.inl ⟨client, found, receives, Or.inr (Or.inr closed)⟩)

/-- An iteration drops an entry for a reason only, exactly when it is not misled. -/
theorem Connmgr.Traced.reasonable_iff {after : Connmgr config} (traced : manager.Traced)
    (taken : manager.scan input = some after) :
    (after.pollFd.length < manager.pollFd.length → HasReason manager input) ↔
      ¬ Misled manager input := by
  obtain ⟨examination, answered, examined, scanned⟩ := scan_scanned traced.tabled.sized taken
  rw [length_scanned_lt_iff traced.tabled.sized examined scanned]
  constructor
  · rintro reasonable ⟨⟨other, same, mistaken⟩, noReason⟩
    obtain rfl := Option.some.inj (answered.symm.trans same)
    exact noReason (reasonable (closes_of_mistaken examined mistaken))
  · intro notMisled closes
    by_contra noReason
    have unmistaken : ¬ (BothUnset manager examination ∨ CutShort manager examination ∨
        StaleHangup manager examination) :=
      fun mistaken => notMisled ⟨⟨examination, answered, mistaken⟩, noReason⟩
    rw [not_or, not_or] at unmistaken
    obtain ⟨set, uncut, current⟩ := unmistaken
    have reason := traced.reason_of_closes examined closes set uncut current
    exact noReason ⟨examination, answered, reason⟩

end Drops

/-- In a run in which `accept` keeps its promise, an iteration of the scan drops the entry of a
connection for a reason only, exactly when no iteration is misled. -/
theorem dropped_for_reason_iff (listener : Int) (revents : BitVec 16) (pollRet tcpConnRet : Int)
    (uninitialised : SensorData config.layout) (events : List ConnmgrEvent)
    (lawful : ∀ transition ∈ Runs.transitions Connmgr.step
      (Connmgr.start listener revents pollRet tcpConnRet uninitialised) events,
        Lawful transition) :
    (∀ transition ∈ Runs.transitions Connmgr.step
        (Connmgr.start listener revents pollRet tcpConnRet uninitialised) events,
      ∀ input, transition.event = .scan input →
        transition.after.pollFd.length < transition.before.pollFd.length →
          HasReason transition.before input) ↔
    ∀ transition ∈ Runs.transitions Connmgr.step
        (Connmgr.start listener revents pollRet tcpConnRet uninitialised) events,
      ∀ input, transition.event = .scan input → ¬ Misled transition.before input := by
  have traced := Runs.invariant_of_transitions Connmgr.Traced Lawful
    (start_traced listener revents pollRet tcpConnRet uninitialised)
    (fun _ _ _ before taken admitted => before.step taken admitted) lawful
  refine forall₂_congr fun transition member => forall₂_congr fun input scan => ?_
  have taken := Runs.step_of_mem_transitions member
  rw [scan] at taken
  exact (traced transition member).1.reasonable_iff taken

/-- A sensor connects, sends a reading, and is stopped by a request. -/
def stoppedReading : List ConnmgrEvent :=
  oneReading ++ [.endScan 1, .store 5, .poll (.returns [0, pollin]) (accepted 5 0 0),
    .scan (scanAt 2 [5, 0] [0, 0, 0, 0, 0, 0, 0, 0] [0, 0, 0, 0, 0, 0, 0, 0])]

theorem dropped_for_reason_stopped :
    ∃ transition ∈ Runs.transitions Connmgr.step gatewayStart stoppedReading,
      ∃ input, transition.event = .scan input ∧
        transition.after.pollFd.length < transition.before.pollFd.length ∧
          HasReason transition.before input := by
  have reasonable :=
    (dropped_for_reason_iff 3 0 0 (-1) zeroData stoppedReading (by decide)).mpr (by decide)
  have inside : 7 < (Runs.transitions Connmgr.step gatewayStart stoppedReading).length := by
    decide
  have dropped : 1 < 2 := by decide
  exact ⟨_, List.getElem_mem inside, _, rfl, dropped,
    reasonable _ (List.getElem_mem inside) _ rfl dropped⟩

/-- One sensor is connected and sends; another connects in the same round and is silent. The
slot is empty, and the silent one is dropped. -/
theorem silent_client_dropped :
    ¬ ∀ events : List ConnmgrEvent,
      (∀ transition ∈ Runs.transitions Connmgr.step gatewayStart events, Lawful transition) →
      ∀ transition ∈ Runs.transitions Connmgr.step gatewayStart events,
        ∀ input, transition.event = .scan input →
          transition.after.pollFd.length < transition.before.pollFd.length →
            HasReason transition.before input := by
  intro holds
  refine absurd (holds [.poll (.returns [pollin]) (accepted 4 0 0), .endScan 0,
    .poll (.returns [pollin, pollin]) (accepted 5 1 0),
    .scan (scanAt 1 [1, 0] [0, 0, 0, 0, 0, 0, 0, 0] [0, 0, 0, 0, 0, 0, 0, 0]),
    .scan (scanAt 1 [] [] [])] (by decide)) ?_
  decide

end SensorGateway
