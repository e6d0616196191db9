/-
This file says once what each step of the connection manager does. The search in
`sock_list` is a search by descriptor, the loop that closes the gap in `poll_fd`
removes one entry, and an iteration of the scan is its first part followed by one of
four endings. It also says which actions each kind of step records, so that a reader of
the log needs to look only at those that concern it. The later files cite these facts
and do not unfold the functions of the model.

The shape of `poll_fd` is the first invariant: it has one entry more than there are
connections, and the scan never looks at the entry of the listening socket.
-/

import SensorGateway.Connmgr
import SensorGateway.Library.Runs

namespace SensorGateway

variable {config : Config} {layout : Layout}

/-! ### The search by descriptor -/

theorem elementCompare_eq_zero_iff (first second : TcpsockDpl) :
    elementCompare first second = 0 ↔ first.sd = second.sd := by
  unfold elementCompare
  split_ifs with same
  · exact iff_of_true rfl same
  · exact iff_of_false (by decide) same

/-- The client of a descriptor. -/
def Connmgr.clientOf (manager : Connmgr config) (fd : Int) : Option TcpsockDpl :=
  Table.lookup TcpsockDpl.sd manager.sockList fd

/-- What an iteration finds before it does anything. -/
structure Examined (manager : Connmgr config) (input : ScanInput)
    (examination : Examination config) : Prop where
  position : manager.position = .scanning examination.i
  bound : examination.i < manager.counter + 1
  events : 0 < manager.pollRet
  entry : manager.pollFd[examination.i]? = some examination.entry
  node : examination.node =
    Table.position TcpsockDpl.sd manager.sockList examination.entry.fd
  client : examination.client = manager.clientOf examination.entry.fd
  visit : examination.visit =
    visitClient examination.client examination.entry manager.data input

theorem bind_dplGetElementOfReference (sockList : List TcpsockDpl) (fd : Int) :
    (Table.position TcpsockDpl.sd sockList fd).bind (dplGetElementOfReference sockList) =
      Table.lookup TcpsockDpl.sd sockList fd := by
  cases found : Table.position TcpsockDpl.sd sockList fd with
  | none => exact (Table.lookup_of_position_none found).symm
  | some node => exact Table.getElem?_position found

theorem examined_of_examine {manager : Connmgr config} {input : ScanInput}
    {examination : Examination config} (found : manager.examine input = some examination) :
    Examined manager input examination := by
  unfold Connmgr.examine at found
  cases point : manager.position with
  | polling => exact absurd found (by simp [point])
  | returned => exact absurd found (by simp [point])
  | scanning i =>
    simp only [point] at found
    split_ifs at found with guard
    obtain ⟨entry, present, found⟩ := Option.bind_eq_some_iff.mp found
    rw [Option.some.injEq] at found
    subst found
    have node : dplGetReferenceOfElement elementCompare manager.sockList (sockDum entry.fd) =
        Table.position TcpsockDpl.sd manager.sockList entry.fd :=
      dplGetReferenceOfElement_eq_position elementCompare_eq_zero_iff manager.sockList
        (sockDum entry.fd)
    exact {
      position := point
      bound := guard.1
      events := guard.2
      entry := present
      node
      client := by
        show (dplGetReferenceOfElement elementCompare manager.sockList _).bind _ = _
        rw [node, bind_dplGetElementOfReference]
        rfl
      visit := rfl }

/-- A client that was found sits at the node that was found. -/
theorem Examined.node_of_client {manager : Connmgr config} {input : ScanInput}
    {examination : Examination config} (examined : Examined manager input examination)
    {client : TcpsockDpl} (found : examination.client = some client) :
    ∃ node, examination.node = some node ∧ manager.sockList[node]? = some client ∧
      client.sd = examination.entry.fd := by
  rw [examined.client, Connmgr.clientOf] at found
  cases position : Table.position TcpsockDpl.sd manager.sockList examination.entry.fd with
  | none => exact absurd found (by simp [Table.lookup_of_position_none position])
  | some node =>
    refine ⟨node, examined.node.trans position, ?_, Table.key_of_lookup found⟩
    rw [Table.getElem?_position position, found]

/-! ### The first part of an iteration -/

/-- The variable `data` after the three receives. -/
def receivedData (client : TcpsockDpl) (data : SensorData config.layout) (input : ScanInput) :
    SensorData config.layout where
  id := (tcpReceive client.sockPt data.id input.id).2.2
  value := (tcpReceive client.sockPt data.value input.value).2.2
  ts := (tcpReceive client.sockPt data.ts input.ts).2.2

/-- The status of the receive that is checked. -/
def receivedStatus (client : TcpsockDpl) (data : SensorData config.layout) (input : ScanInput) :
    TcpStatus :=
  (tcpReceive client.sockPt data.ts input.ts).1

/-- A client after a reading. -/
def refreshed (client : TcpsockDpl) (data : SensorData config.layout) (input : ScanInput) :
    TcpsockDpl :=
  { client with
    lastActive := input.activeTime
    sensor := if client.sensor = 0 then (receivedData client data input).id.word
      else client.sensor }

/-- What the first part of an iteration does, case by case: nothing, a reading, the end of the
connection, or a receive that failed otherwise. -/
inductive Visited (client : Option TcpsockDpl) (entry : PollFd) (data : SensorData config.layout)
    (input : ScanInput) : Visit config → Prop
  | passed (silent : ∀ before, client = some before → ¬ Receives before entry config input) :
    Visited client entry data input ⟨entry, client, data, []⟩
  | reading (before : TcpsockDpl) (found : client = some before)
    (receives : Receives before entry config input)
    (status : receivedStatus before data input = .noError) :
    Visited client entry data input ⟨entry, some (refreshed before data input),
      receivedData before data input, recvCalls before.sockPt input ++
        [.sbufferInsert before.sd (receivedData before data input)]⟩
  | lost (before : TcpsockDpl) (found : client = some before)
    (receives : Receives before entry config input)
    (status : receivedStatus before data input = .connectionClosed) :
    Visited client entry data input ⟨{ entry with events := -1 }, some before,
      receivedData before data input, recvCalls before.sockPt input ++
        [message input.lostTime "Lost connection"]⟩
  | failed (before : TcpsockDpl) (found : client = some before)
    (receives : Receives before entry config input)
    (statusNoError : receivedStatus before data input ≠ .noError)
    (statusClosed : receivedStatus before data input ≠ .connectionClosed) :
    Visited client entry data input ⟨entry, some before, receivedData before data input,
      recvCalls before.sockPt input⟩

section Receiving

variable {before : TcpsockDpl} {entry : PollFd} {data : SensorData config.layout}
  {input : ScanInput} (receives : Receives before entry config input)

include receives

/-- When the last receive succeeds, a reading is inserted. -/
theorem visitClient_reading (succeeded : receivedStatus before data input = .noError) :
    visitClient (some before) entry data input = ⟨entry, some (refreshed before data input),
      receivedData before data input, recvCalls before.sockPt input ++
        [.sbufferInsert before.sd (receivedData before data input)]⟩ := by
  have nonzero := sizeRet_ne_zero_of_noError succeeded
  exact (if_pos receives).trans (if_pos ⟨succeeded, nonzero⟩)

/-- When the last receive finds the connection closed, the entry is marked. -/
theorem visitClient_lost (closed : receivedStatus before data input = .connectionClosed) :
    visitClient (some before) entry data input = ⟨{ entry with events := -1 }, some before,
      receivedData before data input, recvCalls before.sockPt input ++
        [message input.lostTime "Lost connection"]⟩ := by
  have notInserted : ¬ (receivedStatus before data input = .noError ∧
      (tcpReceive before.sockPt data.ts input.ts).2.1 ≠ 0) := fun both =>
    nomatch closed.symm.trans both.1
  exact (if_pos receives).trans ((if_neg notInserted).trans (if_pos closed))

/-- When the last receive fails otherwise, only `data` is changed. -/
theorem visitClient_failed (failed : receivedStatus before data input ≠ .noError)
    (unclosed : receivedStatus before data input ≠ .connectionClosed) :
    visitClient (some before) entry data input = ⟨entry, some before,
      receivedData before data input, recvCalls before.sockPt input⟩ := by
  have notInserted : ¬ (receivedStatus before data input = .noError ∧
      (tcpReceive before.sockPt data.ts input.ts).2.1 ≠ 0) := fun both => failed both.1
  exact (if_pos receives).trans ((if_neg notInserted).trans (if_neg unclosed))

end Receiving

section Visit

variable (client : Option TcpsockDpl) (entry : PollFd) (data : SensorData config.layout)
  (input : ScanInput)

theorem visitClient_visited : Visited client entry data input
    (visitClient client entry data input) := by
  cases client with
  | none => exact .passed fun before found => nomatch found
  | some before =>
    by_cases receives : Receives before entry config input
    · by_cases succeeded : receivedStatus before data input = .noError
      · rw [visitClient_reading receives succeeded]
        exact .reading before rfl receives succeeded
      · by_cases closed : receivedStatus before data input = .connectionClosed
        · rw [visitClient_lost receives closed]
          exact .lost before rfl receives closed
        · rw [visitClient_failed receives succeeded closed]
          exact .failed before rfl receives succeeded closed
    · have passed : visitClient (some before) entry data input = ⟨entry, some before, data, []⟩ :=
        if_neg receives
      rw [passed]
      refine .passed fun other found => ?_
      rw [← Option.some.inj found]
      exact receives

variable {client entry data input} {visit : Visit config}

theorem Visited.entry_fd (visited : Visited client entry data input visit) :
    visit.entry.fd = entry.fd := by
  cases visited <;> rfl

theorem Visited.entry_revents (visited : Visited client entry data input visit) :
    visit.entry.revents = entry.revents := by
  cases visited <;> rfl

/-- The client stays the same connection. -/
theorem Visited.client_some (visited : Visited client entry data input visit)
    {before : TcpsockDpl} (found : client = some before) :
    ∃ after, visit.client = some after ∧ after.sd = before.sd ∧
      after.sockPt = before.sockPt := by
  cases visited with
  | passed silent => exact ⟨before, found, rfl, rfl⟩
  | reading other same receives status =>
    obtain rfl := Option.some.inj (found.symm.trans same)
    exact ⟨_, rfl, rfl, rfl⟩
  | lost other same receives status =>
    obtain rfl := Option.some.inj (found.symm.trans same)
    exact ⟨_, rfl, rfl, rfl⟩
  | failed other same receives statusNoError statusClosed =>
    obtain rfl := Option.some.inj (found.symm.trans same)
    exact ⟨_, rfl, rfl, rfl⟩

theorem Visited.client_none (visited : Visited client entry data input visit)
    (missing : client = none) : visit.client = none := by
  cases visited with
  | passed silent => exact missing
  | reading before found receives status => exact nomatch missing.symm.trans found
  | lost before found receives status => exact nomatch missing.symm.trans found
  | failed before found receives statusNoError statusClosed =>
    exact nomatch missing.symm.trans found

end Visit

/-! ### The loop that closes the gap -/

/-- After `done` iterations the front of the array is the front of the array without the entry
`i`, and the rest is unchanged; `id2` runs one ahead of `id1` once it has passed `i`. -/
theorem compactLoop_from {pollFd : List PollFd} {i left done : Nat}
    (size : pollFd.length = done + left + 1) (bound : i ≤ done + left) :
    compactLoop i left done (if i < done then done + 1 else done)
        ((pollFd.eraseIdx i).take done ++ pollFd.drop done) =
      some (pollFd.eraseIdx i ++ pollFd.drop (done + left)) := by
  induction left generalizing done with
  | zero =>
    rw [compactLoop, List.take_of_length_le]
    · rfl
    · rw [List.length_eraseIdx]
      split_ifs <;> omega
  | succ left inductionHypothesis =>
    have front : ((pollFd.eraseIdx i).take done).length = done := by
      rw [List.length_take, List.length_eraseIdx]
      split_ifs <;> omega
    -- `id2` after the adjustment is the position in the old array of the entry wanted next.
    have source : (if i < done then done + 1 else done) +
        (if (if i < done then done + 1 else done) = i then 1 else 0) =
          if i ≤ done then done + 1 else done := by
      split_ifs <;> omega
    have reads : ((pollFd.eraseIdx i).take done ++ pollFd.drop done)[
        if i ≤ done then done + 1 else done]? = (pollFd.eraseIdx i)[done]? := by
      rw [List.getElem?_append_right (by rw [front]; split_ifs <;> omega), front,
        List.getElem?_drop, List.getElem?_eraseIdx]
      split_ifs with passed before before
      · omega
      · congr 1
        omega
      · congr 1
        omega
      · omega
    have inside : done < (pollFd.eraseIdx i).length := by
      rw [List.length_eraseIdx]
      split_ifs <;> omega
    have writes (entry : PollFd) (found : (pollFd.eraseIdx i)[done]? = some entry) :
        ((pollFd.eraseIdx i).take done ++ pollFd.drop done).set done entry =
          (pollFd.eraseIdx i).take (done + 1) ++ pollFd.drop (done + 1) := by
      rw [List.set_append_right _ _ (by rw [front]), front, Nat.sub_self,
        List.take_add_one, found, Option.toList_some, List.append_assoc, List.singleton_append,
        List.drop_eq_getElem_cons (by omega), List.set_cons_zero]
    rw [compactLoop, source, reads, List.getElem?_eq_getElem inside, Option.bind_eq_bind,
      Option.bind_some, if_pos, writes _ (List.getElem?_eq_getElem inside)]
    · have grown : pollFd.length = done + 1 + left + 1 := by omega
      have within : i ≤ done + 1 + left := by omega
      have next := inductionHypothesis grown within
      have advanced : (if i ≤ done then done + 1 else done) + 1 =
          if i < done + 1 then done + 1 + 1 else done + 1 := by
        split_ifs <;> omega
      rw [advanced, next, Nat.add_right_comm, Nat.add_assoc]
    · rw [List.length_append, front, List.length_drop]
      omega

/-- The loop removes the entry `i` and touches nothing outside the array. -/
theorem compactLoop_eraseIdx {pollFd : List PollFd} {i counter : Nat}
    (size : pollFd.length = counter + 1) (bound : i < counter + 1) :
    ∃ after, compactLoop i counter 0 0 pollFd = some after ∧
      after.take counter = pollFd.eraseIdx i := by
  have whole : pollFd.length = 0 + counter + 1 := by omega
  have within : i ≤ 0 + counter := by omega
  have ran := compactLoop_from whole within
  rw [if_neg (Nat.not_lt_zero i), List.take_zero, List.nil_append, List.drop_zero] at ran
  refine ⟨_, ran, ?_⟩
  rw [List.take_append_of_le_length, List.take_of_length_le]
  all_goals
    rw [List.length_eraseIdx]
    split_ifs <;> omega

theorem Examined.visited {manager : Connmgr config} {input : ScanInput}
    {examination : Examination config} (examined : Examined manager input examination) :
    Visited examination.client examination.entry manager.data input examination.visit := by
  rw [examined.visit]
  exact visitClient_visited _ _ _ _

/-! ### The endings of an iteration -/

/-- The shape of `poll_fd`: it has one entry more than there are connections, and the scan is
past the entry of the listening socket. -/
structure Connmgr.Sized (manager : Connmgr config) : Prop where
  length : manager.pollFd.length = manager.counter + 1
  index : ∀ i, manager.position = .scanning i → 1 ≤ i

/-- Drop the entry of an iteration from `poll_fd`. -/
def Connmgr.drop (manager : Connmgr config) (examination : Examination config) :
    Connmgr config :=
  { manager with
    pollFd := manager.pollFd.eraseIdx examination.i
    counter := manager.counter - 1
    position := .scanning examination.i
    log := manager.log ++ [.dropped examination.visit.entry examination.visit.client] }

/-- The end of an iteration that keeps the connection. -/
def Connmgr.keep (manager : Connmgr config) (examination : Examination config) :
    Connmgr config :=
  { manager with
    position := .scanning (examination.i + 1)
    log := manager.log ++ [.mutexUnlock .connmgr] }

/-- The end of an iteration that serves a stop request. -/
def Connmgr.stop (manager : Connmgr config) (client : TcpsockDpl) (messageTime : Int) :
    Connmgr config :=
  { manager with
    connmgrSensorStopsig := 0
    log := manager.log ++ [.writeStopsig .connmgr 0, .mutexUnlock .connmgr,
      message messageTime ("Stop connection to " ++ toString client.sensor.toNat ++ " by signal")] }

/-- The end of an iteration that closes a connection for another reason. -/
def Connmgr.close (manager : Connmgr config) (node : Nat) (client : TcpsockDpl)
    (messageTime : Int) : Connmgr config :=
  { manager with
    sockList := manager.sockList.eraseIdx node
    log := manager.log ++
      [message messageTime ("Close connection to " ++ toString client.sensor.toNat),
        .tcpClose client.sockPt] }

/-- The end of an iteration on an entry without a client. -/
def Connmgr.release (manager : Connmgr config) : Connmgr config :=
  { manager with log := manager.log ++ [.mutexUnlock .connmgr] }

/-- The four endings of an iteration. -/
inductive Scanned (manager : Connmgr config) (input : ScanInput)
    (examination : Examination config) : Connmgr config → Prop
  | kept (lives : ¬ examination.visit.Closes manager.connmgrSensorStopsig input) :
    Scanned manager input examination ((manager.examined examination).keep examination)
  | stopped (client : TcpsockDpl) (found : examination.visit.client = some client)
    (wanted : client.sensor = manager.connmgrSensorStopsig) :
    Scanned manager input examination
      (((manager.examined examination).stop client input.messageTime).drop examination)
  | closed (client : TcpsockDpl) (node : Nat) (found : examination.visit.client = some client)
    (place : examination.node = some node) (other : client.sensor ≠ manager.connmgrSensorStopsig)
    (reason : examination.visit.TimedOut input ∨
      HasFlag examination.visit.entry.revents pollhup ∨ examination.visit.Lost) :
    Scanned manager input examination
      (((manager.examined examination).close node client input.messageTime).drop examination)
  | orphaned (missing : examination.visit.client = none)
    (reason : HasFlag examination.visit.entry.revents pollhup ∨ examination.visit.Lost) :
    Scanned manager input examination ((manager.examined examination).release.drop examination)

theorem endConnection_pollFd (manager : Connmgr config) (node : Option Nat)
    (client : Option TcpsockDpl) (input : ScanInput) :
    (manager.endConnection node client input).pollFd = manager.pollFd ∧
      (manager.endConnection node client input).counter = manager.counter := by
  unfold Connmgr.endConnection
  cases client with
  | none => exact ⟨rfl, rfl⟩
  | some client =>
    dsimp only
    split_ifs
    · exact ⟨rfl, rfl⟩
    · exact ⟨rfl, rfl⟩

theorem conclude_of_not_closes {manager : Connmgr config} {examination : Examination config}
    {input : ScanInput} (lives : ¬ examination.visit.Closes manager.connmgrSensorStopsig input) :
    manager.conclude examination input = some (manager.keep examination) := if_neg lives

/-- The gap of a dropped entry is closed, however the connection ended. -/
theorem conclude_of_closes {manager : Connmgr config} {examination : Examination config}
    {input : ScanInput} (closes : examination.visit.Closes manager.connmgrSensorStopsig input)
    (size : manager.pollFd.length = manager.counter + 1)
    (bound : examination.i < manager.counter + 1) :
    manager.conclude examination input =
      some ((manager.endConnection examination.node examination.visit.client input).drop
        examination) := by
  obtain ⟨samePollFd, sameCounter⟩ :=
    endConnection_pollFd manager examination.node examination.visit.client input
  obtain ⟨compacted, ran, front⟩ := compactLoop_eraseIdx size bound
  unfold Connmgr.conclude
  dsimp only
  rw [if_pos closes, samePollFd, sameCounter, ran, Option.bind_eq_bind, Option.bind_some, front]
  unfold Connmgr.drop
  rw [samePollFd, sameCounter]

/-- An iteration is its first part and one of the four endings. -/
theorem scan_scanned {manager after : Connmgr config} {input : ScanInput}
    (sized : manager.Sized) (taken : manager.scan input = some after) :
    ∃ examination, manager.examine input = some examination ∧
      Examined manager input examination ∧ Scanned manager input examination after := by
  obtain ⟨examination, answered, concluded⟩ := Option.bind_eq_some_iff.mp taken
  have examined := examined_of_examine answered
  refine ⟨examination, answered, examined, ?_⟩
  by_cases closes : examination.visit.Closes
      (manager.examined examination).connmgrSensorStopsig input
  · have size : (manager.examined examination).pollFd.length =
        (manager.examined examination).counter + 1 :=
      List.length_set.trans sized.length
    rw [conclude_of_closes closes size examined.bound, Option.some.injEq] at concluded
    rw [← concluded]
    cases found : examination.visit.client with
    | none =>
      refine .orphaned found ?_
      rcases closes with (⟨client, present, -⟩ | ⟨client, present, -⟩) | reason
      · exact nomatch found.symm.trans present
      · exact nomatch found.symm.trans present
      · exact reason
    | some client =>
      by_cases wanted : client.sensor = manager.connmgrSensorStopsig
      · have stopped : (manager.examined examination).endConnection examination.node
            (some client) input =
              (manager.examined examination).stop client input.messageTime := if_pos wanted
        rw [stopped]
        exact .stopped client found wanted
      · have present : examination.client ≠ none := fun missing =>
          nomatch found.symm.trans ((examined.visited).client_none missing)
        obtain ⟨before, foundBefore⟩ := Option.ne_none_iff_exists'.mp present
        obtain ⟨node, place, -⟩ := examined.node_of_client foundBefore
        have closed : (manager.examined examination).endConnection examination.node
            (some client) input =
              (manager.examined examination).close node client input.messageTime := by
          rw [place]
          exact if_neg wanted
        rw [closed]
        refine .closed client node found place wanted ?_
        rcases closes with (⟨other, same, equal⟩ | late) | reason
        · obtain rfl := Option.some.inj (found.symm.trans same)
          exact absurd equal wanted
        · exact Or.inl late
        · exact Or.inr reason
  · rw [conclude_of_not_closes closes, Option.some.injEq] at concluded
    rw [← concluded]
    exact .kept closes

/-! ### The poll, the accept, and the end of the body -/

/-- The accept part of the body runs: the listening socket is ready, and there is room. -/
def Connmgr.Accepts (manager : Connmgr config) (revents : Nat → BitVec 16) : Prop :=
  HasFlag (revents 0) pollin ∧ manager.counter < config.maxConn

instance (manager : Connmgr config) (revents : Nat → BitVec 16) :
    Decidable (manager.Accepts revents) := inferInstanceAs (Decidable (_ ∧ _))

@[simp]
theorem getElem?_polledEntries (pollFd : List PollFd) (revents : Nat → BitVec 16) (index : Nat) :
    (polledEntries pollFd revents)[index]? =
      pollFd[index]?.map fun entry => { entry with revents := revents index } :=
  List.getElem?_mapIdx

theorem length_polledEntries (pollFd : List PollFd) (revents : Nat → BitVec 16) :
    (polledEntries pollFd revents).length = pollFd.length := List.length_mapIdx

/-- The entry of the listening socket after poll. -/
theorem polled_listener {manager : Connmgr config} {listener : PollFd}
    (present : manager.pollFd[0]? = some listener) (revents : Nat → BitVec 16) :
    (manager.polled revents).pollFd[0]? = some { listener with revents := revents 0 } := by
  show (polledEntries manager.pollFd revents)[0]? = _
  rw [getElem?_polledEntries, present]
  rfl

/-- What a poll event does, case by case. -/
inductive Polled (manager : Connmgr config) (outcome : Poll) (input : AcceptInput) :
    Connmgr config → Prop
  | failed (result : outcome = .failed) :
    Polled manager outcome input { manager with pollRet := -1, position := .returned }
  | finished (revents : Nat → BitVec 16) (result : outcome = .ready revents)
    (nothing : (manager.polled revents).pollRet = 0) (unconnected : manager.counter = 0) :
    Polled manager outcome input { manager.polled revents with position := .returned }
  | skipped (revents : Nat → BitVec 16) (result : outcome = .ready revents)
    (unready : ¬ manager.Accepts revents) :
    Polled manager outcome input { manager.polled revents with position := .scanning 1 }
  | refused (revents : Nat → BitVec 16) (result : outcome = .ready revents)
    (ready : manager.Accepts revents) :
    Polled manager outcome input { manager.polled revents with
      pollRet := (manager.polled revents).pollRet - 1
      retval := .acceptConnectionError
      position := .scanning 1
      log := (manager.polled revents).log ++ [message input.messageTime
        ("can not accept new connection (" ++ toString manager.tcpConnRet ++ ")")] }
  | registered (revents : Nat → BitVec 16) (result : outcome = .ready revents)
    (ready : manager.Accepts revents) (sockList : List TcpsockDpl)
    (inserted : dplInsertSorted elementCompare manager.sockList (acceptedClient input) =
      some sockList) :
    Polled manager outcome input { manager.polled revents with
      counter := manager.counter + 1
      pollFd := (polledEntries manager.pollFd revents ++ [input.memory]).set
        (manager.counter + 1) (acceptedEntry input)
      pollRet := (manager.polled revents).pollRet - 1
      sockList
      position := .scanning 1
      log := (manager.polled revents).log ++ [.registered (acceptedClient input),
        message input.messageTime "received new connection"] }

theorem poll_polled {manager after : Connmgr config} {outcome : Poll} {input : AcceptInput}
    (taken : manager.poll outcome input = some after) :
    manager.position = .polling ∧ Polled manager outcome input after := by
  unfold Connmgr.poll at taken
  split at taken
  · rename_i point
    rw [Option.some.injEq] at taken
    rw [← taken]
    exact ⟨point, .failed rfl⟩
  · rename_i revents point
    refine ⟨point, ?_⟩
    dsimp only at taken
    split_ifs at taken with ended
    · rw [Option.some.injEq] at taken
      rw [← taken]
      exact .finished revents rfl ended.1 ended.2
    · obtain ⟨listener, present, taken⟩ := Option.bind_eq_some_iff.mp taken
      have same : (manager.polled revents).Admits listener ↔ manager.Accepts revents := by
        have entry : (polledEntries manager.pollFd revents)[0]? = some listener := present
        rw [getElem?_polledEntries] at entry
        obtain ⟨before, -, rfl⟩ := Option.map_eq_some_iff.mp entry
        rfl
      split_ifs at taken with admits
      · obtain ⟨accepted, answered, built⟩ := Option.bind_eq_some_iff.mp taken
        rw [Option.some.injEq] at built
        unfold Connmgr.accept at answered
        split_ifs at answered with comparison
        · rw [Option.some.injEq] at answered
          rw [← built, ← answered]
          exact .refused revents rfl (same.mp admits)
        · obtain ⟨sockList, inserted, listed⟩ := Option.bind_eq_some_iff.mp answered
          rw [Option.some.injEq] at listed
          rw [← built, ← listed]
          have ready := same.mp admits
          exact .registered revents rfl ready sockList inserted
      · rw [Option.some.injEq] at taken
        rw [← taken]
        have unready := mt same.mpr admits
        exact .skipped revents rfl unready
  · exact nomatch taken
  · exact nomatch taken

/-- A new entry goes to the end of `poll_fd`. -/
theorem set_append_acceptedEntry {pollFd : List PollFd} {counter : Nat}
    (size : pollFd.length = counter + 1) (revents : Nat → BitVec 16) (memory entry : PollFd) :
    (polledEntries pollFd revents ++ [memory]).set (counter + 1) entry =
      polledEntries pollFd revents ++ [entry] := by
  have place : (polledEntries pollFd revents).length = counter + 1 :=
    (length_polledEntries pollFd revents).trans size
  rw [← place, List.set_append_right _ _ (Nat.le_refl _), Nat.sub_self, List.set_cons_zero]

/-- The end of the body changes nothing but the point of execution, the return value and the
log. -/
theorem endScan_ended {manager after : Connmgr config} {messageTime : Int}
    (taken : manager.endScan messageTime = some after) :
    (∃ i, manager.position = .scanning i ∧ ¬ (i < manager.counter + 1 ∧ manager.pollRet > 0)) ∧
      (after = { manager with position := .polling } ∨
        after = { manager with
          retval := .pollError
          position := .polling
          log := manager.log ++ [message messageTime "Poll sockets error"] }) := by
  unfold Connmgr.endScan at taken
  split at taken
  · rename_i i point
    split_ifs at taken with guard failed
    · rw [Option.some.injEq] at taken
      exact ⟨⟨i, point, guard⟩, Or.inr taken.symm⟩
    · rw [Option.some.injEq] at taken
      exact ⟨⟨i, point, guard⟩, Or.inl taken.symm⟩
  · exact nomatch taken
  · exact nomatch taken

/-! ### What the steps record -/

/-- The actions of the first part of an iteration. -/
inductive Action.OfVisit : Action layout → Prop
  | recv (sd : Int) (size : Nat) (result : Recv) : OfVisit (.recv sd size result)
  | sbufferInsert (sd : Int) (data : SensorData layout) : OfVisit (.sbufferInsert sd data)
  | writePipe (text : String) : OfVisit (.writePipe text)

/-- The actions from the lock on. -/
inductive Action.OfEnding : Action layout → Prop
  | mutexLock : OfEnding (.mutexLock .connmgr)
  | mutexUnlock : OfEnding (.mutexUnlock .connmgr)
  | writePipe (text : String) : OfEnding (.writePipe text)
  | tcpClose (socket : Tcpsock) : OfEnding (.tcpClose socket)
  | dropped (entry : PollFd) (client : Option TcpsockDpl) : OfEnding (.dropped entry client)

/-- The actions of the steps outside the scan. -/
inductive Action.OutsideScan : Action layout → Prop
  | polled (entries : List PollFd) : OutsideScan (.polled entries)
  | registered (client : TcpsockDpl) : OutsideScan (.registered client)
  | writePipe (text : String) : OutsideScan (.writePipe text)
  | mutexLock : OutsideScan (.mutexLock .datamgr)
  | writeStopsig (value : BitVec 16) : OutsideScan (.writeStopsig .datamgr value)
  | mutexUnlock : OutsideScan (.mutexUnlock .datamgr)

theorem ofVisit_recvCalls (socket : Tcpsock) (input : ScanInput) :
    ∀ action ∈ (recvCalls socket input : List (Action config.layout)), action.OfVisit := by
  unfold recvCalls
  split_ifs
  · exact fun action member => absurd member List.not_mem_nil
  · simp only [List.forall_mem_cons, List.not_mem_nil, false_imp_iff, implies_true, and_true]
    exact ⟨.recv _ _ _, .recv _ _ _, .recv _ _ _⟩

theorem Visited.ofVisit {client : Option TcpsockDpl} {entry : PollFd}
    {data : SensorData config.layout} {input : ScanInput} {visit : Visit config}
    (visited : Visited client entry data input visit) :
    ∀ action ∈ visit.actions, action.OfVisit := by
  cases visited with
  | passed silent => exact fun action member => absurd member List.not_mem_nil
  | reading before found receives status =>
    exact List.forall_mem_append.mpr
      ⟨ofVisit_recvCalls _ _, List.forall_mem_singleton.mpr (.sbufferInsert _ _)⟩
  | lost before found receives status =>
    exact List.forall_mem_append.mpr
      ⟨ofVisit_recvCalls _ _, List.forall_mem_singleton.mpr (.writePipe _)⟩
  | failed before found receives statusNoError statusClosed => exact ofVisit_recvCalls _ _

/-- A projection of the log that ignores these actions does not see the first part. -/
theorem Visited.filterMap_eq_nil {Projection : Type} {client : Option TcpsockDpl}
    {entry : PollFd} {data : SensorData config.layout} {input : ScanInput} {visit : Visit config}
    (visited : Visited client entry data input visit)
    {project : Action config.layout → Option Projection}
    (ignores : ∀ action, action.OfVisit → project action = none) :
    visit.actions.filterMap project = [] :=
  List.filterMap_eq_nil_iff.mpr fun action member =>
    ignores action (visited.ofVisit action member)

/-- The log of an iteration: its first part, the lock, and an ending that clears the slot when
it serves a stop request. -/
theorem Scanned.log {manager after : Connmgr config} {input : ScanInput}
    {examination : Examination config} (scanned : Scanned manager input examination after) :
    ∃ emptied ending : List (Action config.layout),
      after.log = manager.log ++ examination.visit.actions ++ [.mutexLock .connmgr] ++
        emptied ++ ending ∧ (∀ action ∈ ending, action.OfEnding) ∧
      (emptied = [] ∧ after.connmgrSensorStopsig = manager.connmgrSensorStopsig ∨
        emptied = [.writeStopsig .connmgr 0] ∧ after.connmgrSensorStopsig = 0) := by
  cases scanned with
  | kept lives =>
    refine ⟨[], [.mutexUnlock .connmgr], ?_, ?_, Or.inl ⟨rfl, rfl⟩⟩
    · rw [List.append_nil]
      rfl
    · exact List.forall_mem_singleton.mpr .mutexUnlock
  | stopped client found wanted =>
    refine ⟨[.writeStopsig .connmgr 0], [.mutexUnlock .connmgr, message input.messageTime
      ("Stop connection to " ++ toString client.sensor.toNat ++ " by signal"),
      .dropped examination.visit.entry examination.visit.client], ?_, ?_, Or.inr ⟨rfl, rfl⟩⟩
    · simp only [Connmgr.drop, Connmgr.stop, Connmgr.examined, List.append_assoc,
        List.cons_append, List.nil_append]
    · simp only [List.forall_mem_cons, List.not_mem_nil, false_imp_iff, implies_true, and_true]
      exact ⟨.mutexUnlock, .writePipe _, .dropped _ _⟩
  | closed client node found place other reason =>
    refine ⟨[], [message input.messageTime
      ("Close connection to " ++ toString client.sensor.toNat), .tcpClose client.sockPt,
      .dropped examination.visit.entry examination.visit.client], ?_, ?_, Or.inl ⟨rfl, rfl⟩⟩
    · simp only [Connmgr.drop, Connmgr.close, Connmgr.examined, List.append_assoc,
        List.cons_append, List.nil_append]
    · simp only [List.forall_mem_cons, List.not_mem_nil, false_imp_iff, implies_true, and_true]
      exact ⟨.writePipe _, .tcpClose _, .dropped _ _⟩
  | orphaned missing reason =>
    refine ⟨[], [.mutexUnlock .connmgr,
      .dropped examination.visit.entry examination.visit.client], ?_, ?_, Or.inl ⟨rfl, rfl⟩⟩
    · simp only [Connmgr.drop, Connmgr.release, Connmgr.examined, List.append_assoc,
        List.cons_append, List.nil_append]
    · simp only [List.forall_mem_cons, List.not_mem_nil, false_imp_iff, implies_true, and_true]
      exact ⟨.mutexUnlock, .dropped _ _⟩

/-- The log of an iteration after its first part. -/
theorem Scanned.exists_rest {manager after : Connmgr config} {input : ScanInput}
    {examination : Examination config} (scanned : Scanned manager input examination after) :
    ∃ rest : List (Action config.layout),
      after.log = manager.log ++ examination.visit.actions ++ rest ∧
        ∀ action ∈ rest, action.OfEnding ∨ action = .writeStopsig .connmgr 0 := by
  obtain ⟨emptied, ending, log, ofEnding, served⟩ := scanned.log
  refine ⟨[.mutexLock .connmgr] ++ emptied ++ ending, ?_, fun action member => ?_⟩
  · rw [log]
    simp only [List.append_assoc]
  · rcases List.mem_append.mp member with front | ended
    · rcases List.mem_append.mp front with locked | written
      · rw [List.mem_singleton.mp locked]
        exact Or.inl .mutexLock
      · rcases served with ⟨rfl, -⟩ | ⟨rfl, -⟩
        · exact absurd written List.not_mem_nil
        · exact Or.inr (List.mem_singleton.mp written)
    · exact Or.inl (ofEnding action ended)

/-- An iteration registers nothing. -/
theorem Visited.not_registered {client : Option TcpsockDpl} {entry : PollFd}
    {data : SensorData config.layout} {input : ScanInput} {visit : Visit config}
    (visited : Visited client entry data input visit) :
    ∀ action ∈ visit.actions, ∀ other, action ≠ .registered other := by
  intro action member other same
  have kind := visited.ofVisit action member
  rw [same] at kind
  exact nomatch kind

/-- The log of a step outside the scan. -/
theorem log_of_not_scan {manager after : Connmgr config} {event : ConnmgrEvent}
    (taken : manager.step event = some after) (other : ∀ input, event ≠ .scan input) :
    ∃ rest : List (Action config.layout), after.log = manager.log ++ rest ∧
      ∀ action ∈ rest, action.OutsideScan := by
  have nothing : ∀ action ∈ ([] : List (Action config.layout)), action.OutsideScan :=
    fun action member => absurd member List.not_mem_nil
  cases event with
  | scan input => exact absurd rfl (other input)
  | store id =>
    obtain rfl := Option.some.inj taken
    refine ⟨_, rfl, ?_⟩
    simp only [List.forall_mem_cons, List.not_mem_nil, false_imp_iff, implies_true, and_true]
    exact ⟨.mutexLock, .writeStopsig id, .mutexUnlock⟩
  | endScan messageTime =>
    obtain ⟨-, rfl | rfl⟩ := endScan_ended taken
    · exact ⟨[], (List.append_nil _).symm, nothing⟩
    · exact ⟨_, rfl, List.forall_mem_singleton.mpr (.writePipe _)⟩
  | poll outcome input =>
    obtain ⟨-, polled⟩ := poll_polled taken
    cases polled with
    | failed result => exact ⟨[], (List.append_nil _).symm, nothing⟩
    | finished revents result nothing unconnected =>
      exact ⟨_, rfl, List.forall_mem_singleton.mpr (.polled _)⟩
    | skipped revents result unready =>
      exact ⟨_, rfl, List.forall_mem_singleton.mpr (.polled _)⟩
    | refused revents result ready =>
      exact ⟨_, List.append_assoc _ _ _, List.forall_mem_cons.mpr
        ⟨.polled _, List.forall_mem_singleton.mpr (.writePipe _)⟩⟩
    | registered revents result ready sockList inserted =>
      exact ⟨_, List.append_assoc _ _ _, List.forall_mem_cons.mpr ⟨.polled _,
        List.forall_mem_cons.mpr ⟨.registered _, List.forall_mem_singleton.mpr (.writePipe _)⟩⟩⟩

/-! ### The shape of `poll_fd` in every reachable state -/

theorem start_sized (listener : Int) (revents : BitVec 16) (pollRet tcpConnRet : Int)
    (uninitialised : SensorData config.layout) :
    (Connmgr.start listener revents pollRet tcpConnRet uninitialised).Sized where
  length := rfl
  index _ point := nomatch point

theorem Connmgr.Sized.poll {manager after : Connmgr config} (sized : manager.Sized)
    {outcome : Poll} {input : AcceptInput} (taken : manager.poll outcome input = some after) :
    after.Sized := by
  have size (revents : Nat → BitVec 16) :
      (polledEntries manager.pollFd revents).length = manager.counter + 1 :=
    (length_polledEntries manager.pollFd revents).trans sized.length
  have first {i : Nat} (point : Position.scanning 1 = .scanning i) : 1 ≤ i := by
    rw [Position.scanning.injEq] at point
    omega
  obtain ⟨-, polled⟩ := poll_polled taken
  cases polled with
  | failed result => exact ⟨sized.length, fun i point => nomatch point⟩
  | finished revents result nothing unconnected =>
    exact ⟨size revents, fun i point => nomatch point⟩
  | skipped revents result unready => exact ⟨size revents, fun i point => first point⟩
  | refused revents result ready => exact ⟨size revents, fun i point => first point⟩
  | registered revents result ready sockList inserted =>
    refine ⟨?_, fun i point => first point⟩
    rw [set_append_acceptedEntry sized.length, List.length_append, size, List.length_singleton]

theorem Connmgr.Sized.scan {manager after : Connmgr config} (sized : manager.Sized)
    {input : ScanInput} (taken : manager.scan input = some after) : after.Sized := by
  obtain ⟨examination, -, examined, scanned⟩ := scan_scanned sized taken
  have bound := examined.bound
  have positive := sized.index _ examined.position
  have next {i : Nat} (point : Position.scanning examination.i = .scanning i) : 1 ≤ i := by
    rw [Position.scanning.injEq] at point
    omega
  have shorter : ((manager.pollFd.set examination.i examination.visit.entry).eraseIdx
      examination.i).length = manager.counter - 1 + 1 := by
    rw [List.length_eraseIdx, List.length_set, sized.length, if_pos bound]
    omega
  cases scanned with
  | kept lives =>
    refine ⟨List.length_set.trans sized.length, fun i point => ?_⟩
    have later : examination.i + 1 = i := Position.scanning.inj point
    omega
  | stopped client found wanted => exact ⟨shorter, fun i point => next point⟩
  | closed client node found place other reason => exact ⟨shorter, fun i point => next point⟩
  | orphaned missing reason => exact ⟨shorter, fun i point => next point⟩

theorem Connmgr.Sized.step {manager after : Connmgr config} (sized : manager.Sized)
    {event : ConnmgrEvent} (taken : manager.step event = some after) : after.Sized := by
  cases event with
  | poll outcome input => exact sized.poll taken
  | scan input => exact sized.scan taken
  | endScan messageTime =>
    obtain ⟨-, rfl | rfl⟩ := endScan_ended taken
    · exact ⟨sized.length, fun i point => nomatch point⟩
    · exact ⟨sized.length, fun i point => nomatch point⟩
  | store id =>
    obtain rfl := Option.some.inj taken
    exact ⟨sized.length, sized.index⟩

end SensorGateway
