/-
This file proves what holds of the stop slot that the data manager and the connection
manager share, and of the mutex that guards it.

An iteration of the scan that closes a client for another reason than a stop request
leaves the mutex locked: the branch has no unlock. Every other iteration takes the
mutex once and releases it once, so a run is free of the defect exactly when no
iteration takes that branch.

The slot is a mailbox of one cell. A stop request stays in the slot until an iteration
drops a connection of its sensor or the data manager overwrites it by its next request.
-/

import SensorGateway.ConnmgrScan
import SensorGateway.Library.Mailbox
import SensorGateway.Library.Mutex

namespace SensorGateway

variable {config : Config} {layout : Layout}

/-! ### The mutex operations of a log -/

/-- The operations of a thread on the mutex. -/
def mutexOperations (thread : Thread) (log : List (Action layout)) : List Mutex.Operation :=
  log.filterMap fun action =>
    match action with
    | .mutexLock owner => if owner = thread then some .lock else none
    | .mutexUnlock owner => if owner = thread then some .unlock else none
    | _ => none

@[simp]
theorem mutexOperations_append (thread : Thread) (first second : List (Action layout)) :
    mutexOperations thread (first ++ second) =
      mutexOperations thread first ++ mutexOperations thread second :=
  List.filterMap_append

/-- The first part of an iteration does not touch the mutex. -/
theorem Visited.mutexOperations_eq_nil {client : Option TcpsockDpl} {entry : PollFd}
    {data : SensorData config.layout} {input : ScanInput} {visit : Visit config}
    (visited : Visited client entry data input visit) (thread : Thread) :
    mutexOperations thread visit.actions = [] :=
  visited.filterMap_eq_nil fun action kind => by cases kind <;> rfl

/-- The iteration closes a client for another reason than a stop request: the client is there,
its sensor is not the one in the slot, and it has been silent for too long, or poll has
reported a hang-up, or the receives have found the connection closed. -/
def ClosesClient (manager : Connmgr config) (input : ScanInput) : Prop :=
  ∃ examination client, manager.examine input = some examination ∧
    examination.visit.client = some client ∧ client.sensor ≠ manager.connmgrSensorStopsig ∧
    (examination.visit.TimedOut input ∨ HasFlag examination.visit.entry.revents pollhup ∨
      examination.visit.Lost)

/-- The mutex operations of one iteration. -/
theorem mutexOperations_scan {manager after : Connmgr config} {input : ScanInput}
    (sized : manager.Sized) (taken : manager.scan input = some after) :
    ∃ emitted, after.log = manager.log ++ emitted ∧
      (ClosesClient manager input → mutexOperations .connmgr emitted = [.lock]) ∧
      (¬ ClosesClient manager input → mutexOperations .connmgr emitted = Mutex.bracket) := by
  obtain ⟨examination, answered, examined, scanned⟩ := scan_scanned sized taken
  have silent := examined.visited.mutexOperations_eq_nil .connmgr
  have first (tail : List (Action config.layout)) :
      mutexOperations .connmgr (examination.visit.actions ++ .mutexLock .connmgr :: tail) =
        .lock :: mutexOperations .connmgr tail := by
    rw [mutexOperations_append, silent]
    rfl
  cases scanned with
  | kept lives =>
    refine ⟨examination.visit.actions ++ .mutexLock .connmgr :: [.mutexUnlock .connmgr], ?_, ?_, ?_⟩
    · simp only [Connmgr.keep, Connmgr.examined, List.append_assoc, List.singleton_append]
    · rintro ⟨other, client, same, found, -, reason⟩
      obtain rfl := Option.some.inj (answered.symm.trans same)
      refine absurd ?_ lives
      rcases reason with late | reason
      · exact Or.inl (Or.inr late)
      · exact Or.inr reason
    · exact fun _ => first _
  | stopped client found wanted =>
    refine ⟨examination.visit.actions ++ .mutexLock .connmgr ::
      [.writeStopsig .connmgr 0, .mutexUnlock .connmgr, message input.messageTime
        ("Stop connection to " ++ toString client.sensor.toNat ++ " by signal"),
        .dropped examination.visit.entry examination.visit.client], ?_, ?_, ?_⟩
    · simp only [Connmgr.drop, Connmgr.stop, Connmgr.examined, List.append_assoc,
        List.cons_append, List.nil_append]
    · rintro ⟨other, otherClient, same, otherFound, different, -⟩
      obtain rfl := Option.some.inj (answered.symm.trans same)
      obtain rfl := Option.some.inj (found.symm.trans otherFound)
      exact absurd wanted different
    · exact fun _ => first _
  | closed client node found place other reason =>
    refine ⟨examination.visit.actions ++ .mutexLock .connmgr ::
      [message input.messageTime ("Close connection to " ++ toString client.sensor.toNat),
        .tcpClose client.sockPt,
        .dropped examination.visit.entry examination.visit.client], ?_, ?_, ?_⟩
    · simp only [Connmgr.drop, Connmgr.close, Connmgr.examined, List.append_assoc,
        List.cons_append, List.nil_append]
    · exact fun _ => first _
    · exact fun open_ => absurd ⟨examination, client, answered, found, other, reason⟩ open_
  | orphaned missing reason =>
    refine ⟨examination.visit.actions ++ .mutexLock .connmgr :: [.mutexUnlock .connmgr,
      .dropped examination.visit.entry examination.visit.client], ?_, ?_, ?_⟩
    · simp only [Connmgr.drop, Connmgr.release, Connmgr.examined, List.append_assoc,
        List.singleton_append]
      rfl
    · rintro ⟨other, client, same, found, -⟩
      obtain rfl := Option.some.inj (answered.symm.trans same)
      exact absurd (found.symm.trans missing) (Option.some_ne_none client)
    · exact fun _ => first _

/-- The other events of the system do not touch the mutex on behalf of the connection
manager. -/
theorem mutexOperations_of_not_scan {manager after : Connmgr config} {event : ConnmgrEvent}
    (taken : manager.step event = some after) (other : ∀ input, event ≠ .scan input) :
    mutexOperations .connmgr after.log = mutexOperations .connmgr manager.log := by
  obtain ⟨rest, log, outside⟩ := log_of_not_scan taken other
  have silent : mutexOperations .connmgr rest = [] := by
    refine List.filterMap_eq_nil_iff.mpr fun action member => ?_
    cases outside action member <;> rfl
  rw [log, mutexOperations_append, silent, List.append_nil]

/-! ### The lock discipline -/

/-- An iteration of the scan takes the mutex once and then releases it once. -/
def ReleasesMutex (transition : Runs.Transition (Connmgr config) ConnmgrEvent) : Prop :=
  ∀ input, transition.event = .scan input →
    ∃ emitted, transition.after.log = transition.before.log ++ emitted ∧
      mutexOperations .connmgr emitted = Mutex.bracket

/-- The shape of `poll_fd`, with the mutex free. -/
structure Connmgr.Unlocked (manager : Connmgr config) : Prop where
  sized : manager.Sized
  free : Mutex.Released (mutexOperations .connmgr manager.log)

/-- The connection manager releases the mutex once in every iteration of the scan, never locks
it while it holds it and never unlocks it while it does not, exactly when no iteration closes
a client for another reason than a stop request. -/
theorem scan_releases_mutex_iff (listener : Int) (revents : BitVec 16) (pollRet tcpConnRet : Int)
    (uninitialised : SensorData config.layout) (events : List ConnmgrEvent) :
    (∀ transition ∈ Runs.transitions Connmgr.step
        (Connmgr.start listener revents pollRet tcpConnRet uninitialised) events,
      ReleasesMutex transition ∧
        Mutex.Disciplined (mutexOperations .connmgr transition.after.log)) ↔
    ∀ transition ∈ Runs.transitions Connmgr.step
        (Connmgr.start listener revents pollRet tcpConnRet uninitialised) events,
      ∀ input, transition.event = .scan input → ¬ ClosesClient transition.before input := by
  have initial : (Connmgr.start listener revents pollRet tcpConnRet uninitialised).Unlocked :=
    ⟨start_sized listener revents pollRet tcpConnRet uninitialised, rfl⟩
  refine Runs.all_iff_of_guard Connmgr.Unlocked (fun _ => True) initial ?_ ?_ fun _ _ => trivial
  · rintro ⟨before, event, after⟩ ⟨sized, free⟩ taken - condition
    have afterSized := sized.step taken
    by_cases scanning : ∃ input, event = .scan input
    · obtain ⟨input, rfl⟩ := scanning
      obtain ⟨emitted, appended, -, balanced⟩ := mutexOperations_scan sized taken
      have bracket := balanced (condition input rfl)
      have released : Mutex.Released (mutexOperations .connmgr after.log) := by
        rw [appended, mutexOperations_append, bracket]
        exact free.append Mutex.released_bracket
      refine ⟨⟨afterSized, released⟩, fun other same => ?_, released.disciplined⟩
      exact ⟨emitted, appended, bracket⟩
    · have unchanged := mutexOperations_of_not_scan taken fun input same => scanning ⟨input, same⟩
      have released : Mutex.Released (mutexOperations .connmgr after.log) := by
        rw [unchanged]
        exact free
      refine ⟨⟨afterSized, released⟩, fun input same => ?_, released.disciplined⟩
      exact absurd ⟨input, same⟩ scanning
  · rintro ⟨before, event, after⟩ ⟨sized, free⟩ taken - violated ⟨balanced, -⟩
    push Not at violated
    obtain ⟨input, rfl, closes⟩ := violated
    obtain ⟨emitted, appended, locked, -⟩ := mutexOperations_scan sized taken
    obtain ⟨other, otherAppended, bracket⟩ := balanced input rfl
    obtain rfl := List.append_cancel_left (appended.symm.trans otherAppended)
    exact absurd ((locked closes).symm.trans bracket) (by decide)

/-- Two sensors send a reading each, then the first one closes its connection: the iteration on
the second one locks a mutex that the connection manager still holds. -/
theorem scan_locks_twice :
    ¬ ∀ events : List ConnmgrEvent,
      ∀ transition ∈ Runs.transitions Connmgr.step gatewayStart events,
        ReleasesMutex transition ∧
          Mutex.Disciplined (mutexOperations .connmgr transition.after.log) := by
  intro holds
  have disciplined (events : List ConnmgrEvent) :
      ∀ transition ∈ Runs.transitions Connmgr.step gatewayStart events,
        (Mutex.run false (mutexOperations .connmgr transition.after.log)).isSome = true := by
    intro transition member
    obtain ⟨held, ran⟩ := (holds events transition member).2
    rw [ran]
    rfl
  refine absurd (disciplined
    [.poll (.returns [pollin]) (accepted 4 0 0), .endScan 0,
      .poll (.returns [pollin]) (accepted 5 0 0), .endScan 0,
      .poll (.returns [0, pollin, pollin]) (accepted 6 0 0),
      .scan (scanAt 1 [1, 0] [0, 0, 0, 0, 0, 0, 0, 0] [0, 0, 0, 0, 0, 0, 0, 0]),
      .scan (scanAt 1 [2, 0] [0, 0, 0, 0, 0, 0, 0, 0] [0, 0, 0, 0, 0, 0, 0, 0]), .endScan 1,
      .poll (.returns [0, pollin, 0]) (accepted 6 0 0),
      .scan (scanAt 2 [] [] []), .scan (scanAt 2 [] [] [])]) ?_
  decide

/-! ### The slot as a mailbox -/

/-- The iteration takes a stop request out of the slot: it drops from `poll_fd` a connection
whose sensor is the one in the slot, and clears the slot. -/
def Consumes (transition : Runs.Transition (Connmgr config) ConnmgrEvent) (id : BitVec 16) :
    Prop :=
  ∃ input examination client, transition.event = .scan input ∧
    transition.before.examine input = some examination ∧
    examination.visit.client = some client ∧ client.sensor = id ∧
    transition.before.connmgrSensorStopsig = id ∧
    transition.after.connmgrSensorStopsig = 0 ∧
    transition.after.pollFd = transition.before.pollFd.eraseIdx examination.i

/-- The stop slot as a mailbox: 0 is the empty value, the data manager puts the sensor of a
request, an iteration of the scan takes it. -/
def stopsigMailbox (config : Config) : Mailbox (Connmgr config) ConnmgrEvent (BitVec 16) where
  cell := Connmgr.connmgrSensorStopsig
  empty := 0
  Puts transition id := transition.event = .store id
  Takes transition id := Consumes transition id

/-- Every step treats the slot as a mailbox. -/
theorem stopsig_respects {manager after : Connmgr config} {event : ConnmgrEvent}
    (sized : manager.Sized) (taken : manager.step event = some after) :
    (stopsigMailbox config).Respects ⟨manager, event, after⟩ := by
  have untouched (notStore : ∀ id, event ≠ .store id) (notScan : ∀ input, event ≠ .scan input) :
      (stopsigMailbox config).Untouched ⟨manager, event, after⟩ := by
    refine fun id => ⟨notStore id, ?_⟩
    rintro ⟨input, examination, client, scan, -⟩
    exact notScan input scan
  cases event with
  | store id =>
    obtain rfl := Option.some.inj taken
    exact .put id rfl rfl
  | endScan messageTime =>
    refine .untouched (untouched (fun _ => ConnmgrEvent.noConfusion)
      fun _ => ConnmgrEvent.noConfusion) ?_
    obtain ⟨-, rfl | rfl⟩ := endScan_ended taken
    · rfl
    · rfl
  | poll outcome input =>
    refine .untouched (untouched (fun _ => ConnmgrEvent.noConfusion)
      fun _ => ConnmgrEvent.noConfusion) ?_
    obtain ⟨-, polled⟩ := poll_polled taken
    cases polled <;> rfl
  | scan input =>
    obtain ⟨examination, answered, examined, scanned⟩ := scan_scanned sized taken
    -- The slot is not cleared unless the client has the sensor in the slot.
    have alone (different : ∀ client, examination.visit.client = some client →
        client.sensor = manager.connmgrSensorStopsig →
          after.pollFd ≠ manager.pollFd.eraseIdx examination.i) :
        (stopsigMailbox config).Untouched ⟨manager, .scan input, after⟩ := by
      refine fun id => ⟨ConnmgrEvent.noConfusion, ?_⟩
      rintro ⟨other, otherExamination, client, scan, same, found, sensor, slot, -, erased⟩
      obtain rfl := ConnmgrEvent.scan.inj scan
      obtain rfl := Option.some.inj (answered.symm.trans same)
      exact different client found (sensor.trans slot.symm) erased
    cases scanned with
    | kept lives =>
      refine .untouched (alone fun client found sensor => ?_) rfl
      exact absurd (Or.inl (Or.inl ⟨client, found, sensor⟩)) lives
    | stopped client found wanted =>
      refine .take ⟨input, examination, client, rfl, answered, found, wanted, rfl, rfl, ?_⟩ rfl
      exact List.eraseIdx_set_eq
    | closed client node found place other reason =>
      refine .untouched (alone fun otherClient otherFound sensor => ?_) rfl
      obtain rfl := Option.some.inj (found.symm.trans otherFound)
      exact absurd sensor other
    | orphaned missing reason =>
      refine .untouched (alone fun client found sensor => ?_) rfl
      exact nomatch missing.symm.trans found

/-- The shape of `poll_fd` holds throughout every run. -/
theorem run_sized {start : Connmgr config} (sized : start.Sized) (events : List ConnmgrEvent) :
    ∀ transition ∈ Runs.transitions Connmgr.step start events,
      transition.before.Sized ∧ transition.after.Sized :=
  Runs.invariant_of_transitions Connmgr.Sized (fun _ => True) sized
    (fun _ _ _ before taken _ => before.step taken) fun _ _ => trivial

theorem run_respects {start : Connmgr config} (sized : start.Sized) (events : List ConnmgrEvent) :
    ∀ transition ∈ Runs.transitions Connmgr.step start events,
      (stopsigMailbox config).Respects transition := fun transition member =>
  stopsig_respects (run_sized sized events transition member).1
    (Runs.step_of_mem_transitions member)

/-- What follows a request in a run is a run from a state with the request in its slot. -/
theorem exists_run_after_store {start : Connmgr config} {events : List ConnmgrEvent}
    {earlier later : List (Runs.Transition (Connmgr config) ConnmgrEvent)}
    {store : Runs.Transition (Connmgr config) ConnmgrEvent} {id : BitVec 16}
    (sized : start.Sized)
    (split : Runs.transitions Connmgr.step start events = earlier ++ store :: later)
    (stored : store.event = .store id) :
    ∃ rest, Runs.transitions Connmgr.step store.after rest = later ∧
      Runs.final Connmgr.step store.after rest = Runs.final Connmgr.step start events ∧
      store.after.Sized ∧ store.after.connmgrSensorStopsig = id := by
  obtain ⟨rest, run, last⟩ := Runs.exists_run_after split
  have member : store ∈ Runs.transitions Connmgr.step start events := by
    rw [split]
    exact List.mem_append_right _ List.mem_cons_self
  refine ⟨rest, run, last, (run_sized sized events store member).2, ?_⟩
  have taken := Runs.step_of_mem_transitions member
  rw [stored] at taken
  rw [← Option.some.inj taken]
  rfl

/-- A stop request stays in the slot until the next operation on the slot, which is an
iteration that drops a connection of its sensor or the data manager's next request. The slot
is nonzero exactly when the last operation on it was a request for a nonzero sensor. -/
theorem stop_request_fate (listener : Int) (revents : BitVec 16) (pollRet tcpConnRet : Int)
    (uninitialised : SensorData config.layout) (events : List ConnmgrEvent) :
    (∀ earlier store later id, Runs.transitions Connmgr.step
        (Connmgr.start listener revents pollRet tcpConnRet uninitialised) events =
          earlier ++ store :: later → store.event = .store id →
      ((∀ transition ∈ later, (stopsigMailbox config).Untouched transition) ∧
          (Runs.final Connmgr.step (Connmgr.start listener revents pollRet tcpConnRet
            uninitialised) events).connmgrSensorStopsig = id) ∨
        ∃ between next rest, later = between ++ next :: rest ∧
          (∀ transition ∈ between, (stopsigMailbox config).Untouched transition) ∧
          (Consumes next id ∨ ∃ other, next.event = .store other)) ∧
    ((Runs.final Connmgr.step (Connmgr.start listener revents pollRet tcpConnRet
        uninitialised) events).connmgrSensorStopsig ≠ 0 ↔
      ∃ earlier store later id, Runs.transitions Connmgr.step
          (Connmgr.start listener revents pollRet tcpConnRet uninitialised) events =
            earlier ++ store :: later ∧ store.event = .store id ∧ id ≠ 0 ∧
        ∀ transition ∈ later, (stopsigMailbox config).Untouched transition) := by
  have sized := start_sized listener revents pollRet tcpConnRet uninitialised
  refine ⟨?_, ?_, ?_⟩
  · intro earlier store later id split stored
    obtain ⟨rest, run, last, afterSized, slot⟩ := exists_run_after_store sized split stored
    have fate := Mailbox.fate (run_respects afterSized rest)
    rw [run, last] at fate
    rcases fate with ⟨silent, same⟩ | ⟨between, next, others, shape, silent, touched⟩
    · exact Or.inl ⟨silent, same.trans slot⟩
    · refine Or.inr ⟨between, next, others, shape, silent, ?_⟩
      rw [← slot]
      exact touched
  · intro full
    rcases Mailbox.origin (run_respects sized events) with ⟨-, same⟩ | empty |
      ⟨earlier, store, later, split, stored, silent⟩
    · exact absurd same full
    · exact absurd empty full
    · exact ⟨earlier, store, later, _, split, stored, full, silent⟩
  · rintro ⟨earlier, store, later, id, split, stored, nonzero, silent⟩
    obtain ⟨rest, run, last, afterSized, slot⟩ := exists_run_after_store sized split stored
    have fate := Mailbox.fate (run_respects afterSized rest)
    rw [run, last] at fate
    rcases fate with ⟨-, same⟩ | ⟨between, next, others, shape, -, touched⟩
    · have kept := same.trans slot
      rw [← kept] at nonzero
      exact nonzero
    · have untouched := silent next (by
        rw [shape]
        exact List.mem_append_right _ List.mem_cons_self)
      rcases touched with takes | ⟨other, puts⟩
      · exact absurd takes (untouched _).2
      · exact absurd puts (untouched _).1

/-- A request for sensor 6 overwrites the pending request for sensor 5. -/
theorem stop_request_overwritten :
    ¬ ∀ (events : List ConnmgrEvent) (earlier later : List (Runs.Transition _ _))
      (store : Runs.Transition (Connmgr gatewayConfig) ConnmgrEvent) (id : BitVec 16),
      Runs.transitions Connmgr.step gatewayStart events = earlier ++ store :: later →
      store.event = .store id →
      (Runs.final Connmgr.step gatewayStart events).connmgrSensorStopsig = id ∨
        ∃ transition ∈ later, Consumes transition id := by
  intro holds
  rcases holds [.store 5, .store 6] [] _ _ 5 rfl rfl with slot | ⟨transition, member, consumed⟩
  · exact absurd slot (by decide)
  · obtain ⟨input, examination, client, scan, -⟩ := consumed
    have only : transition = ⟨gatewayStart.store 5, .store 6, (gatewayStart.store 5).store 6⟩ :=
      List.mem_singleton.mp member
    rw [only] at scan
    exact nomatch scan

end SensorGateway
