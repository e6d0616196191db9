/-
This file models the two threads that share the stop slot step by step, with a mutex
that blocks. An iteration of the connection manager is the visit of a client, the lock,
the test that closes a connection, and the rest, which tests the slot once more; a
request of the data manager is the lock, the write and the unlock. A lock is refused
while some thread holds the mutex, be it the same one. Who holds it is read from the
log of the operations on it.

No two threads are inside their critical sections at once. The connection manager can
leave its section without the mutex being released, and then no thread ever gets it
again: the slot keeps its value, and no iteration of the scan ends any more.
-/

import SensorGateway.ConnmgrStopsig

namespace SensorGateway

variable {config : Config} {layout : Layout}

/-! ### The threads -/

/-- The thread that holds the mutex after a log. -/
def mutexHolder (log : List (Action layout)) : Option Thread :=
  log.foldl (fun holder action =>
    match action with
    | .mutexLock thread => some thread
    | .mutexUnlock _ => none
    | _ => holder) none

/-- Where the connection manager is in an iteration of the scan. -/
inductive ConnmgrPhase (config : Config) where
  | outside
  | waiting (examination : Examination config) (input : ScanInput)
  | holding (examination : Examination config) (input : ScanInput)
  | tested (examination : Examination config) (input : ScanInput) (closes : Bool)

/-- Where the data manager is in a stop request. -/
inductive DatamgrPhase where
  | outside
  | waiting (id : BitVec 16)
  | holding (id : BitVec 16)
  | written
  deriving DecidableEq

/-- The variables of the connection manager with the slot and the log, and where the threads are. -/
structure Threads (config : Config) where
  manager : Connmgr config
  connmgr : ConnmgrPhase config
  datamgr : DatamgrPhase

/-- A step of one of the threads. -/
inductive ThreadEvent where
  | poll (outcome : Poll) (accept : AcceptInput)
  | visit (input : ScanInput)
  | lock
  | test
  | finish
  | endScan (messageTime : Int)
  | request (id : BitVec 16)
  | acquire
  | write
  | release

/-- Record actions. -/
def Connmgr.record (manager : Connmgr config) (actions : List (Action config.layout)) :
    Connmgr config := { manager with log := manager.log ++ actions }

/-- The state after the first part of an iteration, before the lock. -/
def Connmgr.visited (manager : Connmgr config) (examination : Examination config) :
    Connmgr config :=
  { manager with
    pollFd := manager.pollFd.set examination.i examination.visit.entry
    sockList := writeElement manager.sockList examination.node examination.visit.client
    data := examination.visit.data
    log := manager.log ++ examination.visit.actions }

/-- The rest of an iteration after the test. -/
def Connmgr.finish (manager : Connmgr config) (examination : Examination config)
    (input : ScanInput) (closes : Bool) : Option (Connmgr config) :=
  if closes then do
    let manager := manager.endConnection examination.node examination.visit.client input
    let pollFd ← compactLoop examination.i manager.counter 0 0 manager.pollFd
    some { manager with
      pollFd := pollFd.take manager.counter
      counter := manager.counter - 1
      position := .scanning examination.i
      log := manager.log ++ [.dropped examination.visit.entry examination.visit.client] }
  else
    some { manager with
      position := .scanning (examination.i + 1)
      log := manager.log ++ [.mutexUnlock .connmgr] }

/-- Answer one event. -/
def Threads.step (threads : Threads config) : ThreadEvent → Option (Threads config)
  | .poll outcome input =>
    match threads.connmgr with
    | .outside =>
      (threads.manager.poll outcome input).map fun manager => { threads with manager }
    | _ => none
  | .visit input =>
    match threads.connmgr with
    | .outside => do
      let examination ← threads.manager.examine input
      some { threads with
        manager := threads.manager.visited examination
        connmgr := .waiting examination input }
    | _ => none
  | .lock =>
    match threads.connmgr with
    | .waiting examination input =>
      if mutexHolder threads.manager.log = none then
        some { threads with
          manager := threads.manager.record [.mutexLock .connmgr]
          connmgr := .holding examination input }
      else none
    | _ => none
  | .test =>
    match threads.connmgr with
    | .holding examination input =>
      let closes := decide
        (examination.visit.Closes threads.manager.connmgrSensorStopsig input)
      some { threads with connmgr := .tested examination input closes }
    | _ => none
  | .finish =>
    match threads.connmgr with
    | .tested examination input closes =>
      (threads.manager.finish examination input closes).map fun manager =>
        { threads with manager, connmgr := .outside }
    | _ => none
  | .endScan messageTime =>
    match threads.connmgr with
    | .outside =>
      (threads.manager.endScan messageTime).map fun manager => { threads with manager }
    | _ => none
  | .request id =>
    match threads.datamgr with
    | .outside => some { threads with datamgr := .waiting id }
    | _ => none
  | .acquire =>
    match threads.datamgr with
    | .waiting id =>
      if mutexHolder threads.manager.log = none then
        some { threads with
          manager := threads.manager.record [.mutexLock .datamgr]
          datamgr := .holding id }
      else none
    | _ => none
  | .write =>
    match threads.datamgr with
    | .holding id =>
      some { threads with
        manager := { threads.manager.record [.writeStopsig .datamgr id] with
          connmgrSensorStopsig := id }
        datamgr := .written }
    | _ => none
  | .release =>
    match threads.datamgr with
    | .written =>
      some { threads with
        manager := threads.manager.record [.mutexUnlock .datamgr]
        datamgr := .outside }
    | _ => none

/-- The threads when they start. -/
def Threads.start (manager : Connmgr config) : Threads config where
  manager := manager
  connmgr := .outside
  datamgr := .outside

/-- What a step does, and when it can be taken. -/
inductive Threads.Stepped (threads : Threads config) : ThreadEvent → Threads config → Prop
  | poll (outcome : Poll) (input : AcceptInput) (manager : Connmgr config)
    (point : threads.connmgr = .outside)
    (taken : threads.manager.poll outcome input = some manager) :
    Stepped threads (.poll outcome input) { threads with manager }
  | visit (input : ScanInput) (examination : Examination config)
    (point : threads.connmgr = .outside)
    (answered : threads.manager.examine input = some examination) :
    Stepped threads (.visit input) { threads with
      manager := threads.manager.visited examination
      connmgr := .waiting examination input }
  | lock (examination : Examination config) (input : ScanInput)
    (point : threads.connmgr = .waiting examination input)
    (free : mutexHolder threads.manager.log = none) :
    Stepped threads .lock { threads with
      manager := threads.manager.record [.mutexLock .connmgr]
      connmgr := .holding examination input }
  | test (examination : Examination config) (input : ScanInput)
    (point : threads.connmgr = .holding examination input) :
    Stepped threads .test { threads with
      connmgr := .tested examination input
        (decide (examination.visit.Closes threads.manager.connmgrSensorStopsig input)) }
  | finish (examination : Examination config) (input : ScanInput) (closes : Bool)
    (manager : Connmgr config) (point : threads.connmgr = .tested examination input closes)
    (taken : threads.manager.finish examination input closes = some manager) :
    Stepped threads .finish { threads with manager, connmgr := .outside }
  | endScan (messageTime : Int) (manager : Connmgr config) (point : threads.connmgr = .outside)
    (taken : threads.manager.endScan messageTime = some manager) :
    Stepped threads (.endScan messageTime) { threads with manager }
  | request (id : BitVec 16) (point : threads.datamgr = .outside) :
    Stepped threads (.request id) { threads with datamgr := .waiting id }
  | acquire (id : BitVec 16) (point : threads.datamgr = .waiting id)
    (free : mutexHolder threads.manager.log = none) :
    Stepped threads .acquire { threads with
      manager := threads.manager.record [.mutexLock .datamgr]
      datamgr := .holding id }
  | write (id : BitVec 16) (point : threads.datamgr = .holding id) :
    Stepped threads .write { threads with
      manager := { threads.manager.record [.writeStopsig .datamgr id] with
        connmgrSensorStopsig := id }
      datamgr := .written }
  | release (point : threads.datamgr = .written) :
    Stepped threads .release { threads with
      manager := threads.manager.record [.mutexUnlock .datamgr]
      datamgr := .outside }

theorem stepped_of_step {threads next : Threads config} {event : ThreadEvent}
    (taken : threads.step event = some next) : threads.Stepped event next := by
  cases event with
  | poll outcome input =>
    rw [Threads.step] at taken
    split at taken
    · rename_i point
      obtain ⟨manager, polled, rfl⟩ := Option.map_eq_some_iff.mp taken
      exact .poll outcome input manager point polled
    · exact absurd taken (Option.some_ne_none next).symm
  | visit input =>
    rw [Threads.step] at taken
    split at taken
    · rename_i point
      obtain ⟨examination, answered, visited⟩ := Option.bind_eq_some_iff.mp taken
      rw [← Option.some.inj visited]
      exact .visit input examination point answered
    · exact absurd taken (Option.some_ne_none next).symm
  | lock =>
    rw [Threads.step] at taken
    split at taken
    · rename_i examination input point
      split_ifs at taken with free
      rw [← Option.some.inj taken]
      exact .lock examination input point free
    · exact absurd taken (Option.some_ne_none next).symm
  | test =>
    rw [Threads.step] at taken
    split at taken
    · rename_i examination input point
      rw [← Option.some.inj taken]
      exact .test examination input point
    · exact absurd taken (Option.some_ne_none next).symm
  | finish =>
    rw [Threads.step] at taken
    split at taken
    · rename_i examination input closes point
      obtain ⟨manager, finished, rfl⟩ := Option.map_eq_some_iff.mp taken
      exact .finish examination input closes manager point finished
    · exact absurd taken (Option.some_ne_none next).symm
  | endScan messageTime =>
    rw [Threads.step] at taken
    split at taken
    · rename_i point
      obtain ⟨manager, ended, rfl⟩ := Option.map_eq_some_iff.mp taken
      exact .endScan messageTime manager point ended
    · exact absurd taken (Option.some_ne_none next).symm
  | request id =>
    rw [Threads.step] at taken
    split at taken
    · rename_i point
      rw [← Option.some.inj taken]
      exact .request id point
    · exact absurd taken (Option.some_ne_none next).symm
  | acquire =>
    rw [Threads.step] at taken
    split at taken
    · rename_i id point
      split_ifs at taken with free
      rw [← Option.some.inj taken]
      exact .acquire id point free
    · exact absurd taken (Option.some_ne_none next).symm
  | write =>
    rw [Threads.step] at taken
    split at taken
    · rename_i id point
      rw [← Option.some.inj taken]
      exact .write id point
    · exact absurd taken (Option.some_ne_none next).symm
  | release =>
    rw [Threads.step] at taken
    split at taken
    · rename_i point
      rw [← Option.some.inj taken]
      exact .release point
    · exact absurd taken (Option.some_ne_none next).symm

/-! ### The holder of the mutex -/

/-- Actions that are no operations on the mutex leave its holder. -/
theorem mutexHolder_append_of_silent (first : List (Action layout))
    {second : List (Action layout)}
    (silent : ∀ action ∈ second, ∀ thread,
      action ≠ .mutexLock thread ∧ action ≠ .mutexUnlock thread) :
    mutexHolder (first ++ second) = mutexHolder first := by
  unfold mutexHolder
  rw [List.foldl_append]
  generalize first.foldl _ none = holder
  induction second generalizing holder with
  | nil => rfl
  | cons action rest inductionHypothesis =>
    rw [List.foldl_cons]
    obtain ⟨head, others⟩ := List.forall_mem_cons.mp silent
    cases action with
    | mutexLock thread => exact absurd rfl (head thread).1
    | mutexUnlock thread => exact absurd rfl (head thread).2
    | _ => exact inductionHypothesis others _

@[simp] theorem mutexHolder_lock (log : List (Action layout)) (thread : Thread) :
    mutexHolder (log ++ [.mutexLock thread]) = some thread := by
  rw [mutexHolder, List.foldl_append]
  rfl

@[simp] theorem mutexHolder_unlock (log : List (Action layout)) (thread : Thread) :
    mutexHolder (log ++ [.mutexUnlock thread]) = none := by
  rw [mutexHolder, List.foldl_append]
  rfl

theorem mutexHolder_visited (manager : Connmgr config) {input : ScanInput}
    {examination : Examination config} (answered : manager.examine input = some examination) :
    mutexHolder (manager.visited examination).log = mutexHolder manager.log := by
  refine mutexHolder_append_of_silent _ fun action member thread => ?_
  have kind := (examined_of_examine answered).visited.ofVisit action member
  constructor <;> (rintro rfl; exact nomatch kind)

theorem mutexHolder_polled (manager : Connmgr config) (revents : Nat → BitVec 16) :
    mutexHolder (manager.polled revents).log = mutexHolder manager.log :=
  mutexHolder_append_of_silent _ (by simp)

theorem mutexHolder_poll {manager after : Connmgr config} {outcome : Poll} {input : AcceptInput}
    (taken : manager.poll outcome input = some after) :
    mutexHolder after.log = mutexHolder manager.log ∧
      after.connmgrSensorStopsig = manager.connmgrSensorStopsig := by
  obtain ⟨-, polled⟩ := poll_polled taken
  cases polled with
  | failed result => exact ⟨rfl, rfl⟩
  | finished revents result nothing unconnected => exact ⟨mutexHolder_polled manager revents, rfl⟩
  | skipped revents result unready => exact ⟨mutexHolder_polled manager revents, rfl⟩
  | refused revents result ready =>
    exact ⟨(mutexHolder_append_of_silent _ (by simp [message])).trans
      (mutexHolder_polled manager revents), rfl⟩
  | registered revents result ready sockList inserted =>
    exact ⟨(mutexHolder_append_of_silent _ (by simp [message])).trans
      (mutexHolder_polled manager revents), rfl⟩

theorem mutexHolder_endScan {manager after : Connmgr config} {messageTime : Int}
    (taken : manager.endScan messageTime = some after) :
    mutexHolder after.log = mutexHolder manager.log ∧
      after.connmgrSensorStopsig = manager.connmgrSensorStopsig := by
  obtain ⟨-, rfl | rfl⟩ := endScan_ended taken
  · exact ⟨rfl, rfl⟩
  · exact ⟨mutexHolder_append_of_silent _ (by simp [message]), rfl⟩

/-- The rest of an iteration closes a client without a request for its sensor in the slot. This is
the branch that does not unlock. -/
def KeepsMutex (manager : Connmgr config) (examination : Examination config) (closes : Bool) :
    Prop :=
  closes = true ∧
    ∃ client, examination.visit.client = some client ∧ client.sensor ≠ manager.connmgrSensorStopsig

theorem mutexHolder_finish {manager after : Connmgr config} {examination : Examination config}
    {input : ScanInput} {closes : Bool}
    (taken : manager.finish examination input closes = some after) :
    KeepsMutex manager examination closes ∧ mutexHolder after.log = mutexHolder manager.log ∧
        after.connmgrSensorStopsig = manager.connmgrSensorStopsig ∨
      ¬ KeepsMutex manager examination closes ∧ mutexHolder after.log = none := by
  cases closes with
  | false =>
    obtain rfl := Option.some.inj taken
    exact Or.inr ⟨fun keeps => Bool.false_ne_true keeps.1, mutexHolder_unlock _ _⟩
  | true =>
    rw [Connmgr.finish, if_pos rfl] at taken
    obtain ⟨compacted, -, built⟩ := Option.bind_eq_some_iff.mp taken
    obtain rfl := Option.some.inj built
    have quiet : ∀ action ∈ [Action.dropped examination.visit.entry examination.visit.client],
        ∀ thread, action ≠ .mutexLock thread ∧
          (action : Action config.layout) ≠ .mutexUnlock thread := by simp
    dsimp only
    rw [mutexHolder_append_of_silent _ quiet]
    cases found : examination.visit.client with
    | none =>
      refine Or.inr ⟨?_, mutexHolder_unlock manager.log .connmgr⟩
      rintro ⟨-, client, same, -⟩
      exact nomatch found.symm.trans same
    | some client =>
      rw [Connmgr.endConnection]
      by_cases wanted : client.sensor = manager.connmgrSensorStopsig
      · rw [if_pos wanted]
        refine Or.inr ⟨fun ⟨_, other, same, different⟩ => ?_, ?_⟩
        · rw [found, Option.some.injEq] at same
          exact different (same ▸ wanted)
        · dsimp only
          rw [mutexHolder, List.foldl_append]
          rfl
      · rw [if_neg wanted]
        refine Or.inl ⟨⟨rfl, client, found, wanted⟩, ?_, rfl⟩
        exact mutexHolder_append_of_silent _ (by simp [message])

/-! ### Mutual exclusion -/

/-- The thread is between its lock and its unlock. -/
def Threads.InSection (threads : Threads config) : Thread → Prop
  | .connmgr =>
    (∃ examination input, threads.connmgr = .holding examination input) ∨
      ∃ examination input closes, threads.connmgr = .tested examination input closes
  | .datamgr => (∃ id, threads.datamgr = .holding id) ∨ threads.datamgr = .written

/-- A thread inside its critical section holds the mutex. -/
def Threads.Guarded (threads : Threads config) : Prop :=
  ∀ thread, threads.InSection thread → mutexHolder threads.manager.log = some thread

/-- The connection manager has left its critical section with the mutex. -/
def Threads.Abandoned (threads : Threads config) : Prop :=
  mutexHolder threads.manager.log = some .connmgr ∧ ¬ threads.InSection .connmgr

section Sections

variable {threads next : Threads config} {event : ThreadEvent}

theorem Threads.outside_not_inSection (point : threads.connmgr = .outside) :
    ¬ threads.InSection .connmgr := by
  rintro (⟨examination, input, inside⟩ | ⟨examination, input, closes, inside⟩)
  · exact nomatch point.symm.trans inside
  · exact nomatch point.symm.trans inside

theorem Threads.waiting_not_inSection {examination : Examination config} {input : ScanInput}
    (point : threads.connmgr = .waiting examination input) : ¬ threads.InSection .connmgr := by
  rintro (⟨other, otherInput, inside⟩ | ⟨other, otherInput, closes, inside⟩)
  · exact nomatch point.symm.trans inside
  · exact nomatch point.symm.trans inside

theorem Threads.request_not_inSection {id : BitVec 16} (point : threads.datamgr = .waiting id) :
    ¬ threads.InSection .datamgr := by
  simp only [Threads.InSection, point, reduceCtorEq, exists_false, or_false, not_false_eq_true]

/-- No two threads are inside their critical sections. -/
theorem Threads.Guarded.exclusive (guarded : threads.Guarded) :
    ¬ (threads.InSection .connmgr ∧ threads.InSection .datamgr) := by
  rintro ⟨first, second⟩
  have same := (guarded .connmgr first).symm.trans (guarded .datamgr second)
  exact nomatch same

/-- A thread that is not inside its section stays outside, and the other one is not affected by a
step that leaves the holder of the mutex. -/
theorem Threads.Guarded.keep (guarded : threads.Guarded)
    (sections : ∀ thread, next.InSection thread → threads.InSection thread)
    (holder : mutexHolder next.manager.log = mutexHolder threads.manager.log) : next.Guarded :=
  fun thread inside => holder.trans (guarded thread (sections thread inside))

theorem Threads.Guarded.step (guarded : threads.Guarded) (taken : threads.step event = some next) :
    next.Guarded := by
  cases stepped_of_step taken with
  | poll outcome input manager point polled =>
    exact guarded.keep (fun thread inside => by cases thread <;> exact inside)
      (mutexHolder_poll polled).1
  | visit input examination point answered =>
    refine guarded.keep (fun thread inside => ?_) (mutexHolder_visited _ answered)
    cases thread with
    | connmgr => exact absurd inside (Threads.waiting_not_inSection rfl)
    | datamgr => exact inside
  | lock examination input point free =>
    intro thread inside
    cases thread with
    | connmgr => exact mutexHolder_lock _ _
    | datamgr => exact nomatch free.symm.trans (guarded .datamgr inside)
  | test examination input point =>
    refine guarded.keep (fun thread inside => ?_) rfl
    cases thread with
    | connmgr => exact Or.inl ⟨examination, input, point⟩
    | datamgr => exact inside
  | finish examination input closes manager point finished =>
    intro thread inside
    cases thread with
    | connmgr => exact absurd inside (Threads.outside_not_inSection rfl)
    | datamgr =>
      exact absurd ⟨Or.inr ⟨examination, input, closes, point⟩, inside⟩ guarded.exclusive
  | endScan messageTime manager point ended =>
    exact guarded.keep (fun thread inside => by cases thread <;> exact inside)
      (mutexHolder_endScan ended).1
  | request id point =>
    refine guarded.keep (fun thread inside => ?_) rfl
    cases thread with
    | connmgr => exact inside
    | datamgr =>
      rcases inside with ⟨other, inside⟩ | inside
      · exact nomatch inside
      · exact nomatch inside
  | acquire id point free =>
    intro thread inside
    cases thread with
    | connmgr => exact nomatch free.symm.trans (guarded .connmgr inside)
    | datamgr => exact mutexHolder_lock _ _
  | write id point =>
    have holder : mutexHolder (threads.manager.log ++ [.writeStopsig .datamgr id]) =
        mutexHolder threads.manager.log := mutexHolder_append_of_silent _ (by simp)
    refine guarded.keep (fun thread inside => ?_) holder
    cases thread with
    | connmgr => exact inside
    | datamgr => exact Or.inl ⟨id, point⟩
  | release point =>
    intro thread inside
    cases thread with
    | connmgr => exact absurd ⟨inside, Or.inr point⟩ guarded.exclusive
    | datamgr =>
      rcases inside with ⟨other, inside⟩ | inside
      · exact nomatch inside
      · exact nomatch inside

/-! ### The abandoned mutex -/

/-- Steps of the threads outside their critical sections. -/
def ThreadEvent.Local : ThreadEvent → Prop
  | .poll _ _ => True
  | .visit _ => True
  | .endScan _ => True
  | .request _ => True
  | _ => False

/-- Once the mutex is abandoned, it stays abandoned, no step of a critical section is taken, and
the slot keeps its value. -/
theorem Threads.Abandoned.step (abandoned : threads.Abandoned) (guarded : threads.Guarded)
    (taken : threads.step event = some next) :
    next.Abandoned ∧ event.Local ∧
      next.manager.connmgrSensorStopsig = threads.manager.connmgrSensorStopsig := by
  obtain ⟨holder, outside⟩ := abandoned
  have notDatamgr : ¬ threads.InSection .datamgr := fun inside =>
    nomatch holder.symm.trans (guarded .datamgr inside)
  cases stepped_of_step taken with
  | poll outcome input manager point polled =>
    obtain ⟨sameHolder, sameSlot⟩ := mutexHolder_poll polled
    exact ⟨⟨sameHolder.trans holder, outside⟩, trivial, sameSlot⟩
  | visit input examination point answered =>
    exact ⟨⟨(mutexHolder_visited _ answered).trans holder, Threads.waiting_not_inSection rfl⟩,
      trivial, rfl⟩
  | lock examination input point free => exact nomatch free.symm.trans holder
  | test examination input point => exact absurd (Or.inl ⟨examination, input, point⟩) outside
  | finish examination input closes manager point finished =>
    exact absurd (Or.inr ⟨examination, input, closes, point⟩) outside
  | endScan messageTime manager point ended =>
    obtain ⟨sameHolder, sameSlot⟩ := mutexHolder_endScan ended
    exact ⟨⟨sameHolder.trans holder, outside⟩, trivial, sameSlot⟩
  | request id point => exact ⟨⟨holder, outside⟩, trivial, rfl⟩
  | acquire id point free => exact nomatch free.symm.trans holder
  | write id point => exact absurd (Or.inl ⟨id, point⟩) notDatamgr
  | release point => exact absurd (Or.inr point) notDatamgr

/-- The transition leaves a critical section of the connection manager without unlocking. -/
def Leaves (transition : Runs.Transition (Threads config) ThreadEvent) : Prop :=
  transition.event = .finish ∧
    ∃ examination input closes, transition.before.connmgr = .tested examination input closes ∧
      KeepsMutex transition.before.manager examination closes

/-- The mutex is abandoned by leaving a section without unlocking, and in no other way. -/
theorem Threads.Guarded.abandoned_iff (guarded : threads.Guarded)
    (taken : threads.step event = some next) :
    next.Abandoned ↔ threads.Abandoned ∨ Leaves ⟨threads, event, next⟩ := by
  have stays : threads.Abandoned → next.Abandoned := fun abandoned =>
    (abandoned.step guarded taken).1
  refine ⟨fun abandoned => ?_, ?_⟩
  · obtain ⟨holder, outside⟩ := abandoned
    cases stepped_of_step taken with
    | poll outcome input manager point polled =>
      exact Or.inl ⟨(mutexHolder_poll polled).1.symm.trans holder, outside⟩
    | visit input examination point answered =>
      exact Or.inl ⟨(mutexHolder_visited _ answered).symm.trans holder,
        Threads.outside_not_inSection point⟩
    | lock examination input point free =>
      exact absurd (Or.inl ⟨examination, input, rfl⟩) outside
    | test examination input point =>
      exact absurd (Or.inr ⟨examination, input, _, rfl⟩) outside
    | finish examination input closes manager point finished =>
      rcases mutexHolder_finish finished with ⟨keeps, -, -⟩ | ⟨-, released⟩
      · exact Or.inr ⟨rfl, examination, input, closes, point, keeps⟩
      · exact nomatch released.symm.trans holder
    | endScan messageTime manager point ended =>
      exact Or.inl ⟨(mutexHolder_endScan ended).1.symm.trans holder, outside⟩
    | request id point => exact Or.inl ⟨holder, outside⟩
    | acquire id point free => exact nomatch (mutexHolder_lock _ _).symm.trans holder
    | write id point =>
      have same : mutexHolder (threads.manager.log ++ [.writeStopsig .datamgr id]) =
          mutexHolder threads.manager.log := mutexHolder_append_of_silent _ (by simp)
      exact Or.inl ⟨same.symm.trans holder, outside⟩
    | release point => exact nomatch (mutexHolder_unlock _ _).symm.trans holder
  · rintro (abandoned | ⟨rfl, examination, input, closes, point, keeps⟩)
    · exact stays abandoned
    · have holder := guarded .connmgr (Or.inr ⟨examination, input, closes, point⟩)
      cases stepped_of_step taken with
      | finish other otherInput otherCloses manager otherPoint finished =>
        obtain ⟨rfl, rfl, rfl⟩ := ConnmgrPhase.tested.inj (point.symm.trans otherPoint)
        rcases mutexHolder_finish finished with ⟨-, same, -⟩ | ⟨releases, -⟩
        · exact ⟨same.trans holder, Threads.outside_not_inSection rfl⟩
        · exact absurd keeps releases

/-! ### Runs of the threads -/

theorem Threads.start_guarded (listener : Int) (revents : BitVec 16) (pollRet tcpConnRet : Int)
    (uninitialised : SensorData config.layout) :
    (Threads.start
      (Connmgr.start listener revents pollRet tcpConnRet uninitialised)).Guarded := by
  intro thread inside
  cases thread with
  | connmgr => exact absurd inside (Threads.outside_not_inSection rfl)
  | datamgr =>
    rcases inside with ⟨other, inside⟩ | inside
    · exact nomatch inside
    · exact nomatch inside

theorem Threads.Guarded.run (guarded : threads.Guarded) (events : List ThreadEvent) :
    ∀ transition ∈ Runs.transitions Threads.step threads events,
      transition.before.Guarded ∧ transition.after.Guarded :=
  Runs.invariant_of_transitions Threads.Guarded (fun _ => True) guarded
    (fun _ _ _ before taken _ => before.step taken) fun _ _ => trivial

theorem Threads.Guarded.abandoned_final_iff (guarded : threads.Guarded)
    (events : List ThreadEvent) :
    (Runs.final Threads.step threads events).Abandoned ↔ threads.Abandoned ∨
      ∃ transition ∈ Runs.transitions Threads.step threads events, Leaves transition :=
  Runs.final_iff_exists Threads.Guarded guarded fun _ _ _ before taken =>
    ⟨before.step taken, before.abandoned_iff taken⟩

/-- The requests that are still possible when the mutex is abandoned. -/
def ThreadEvent.IsRequest (event : ThreadEvent) : Prop := ∃ id, event = .request id

/-- A visit of a client. -/
def ThreadEvent.IsVisit (event : ThreadEvent) : Prop := ∃ input, event = .visit input

/-- With the mutex abandoned, a connection manager that waits for it does nothing more. -/
theorem Threads.Abandoned.connmgr_stuck (abandoned : threads.Abandoned)
    (guarded : threads.Guarded) {examination : Examination config} {input : ScanInput}
    (point : threads.connmgr = .waiting examination input) (events : List ThreadEvent) :
    ∀ transition ∈ Runs.transitions Threads.step threads events,
      transition.event.IsRequest := by
  refine Runs.forall_transitions (fun state => state.Abandoned ∧ state.Guarded ∧
    state.connmgr = .waiting examination input) ⟨abandoned, guarded, point⟩ ?_
  rintro before event after ⟨abandoned, guarded, point⟩ taken
  obtain ⟨stays, isLocal, -⟩ := abandoned.step guarded taken
  refine and_assoc.mpr ⟨stays, and_assoc.mpr ⟨guarded.step taken, ?_⟩⟩
  cases stepped_of_step taken with
  | poll outcome accept manager outside polled => exact nomatch point.symm.trans outside
  | visit other found outside answered => exact nomatch point.symm.trans outside
  | endScan messageTime manager outside ended => exact nomatch point.symm.trans outside
  | request id waiting => exact ⟨point, id, rfl⟩
  | _ => exact absurd isLocal not_false

/-- With the mutex abandoned, a data manager that waits for it makes no more requests. -/
theorem Threads.Abandoned.datamgr_stuck (abandoned : threads.Abandoned)
    (guarded : threads.Guarded) {id : BitVec 16} (point : threads.datamgr = .waiting id)
    (events : List ThreadEvent) :
    ∀ transition ∈ Runs.transitions Threads.step threads events,
      ¬ transition.event.IsRequest := by
  refine Runs.forall_transitions (fun state => state.Abandoned ∧ state.Guarded ∧
    state.datamgr = .waiting id) ⟨abandoned, guarded, point⟩ ?_
  rintro before event after ⟨abandoned, guarded, point⟩ taken
  obtain ⟨stays, isLocal, -⟩ := abandoned.step guarded taken
  refine and_assoc.mpr ⟨stays, and_assoc.mpr ⟨guarded.step taken, ?_⟩⟩
  cases stepped_of_step taken with
  | poll outcome accept manager outside polled => exact ⟨point, fun ⟨_, same⟩ => nomatch same⟩
  | visit other found outside answered => exact ⟨point, fun ⟨_, same⟩ => nomatch same⟩
  | endScan messageTime manager outside ended => exact ⟨point, fun ⟨_, same⟩ => nomatch same⟩
  | request other waiting => exact nomatch point.symm.trans waiting
  | _ => exact absurd isLocal not_false

/-- What is left of a run once the mutex is abandoned. -/
structure Frozen (slot : BitVec 16)
    (later : List (Runs.Transition (Threads config) ThreadEvent)) : Prop where
  outside : ∀ transition ∈ later, transition.event.Local
  slot : ∀ transition ∈ later, transition.after.manager.connmgrSensorStopsig = slot
  visits : later.Pairwise fun first second => first.event.IsVisit → second.event.IsRequest
  requests : later.Pairwise fun first second => first.event.IsRequest → ¬ second.event.IsRequest

theorem Threads.Abandoned.frozen (abandoned : threads.Abandoned) (guarded : threads.Guarded)
    (events : List ThreadEvent) :
    Frozen threads.manager.connmgrSensorStopsig
      (Runs.transitions Threads.step threads events) := by
  induction events generalizing threads with
  | nil =>
    exact {
      outside := fun transition member => absurd member List.not_mem_nil
      slot := fun transition member => absurd member List.not_mem_nil
      visits := List.Pairwise.nil
      requests := List.Pairwise.nil }
  | cons event rest inductionHypothesis =>
    cases taken : threads.step event with
    | none =>
      rw [Runs.transitions_cons_of_none taken]
      exact {
        outside := fun transition member => absurd member List.not_mem_nil
        slot := fun transition member => absurd member List.not_mem_nil
        visits := List.Pairwise.nil
        requests := List.Pairwise.nil }
    | some next =>
      rw [Runs.transitions_cons_of_some taken]
      obtain ⟨nextAbandoned, isLocal, sameSlot⟩ := abandoned.step guarded taken
      have nextGuarded := guarded.step taken
      have later := inductionHypothesis nextAbandoned nextGuarded
      rw [sameSlot] at later
      refine {
        outside := List.forall_mem_cons.mpr ⟨isLocal, later.outside⟩
        slot := List.forall_mem_cons.mpr ⟨sameSlot, later.slot⟩
        visits := List.pairwise_cons.mpr ⟨fun transition member visits => ?_, later.visits⟩
        requests := List.pairwise_cons.mpr
          ⟨fun transition member requests => ?_, later.requests⟩ }
      · obtain ⟨input, rfl⟩ := visits
        cases stepped_of_step taken with
        | visit same examination point answered =>
          exact nextAbandoned.connmgr_stuck nextGuarded rfl rest transition member
      · obtain ⟨id, rfl⟩ := requests
        cases stepped_of_step taken with
        | request same point =>
          exact nextAbandoned.datamgr_stuck nextGuarded rfl rest transition member

end Sections

/-- The threads are never inside their critical sections at once, and the mutex is left locked by
the connection manager exactly when some iteration has closed a client without a request for its
sensor. -/
theorem mutex_excludes_and_abandoned_iff (listener : Int) (revents : BitVec 16)
    (pollRet tcpConnRet : Int) (uninitialised : SensorData config.layout)
    (events : List ThreadEvent) :
    let start := Threads.start
      (Connmgr.start listener revents pollRet tcpConnRet uninitialised)
    (∀ transition ∈ Runs.transitions Threads.step start events,
      ¬ (transition.after.InSection .connmgr ∧ transition.after.InSection .datamgr)) ∧
    ((Runs.final Threads.step start events).Abandoned ↔
      ∃ transition ∈ Runs.transitions Threads.step start events, Leaves transition) := by
  intro start
  have guarded : start.Guarded :=
    Threads.start_guarded listener revents pollRet tcpConnRet uninitialised
  refine ⟨fun transition member => (guarded.run events transition member).2.exclusive, ?_⟩
  rw [guarded.abandoned_final_iff, or_iff_right]
  rintro ⟨holder, -⟩
  exact nomatch holder

/-- Once an iteration has closed a client without a request for its sensor, no thread gets the mutex
any more: the slot keeps its value, no iteration of the scan ends, at most one more client is
visited, and at most one more request is made. -/
theorem threads_frozen (listener : Int) (revents : BitVec 16) (pollRet tcpConnRet : Int)
    (uninitialised : SensorData config.layout) (events : List ThreadEvent)
    {earlier later : List (Runs.Transition (Threads config) ThreadEvent)}
    {transition : Runs.Transition (Threads config) ThreadEvent}
    (run : Runs.transitions Threads.step (Threads.start
      (Connmgr.start listener revents pollRet tcpConnRet uninitialised)) events =
        earlier ++ transition :: later)
    (leaves : Leaves transition) :
    Frozen transition.after.manager.connmgrSensorStopsig later := by
  have member : transition ∈ Runs.transitions Threads.step (Threads.start
      (Connmgr.start listener revents pollRet tcpConnRet uninitialised)) events := by
    rw [run]
    exact List.mem_append_right _ List.mem_cons_self
  obtain ⟨before, after⟩ := (Threads.start_guarded listener revents pollRet tcpConnRet
    uninitialised).run events transition member
  have abandoned :=
    (before.abandoned_iff (Runs.step_of_mem_transitions member)).mpr (Or.inr leaves)
  obtain ⟨rest, ran, -⟩ := Runs.exists_run_after run
  rw [← ran]
  exact abandoned.frozen after rest

/-- A sensor sends a reading and closes its connection. -/
def readingThenClosed : List ThreadEvent :=
  [.poll (.returns [pollin]) (accepted 4 0 0), .endScan 0,
    .poll (.returns [0, pollin]) (accepted 5 0 0),
    .visit (scanAt 1 [1, 0] [0, 0, 0, 0, 0, 0, 0, 0] [0, 0, 0, 0, 0, 0, 0, 0]),
    .lock, .test, .finish, .endScan 1,
    .poll (.returns [0, pollin]) (accepted 5 0 0),
    .visit (scanAt 2 [] [] []), .lock, .test, .finish, .endScan 2, .request 9]

theorem threads_frozen_readingThenClosed :
    ∃ (earlier later : List (Runs.Transition (Threads gatewayConfig) ThreadEvent))
      (transition : Runs.Transition (Threads gatewayConfig) ThreadEvent),
      Runs.transitions Threads.step (Threads.start gatewayStart) readingThenClosed =
        earlier ++ transition :: later ∧ later.length = 2 ∧ Frozen 0 later := by
  have split (run : List (Runs.Transition (Threads gatewayConfig) ThreadEvent))
      (long : 12 < run.length) : run = run.take 12 ++ run[12] :: run.drop 13 := by
    rw [← List.drop_eq_getElem_cons long, List.take_append_drop]
  have run := split
    (Runs.transitions Threads.step (Threads.start gatewayStart) readingThenClosed) (by decide)
  refine ⟨_, _, _, run, by decide, ?_⟩
  exact threads_frozen 3 0 0 (-1) zeroData readingThenClosed run
    ⟨rfl, _, _, _, rfl, rfl, _, rfl, by decide⟩

end SensorGateway
