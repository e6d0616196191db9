/-
This file relates the two threads, step by step with a blocking mutex, to the machine
of the connection manager whose iterations and stop requests are single steps. Every
run of the threads is matched by a run of that machine: an iteration happens at its
last step, a stop request where the slot is written. The variables agree, the
connection manager has done the same in the same order, and the operations on the
mutex and the slot have happened in the same order; only what the connection manager
does outside the mutex and what the data manager does inside it may change places.

The match also gives the progress of the threads. A thread that waits for the mutex
can still get it, unless the connection manager has abandoned it or, for the data
manager, is about to.
-/

import SensorGateway.ConnmgrThreads
import SensorGateway.Library.Simulation

namespace SensorGateway

variable {config : Config} {layout : Layout}

/-! ### Steps do not read the log -/

/-- The same variables with another log. -/
def Connmgr.relog (manager : Connmgr config) (log : List (Action config.layout)) :
    Connmgr config := { manager with log }

/-- An operation on the mutex or a write of the slot. -/
def Action.Shared : Action layout → Bool
  | .mutexLock _ => true
  | .mutexUnlock _ => true
  | .writeStopsig _ _ => true
  | _ => false

/-- An action of the connection manager. -/
def Action.Own : Action layout → Bool
  | .mutexLock thread => thread = .connmgr
  | .mutexUnlock thread => thread = .connmgr
  | .writeStopsig thread _ => thread = .connmgr
  | _ => true

/-- A step that adds to the log what does not depend on the log. -/
structure Emits (step : Connmgr config → Option (Connmgr config)) (manager after : Connmgr config)
    (emitted : List (Action config.layout)) : Prop where
  log : after.log = manager.log ++ emitted
  again : ∀ front, step (manager.relog front) = some (after.relog (front ++ emitted))

theorem relog_self (manager : Connmgr config) : manager.relog manager.log = manager := rfl

theorem accept_emits {manager after : Connmgr config} {input : AcceptInput}
    (taken : manager.accept input = some after) :
    ∃ emitted, Emits (fun state => state.accept input) manager after emitted ∧
      ∀ action ∈ emitted, action.Own = true ∧ action.Shared = false := by
  unfold Connmgr.accept at taken
  split_ifs at taken with comparison
  · obtain rfl := Option.some.inj taken
    refine ⟨[message input.messageTime
        ("can not accept new connection (" ++ toString manager.tcpConnRet ++ ")")],
      ⟨rfl, fun front => ?_⟩, List.forall_mem_singleton.mpr ⟨rfl, rfl⟩⟩
    unfold Connmgr.accept
    exact if_pos comparison
  · obtain ⟨sockList, inserted, built⟩ := Option.bind_eq_some_iff.mp taken
    obtain rfl := Option.some.inj built
    refine ⟨[.registered (acceptedClient input), message input.messageTime
        "received new connection"],
      ⟨rfl, fun front => ?_⟩, List.forall_mem_cons.mpr ⟨⟨rfl, rfl⟩,
        List.forall_mem_singleton.mpr ⟨rfl, rfl⟩⟩⟩
    unfold Connmgr.accept
    refine (if_neg comparison).trans ?_
    show (dplInsertSorted elementCompare manager.sockList (acceptedClient input)).bind _ = _
    rw [inserted]
    rfl

/-- A poll does not read the log, and does nothing shared. -/
theorem poll_emits {manager after : Connmgr config} {outcome : Poll} {input : AcceptInput}
    (taken : manager.poll outcome input = some after) :
    ∃ emitted, Emits (fun state => state.poll outcome input) manager after emitted ∧
      ∀ action ∈ emitted, action.Own = true ∧ action.Shared = false := by
  cases point : manager.position with
  | scanning i =>
    unfold Connmgr.poll at taken
    simp only [point, reduceCtorEq] at taken
  | returned =>
    unfold Connmgr.poll at taken
    simp only [point, reduceCtorEq] at taken
  | polling =>
    cases outcome with
    | failed =>
      unfold Connmgr.poll at taken
      simp only [point, Option.some.injEq] at taken
      refine ⟨[], ⟨?_, fun front => ?_⟩, fun action member => absurd member List.not_mem_nil⟩
      · rw [← taken, List.append_nil]
      · unfold Connmgr.poll Connmgr.relog
        dsimp only
        rw [point, ← taken, List.append_nil]
    | ready revents =>
      -- A poll of the manager with any log, with the log in one place only.
      have reads (log : List (Action config.layout)) :
          (manager.relog log).poll (.ready revents) input =
            if (manager.polled revents).pollRet = 0 ∧ manager.counter = 0 then
              some (Connmgr.relog { manager.polled revents with position := .returned }
                (log ++ [.polled (polledEntries manager.pollFd revents)]))
            else (manager.polled revents).pollFd[0]?.bind fun listener =>
              if manager.Admits listener then
                (((manager.polled revents).relog
                  (log ++ [.polled (polledEntries manager.pollFd revents)])).accept input).bind
                  fun manager => some { manager with
                    pollRet := manager.pollRet - 1, position := .scanning 1 }
              else some (Connmgr.relog { manager.polled revents with position := .scanning 1 }
                (log ++ [.polled (polledEntries manager.pollFd revents)])) := by
        have start : (manager.relog log).position = .polling := point
        unfold Connmgr.poll
        rw [start]
        rfl
      have polledOwn : ∀ action ∈
          ([.polled (polledEntries manager.pollFd revents)] : List (Action config.layout)),
          action.Own = true ∧ action.Shared = false :=
        List.forall_mem_singleton.mpr ⟨rfl, rfl⟩
      rw [← relog_self manager, reads] at taken
      split_ifs at taken with ended
      · obtain rfl := Option.some.inj taken
        refine ⟨_, ⟨rfl, fun front => ?_⟩, polledOwn⟩
        rw [reads, if_pos ended]
        rfl
      · obtain ⟨listener, present, rest⟩ := Option.bind_eq_some_iff.mp taken
        split_ifs at rest with admits
        · obtain ⟨accepted, answered, built⟩ := Option.bind_eq_some_iff.mp rest
          obtain rfl := Option.some.inj built
          obtain ⟨emitted, emits, own⟩ := accept_emits answered
          refine ⟨[.polled (polledEntries manager.pollFd revents)] ++ emitted,
            ⟨?_, fun front => ?_⟩,
            List.forall_mem_append.mpr ⟨polledOwn, own⟩⟩
          · rw [← List.append_assoc]
            exact emits.log
          · have again := emits.again (front ++ [.polled (polledEntries manager.pollFd revents)])
            rw [reads, if_neg ended, present, Option.bind_some, if_pos admits, ← List.append_assoc]
            exact congrArg (fun accepted => accepted.bind fun manager => some { manager with
              pollRet := manager.pollRet - 1, position := .scanning 1 }) again
        · obtain rfl := Option.some.inj rest
          refine ⟨_, ⟨rfl, fun front => ?_⟩, polledOwn⟩
          rw [reads, if_neg ended, present, Option.bind_some, if_neg admits]
          rfl

theorem endScan_emits {manager after : Connmgr config} {messageTime : Int}
    (taken : manager.endScan messageTime = some after) :
    ∃ emitted, Emits (fun state => state.endScan messageTime) manager after emitted ∧
      ∀ action ∈ emitted, action.Own = true ∧ action.Shared = false := by
  unfold Connmgr.endScan at taken
  cases point : manager.position with
  | polling => simp only [point, reduceCtorEq] at taken
  | returned => simp only [point, reduceCtorEq] at taken
  | scanning i =>
    simp only [point] at taken
    split_ifs at taken with guard failed
    · obtain rfl := Option.some.inj taken
      refine ⟨[message messageTime "Poll sockets error"], ⟨rfl, fun front => ?_⟩, ?_⟩
      · unfold Connmgr.endScan Connmgr.relog
        dsimp only
        rw [point]
        dsimp only
        rw [if_neg guard, if_pos failed]
      · exact List.forall_mem_singleton.mpr ⟨rfl, rfl⟩
    · obtain rfl := Option.some.inj taken
      refine ⟨[], ⟨(List.append_nil _).symm, fun front => ?_⟩,
        fun action member => absurd member List.not_mem_nil⟩
      unfold Connmgr.endScan Connmgr.relog
      dsimp only
      rw [point]
      dsimp only
      rw [if_neg guard, if_neg failed, List.append_nil]

/-- The second part of an iteration is the test and the rest. -/
theorem conclude_eq_finish (manager : Connmgr config) (examination : Examination config)
    (input : ScanInput) :
    manager.conclude examination input = manager.finish examination input
      (decide (examination.visit.Closes manager.connmgrSensorStopsig input)) := by
  unfold Connmgr.conclude Connmgr.finish
  by_cases closes : examination.visit.Closes manager.connmgrSensorStopsig input
  · rw [if_pos closes, if_pos (decide_eq_true closes)]
  · rw [if_neg closes, decide_eq_false closes, if_neg Bool.false_ne_true]

theorem endConnection_emits (manager : Connmgr config) (node : Option Nat)
    (client : Option TcpsockDpl) (input : ScanInput) :
    ∃ emitted, Emits (fun state => some (state.endConnection node client input)) manager
        (manager.endConnection node client input) emitted ∧
      ∀ action ∈ emitted, action.Own = true := by
  cases client with
  | none =>
    exact ⟨[.mutexUnlock .connmgr], ⟨rfl, fun front => rfl⟩, List.forall_mem_singleton.mpr rfl⟩
  | some client =>
    by_cases wanted : client.sensor = manager.connmgrSensorStopsig
    · refine ⟨[.writeStopsig .connmgr 0, .mutexUnlock .connmgr, message input.messageTime
          ("Stop connection to " ++ toString client.sensor.toNat ++ " by signal")],
        ⟨?_, fun front => congrArg some ?_⟩, ?_⟩
      · exact congrArg Connmgr.log (if_pos wanted)
      · refine (if_pos wanted).trans ?_
        rw [Connmgr.endConnection, if_pos wanted]
        rfl
      · exact List.forall_mem_cons.mpr ⟨rfl, List.forall_mem_cons.mpr ⟨rfl,
          List.forall_mem_singleton.mpr rfl⟩⟩
    · refine ⟨[message input.messageTime
          ("Close connection to " ++ toString client.sensor.toNat), .tcpClose client.sockPt],
        ⟨?_, fun front => congrArg some ?_⟩, ?_⟩
      · exact congrArg Connmgr.log (if_neg wanted)
      · refine (if_neg wanted).trans ?_
        rw [Connmgr.endConnection, if_neg wanted]
        rfl
      · exact List.forall_mem_cons.mpr ⟨rfl, List.forall_mem_singleton.mpr rfl⟩

theorem finish_emits {manager after : Connmgr config} {examination : Examination config}
    {input : ScanInput} {closes : Bool}
    (taken : manager.finish examination input closes = some after) :
    ∃ emitted, Emits (fun state => state.finish examination input closes) manager after emitted ∧
      ∀ action ∈ emitted, action.Own = true := by
  cases closes with
  | false =>
    obtain rfl := Option.some.inj taken
    exact ⟨[.mutexUnlock .connmgr], ⟨rfl, fun front => rfl⟩, List.forall_mem_singleton.mpr rfl⟩
  | true =>
    rw [Connmgr.finish, if_pos rfl] at taken
    obtain ⟨compacted, ran, built⟩ := Option.bind_eq_some_iff.mp taken
    obtain rfl := Option.some.inj built
    obtain ⟨emitted, emits, own⟩ :=
      endConnection_emits manager examination.node examination.visit.client input
    refine ⟨emitted ++ [.dropped examination.visit.entry examination.visit.client],
      ⟨?_, fun front => ?_⟩, List.forall_mem_append.mpr ⟨own, List.forall_mem_singleton.mpr rfl⟩⟩
    · rw [← List.append_assoc, ← emits.log]
    · have again := Option.some.inj (emits.again front)
      rw [Connmgr.finish, if_pos rfl, again]
      dsimp only [Connmgr.relog]
      rw [ran, Option.bind_eq_bind, Option.bind_some, List.append_assoc]

/-! ### The match -/

/-- The actions of the connection manager in a log. -/
def ownActions (log : List (Action layout)) : List (Action layout) := log.filter Action.Own

/-- The operations on the mutex and the slot in a log. -/
def sharedActions (log : List (Action layout)) : List (Action layout) := log.filter Action.Shared

/-- The iteration that the connection manager has begun. -/
def ConnmgrPhase.begun : ConnmgrPhase config → Option (Examination config × ScanInput)
  | .outside => none
  | .waiting examination input => some (examination, input)
  | .holding examination input => some (examination, input)
  | .tested examination input _ => some (examination, input)

/-- The variables after the part of an iteration that has been done. -/
def ConnmgrPhase.view (phase : ConnmgrPhase config) (manager : Connmgr config) :
    Connmgr config :=
  match phase.begun with
  | none => manager
  | some (examination, _) => manager.visited examination

/-- What the connection manager has done of an iteration. -/
def ConnmgrPhase.done : ConnmgrPhase config → List (Action config.layout)
  | .outside => []
  | .waiting examination _ => examination.visit.actions
  | .holding examination _ => examination.visit.actions ++ [.mutexLock .connmgr]
  | .tested examination _ _ => examination.visit.actions ++ [.mutexLock .connmgr]

/-- What the data manager has done to the mutex of a request that is not made yet. -/
def DatamgrPhase.ahead : DatamgrPhase → List (Action layout)
  | .holding _ => [.mutexLock .datamgr]
  | _ => []

/-- What the data manager has left to do to the mutex of a request that is made. -/
def DatamgrPhase.behind : DatamgrPhase → List (Action layout)
  | .written => [.mutexUnlock .datamgr]
  | _ => []

/-- The threads agree with a state in which iterations and requests are single steps: the state
before an iteration they have begun, and the state after a request they have written. -/
structure Threads.Matches (threads : Threads config) (manager : Connmgr config) : Prop where
  guarded : threads.Guarded
  begun : ∀ examination input, threads.connmgr.begun = some (examination, input) →
    manager.examine input = some examination
  state : threads.manager = (threads.connmgr.view manager).relog threads.manager.log
  tested : ∀ examination input closes, threads.connmgr = .tested examination input closes →
    closes = decide (examination.visit.Closes manager.connmgrSensorStopsig input)
  own : ownActions threads.manager.log = ownActions manager.log ++ threads.connmgr.done
  shared : sharedActions threads.manager.log ++ threads.datamgr.behind =
    sharedActions manager.log ++ (sharedActions threads.connmgr.done ++ threads.datamgr.ahead)

theorem matches_start (listener : Int) (revents : BitVec 16) (pollRet tcpConnRet : Int)
    (uninitialised : SensorData config.layout) :
    (Threads.start (Connmgr.start listener revents pollRet tcpConnRet uninitialised)).Matches
      (Connmgr.start listener revents pollRet tcpConnRet uninitialised) where
  guarded := Threads.start_guarded listener revents pollRet tcpConnRet uninitialised
  begun _ _ same := nomatch same
  state := rfl
  tested _ _ _ same := nomatch same
  own := rfl
  shared := rfl

section Matches

variable {threads next : Threads config} {manager : Connmgr config} {event : ThreadEvent}

@[simp] theorem ownActions_append (first second : List (Action layout)) :
    ownActions (first ++ second) = ownActions first ++ ownActions second :=
  List.filter_append _ _

@[simp] theorem sharedActions_append (first second : List (Action layout)) :
    sharedActions (first ++ second) = sharedActions first ++ sharedActions second :=
  List.filter_append _ _

theorem ownActions_of_own {log : List (Action layout)} (own : ∀ action ∈ log, action.Own = true) :
    ownActions log = log := List.filter_eq_self.mpr own

theorem sharedActions_of_none {log : List (Action layout)}
    (none : ∀ action ∈ log, action.Shared = false) : sharedActions log = [] :=
  List.filter_eq_nil_iff.mpr fun action member => by
    rw [none action member]
    exact Bool.false_ne_true

/-- The actions of a visit are the connection manager's own, and none is shared. -/
theorem Action.OfVisit.local {action : Action layout} (kind : action.OfVisit) :
    action.Own = true ∧ action.Shared = false := by
  cases kind <;> exact ⟨rfl, rfl⟩

/-- Outside its section the data manager has nothing done and nothing left to do. -/
theorem Threads.datamgr_idle (layout : Layout) (outside : ¬ threads.InSection .datamgr) :
    (threads.datamgr.behind : List (Action layout)) = [] ∧
      (threads.datamgr.ahead : List (Action layout)) = [] := by
  cases point : threads.datamgr with
  | outside => exact ⟨rfl, rfl⟩
  | waiting id => exact ⟨rfl, rfl⟩
  | holding id => exact absurd (Or.inl ⟨id, point⟩) outside
  | written => exact absurd (Or.inr point) outside

theorem Threads.Guarded.not_inSection_of_free (guarded : threads.Guarded)
    (free : mutexHolder threads.manager.log = none) (thread : Thread) :
    ¬ threads.InSection thread := fun inside =>
  nomatch free.symm.trans (guarded thread inside)

/-- The variables of the threads outside an iteration. -/
theorem Threads.Matches.state_outside (matched : threads.Matches manager)
    (point : threads.connmgr = .outside) :
    threads.manager = manager.relog threads.manager.log := by
  have state := matched.state
  rw [point] at state
  exact state

/-- The variables of the threads in an iteration. -/
theorem Threads.Matches.state_begun (matched : threads.Matches manager)
    {examination : Examination config} {input : ScanInput}
    (begun : threads.connmgr.begun = some (examination, input)) :
    threads.manager = (manager.visited examination).relog threads.manager.log := by
  have state := matched.state
  rw [ConnmgrPhase.view, begun] at state
  exact state

theorem Threads.Matches.slot (matched : threads.Matches manager) :
    threads.manager.connmgrSensorStopsig = manager.connmgrSensorStopsig := by
  rw [matched.state]
  unfold ConnmgrPhase.view
  cases threads.connmgr.begun <;> rfl

theorem Threads.Matches.visit_local (matched : threads.Matches manager)
    {examination : Examination config} {input : ScanInput}
    (begun : threads.connmgr.begun = some (examination, input)) :
    ∀ action ∈ examination.visit.actions, action.Own = true ∧ action.Shared = false :=
  fun action member =>
    ((examined_of_examine (matched.begun examination input begun)).visited.ofVisit
      action member).local

/-- Outside its section the connection manager has done nothing shared. -/
theorem Threads.Matches.done_silent (matched : threads.Matches manager)
    (outside : ¬ threads.InSection .connmgr) : sharedActions threads.connmgr.done = [] := by
  cases point : threads.connmgr with
  | outside => rfl
  | waiting examination input =>
    refine sharedActions_of_none fun action member => ?_
    exact (matched.visit_local (by rw [point]; rfl) action member).2
  | holding examination input => exact absurd (Or.inl ⟨examination, input, point⟩) outside
  | tested examination input closes =>
    exact absurd (Or.inr ⟨examination, input, closes, point⟩) outside

/-- A step of the connection manager outside an iteration. -/
theorem Threads.Matches.own_step (matched : threads.Matches manager)
    {step : Connmgr config → Option (Connmgr config)} {after : Connmgr config}
    {emitted : List (Action config.layout)} (point : threads.connmgr = .outside)
    (emits : Emits step threads.manager after emitted)
    (quiet : ∀ action ∈ emitted, action.Own = true ∧ action.Shared = false)
    (guarded : ({ threads with manager := after } : Threads config).Guarded) :
    ∃ last, step manager = some last ∧
      ({ threads with manager := after } : Threads config).Matches last := by
  have same : threads.manager.relog manager.log = manager := by
    rw [matched.state_outside point]
    rfl
  have ran := emits.again manager.log
  rw [same] at ran
  refine ⟨_, ran, {
    guarded
    begun := fun examination input begun => ?_
    state := ?_
    tested := fun examination input closes tested => nomatch point.symm.trans tested
    own := ?_
    shared := ?_ }⟩
  · rw [point] at begun
    exact nomatch begun
  · rw [ConnmgrPhase.view, point]
    rfl
  · have before := matched.own
    rw [point] at before
    show ownActions after.log = ownActions (manager.log ++ emitted) ++ threads.connmgr.done
    rw [emits.log, ownActions_append, ownActions_append, before, point]
    simp only [ConnmgrPhase.done, List.append_nil]
  · have silent := sharedActions_of_none fun action member => (quiet action member).2
    show sharedActions after.log ++ threads.datamgr.behind =
      sharedActions (manager.log ++ emitted) ++
        (sharedActions threads.connmgr.done ++ threads.datamgr.ahead)
    rw [emits.log, sharedActions_append, sharedActions_append, silent, List.append_nil,
      List.append_nil, matched.shared]

/-- Every step of the threads is matched. -/
theorem Threads.Matches.step (matched : threads.Matches manager)
    (taken : threads.step event = some next) :
    Runs.Simulated Connmgr.step Threads.Matches manager next := by
  have guarded := matched.guarded.step taken
  cases stepped_of_step taken with
  | poll outcome input after point polled =>
    obtain ⟨emitted, emits, quiet⟩ := poll_emits polled
    obtain ⟨last, ran, matches_⟩ := matched.own_step point emits quiet guarded
    exact Runs.Simulated.single (show manager.step (.poll outcome input) = some last from ran)
      matches_
  | visit input examination point answered =>
    have state := matched.state_outside point
    have found : manager.examine input = some examination := by
      rw [state] at answered
      exact answered
    have actions (action : Action config.layout) (member : action ∈ examination.visit.actions) :=
      ((examined_of_examine found).visited.ofVisit action member).local
    refine .stutter {
      guarded
      begun := fun other otherInput same => ?_
      state := ?_
      tested := fun _ _ _ same => nomatch same
      own := ?_
      shared := ?_ }
    · obtain ⟨rfl, rfl⟩ := Prod.mk.inj (Option.some.inj same)
      exact found
    · show threads.manager.visited examination = (manager.visited examination).relog _
      rw [state]
      rfl
    · show ownActions (threads.manager.log ++ examination.visit.actions) = _
      have before := matched.own
      rw [point, ConnmgrPhase.done, List.append_nil] at before
      rw [ownActions_append, before,
        ownActions_of_own fun action member => (actions action member).1]
      rfl
    · have silent := sharedActions_of_none fun action member => (actions action member).2
      have before := matched.shared
      rw [point] at before
      show sharedActions (threads.manager.log ++ examination.visit.actions) ++ _ =
        _ ++ (sharedActions examination.visit.actions ++ _)
      rw [sharedActions_append, silent, List.append_nil]
      exact before
  | lock examination input point free =>
    have begun : threads.connmgr.begun = some (examination, input) := by rw [point]; rfl
    refine .stutter {
      guarded
      begun := fun other otherInput same => matched.begun other otherInput (begun.trans same)
      state := ?_
      tested := fun _ _ _ same => nomatch same
      own := ?_
      shared := ?_ }
    · show threads.manager.record [.mutexLock .connmgr] = (manager.visited examination).relog _
      rw [matched.state_begun begun]
      rfl
    · show ownActions (threads.manager.log ++ [.mutexLock .connmgr]) = _
      rw [ownActions_append, matched.own, point, List.append_assoc]
      rfl
    · obtain ⟨behind, ahead⟩ := Threads.datamgr_idle config.layout
        (matched.guarded.not_inSection_of_free free .datamgr)
      have before := matched.shared
      rw [behind, ahead, point, List.append_nil, List.append_nil] at before
      show sharedActions (threads.manager.log ++ [.mutexLock .connmgr]) ++ threads.datamgr.behind =
        sharedActions manager.log ++ (sharedActions (examination.visit.actions ++
          [.mutexLock .connmgr]) ++ threads.datamgr.ahead)
      rw [behind, ahead, sharedActions_append, sharedActions_append, before, List.append_nil,
        List.append_nil, List.append_assoc]
      rfl
  | test examination input point =>
    have begun : threads.connmgr.begun = some (examination, input) := by rw [point]; rfl
    refine .stutter {
      guarded
      begun := fun other otherInput same => matched.begun other otherInput (begun.trans same)
      state := matched.state_begun begun
      tested := fun other otherInput closes same => ?_
      own := ?_
      shared := ?_ }
    · obtain ⟨rfl, rfl, rfl⟩ := ConnmgrPhase.tested.inj same
      rw [matched.slot]
    · have before := matched.own
      rw [point] at before
      exact before
    · have before := matched.shared
      rw [point] at before
      exact before
  | finish examination input closes after point finished =>
    have begun : threads.connmgr.begun = some (examination, input) := by rw [point]; rfl
    have inside : threads.InSection .connmgr := Or.inr ⟨examination, input, closes, point⟩
    obtain ⟨behind, ahead⟩ := Threads.datamgr_idle config.layout
      fun other => matched.guarded.exclusive ⟨inside, other⟩
    obtain ⟨emitted, emits, own⟩ := finish_emits finished
    -- The iteration happens here: with the log of the other machine, the rest is the same.
    have ran : manager.scan input =
        some (after.relog ((manager.examined examination).log ++ emitted)) := by
      have again := emits.again (manager.examined examination).log
      have same : threads.manager.relog (manager.examined examination).log =
          manager.examined examination := by
        rw [matched.state_begun begun]
        rfl
      rw [same, matched.tested examination input closes point] at again
      rw [Connmgr.scan, matched.begun examination input begun]
      exact (conclude_eq_finish (manager.examined examination) examination input).trans again
    have doneLog : (manager.examined examination).log =
        manager.log ++ threads.connmgr.done := by
      rw [point]
      exact List.append_assoc _ _ _
    have doneOwn : ownActions threads.connmgr.done = threads.connmgr.done := by
      rw [point]
      refine ownActions_of_own (List.forall_mem_append.mpr
        ⟨fun action member => (matched.visit_local begun action member).1,
          List.forall_mem_singleton.mpr rfl⟩)
    refine Runs.Simulated.single
      (show manager.step (.scan input) = some _ from ran) {
        guarded
        begun := fun other otherInput same => nomatch same
        state := rfl
        tested := fun other otherInput otherCloses same => nomatch same
        own := ?_
        shared := ?_ }
    · show ownActions after.log =
        ownActions ((manager.examined examination).log ++ emitted) ++ []
      rw [emits.log, doneLog, List.append_nil]
      simp only [ownActions_append, matched.own, doneOwn]
    · have before := matched.shared
      rw [behind, ahead, List.append_nil, List.append_nil] at before
      show sharedActions after.log ++ threads.datamgr.behind =
        sharedActions ((manager.examined examination).log ++ emitted) ++
          (sharedActions [] ++ threads.datamgr.ahead)
      rw [behind, ahead, emits.log, doneLog, List.append_nil]
      simp only [sharedActions_append, before]
      exact (List.append_nil _).symm
  | endScan messageTime after point ended =>
    obtain ⟨emitted, emits, quiet⟩ := endScan_emits ended
    obtain ⟨last, ran, matches_⟩ := matched.own_step point emits quiet guarded
    exact Runs.Simulated.single (show manager.step (.endScan messageTime) = some last from ran)
      matches_
  | request id point =>
    refine .stutter {
      guarded
      begun := matched.begun
      state := matched.state
      tested := matched.tested
      own := matched.own
      shared := ?_ }
    have before := matched.shared
    rw [point] at before
    exact before
  | acquire id point free =>
    refine .stutter {
      guarded
      begun := matched.begun
      state := ?_
      tested := matched.tested
      own := ?_
      shared := ?_ }
    · show threads.manager.record [.mutexLock .datamgr] = (threads.connmgr.view manager).relog _
      rw [matched.state]
      rfl
    · show ownActions (threads.manager.log ++ [.mutexLock .datamgr]) = _
      rw [ownActions_append, matched.own]
      exact List.append_nil _
    · have before := matched.shared
      rw [point] at before
      show sharedActions (threads.manager.log ++ [.mutexLock .datamgr]) ++ [] =
        sharedActions manager.log ++ (sharedActions threads.connmgr.done ++ [.mutexLock .datamgr])
      have plain : sharedActions threads.manager.log =
          sharedActions manager.log ++ sharedActions threads.connmgr.done := by
        simpa only [DatamgrPhase.behind, DatamgrPhase.ahead, List.append_nil] using before
      rw [sharedActions_append, plain, List.append_nil, List.append_assoc]
      rfl
  | write id point =>
    have inside : threads.InSection .datamgr := Or.inl ⟨id, point⟩
    have outside : ¬ threads.InSection .connmgr := fun other =>
      matched.guarded.exclusive ⟨other, inside⟩
    have stored : manager.step (.store id) = some (manager.store id) := rfl
    refine Runs.Simulated.single stored {
      guarded
      begun := matched.begun
      state := ?_
      tested := fun examination input closes same =>
        absurd (Or.inr ⟨examination, input, closes, same⟩) outside
      own := ?_
      shared := ?_ }
    · show ({ threads.manager.record [.writeStopsig .datamgr id] with
        connmgrSensorStopsig := id } : Connmgr config) =
          (threads.connmgr.view (manager.store id)).relog _
      rw [matched.state]
      unfold ConnmgrPhase.view
      cases threads.connmgr.begun <;> rfl
    · show ownActions (threads.manager.log ++ [.writeStopsig .datamgr id]) =
        ownActions (manager.log ++ _) ++ threads.connmgr.done
      rw [ownActions_append, ownActions_append, matched.own]
      simp [ownActions, Action.Own]
    · have before := matched.shared
      rw [point, matched.done_silent outside] at before
      show sharedActions (threads.manager.log ++ [.writeStopsig .datamgr id]) ++
        [.mutexUnlock .datamgr] = sharedActions (manager.log ++ _) ++
          (sharedActions threads.connmgr.done ++ [])
      rw [matched.done_silent outside, sharedActions_append, sharedActions_append]
      have locked : sharedActions threads.manager.log =
          sharedActions manager.log ++ [.mutexLock .datamgr] := by
        simpa only [DatamgrPhase.behind, DatamgrPhase.ahead, List.append_nil,
          List.nil_append] using before
      rw [locked]
      simp only [List.append_assoc, List.append_nil]
      rfl
  | release point =>
    refine .stutter {
      guarded
      begun := matched.begun
      state := ?_
      tested := matched.tested
      own := ?_
      shared := ?_ }
    · show threads.manager.record [.mutexUnlock .datamgr] = (threads.connmgr.view manager).relog _
      rw [matched.state]
      rfl
    · show ownActions (threads.manager.log ++ [.mutexUnlock .datamgr]) = _
      rw [ownActions_append, matched.own]
      exact List.append_nil _
    · have before := matched.shared
      rw [point] at before
      show sharedActions (threads.manager.log ++ [.mutexUnlock .datamgr]) ++ [] = _
      rw [sharedActions_append, List.append_nil]
      exact before

/-! ### Progress -/

/-- The threads can come to take a step. -/
def Threads.CanStill (threads : Threads config) (event : ThreadEvent) : Prop :=
  ∃ more last, Runs.complete Threads.step threads (more ++ [event]) = some last

/-- The connection manager holds the mutex and is going to abandon it. -/
def Threads.Abandoning (threads : Threads config) : Prop :=
  (∃ examination input, threads.connmgr = .holding examination input ∧
    KeepsMutex threads.manager examination
      (decide (examination.visit.Closes threads.manager.connmgrSensorStopsig input))) ∨
  ∃ examination input closes, threads.connmgr = .tested examination input closes ∧
    KeepsMutex threads.manager examination closes

theorem Threads.canStill_of_step {taken : Threads config} {first event : ThreadEvent}
    (stepped : threads.step first = some taken) (later : taken.CanStill event) :
    threads.CanStill event := by
  obtain ⟨more, last, ran⟩ := later
  refine ⟨first :: more, last, ?_⟩
  rw [List.cons_append, Runs.complete, stepped, Option.bind_some, ran]

theorem Threads.canStill_now (stepped : threads.step event = some next) :
    threads.CanStill event := by
  refine ⟨[], next, ?_⟩
  rw [List.nil_append, Runs.complete, stepped]
  rfl

/-- A state that is kept by every step and refuses an event never comes to it. -/
theorem Threads.not_canStill (Invariant : Threads config → Prop) (holds : Invariant threads)
    (kept : ∀ before event after, Invariant before → before.step event = some after →
      Invariant after)
    (refused : ∀ before, Invariant before → before.step event = none) :
    ¬ threads.CanStill event := by
  rintro ⟨more, last, ran⟩
  rw [Runs.complete_append] at ran
  obtain ⟨middle, ranMore, ranLast⟩ := Option.bind_eq_some_iff.mp ran
  have reached : Invariant middle := Runs.invariant_of_complete Invariant (fun _ => True) holds
    (fun before event after held taken _ => kept before event after held taken)
    (fun _ _ => trivial) ranMore
  obtain ⟨after, taken, -⟩ := Option.bind_eq_some_iff.mp ranLast
  exact nomatch taken.symm.trans (refused middle reached)

/-- While the mutex is held, it is not taken. -/
theorem Threads.step_of_held (held : mutexHolder threads.manager.log ≠ none) :
    threads.step .lock = none ∧ threads.step .acquire = none := by
  constructor
  · cases taken : threads.step .lock with
    | none => rfl
    | some next =>
      cases stepped_of_step taken with
      | lock examination input point free => exact absurd free held
  · cases taken : threads.step .acquire with
    | none => rfl
    | some next =>
      cases stepped_of_step taken with
      | acquire id point free => exact absurd free held

theorem Threads.Abandoning.inSection (abandoning : threads.Abandoning) :
    threads.InSection .connmgr := by
  rcases abandoning with ⟨examination, input, point, -⟩ | ⟨examination, input, closes, point, -⟩
  · exact Or.inl ⟨examination, input, point⟩
  · exact Or.inr ⟨examination, input, closes, point⟩

/-- A connection manager that is going to abandon the mutex does, whatever happens. -/
theorem Threads.Abandoning.step (abandoning : threads.Abandoning) (guarded : threads.Guarded)
    (taken : threads.step event = some next) : next.Abandoning ∨ next.Abandoned := by
  have inside := abandoning.inSection
  have holder := guarded .connmgr inside
  have notDatamgr : ¬ threads.InSection .datamgr := fun other => guarded.exclusive ⟨inside, other⟩
  cases stepped_of_step taken with
  | poll outcome input manager point polled =>
    exact absurd inside (Threads.outside_not_inSection point)
  | visit input examination point answered =>
    exact absurd inside (Threads.outside_not_inSection point)
  | lock examination input point free => exact nomatch free.symm.trans holder
  | test examination input point =>
    rcases abandoning with ⟨other, otherInput, otherPoint, keeps⟩ |
      ⟨other, otherInput, closes, otherPoint, -⟩
    · obtain ⟨rfl, rfl⟩ := ConnmgrPhase.holding.inj (point.symm.trans otherPoint)
      exact Or.inl (Or.inr ⟨_, _, _, rfl, keeps⟩)
    · exact nomatch point.symm.trans otherPoint
  | finish examination input closes manager point finished =>
    rcases abandoning with ⟨other, otherInput, otherPoint, -⟩ |
      ⟨other, otherInput, otherCloses, otherPoint, keeps⟩
    · exact nomatch point.symm.trans otherPoint
    · obtain ⟨rfl, rfl, rfl⟩ := ConnmgrPhase.tested.inj (point.symm.trans otherPoint)
      rcases mutexHolder_finish finished with ⟨-, same, -⟩ | ⟨releases, -⟩
      · exact Or.inr ⟨same.trans holder, Threads.outside_not_inSection rfl⟩
      · exact absurd keeps releases
  | endScan messageTime manager point ended =>
    exact absurd inside (Threads.outside_not_inSection point)
  | request id point => exact Or.inl abandoning
  | acquire id point free => exact nomatch free.symm.trans holder
  | write id point => exact absurd (Or.inl ⟨id, point⟩) notDatamgr
  | release point => exact absurd (Or.inr point) notDatamgr

/-- Once the mutex is abandoned or about to be, the data manager does not get it. -/
theorem Threads.Guarded.never_acquire (guarded : threads.Guarded)
    (doomed : threads.Abandoned ∨ threads.Abandoning) : ¬ threads.CanStill .acquire := by
  refine Threads.not_canStill
    (fun state => state.Guarded ∧ (state.Abandoned ∨ state.Abandoning)) ⟨guarded, doomed⟩
    (fun before event after ⟨guarded, doomed⟩ taken => ⟨guarded.step taken, ?_⟩)
    fun before ⟨guarded, doomed⟩ => (Threads.step_of_held ?_).2
  · rcases doomed with abandoned | abandoning
    · exact Or.inl (abandoned.step guarded taken).1
    · exact (abandoning.step guarded taken).symm
  · intro free
    rcases doomed with abandoned | abandoning
    · exact nomatch free.symm.trans abandoned.1
    · exact nomatch free.symm.trans (guarded .connmgr abandoning.inSection)

/-- Once the mutex is abandoned, the connection manager does not get it. -/
theorem Threads.Guarded.never_lock (guarded : threads.Guarded) (abandoned : threads.Abandoned) :
    ¬ threads.CanStill .lock := by
  refine Threads.not_canStill (fun state => state.Guarded ∧ state.Abandoned)
    ⟨guarded, abandoned⟩
    (fun before event after ⟨guarded, abandoned⟩ taken =>
      ⟨guarded.step taken, (abandoned.step guarded taken).1⟩)
    fun before ⟨guarded, abandoned⟩ => (Threads.step_of_held ?_).1
  intro free
  exact nomatch free.symm.trans abandoned.1

/-- The data manager holds the mutex in its critical section only. -/
def Threads.Returned (threads : Threads config) : Prop :=
  mutexHolder threads.manager.log = some .datamgr → threads.InSection .datamgr

theorem Threads.Returned.step (returned : threads.Returned) (guarded : threads.Guarded)
    (taken : threads.step event = some next) : next.Returned := by
  cases stepped_of_step taken with
  | poll outcome input manager point polled =>
    exact fun holder => returned ((mutexHolder_poll polled).1.symm.trans holder)
  | visit input examination point answered =>
    exact fun holder => returned ((mutexHolder_visited _ answered).symm.trans holder)
  | lock examination input point free =>
    exact fun holder => nomatch (mutexHolder_lock _ _).symm.trans holder
  | test examination input point => exact returned
  | finish examination input closes manager point finished =>
    intro holder
    have before := guarded .connmgr (Or.inr ⟨examination, input, closes, point⟩)
    rcases mutexHolder_finish finished with ⟨-, same, -⟩ | ⟨-, released⟩
    · exact nomatch (same.trans before).symm.trans holder
    · exact nomatch released.symm.trans holder
  | endScan messageTime manager point ended =>
    exact fun holder => returned ((mutexHolder_endScan ended).1.symm.trans holder)
  | request id point =>
    intro holder
    rcases returned holder with ⟨other, inside⟩ | inside
    · exact nomatch point.symm.trans inside
    · exact nomatch point.symm.trans inside
  | acquire id point free => exact fun _ => Or.inl ⟨id, rfl⟩
  | write id point => exact fun _ => Or.inr rfl
  | release point => exact fun holder => nomatch (mutexHolder_unlock _ _).symm.trans holder

theorem Threads.lock_of_free {examination : Examination config} {input : ScanInput}
    (point : threads.connmgr = .waiting examination input)
    (free : mutexHolder threads.manager.log = none) : threads.CanStill .lock := by
  have stepped : threads.step .lock = some { threads with
      manager := threads.manager.record [.mutexLock .connmgr]
      connmgr := .holding examination input } := by
    simp only [Threads.step, point, free, if_true]
  exact Threads.canStill_now stepped

theorem Threads.acquire_of_free {id : BitVec 16} (point : threads.datamgr = .waiting id)
    (free : mutexHolder threads.manager.log = none) : threads.CanStill .acquire := by
  have stepped : threads.step .acquire = some { threads with
      manager := threads.manager.record [.mutexLock .datamgr]
      datamgr := .holding id } := by
    simp only [Threads.step, point, free, if_true]
  exact Threads.canStill_now stepped

/-- A connection manager that waits gets the mutex when the data manager, if it holds it, has made
its request. -/
theorem Threads.Returned.still_lock (returned : threads.Returned)
    {examination : Examination config} {input : ScanInput}
    (point : threads.connmgr = .waiting examination input) (alive : ¬ threads.Abandoned) :
    threads.CanStill .lock := by
  have afterRelease (state : Threads config)
      (waits : state.connmgr = .waiting examination input) (written : state.datamgr = .written) :
      state.CanStill .lock := by
    have stepped : state.step .release = some { state with
        manager := state.manager.record [.mutexUnlock .datamgr]
        datamgr := .outside } := by
      simp only [Threads.step, written]
    exact Threads.canStill_of_step stepped
      (Threads.lock_of_free waits (mutexHolder_unlock state.manager.log .datamgr))
  cases holder : mutexHolder threads.manager.log with
  | none => exact Threads.lock_of_free point holder
  | some thread =>
    cases thread with
    | connmgr => exact absurd ⟨holder, Threads.waiting_not_inSection point⟩ alive
    | datamgr =>
      rcases returned holder with ⟨id, holding⟩ | written
      · have stepped : threads.step .write = some { threads with
            manager := { threads.manager.record [.writeStopsig .datamgr id] with
              connmgrSensorStopsig := id }
            datamgr := .written } := by
          simp only [Threads.step, holding]
        exact Threads.canStill_of_step stepped (afterRelease _ point rfl)
      · exact afterRelease threads point written

/-- The rest of an iteration can always be done. -/
theorem Threads.Matches.exists_finish (matched : threads.Matches manager) (sized : manager.Sized)
    {examination : Examination config} {input : ScanInput}
    (begun : threads.connmgr.begun = some (examination, input)) (closes : Bool) :
    ∃ after, threads.manager.finish examination input closes = some after := by
  have examined := examined_of_examine (matched.begun examination input begun)
  cases closes with
  | false => exact ⟨_, rfl⟩
  | true =>
    obtain ⟨samePollFd, sameCounter⟩ := endConnection_pollFd threads.manager examination.node
      examination.visit.client input
    have length : threads.manager.pollFd.length = manager.counter + 1 := by
      rw [matched.state_begun begun]
      exact List.length_set.trans sized.length
    have counter : threads.manager.counter = manager.counter := by
      rw [matched.state_begun begun]
      rfl
    obtain ⟨compacted, ran, -⟩ := compactLoop_eraseIdx length examined.bound
    rw [Connmgr.finish, if_pos rfl]
    dsimp only
    rw [samePollFd, sameCounter, counter, ran]
    exact ⟨_, rfl⟩

/-- A data manager that waits gets the mutex when the connection manager, if it holds it, releases
it. -/
theorem Threads.Matches.still_acquire (matched : threads.Matches manager) (sized : manager.Sized)
    (returned : threads.Returned) {id : BitVec 16} (point : threads.datamgr = .waiting id)
    (alive : ¬ (threads.Abandoned ∨ threads.Abandoning)) : threads.CanStill .acquire := by
  obtain ⟨notAbandoned, notAbandoning⟩ := not_or.mp alive
  have afterFinish (state : Threads config) (sameManager : state.manager = threads.manager)
      (waits : state.datamgr = .waiting id) {examination : Examination config} {input : ScanInput}
      {closes : Bool} (begun : threads.connmgr.begun = some (examination, input))
      (tested : state.connmgr = .tested examination input closes)
      (releases : ¬ KeepsMutex threads.manager examination closes) : state.CanStill .acquire := by
    obtain ⟨after, finished⟩ := matched.exists_finish sized begun closes
    have stepped : state.step .finish =
        some { state with manager := after, connmgr := .outside } := by
      simp only [Threads.step, tested, sameManager, finished, Option.map_some]
    rcases mutexHolder_finish finished with ⟨keeps, -⟩ | ⟨-, free⟩
    · exact absurd keeps releases
    · exact Threads.canStill_of_step stepped (Threads.acquire_of_free waits free)
  cases holder : mutexHolder threads.manager.log with
  | none => exact Threads.acquire_of_free point holder
  | some thread =>
    cases thread with
    | datamgr => exact absurd (returned holder) (Threads.request_not_inSection point)
    | connmgr =>
      have inside : threads.InSection .connmgr :=
        not_not.mp fun outside => notAbandoned ⟨holder, outside⟩
      rcases inside with ⟨examination, input, holding⟩ | ⟨examination, input, closes, tested⟩
      · have stepped : threads.step .test = some { threads with
            connmgr := .tested examination input
              (decide (examination.visit.Closes threads.manager.connmgrSensorStopsig input)) } := by
          simp only [Threads.step, holding]
        refine Threads.canStill_of_step stepped (afterFinish _ rfl point ?_ rfl fun keeps => ?_)
        · rw [holding]
          rfl
        · exact notAbandoning (Or.inl ⟨examination, input, holding, keeps⟩)
      · refine afterFinish threads rfl point (by rw [tested]; rfl) tested fun keeps => ?_
        exact notAbandoning (Or.inr ⟨examination, input, closes, tested, keeps⟩)

end Matches

/-! ### The results -/

section Results

variable (listener : Int) (revents : BitVec 16) (pollRet tcpConnRet : Int)
  (uninitialised : SensorData config.layout)

/-- Every interleaving of the threads is a run of the machine whose iterations and requests are
single steps; when both threads are outside, the variables are the same, and so is what the
connection manager has done, and in which order the mutex and the slot were used. -/
theorem threads_refine_atomic (events : List ThreadEvent) :
    let start := Connmgr.start listener revents pollRet tcpConnRet uninitialised
    let threads := Runs.final Threads.step (Threads.start start) events
    ∃ atomic manager, Runs.complete Connmgr.step start atomic = some manager ∧
      threads.Matches manager ∧
      (threads.connmgr = .outside → threads.datamgr = .outside →
        threads.manager = manager.relog threads.manager.log ∧
        ownActions threads.manager.log = ownActions manager.log ∧
        sharedActions threads.manager.log = sharedActions manager.log) := by
  intro start threads
  obtain ⟨atomic, manager, ran, matched⟩ := Runs.simulated_final
    (fun _ _ _ _ matched taken => matched.step taken)
    (matches_start listener revents pollRet tcpConnRet uninitialised) events
  refine ⟨atomic, manager, ran, matched, fun outside idle =>
    ⟨matched.state_outside outside, ?_, ?_⟩⟩
  · have own := matched.own
    rw [outside] at own
    exact own.trans (List.append_nil _)
  · have shared := matched.shared
    rw [outside, idle] at shared
    simpa only [DatamgrPhase.behind, DatamgrPhase.ahead, ConnmgrPhase.done, sharedActions,
      List.filter_nil, List.append_nil] using shared

/-- A thread that waits for the mutex can still get it, unless the connection manager has abandoned
the mutex or, where the data manager waits, is in an iteration that will. -/
theorem waiting_gets_mutex_iff (events : List ThreadEvent) :
    let threads := Runs.final Threads.step
      (Threads.start (Connmgr.start listener revents pollRet tcpConnRet uninitialised)) events
    (∀ examination input, threads.connmgr = .waiting examination input →
      (threads.CanStill .lock ↔ ¬ threads.Abandoned)) ∧
    ∀ id, threads.datamgr = .waiting id →
      (threads.CanStill .acquire ↔ ¬ (threads.Abandoned ∨ threads.Abandoning)) := by
  intro threads
  obtain ⟨atomic, manager, ran, matched⟩ := Runs.simulated_final
    (fun _ _ _ _ matched taken => matched.step taken)
    (matches_start listener revents pollRet tcpConnRet uninitialised) events
  have sized : manager.Sized := Runs.invariant_of_complete Connmgr.Sized (fun _ => True)
    (start_sized listener revents pollRet tcpConnRet uninitialised)
    (fun _ _ _ before taken _ => before.step taken) (fun _ _ => trivial) ran
  have start : (Threads.start (Connmgr.start listener revents pollRet tcpConnRet
      uninitialised)).Returned := by
    intro holder
    exact nomatch holder
  have returned : threads.Returned := (Runs.invariant_final
    (fun state : Threads config => state.Guarded ∧ state.Returned)
    ⟨Threads.start_guarded listener revents pollRet tcpConnRet uninitialised, start⟩
    (fun _ _ _ before taken => ⟨before.1.step taken, before.2.step before.1 taken⟩)).2
  refine ⟨fun examination input point => ⟨fun still abandoned => ?_, fun alive => ?_⟩,
    fun id point => ⟨fun still doomed => ?_, fun alive => ?_⟩⟩
  · exact matched.guarded.never_lock abandoned still
  · exact returned.still_lock point alive
  · exact matched.guarded.never_acquire doomed still
  · exact matched.still_acquire sized returned point alive

end Results

/-- The connection manager waits while the data manager holds the mutex, and can still get it. The
data manager waits during the iteration of the first reading, and can still get the mutex; it
cannot when it waits during the iteration that finds the connection closed. -/
theorem waiting_gets_mutex_oneClient :
    (Runs.final Threads.step (Threads.start gatewayStart)
      [.poll (.returns [pollin]) (accepted 4 0 0), .endScan 0,
        .poll (.returns [0, pollin]) (accepted 5 0 0), .request 7, .acquire,
        .visit (scanAt 1 [1, 0] [0, 0, 0, 0, 0, 0, 0, 0] [0, 0, 0, 0, 0, 0, 0, 0])]).CanStill
      .lock ∧
    (Runs.final Threads.step (Threads.start gatewayStart)
      (readingThenClosed.take 5 ++ [.request 9])).CanStill .acquire ∧
    ¬ (Runs.final Threads.step (Threads.start gatewayStart)
      (readingThenClosed.take 11 ++ [.request 9])).CanStill .acquire := by
  refine ⟨?_, ?_, fun still => ?_⟩
  · refine ((waiting_gets_mutex_iff 3 0 0 (-1) zeroData _).1 _ _ rfl).mpr fun abandoned => ?_
    exact absurd abandoned.1 (by decide)
  · refine ((waiting_gets_mutex_iff 3 0 0 (-1) zeroData _).2 9 rfl).mpr ?_
    rintro (⟨-, outside⟩ | ⟨examination, input, point, keeps⟩ | ⟨_, _, _, point, -⟩)
    · exact outside (Or.inl ⟨_, _, rfl⟩)
    · obtain ⟨rfl, rfl⟩ := ConnmgrPhase.holding.inj point
      exact absurd keeps.1 (by decide)
    · exact nomatch point
  · refine ((waiting_gets_mutex_iff 3 0 0 (-1) zeroData _).2 9 rfl).mp still ?_
    exact Or.inr (Or.inl ⟨_, _, rfl, rfl, _, rfl, by decide⟩)

end SensorGateway
