/-
This file models the thread of the connection manager around its poll loop: the part of
`connmgr_listen` before the loop, and `connmgr_free`.

The thread returns a status in `*retval`. Two of its errors are never reported: a poll
that fails ends the loop before the test that reports it, and `tcp_close` reports no
failure of a socket. A failed accept is reported when its result happens to be the value
of `tcp_conn_ret`.

`connmgr_free` frees `sock_list`, and `dpl_free` follows NULL as soon as there is a node.
So the thread ends only if every client has been closed, and none has been dropped because
its sensor was what the stop slot held. Freeing `poll_fd` does nothing here.

`retval` stands for the variable that the caller's pointer refers to: it is taken to be
valid, although `main` passes a NULL pointer for THREAD_SUCCESS.
-/

import SensorGateway.ConnmgrAccepts
import SensorGateway.ConnmgrService
import SensorGateway.ConnmgrSockList
import SensorGateway.DplistIndexed

namespace SensorGateway

variable {config : Config}

/-! ### What is reported -/

/-- An accept whose result is what `tcp_conn_ret` holds. -/
def Refuses (tcpConnRet : Int) (transition : Runs.Transition (Connmgr config) ConnmgrEvent) :
    Prop :=
  ∃ revents input, transition.event = .poll (.ready revents) input ∧
    transition.before.Accepts revents ∧ tcpConnRet = input.status.code

/-- The poll loop between two steps: `poll_ret` counts events during the scan, the loop ends after
a failed poll or without a client, and `tcp_conn_ret` is what it was. -/
structure Connmgr.Orderly (tcpConnRet : Int) (manager : Connmgr config) : Prop where
  sized : manager.Sized
  counted : ∀ i, manager.position = .scanning i → 0 ≤ manager.pollRet
  finished : manager.position = .returned →
    manager.pollRet = -1 ∨ manager.pollRet = 0 ∧ manager.counter = 0
  unchanged : manager.tcpConnRet = tcpConnRet

theorem start_orderly (listener : Int) (revents : BitVec 16) (pollRet tcpConnRet : Int)
    (uninitialised : SensorData config.layout) :
    (Connmgr.start listener revents pollRet tcpConnRet uninitialised).Orderly tcpConnRet where
  sized := start_sized listener revents pollRet tcpConnRet uninitialised
  counted _ point := Position.noConfusion point
  finished point := Position.noConfusion point
  unchanged := rfl

section Orderly

variable {tcpConnRet : Int} {manager after : Connmgr config}

theorem pollCount_nonneg (entries : List PollFd) : 0 ≤ pollCount entries :=
  Int.natCast_nonneg _

/-- A poll reports an error exactly when its accept has the result that `tcp_conn_ret` holds. -/
theorem Connmgr.Orderly.poll (orderly : manager.Orderly tcpConnRet) {outcome : Poll}
    {input : AcceptInput} (taken : manager.poll outcome input = some after) :
    after.Orderly tcpConnRet ∧
      (Refuses tcpConnRet ⟨manager, .poll outcome input, after⟩ →
        after.retval = .acceptConnectionError) ∧
      (¬ Refuses tcpConnRet ⟨manager, .poll outcome input, after⟩ →
        after.retval = manager.retval) := by
  have stepped : manager.step (.poll outcome input) = some after := taken
  have sized := orderly.sized.step stepped
  have unchanged := (step_tcpConnRet orderly.sized stepped).trans orderly.unchanged
  obtain ⟨point, polled⟩ := poll_polled taken
  have reported {accepting : Nat → BitVec 16} (same : outcome = .ready accepting)
      (ready : manager.Accepts accepting) :
      Refuses tcpConnRet ⟨manager, .poll outcome input, after⟩ ↔
        manager.tcpConnRet = input.status.code := by
    rw [orderly.unchanged]
    constructor
    · rintro ⟨revents, other, event, -, found⟩
      rwa [(ConnmgrEvent.poll.inj event).2]
    · exact fun found => ⟨accepting, input, by rw [same], ready, found⟩
  have unready {accepting : Nat → BitVec 16} (same : outcome = .ready accepting)
      (notReady : ¬ manager.Accepts accepting) :
      ¬ Refuses tcpConnRet ⟨manager, .poll outcome input, after⟩ := by
    rintro ⟨revents, other, event, ready, -⟩
    have sameRevents := Poll.ready.inj (same.symm.trans (ConnmgrEvent.poll.inj event).1)
    exact notReady (sameRevents ▸ ready)
  cases polled with
  | failed result =>
    refine ⟨⟨sized, fun i now => Position.noConfusion now, fun _ => Or.inl rfl, unchanged⟩,
      ?_, fun _ => rfl⟩
    rintro ⟨revents, other, event, -⟩
    exact Poll.noConfusion (result.symm.trans (ConnmgrEvent.poll.inj event).1)
  | finished revents result nothing unconnected =>
    refine ⟨⟨sized, fun i now => Position.noConfusion now, fun _ =>
      Or.inr ⟨nothing, unconnected⟩, unchanged⟩, fun refuses => ?_, fun _ => rfl⟩
    exact absurd refuses (unready result fun ready =>
      pollCount_ne_zero orderly.sized ready nothing)
  | skipped revents result notReady =>
    exact ⟨⟨sized, fun i _ => pollCount_nonneg _, fun now => Position.noConfusion now, unchanged⟩,
      fun refuses => absurd refuses (unready result notReady), fun _ => rfl⟩
  | refused revents result ready =>
    have counted := pollCount_nonneg (polledEntries manager.pollFd revents)
    have some_ := pollCount_ne_zero orderly.sized ready
    refine ⟨⟨sized, fun i _ => ?_, fun now => Position.noConfusion now, unchanged⟩,
      fun _ => rfl, fun accepted => ?_⟩
    · show 0 ≤ pollCount (polledEntries manager.pollFd revents) - 1
      change pollCount (polledEntries manager.pollFd revents) ≠ 0 at some_
      omega
    · rw [reported result ready] at accepted
      rw [result] at taken
      have raised := (counter_of_other orderly.sized point ready accepted taken).2
      exact absurd raised (Nat.ne_of_lt (Nat.lt_succ_self _))
  | registered revents result ready sockList inserted =>
    have counted := pollCount_nonneg (polledEntries manager.pollFd revents)
    have some_ := pollCount_ne_zero orderly.sized ready
    refine ⟨⟨sized, fun i _ => ?_, fun now => Position.noConfusion now, unchanged⟩,
      fun refuses => ?_, fun _ => rfl⟩
    · show 0 ≤ pollCount (polledEntries manager.pollFd revents) - 1
      change pollCount (polledEntries manager.pollFd revents) ≠ 0 at some_
      omega
    · obtain ⟨other, again, reports⟩ := poll_reportsError orderly.sized point ready
        ((reported result ready).mp refuses)
      rw [result] at taken
      obtain rfl := Option.some.inj (again.symm.trans taken)
      exact absurd reports.counter (Nat.ne_of_gt (Nat.lt_succ_self _))

/-- The end of a body reports nothing. -/
theorem Connmgr.Orderly.endScan (orderly : manager.Orderly tcpConnRet) {messageTime : Int}
    (taken : manager.endScan messageTime = some after) :
    after = { manager with position := .polling } := by
  unfold Connmgr.endScan at taken
  split at taken
  · rename_i i point
    have counted := orderly.counted i point
    split_ifs at taken with guard failed
    · omega
    · exact (Option.some.inj taken).symm
  · cases taken
  · cases taken

/-- Every step keeps the order, and only an accept changes what is reported. -/
theorem Connmgr.Orderly.step (orderly : manager.Orderly tcpConnRet) {event : ConnmgrEvent}
    (taken : manager.step event = some after) :
    after.Orderly tcpConnRet ∧
      (Refuses tcpConnRet ⟨manager, event, after⟩ → after.retval = .acceptConnectionError) ∧
      (¬ Refuses tcpConnRet ⟨manager, event, after⟩ → after.retval = manager.retval) := by
  have sized := orderly.sized.step taken
  have unchanged := (step_tcpConnRet orderly.sized taken).trans orderly.unchanged
  have other (notPoll : ∀ outcome input, event ≠ .poll outcome input) :
      ¬ Refuses tcpConnRet ⟨manager, event, after⟩ := by
    rintro ⟨revents, input, same, -⟩
    exact notPoll _ _ same
  cases event with
  | poll outcome input => exact orderly.poll taken
  | scan input =>
    have kept : (after.retval = manager.retval ∧ after.pollRet = manager.pollRet) ∧
        (∃ i, after.position = .scanning i) ∧ ∃ i, manager.position = .scanning i := by
      obtain ⟨examination, answered, examined, scanned⟩ := scan_scanned orderly.sized taken
      refine ⟨?_, ?_, ⟨_, examined.position⟩⟩
      · cases scanned <;> exact ⟨rfl, rfl⟩
      · cases scanned <;> exact ⟨_, rfl⟩
    obtain ⟨⟨retval, pollRet⟩, ⟨i, position⟩, ⟨j, before⟩⟩ := kept
    refine ⟨⟨sized, fun _ _ => pollRet ▸ orderly.counted j before, fun now => ?_, unchanged⟩,
      fun refuses => absurd refuses (other fun _ _ same => ConnmgrEvent.noConfusion same),
      fun _ => retval⟩
    exact Position.noConfusion (position.symm.trans now)
  | endScan messageTime =>
    obtain rfl := orderly.endScan taken
    exact ⟨⟨sized, fun i now => Position.noConfusion now, fun now => Position.noConfusion now,
      unchanged⟩, fun refuses =>
        absurd refuses (other fun _ _ same => ConnmgrEvent.noConfusion same), fun _ => rfl⟩
  | store id =>
    obtain rfl := Option.some.inj taken
    exact ⟨⟨sized, orderly.counted, orderly.finished, unchanged⟩, fun refuses =>
      absurd refuses (other fun _ _ same => ConnmgrEvent.noConfusion same), fun _ => rfl⟩

end Orderly

/-- What has been reported after a run: the error of an accept exactly when the result of one was
the value of `tcp_conn_ret`, and otherwise what was there before. -/
theorem Connmgr.Orderly.run {tcpConnRet : Int} (start : Connmgr config)
    (events : List ConnmgrEvent) : start.Orderly tcpConnRet →
      (Runs.final Connmgr.step start events).Orderly tcpConnRet ∧
      ((∃ transition ∈ Runs.transitions Connmgr.step start events,
          Refuses tcpConnRet transition) →
        (Runs.final Connmgr.step start events).retval = .acceptConnectionError) ∧
      ((¬ ∃ transition ∈ Runs.transitions Connmgr.step start events,
          Refuses tcpConnRet transition) →
        (Runs.final Connmgr.step start events).retval = start.retval) := by
  refine Runs.run_induction (fun state orderly => ?_)
    (fun state event next rest last taken inductionHypothesis orderly => ?_) start events
  · exact ⟨orderly, fun ⟨_, member, _⟩ => absurd member List.not_mem_nil, fun _ => rfl⟩
  · obtain ⟨entered, refused, accepted⟩ := orderly.step taken
    obtain ⟨ends, reported, kept⟩ := inductionHypothesis entered
    refine ⟨ends, fun ⟨transition, member, refuses⟩ => ?_, fun never => ?_⟩
    · by_cases later : ∃ transition ∈ rest, Refuses tcpConnRet transition
      · exact reported later
      · rw [kept later]
        rcases List.mem_cons.mp member with rfl | inRest
        · exact refused refuses
        · exact absurd ⟨transition, inRest, refuses⟩ later
    · rw [kept fun ⟨transition, member, refuses⟩ =>
        never ⟨transition, List.mem_cons_of_mem _ member, refuses⟩]
      exact accepted fun refuses => never ⟨_, List.mem_cons_self, refuses⟩

/-- In every run on top of the socket library, too, only the error of an accept is reported. -/
theorem Service.reports (kernel : Kernel) (start : Service config) (tcpConnRet : Int)
    (orderly : start.manager.Orderly tcpConnRet) (reports : start.manager.retval = .threadSuccess)
    (events : List ServiceEvent) :
    (Runs.final (Service.step kernel) start events).manager.Orderly tcpConnRet ∧
      ((Runs.final (Service.step kernel) start events).manager.retval = .threadSuccess ∨
        (Runs.final (Service.step kernel) start events).manager.retval =
          .acceptConnectionError) := by
  refine Runs.invariant_final
    (fun service : Service config => service.manager.Orderly tcpConnRet ∧
      (service.manager.retval = .threadSuccess ∨
        service.manager.retval = .acceptConnectionError))
    ⟨orderly, Or.inl reports⟩ fun service event next before taken => ?_
  obtain ⟨manager, stepped, rfl⟩ := Option.map_eq_some_iff.mp taken
  obtain ⟨still, refused, accepted⟩ := before.1.step stepped
  refine ⟨still, ?_⟩
  by_cases refuses : Refuses tcpConnRet
      ⟨service.manager, event.plain kernel service.descriptors, manager⟩
  · exact Or.inr (refused refuses)
  · have same : manager.retval = service.manager.retval := accepted refuses
    dsimp only
    rw [same]
    exact before.2

/-- In every run the loop reports the error of an accept exactly when the result of one was the
value of `tcp_conn_ret`, and otherwise success; the loop has ended only if a poll has failed or no
client was left; and no end of a body ever reports a failed poll. -/
theorem connmgr_reports_iff (listener : Int) (revents : BitVec 16) (pollRet tcpConnRet : Int)
    (uninitialised : SensorData config.layout) (events : List ConnmgrEvent) :
    ∃ last, Runs.final Connmgr.step
        (Connmgr.start listener revents pollRet tcpConnRet uninitialised) events = last ∧
      (last.retval = .acceptConnectionError ↔ ∃ transition ∈ Runs.transitions Connmgr.step
          (Connmgr.start listener revents pollRet tcpConnRet uninitialised) events,
        Refuses tcpConnRet transition) ∧
      (last.retval ≠ .acceptConnectionError → last.retval = .threadSuccess) ∧
      (last.position = .returned →
        last.pollRet = -1 ∨ last.pollRet = 0 ∧ last.counter = 0) ∧
      ∀ transition ∈ Runs.transitions Connmgr.step
          (Connmgr.start listener revents pollRet tcpConnRet uninitialised) events,
        ∀ messageTime, transition.event = .endScan messageTime →
          transition.after = { transition.before with position := .polling } := by
  have initial := start_orderly listener revents pollRet tcpConnRet uninitialised
  obtain ⟨orderly, reported, kept⟩ := initial.run _ events
  refine ⟨_, rfl, ⟨fun failed => ?_, reported⟩, fun other => ?_, orderly.finished, ?_⟩
  · by_contra never
    exact ConnmgrStatus.noConfusion (failed.symm.trans (kept never))
  · exact kept fun refused => other (reported refused)
  · refine Runs.forall_transitions (Connmgr.Orderly tcpConnRet) initial
      fun before event after held taken => ⟨(held.step taken).1, fun messageTime same => ?_⟩
    obtain rfl : event = .endScan messageTime := same
    exact held.endScan taken

/-! ### The thread around the loop -/

/-- What `tcp_passive_open` returns. -/
def PassiveInput.status (input : PassiveInput) (port : Int) : TcpStatus :=
  if port < minPort ∨ port > maxPort then .addressError
  else if ¬ input.malloc then .memoryError
  else if ¬ input.socket then .sockopError
  else if ¬ input.bind then .sockopError
  else if ¬ input.listen then .sockopError
  else .noError

/-- The open descriptors after `tcp_passive_open`. -/
def PassiveInput.descriptors (input : PassiveInput) (kernel : Kernel) (port : Int)
    (descriptors : Finset Int) : Finset Int :=
  if minPort ≤ port ∧ port ≤ maxPort ∧ input.malloc ∧ input.socket then
    insert (kernel.allocate descriptors) descriptors
  else descriptors

/-- What the thread has before its poll loop: `sv`, the open descriptors, `*retval`, the message,
and whether `sock_list` has been created. -/
structure Opening (config : Config) where
  sv : Option Tcpsock
  descriptors : Finset Int
  retval : ConnmgrStatus
  log : List (Action config.layout)
  listed : Bool

/-- The part of `connmgr_listen` before the poll loop. The loop follows exactly when `sv` has been
set. -/
def connmgrOpen (kernel : Kernel) (descriptors : Finset Int) (port : Int)
    (input : PassiveInput) (messageTime : Int) : Opening config :=
  if port > maxPort ∨ port < minPort then {
    sv := none
    descriptors
    retval := .threadSuccess
    log := [message messageTime "Invalid port "]
    listed := false }
  else if input.status port ≠ .noError then {
    sv := none
    descriptors := input.descriptors kernel port descriptors
    retval := .openSocketError
    log := [message messageTime "open tcp socket failed "]
    listed := true }
  else {
    sv := some { cookie := magicCookie, sd := kernel.allocate descriptors }
    descriptors := input.descriptors kernel port descriptors
    retval := .threadSuccess
    log := [message messageTime "Start successfully "]
    listed := true }

/-- What `tcp_close` returns. -/
def closeStatus : Option Tcpsock → TcpStatus
  | none => .socketError
  | some _ => .noError

/-- What `connmgr_free` leaves behind. -/
structure Ending (config : Config) where
  retval : ConnmgrStatus
  log : List (Action config.layout)
  descriptors : Finset Int
  memory : DplistMemory ClientMemory Pointer

/-- NULL. -/
instance : Zero Pointer := ⟨none⟩

/-- The test `sv != NULL && tcp_close(&sv) != TCP_NO_ERROR`. -/
def FailsToStop (sv : Option Tcpsock) : Prop := sv ≠ none ∧ closeStatus sv ≠ .noError

instance (sv : Option Tcpsock) : Decidable (FailsToStop sv) := inferInstanceAs (Decidable (_ ∧ _))

/-- The end `if (sock_list != NULL) dpl_free(&sock_list, true)`. -/
def freeSockList (memory : DplistMemory ClientMemory Pointer) (sockList : Pointer) :
    Option (DplistMemory ClientMemory Pointer) :=
  if sockList = none then some memory
  else (Dplist.free ClientMemory.callbacks memory sockList true).map Prod.snd

/-- What `connmgr_free` sends after it has closed the listening socket. -/
def freeMessage (sv : Option Tcpsock) (messageTime : Int) : Action config.layout :=
  message messageTime (if FailsToStop sv then "Failed to stop" else "Stopped successfully")

/-- Close the listening socket and free the list. -/
def connmgrFree (sv : Option Tcpsock) (shutdown : Bool) (descriptors : Finset Int)
    (retval : ConnmgrStatus) (log : List (Action config.layout))
    (memory : DplistMemory ClientMemory Pointer) (sockList : Pointer) (messageTime : Int) :
    Option (Ending config) :=
  (freeSockList memory sockList).map fun memory => {
    retval := if FailsToStop sv then .closeSocketError else retval
    log := log ++ [freeMessage sv messageTime]
    descriptors := (sv.map (closeDescriptor shutdown descriptors)).getD descriptors
    memory }

/-! ### The calls, seen from the thread -/

theorem tcpPassiveOpen_status {kernel : Kernel} {host : Host} {port : Int} {input : PassiveInput}
    {outcome : SocketOutcome} (ran : tcpPassiveOpen kernel host port input = some outcome) :
    outcome.status = input.status port := by
  unfold tcpPassiveOpen at ran
  unfold PassiveInput.status
  by_cases range : port < minPort ∨ port > maxPort
  · rw [if_pos range] at ran ⊢
    rw [← Option.some.inj ran]
  · rw [if_neg range] at ran ⊢
    obtain ⟨malloc, socket, bind, listen⟩ := input
    cases malloc with
    | false => rw [← Option.some.inj ran]; rfl
    | true =>
      cases socket with
      | false => exact giveUp_status ran
      | true =>
        obtain ⟨obtained, -, rest⟩ := Option.bind_eq_some_iff.mp ran
        cases bind with
        | false => exact giveUp_status rest
        | true =>
          cases listen with
          | false => exact giveUp_status rest
          | true =>
            obtain ⟨assigned, -, built⟩ := Option.bind_eq_some_iff.mp rest
            rw [← Option.some.inj built]
            rfl

/-- The call in memory returns this status, leaves these descriptors, and a listening socket has the
new one. -/
theorem tcpPassiveOpen_service (kernel : Kernel) (host : Host) (port : Int)
    (input : PassiveInput) :
    ∃ outcome, tcpPassiveOpen kernel host port input = some outcome ∧
      outcome.status = input.status port ∧
      outcome.host.descriptors = input.descriptors kernel port host.descriptors ∧
      (input.status port = .noError → ∃ s cell, outcome.assigned = some (some s) ∧
        outcome.host.sockets.read s = some cell ∧
        cell.value = { cookie := magicCookie, sd := kernel.allocate host.descriptors }) := by
  obtain ⟨outcome, ran, opens⟩ := tcpPassiveOpen_opens kernel host port input
  have status := tcpPassiveOpen_status ran
  have noError : ∀ status ∈ openErrors, status ≠ .noError := by decide
  refine ⟨outcome, ran, status, ?_⟩
  rw [← status]
  cases opens with
  | refused nothing failed kept same descriptors =>
    refine ⟨by rw [descriptors, PassiveInput.descriptors, if_neg nothing], fun succeeded => ?_⟩
    exact absurd succeeded (noError _ failed)
  | lost obtained stopped failed kept same descriptors =>
    refine ⟨by rw [descriptors, PassiveInput.descriptors, if_pos obtained], fun succeeded => ?_⟩
    exact absurd succeeded (noError _ failed)
  | opened obtained completed succeeded s cell assigned fresh sockets bound sd descriptors
      address =>
    refine ⟨by rw [descriptors, PassiveInput.descriptors, if_pos obtained], fun _ => ?_⟩
    refine ⟨s, cell, assigned, by rw [sockets, Function.update_self], ?_⟩
    rw [SocketStruct.value, bound, sd]

/-- The call in memory returns this status. -/
theorem tcpClose_status {host : Host} {s : Address} {cell : SocketStruct}
    (live : host.sockets.read s = some cell) (bound : cell.cookie = magicCookie)
    (nonneg : 0 ≤ cell.sd)
    (owned : ∀ ip, cell.ipAddr = some ip → ∃ text, host.addresses.read ip = some text)
    (shutdown : Bool) :
    ∃ outcome, tcpClose host (some s) shutdown = some outcome ∧
      outcome.status = closeStatus (some cell.value) := by
  obtain ⟨after, ran, -⟩ := tcpClose_of_live live bound nonneg owned shutdown
  exact ⟨_, ran, rfl⟩

/-! ### How the thread ends -/

theorem not_failsToStop (sv : Option Tcpsock) : ¬ FailsToStop sv := by
  rintro ⟨open_, failed⟩
  cases sv with
  | none => exact open_ rfl
  | some socket => exact failed rfl

/-- The list is freed exactly when it has no client. -/
theorem freeSockList_isSome_iff {memory : DplistMemory ClientMemory Pointer} {address : Address}
    {head : Pointer} {contents : List (Address × Pointer)} {sockList : List TcpsockDpl}
    (live : memory.lists.read address = some head)
    (holds : HoldsClients ⟨head, memory.nodes, memory.world⟩ contents sockList) :
    (freeSockList memory (some address)).isSome ↔ sockList = [] := by
  have sameEnds : contents = [] ↔ sockList = [] := by
    rw [← List.length_eq_zero_iff, holds.clients.length_eq, List.length_eq_zero_iff]
  rw [freeSockList, if_neg (Option.some_ne_none address), Option.isSome_map, ← sameEnds]
  constructor
  · intro ends
    by_contra nonempty
    rw [free_stuck ClientMemory.callbacks memory live holds.represents nonempty] at ends
    exact absurd ends Bool.false_ne_true
  · intro nothing
    have frees : FreesList ClientMemory.callbacks memory address contents true :=
      (free_iff live holds.represents).mpr nothing
    obtain ⟨after, ran, -⟩ := frees
    rw [ran]
    rfl

theorem PassiveInput.obtains_of_noError {input : PassiveInput} {port : Int}
    (succeeded : input.status port = .noError) :
    minPort ≤ port ∧ port ≤ maxPort ∧ input.malloc ∧ input.socket := by
  unfold PassiveInput.status at succeeded
  by_cases range : port < minPort ∨ port > maxPort
  · rw [if_pos range] at succeeded
    cases succeeded
  · rw [if_neg range] at succeeded
    obtain ⟨malloc, socket, bind, listen⟩ := input
    cases malloc with
    | false => cases succeeded
    | true =>
      cases socket with
      | false => cases succeeded
      | true => exact ⟨by omega, by omega, rfl, rfl⟩

/-- An opening that leads to the poll loop has bound `sv` to a new descriptor. -/
theorem connmgrOpen_of_sv {kernel : Kernel} {before : Finset Int} {port : Int}
    {input : PassiveInput} {openTime : Int} {sv : Tcpsock}
    (opened : (connmgrOpen kernel before port input openTime : Opening config).sv = some sv) :
    sv = { cookie := magicCookie, sd := kernel.allocate before } ∧
      (connmgrOpen kernel before port input openTime : Opening config).descriptors =
        insert (kernel.allocate before) before := by
  unfold connmgrOpen at opened ⊢
  by_cases range : port > maxPort ∨ port < minPort
  · rw [if_pos range] at opened
    cases opened
  · rw [if_neg range] at opened ⊢
    by_cases failed : input.status port ≠ .noError
    · rw [if_pos failed] at opened
      cases opened
    · rw [if_neg failed] at opened ⊢
      have obtains := PassiveInput.obtains_of_noError (not_not.mp failed)
      exact ⟨(Option.some.inj opened).symm, if_pos obtains⟩

/-- A list of clients without polled and without stranded descriptors is empty. -/
theorem Service.Holding.sockList_eq_nil_iff {initial : Finset Int} {lost stranded : List Int}
    {service : Service config} (holding : service.Holding initial lost)
    (parted : service.manager.listedDescriptors.Perm
      (service.manager.polledDescriptors ++ stranded)) :
    service.manager.sockList = [] ↔ service.manager.counter = 0 ∧ stranded = [] := by
  have lengths := parted.length_eq
  rw [List.length_append, holding.polled_length, Connmgr.listedDescriptors,
    List.length_map] at lengths
  have nothing : stranded = [] ↔ stranded.length = 0 := List.length_eq_zero_iff.symm
  rw [← List.length_eq_zero_iff, nothing]
  omega

/-- For every port, every opening that leads to the poll loop and every run of the loop in which no
failed accept is registered: `connmgr_free` returns exactly when no client is polled and the stop
test has dropped none. It then reports what the loop has reported, never that the socket was not
closed, and leaves the descriptors open that were open before the thread, the lost ones, and the
listening one if its shutdown fails. -/
theorem connmgr_ends_iff (kernel : Kernel) (before : Finset Int) (port : Int)
    (input : PassiveInput) (openTime : Int) (revents : BitVec 16) (pollRet tcpConnRet : Int)
    (uninitialised : SensorData config.layout) (events : List ServiceEvent) {sv : Tcpsock}
    {opening : Opening config} (opens : opening = connmgrOpen kernel before port input openTime)
    (opened : opening.sv = some sv) {start last : Service config}
    (starts : start = Service.start opening.descriptors sv.sd revents pollRet tcpConnRet
      uninitialised)
    (ends : last = Runs.final (Service.step kernel) start events)
    (succeeds : ∀ transition ∈ Runs.transitions (Service.step kernel) start events,
      Succeeds transition)
    {memory : DplistMemory ClientMemory Pointer} {address : Address} {head : Pointer}
    {contents : List (Address × Pointer)} (live : memory.lists.read address = some head)
    (holds : HoldsClients ⟨head, memory.nodes, memory.world⟩ contents last.manager.sockList)
    (shutdown : Bool) (messageTime : Int) {free : Option (Ending config)}
    (frees : free = connmgrFree (some sv) shutdown last.descriptors last.manager.retval
      (opening.log ++ last.manager.log) memory (some address) messageTime) :
    (free.isSome ↔ last.manager.counter = 0 ∧
      strandedDescriptors (Runs.transitions (Service.step kernel) start events) = []) ∧
    ∀ ending, free = some ending → ending.retval = last.manager.retval ∧
      ending.retval ≠ .closeSocketError ∧
      ending.descriptors = (if shutdown then before else insert sv.sd before) ∪
        (lostDescriptors kernel
          (Runs.transitions (Service.step kernel) start events)).toFinset := by
  subst opens
  obtain ⟨rfl, descriptors⟩ := connmgrOpen_of_sv opened
  have listens : kernel.allocate before ∈
      (connmgrOpen kernel before port input openTime : Opening config).descriptors := by
    rw [descriptors]
    exact Finset.mem_insert_self _ _
  have initial := Service.start_holding listens revents pollRet tcpConnRet uninitialised
  rw [← starts] at initial
  obtain ⟨-, holding, parted⟩ := Service.Holding.run kernel start events [] [] initial
    (by rw [starts]; exact List.Perm.refl _) succeeds
  rw [← ends, List.nil_append] at holding parted
  have freed : free.isSome ↔ last.manager.sockList = [] := by
    rw [frees, connmgrFree, Option.isSome_map, freeSockList_isSome_iff live holds]
  refine ⟨freed.trans (holding.sockList_eq_nil_iff parted), fun ending ended => ?_⟩
  have nobody : last.manager.sockList = [] := freed.mp (by rw [ended]; rfl)
  rw [frees] at ended
  obtain ⟨after, -, rfl⟩ := Option.map_eq_some_iff.mp ended
  have retval : (if FailsToStop (some { cookie := magicCookie, sd := kernel.allocate before }) then
      ConnmgrStatus.closeSocketError else last.manager.retval) = last.manager.retval :=
    if_neg (not_failsToStop _)
  refine ⟨retval, ?_, ?_⟩
  · have orderly := start_orderly (kernel.allocate before) revents pollRet tcpConnRet uninitialised
    obtain ⟨-, reports⟩ := Service.reports kernel start tcpConnRet (by rw [starts]; exact orderly)
      (by rw [starts]; rfl) events
    rw [← ends, ← retval] at reports
    rcases reports with success | error
    · exact fun same => ConnmgrStatus.noConfusion (same.symm.trans success)
    · exact fun same => ConnmgrStatus.noConfusion (same.symm.trans error)
  have unlisted (sd : Int) : sd ∉ last.manager.listedDescriptors := by
    rw [Connmgr.listedDescriptors, nobody]
    exact List.not_mem_nil
  have left (sd : Int) : sd ∈ last.descriptors ↔
      (sd = kernel.allocate before ∨ sd ∈ before) ∨
        sd ∈ lostDescriptors kernel (Runs.transitions (Service.step kernel) start events) := by
    rw [holding.open_iff, descriptors, Finset.mem_insert, or_iff_right (unlisted sd)]
  have kept := holding.lostApart
  rw [descriptors] at kept
  refine Finset.ext fun sd => ?_
  show sd ∈ closeDescriptor shutdown last.descriptors _ ↔ _
  cases shutdown with
  | true =>
    rw [closeDescriptor, if_pos ⟨rfl, kernel.nonneg before, rfl⟩, if_pos rfl, Finset.mem_erase,
      left, Finset.mem_union, List.mem_toFinset]
    have new := kernel.fresh before
    constructor
    · rintro ⟨different, (same | old) | lost⟩
      · exact absurd same different
      · exact Or.inl old
      · exact Or.inr lost
    · rintro (old | lost)
      · refine ⟨fun same => new ?_, Or.inl (Or.inr old)⟩
        rwa [← show sd = kernel.allocate before from same]
      · refine ⟨fun same => kept sd lost ?_, Or.inr lost⟩
        rw [show sd = kernel.allocate before from same]
        exact Finset.mem_insert_self _ _
  | false =>
    rw [closeDescriptor, if_neg fun all => Bool.false_ne_true all.2.2,
      if_neg Bool.false_ne_true, left, Finset.mem_union, Finset.mem_insert, List.mem_toFinset]

/-- A poll that reports these events, without a connection. -/
def reported (revents : List (BitVec 16)) (time : Int) : ServiceEvent :=
  .poll (.returns revents) connects { cookie := 0, sd := 0 } { fd := 0, events := 0, revents := 0 }
    time time

/-- A sensor connects, sends a reading and hangs up, and no other client is there. -/
def connectedThenGone : List ServiceEvent :=
  [connection 0, .endScan 0, dataReady 0, readingOfFive 1, .endScan 1, reported [0, pollhup] 1,
    readingOfFive 2, .endScan 2, reported [] 2]

/-- A list without clients, in a memory without any. -/
def noClients : DplistMemory ClientMemory Pointer :=
  (Dplist.create { clients := Heap.empty ClientStruct, sockets := Heap.empty Tcpsock }).inMemory

/-- The calls of `tcp_passive_open` all succeed. -/
def listens : PassiveInput where
  malloc := true
  socket := true
  bind := true
  listen := true

/-- The thread on port 5678, with the standard streams open. -/
def threadOpening : Opening gatewayConfig := connmgrOpen .lowest {0, 1, 2} 5678 listens 0

theorem connmgr_ends_connectedThenGone :
    ∃ last, Runs.final (Service.step .lowest)
        (Service.start threadOpening.descriptors 3 0 0 (-1) zeroData) connectedThenGone = last ∧
      last.manager.position = .returned ∧
      ∀ ending, connmgrFree (some { cookie := magicCookie, sd := 3 }) true last.descriptors
          last.manager.retval (threadOpening.log ++ last.manager.log) noClients (some 0) 3 =
        some ending → ending.retval = .threadSuccess ∧ ending.descriptors = {0, 1, 2} := by
  refine ⟨_, rfl, by decide, fun ending ended => ?_⟩
  have live : noClients.lists.read 0 = some none := Dplist.inMemory_live _
  have represented : HoldsClients ⟨none, noClients.nodes, noClients.world⟩ []
      (Runs.final (Service.step .lowest)
        (Service.start threadOpening.descriptors 3 0 0 (-1) zeroData)
        connectedThenGone).manager.sockList := by
    have nobody : (Runs.final (Service.step .lowest)
        (Service.start threadOpening.descriptors 3 0 0 (-1) zeroData)
        connectedThenGone).manager.sockList = [] := by decide
    rw [nobody]
    exact ⟨create_represents _, .nil⟩
  obtain ⟨-, leaves⟩ := connmgr_ends_iff .lowest {0, 1, 2} 5678 listens 0 0 0 (-1) zeroData
    connectedThenGone (show threadOpening = _ from rfl)
    (show threadOpening.sv = some { cookie := magicCookie, sd := 3 } by decide) rfl rfl
    (by decide) live represented true 3 rfl
  obtain ⟨retval, -, descriptors⟩ := leaves ending ended
  exact ⟨retval, descriptors⟩

end SensorGateway
