/-
This file is about the part of the poll loop that accepts a connection: a connection
should be registered exactly when `tcp_wait_for_connection` has returned TCP_NO_ERROR,
and an error should be reported and change nothing else.

The condition there compares the result with `tcp_conn_ret` where it was meant to assign
it, and nothing ever assigns to `tcp_conn_ret`. So a connection is registered exactly
when the result differs from what this variable happened to hold when the function was
called, for the whole run. A success is registered unless it held 0, an error is
reported only if it held the number of this very error.

The list could refuse a client only if its descriptor were that of the first of two or
more clients; `accept` does not return an open descriptor.
-/

import SensorGateway.ConnmgrTables

namespace SensorGateway

variable {config : Config}

/-! ### What an accept should do -/

/-- One entry is added to `poll_fd` and one client to `sock_list`, and `counter` goes up by one. -/
structure Registers (manager : Connmgr config) (revents : Nat → BitVec 16) (input : AcceptInput)
    (after : Connmgr config) : Prop where
  counter : after.counter = manager.counter + 1
  pollFd : after.pollFd = polledEntries manager.pollFd revents ++ [acceptedEntry input]
  sockList : after.sockList.Perm (acceptedClient input :: manager.sockList)

/-- The three are unchanged, and the error is in `*retval`. -/
structure ReportsError (manager : Connmgr config) (revents : Nat → BitVec 16)
    (after : Connmgr config) : Prop where
  counter : after.counter = manager.counter
  pollFd : after.pollFd = polledEntries manager.pollFd revents
  sockList : after.sockList = manager.sockList
  retval : after.retval = .acceptConnectionError

/-- The poll loop goes on, the connection is registered exactly when it was accepted, and an error
is reported. -/
def Connmgr.FollowsResult (manager : Connmgr config) (revents : Nat → BitVec 16)
    (input : AcceptInput) : Prop :=
  ∃ after, manager.poll (.ready revents) input = some after ∧
    (Registers manager revents input after ↔ input.status = .noError) ∧
    (input.status ≠ .noError → ReportsError manager revents after)

/-- The poll loop comes to the accept part: poll has returned, a connection is pending, and there
is room. -/
def Accepting (attempt : Connmgr config × ConnmgrEvent) (revents : Nat → BitVec 16)
    (input : AcceptInput) : Prop :=
  attempt.2 = .poll (.ready revents) input ∧ attempt.1.position = .polling ∧
    attempt.1.Accepts revents

/-! ### When it does -/

/-- The client can be inserted: its descriptor is not that of the first of two or more clients. -/
def Insertable (client : TcpsockDpl) : List TcpsockDpl → Prop
  | first :: _ :: _ => client.sd ≠ first.sd
  | _ => True

/-- What `tcp_conn_ret` holds makes the comparison tell a success from an error. -/
structure ToldApart (tcpConnRet : Int) (manager : Connmgr config) (input : AcceptInput) :
    Prop where
  success : input.status = .noError → tcpConnRet ≠ TcpStatus.noError.code ∧
    Insertable (acceptedClient input) manager.sockList
  error : input.status ≠ .noError → tcpConnRet = input.status.code

/-- The descriptor that `accept` returns can always be inserted. -/
theorem AcceptInput.Fresh.insertable {input : AcceptInput} {manager : Connmgr config}
    (fresh : input.Fresh manager) : Insertable (acceptedClient input) manager.sockList := by
  have unlisted := fresh.unlisted
  rw [← fresh.sd_acceptedClient, Connmgr.listedDescriptors] at unlisted
  match manager.sockList, unlisted with
  | [], _ => exact trivial
  | [_], _ => exact trivial
  | first :: second :: rest, unlisted =>
    rw [List.map_cons, List.mem_cons, not_or] at unlisted
    exact unlisted.1

/-- The insertion has a result exactly for a client that can be inserted. -/
theorem dplInsertSorted_eq_none_iff_not_insertable (sockList : List TcpsockDpl)
    (client : TcpsockDpl) :
    dplInsertSorted elementCompare sockList client = none ↔ ¬ Insertable client sockList := by
  match sockList with
  | [] => exact iff_of_false (by simp [dplInsertSorted, dplInsertFrom]) (not_not.mpr trivial)
  | [first] =>
    refine iff_of_false ?_ (not_not.mpr trivial)
    rw [dplInsertSorted, dplInsertFrom]
    unfold elementCompare
    by_cases same : client.sd = first.sd <;> simp [same]
  | first :: second :: rest =>
    show dplInsertFrom elementCompare client true (first :: second :: rest) = none ↔
      ¬ client.sd ≠ first.sd
    rw [dplInsertFrom, not_not]
    unfold elementCompare
    by_cases same : client.sd = first.sd <;> simp [same]

theorem acceptComparison_ne_iff (tcpConnRet : Int) (status : TcpStatus) :
    acceptComparison tcpConnRet status ≠ TcpStatus.noError.code ↔ tcpConnRet = status.code := by
  unfold acceptComparison
  split_ifs with same
  · exact iff_of_true (by decide) same
  · exact iff_of_false (not_not.mpr rfl) same

section Accept

variable {manager : Connmgr config} {revents : Nat → BitVec 16} {input : AcceptInput}

/-- A pending connection is an event of the poll. -/
theorem pollCount_ne_zero (sized : manager.Sized) (ready : manager.Accepts revents) :
    (manager.polled revents).pollRet ≠ 0 := by
  have positive : 0 < manager.pollFd.length := by
    rw [sized.length]
    exact Nat.succ_pos _
  have flagged : revents 0 ≠ 0 := by
    intro none
    have flag : HasFlag 0 pollin := none ▸ ready.1
    exact absurd flag (by decide)
  have listed : { manager.pollFd[0] with revents := revents 0 } ∈
      polledEntries manager.pollFd revents := by
    refine List.mem_iff_getElem?.mpr ⟨0, ?_⟩
    exact polled_listener (List.getElem?_eq_getElem positive) revents
  have counted : 0 < (polledEntries manager.pollFd revents).countP fun entry =>
      entry.revents ≠ 0 := List.countP_pos_iff.mpr ⟨_, listed, decide_eq_true flagged⟩
  show ((polledEntries manager.pollFd revents).countP _ : Int) ≠ 0
  omega

/-- With a pending connection, a poll event is the accept part. -/
theorem poll_of_accepts (sized : manager.Sized) (point : manager.position = .polling)
    (ready : manager.Accepts revents) (input : AcceptInput) :
    manager.poll (.ready revents) input = ((manager.polled revents).accept input).map
      fun after => { after with pollRet := after.pollRet - 1, position := .scanning 1 } := by
  have positive : 0 < manager.pollFd.length := by
    rw [sized.length]
    exact Nat.succ_pos _
  have present := polled_listener (List.getElem?_eq_getElem positive) revents
  have admitted : (manager.polled revents).Admits
      { manager.pollFd[0] with revents := revents 0 } := ready
  unfold Connmgr.poll
  rw [point]
  dsimp only
  rw [if_neg fun ended => pollCount_ne_zero sized ready ended.1, present, Option.bind_eq_bind,
    Option.bind_some, if_pos admitted]
  cases (manager.polled revents).accept input with
  | none => rfl
  | some after => rfl

/-- A result that is the value of `tcp_conn_ret` is reported as an error. -/
theorem poll_reportsError (sized : manager.Sized) (point : manager.position = .polling)
    (ready : manager.Accepts revents) (same : manager.tcpConnRet = input.status.code) :
    ∃ after, manager.poll (.ready revents) input = some after ∧
      ReportsError manager revents after := by
  have refused : (manager.polled revents).accept input = some _ :=
    if_pos ((acceptComparison_ne_iff _ _).mpr same)
  rw [poll_of_accepts sized point ready, refused, Option.map_some]
  exact ⟨_, rfl, rfl, rfl, rfl, rfl⟩

/-- Any other result registers the connection, if the client can be inserted. -/
theorem poll_registers (sized : manager.Sized) (point : manager.position = .polling)
    (ready : manager.Accepts revents) (other : manager.tcpConnRet ≠ input.status.code)
    (insertable : Insertable (acceptedClient input) manager.sockList) :
    ∃ after, manager.poll (.ready revents) input = some after ∧
      Registers manager revents input after := by
  obtain ⟨sockList, inserted⟩ := Option.ne_none_iff_exists'.mp
    (mt (dplInsertSorted_eq_none_iff_not_insertable _ _).mp (not_not.mpr insertable))
  have registered : (manager.polled revents).accept input =
      (dplInsertSorted elementCompare manager.sockList (acceptedClient input)).bind _ :=
    if_neg (mt (acceptComparison_ne_iff _ _).mp other)
  rw [poll_of_accepts sized point ready, registered, inserted, Option.bind_some, Option.map_some]
  exact ⟨_, rfl, rfl, set_append_acceptedEntry sized.length revents _ _,
    dplInsertSorted_perm inserted⟩

/-- Any other result has no result at all, or raises the counter. -/
theorem counter_of_other (sized : manager.Sized) (point : manager.position = .polling)
    (ready : manager.Accepts revents) (other : manager.tcpConnRet ≠ input.status.code)
    {after : Connmgr config} (taken : manager.poll (.ready revents) input = some after) :
    Insertable (acceptedClient input) manager.sockList ∧
      after.counter = manager.counter + 1 := by
  have registered : (manager.polled revents).accept input =
      (dplInsertSorted elementCompare manager.sockList (acceptedClient input)).bind _ :=
    if_neg (mt (acceptComparison_ne_iff _ _).mp other)
  rw [poll_of_accepts sized point ready, registered] at taken
  obtain ⟨accepted, answered, rfl⟩ := Option.map_eq_some_iff.mp taken
  obtain ⟨sockList, inserted, built⟩ := Option.bind_eq_some_iff.mp answered
  obtain rfl := Option.some.inj built
  refine ⟨?_, rfl⟩
  by_contra stuck
  rw [(dplInsertSorted_eq_none_iff_not_insertable _ _).mpr stuck] at inserted
  exact nomatch inserted

/-- An accept follows the result of `tcp_wait_for_connection` exactly when `tcp_conn_ret` tells the
success from the error. -/
theorem followsResult_iff (sized : manager.Sized) (point : manager.position = .polling)
    (ready : manager.Accepts revents) (input : AcceptInput) :
    manager.FollowsResult revents input ↔ ToldApart manager.tcpConnRet manager input := by
  by_cases same : manager.tcpConnRet = input.status.code
  · obtain ⟨reported, taken, reports⟩ := poll_reportsError sized point ready same
    have unregistered : ¬ Registers manager revents input reported := by
      intro registers
      have raised := registers.counter.symm.trans reports.counter
      omega
    constructor
    · rintro ⟨after, again, registers, -⟩
      obtain rfl := Option.some.inj (taken.symm.trans again)
      have failed : input.status ≠ .noError := mt registers.mpr unregistered
      exact ⟨fun succeeded => absurd succeeded failed, fun _ => same⟩
    · intro told
      have failed : input.status ≠ .noError := by
        intro succeeded
        rw [succeeded] at same
        exact (told.success succeeded).1 same
      exact ⟨reported, taken, iff_of_false unregistered failed, fun _ => reports⟩
  · constructor
    · rintro ⟨after, taken, registers, reports⟩
      obtain ⟨insertable, raised⟩ := counter_of_other sized point ready same taken
      have succeeded : input.status = .noError := by
        by_contra failed
        have unchanged := (reports failed).counter
        omega
      rw [succeeded] at same
      exact ⟨fun _ => ⟨same, insertable⟩, fun failed => absurd succeeded failed⟩
    · intro told
      have succeeded : input.status = .noError := by
        by_contra failed
        exact same (told.error failed)
      obtain ⟨after, taken, registers⟩ :=
        poll_registers sized point ready same (told.success succeeded).2
      exact ⟨after, taken, iff_of_true registers succeeded,
        fun failed => absurd succeeded failed⟩

end Accept

/-! ### Every run -/

/-- Nothing assigns to `tcp_conn_ret`. -/
theorem step_tcpConnRet {manager after : Connmgr config} (sized : manager.Sized)
    {event : ConnmgrEvent} (taken : manager.step event = some after) :
    after.tcpConnRet = manager.tcpConnRet := by
  cases event with
  | poll outcome input =>
    obtain ⟨-, polled⟩ := poll_polled taken
    cases polled <;> rfl
  | scan input =>
    obtain ⟨examination, -, -, scanned⟩ := scan_scanned sized taken
    cases scanned <;> rfl
  | endScan messageTime => obtain ⟨-, rfl | rfl⟩ := endScan_ended taken <;> rfl
  | store id => rw [← Option.some.inj taken]; rfl

/-- In every run, whatever `tcp_conn_ret` holds at the start, each accept registers the connection
exactly when it was accepted, and otherwise reports the error and changes nothing else, if and only
if at each accept what `tcp_conn_ret` holds tells the success from the error. -/
theorem registrations_follow_iff (listener : Int) (revents : BitVec 16)
    (pollRet tcpConnRet : Int) (uninitialised : SensorData config.layout)
    (events : List ConnmgrEvent) :
    (∀ attempt ∈ Runs.attempts Connmgr.step
        (Connmgr.start listener revents pollRet tcpConnRet uninitialised) events,
      ∀ revents input, Accepting attempt revents input →
        attempt.1.FollowsResult revents input) ↔
    ∀ attempt ∈ Runs.attempts Connmgr.step
        (Connmgr.start listener revents pollRet tcpConnRet uninitialised) events,
      ∀ revents input, Accepting attempt revents input →
        ToldApart tcpConnRet attempt.1 input := by
  have reached : ∀ attempt ∈ Runs.attempts Connmgr.step
      (Connmgr.start listener revents pollRet tcpConnRet uninitialised) events,
      attempt.1.Sized ∧ attempt.1.tcpConnRet = tcpConnRet :=
    Runs.invariant_of_attempts
      (fun manager => manager.Sized ∧ manager.tcpConnRet = tcpConnRet)
      ⟨start_sized listener revents pollRet tcpConnRet uninitialised, rfl⟩
      fun _ _ _ holds taken =>
        ⟨holds.1.step taken, (step_tcpConnRet holds.1 taken).trans holds.2⟩
  refine forall₂_congr fun attempt member => forall₃_congr fun revents input accepting => ?_
  obtain ⟨sized, same⟩ := reached attempt member
  rw [followsResult_iff sized accepting.2.1 accepting.2.2, same]

/-- The accept of a connection that has failed: the socket is what the new memory held. -/
def failedAccept : AcceptInput := { accepted 4 0 0 with status := .sockopError }

/-- The first accept fails while `tcp_conn_ret` holds -1: a client is registered for it. -/
theorem failed_accept_registered :
    ¬ ∀ events, ∀ attempt ∈ Runs.attempts Connmgr.step gatewayStart events,
      ∀ revents input, Accepting attempt revents input →
        attempt.1.FollowsResult revents input := by
  intro holds
  have first : (gatewayStart, ConnmgrEvent.poll (.returns [pollin]) failedAccept) ∈
      Runs.attempts Connmgr.step gatewayStart [.poll (.returns [pollin]) failedAccept] :=
    List.mem_cons_self
  obtain ⟨after, taken, -, reports⟩ :=
    holds _ _ first _ _ ⟨rfl, rfl, show gatewayStart.Accepts _ by decide⟩
  have one : after.counter = 1 := by
    rw [← Option.some.inj taken]
    rfl
  exact absurd (one.symm.trans (reports (by decide)).counter) (by decide)

end SensorGateway
