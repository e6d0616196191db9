/-
This file is about idle connections: those whose last activity is more than TIMEOUT
seconds before the body of the poll loop began. The scan drops every idle connection
it looks at, but it runs only while `poll_ret` is positive, and the accept part takes
one event off `poll_ret`. A body therefore leaves no idle connection behind exactly
when poll has reported an event besides that of the accepted connection, or when no
connection was idle to begin with. In particular a poll that times out drops nothing.
-/

import SensorGateway.ConnmgrTables

namespace SensorGateway

variable {config : Config}

/-- The connection at this place of `poll_fd` is registered and has been silent for more than
TIMEOUT seconds at the given time. -/
def Connmgr.Idle (manager : Connmgr config) (time : Int) (index : Nat) : Prop :=
  ∃ fd client, (manager.pollFd.map PollFd.fd)[index]? = some fd ∧
    manager.clientOf fd = some client ∧ client.lastActive + config.timeout < time

/-- No registered connection is idle. -/
def Connmgr.NoneIdle (manager : Connmgr config) (time : Int) : Prop :=
  ∀ index, 1 ≤ index → ¬ manager.Idle time index

/-- What can happen during the scan: an iteration, or a stop request. -/
inductive BodyEvent where
  | scan (input : ScanInput)
  | store (id : BitVec 16)

/-- The event of the machine. -/
def BodyEvent.event : BodyEvent → ConnmgrEvent
  | .scan input => .scan input
  | .store id => .store id

/-- The clock does not run backwards: the readings of the clock are no earlier than a given
time. -/
def BodyEvent.NotBefore (began : Int) : BodyEvent → Prop
  | .scan input => began ≤ input.aliveTime ∧ began ≤ input.activeTime ∧ began ≤ input.closeTime
  | .store _ => True

instance (began : Int) : DecidablePred (BodyEvent.NotBefore began)
  | .scan _ => inferInstanceAs (Decidable (_ ∧ _ ∧ _))
  | .store _ => .isTrue trivial

/-- One execution of the body of the poll loop, with the poll before it. -/
def bodyEvents (outcome : Poll) (input : AcceptInput) (body : List BodyEvent)
    (messageTime : Int) : List ConnmgrEvent :=
  .poll outcome input :: (body.map BodyEvent.event ++ [.endScan messageTime])

/-- What is left of the number of ready descriptors when the scan begins. -/
def Connmgr.eventsLeft (manager : Connmgr config) (revents : Nat → BitVec 16) : Int :=
  pollCount (polledEntries manager.pollFd revents) - if manager.Accepts revents then 1 else 0

/-- The scan looks at the clients. -/
def Connmgr.Scans (manager : Connmgr config) (outcome : Poll) : Prop :=
  ∃ revents, outcome = .ready revents ∧ 0 < manager.eventsLeft revents

/-! ### The poll -/

theorem eventsLeft_of_accepts {manager : Connmgr config} {revents : Nat → BitVec 16}
    (ready : manager.Accepts revents) :
    (manager.polled revents).pollRet - 1 = manager.eventsLeft revents := by
  rw [Connmgr.eventsLeft, if_pos ready]
  rfl

theorem eventsLeft_of_not_accepts {manager : Connmgr config} {revents : Nat → BitVec 16}
    (unready : ¬ manager.Accepts revents) :
    (manager.polled revents).pollRet = manager.eventsLeft revents := by
  rw [Connmgr.eventsLeft, if_neg unready, Int.sub_zero]
  rfl

theorem idle_iff_of_same {manager other : Connmgr config} {time : Int} {index : Nat}
    (samePollFd : other.pollFd.map PollFd.fd = manager.pollFd.map PollFd.fd)
    (sameSockList : other.sockList = manager.sockList) :
    other.Idle time index ↔ manager.Idle time index := by
  unfold Connmgr.Idle Connmgr.clientOf
  rw [samePollFd, sameSockList]

theorem noneIdle_iff_of_same {manager other : Connmgr config} {time : Int}
    (samePollFd : other.pollFd.map PollFd.fd = manager.pollFd.map PollFd.fd)
    (sameSockList : other.sockList = manager.sockList) :
    other.NoneIdle time ↔ manager.NoneIdle time := by
  unfold Connmgr.NoneIdle
  exact forall₂_congr fun index _ => not_congr (idle_iff_of_same samePollFd sameSockList)

/-- The scan begins with the events that the accept part has left, and accepting a connection
makes none idle. -/
theorem poll_noneIdle_iff {manager after : Connmgr config} (tabled : manager.Tabled)
    {outcome : Poll} {input : AcceptInput} {began : Int}
    (taken : manager.poll outcome input = some after)
    (lawful : manager.counter < after.counter → input.Fresh manager)
    (clock : began ≤ input.activeTime) (running : after.position ≠ .returned) :
    ∃ revents, outcome = .ready revents ∧ after.pollRet = manager.eventsLeft revents ∧
      after.position = .scanning 1 ∧ (after.NoneIdle began ↔ manager.NoneIdle began) := by
  obtain ⟨-, polled⟩ := poll_polled taken
  cases polled with
  | failed result => exact absurd rfl running
  | finished revents result nothing unconnected => exact absurd rfl running
  | skipped revents result unready =>
    exact ⟨revents, result, eventsLeft_of_not_accepts unready, rfl,
      noneIdle_iff_of_same (map_fd_polledEntries manager.pollFd revents) rfl⟩
  | refused revents result ready =>
    exact ⟨revents, result, eventsLeft_of_accepts ready, rfl,
      noneIdle_iff_of_same (map_fd_polledEntries manager.pollFd revents) rfl⟩
  | registered revents result ready sockList inserted =>
    refine ⟨revents, result, eventsLeft_of_accepts ready, rfl, ?_⟩
    have fresh := lawful (Nat.lt_succ_self _)
    have added := dplInsertSorted_perm inserted
    have new : (acceptedClient input).sd ∉ manager.listedDescriptors := by
      rw [fresh.sd_acceptedClient]
      exact fresh.unlisted
    have distinct : ((acceptedClient input :: manager.sockList).map TcpsockDpl.sd).Nodup :=
      List.nodup_cons.mpr ⟨new, tabled.covered.distinctSecond⟩
    have descriptors : ((polledEntries manager.pollFd revents ++ [input.memory]).set
        (manager.counter + 1) (acceptedEntry input)).map PollFd.fd =
          manager.pollFd.map PollFd.fd ++ [(acceptedClient input).sd] := by
      rw [set_append_acceptedEntry tabled.sized.length, List.map_append, map_fd_polledEntries]
      rfl
    have lookups (fd : Int) : Table.lookup TcpsockDpl.sd sockList fd =
        if (acceptedClient input).sd = fd then some (acceptedClient input)
        else manager.clientOf fd := by
      rw [← Table.lookup_eq_of_perm distinct added.symm, Table.lookup_cons]
      rfl
    refine forall₂_congr fun index _ => not_congr ?_
    unfold Connmgr.Idle Connmgr.clientOf
    dsimp only
    rw [descriptors]
    constructor
    · rintro ⟨fd, client, place, found, silent⟩
      rw [lookups] at found
      rcases Nat.lt_or_ge index (manager.pollFd.map PollFd.fd).length with old | last
      · rw [List.getElem?_append_left old] at place
        have other : (acceptedClient input).sd ≠ fd := by
          rw [fresh.sd_acceptedClient]
          exact fun same => fresh.unpolled (same ▸ List.mem_of_getElem? place)
        rw [if_neg other] at found
        exact ⟨fd, client, place, found, silent⟩
      · rw [List.getElem?_append_right last, List.getElem?_singleton] at place
        split_ifs at place
        obtain rfl := Option.some.inj place
        rw [if_pos rfl, Option.some.injEq] at found
        rw [← found] at silent
        have lastActive : (acceptedClient input).lastActive = input.activeTime := rfl
        omega
    · rintro ⟨fd, client, place, found, silent⟩
      have old := (List.getElem?_eq_some_iff.mp place).1
      have other : (acceptedClient input).sd ≠ fd := by
        rw [fresh.sd_acceptedClient]
        exact fun same => fresh.unpolled (same ▸ List.mem_of_getElem? place)
      refine ⟨fd, client, ?_, ?_, silent⟩
      · rw [List.getElem?_append_left old, place]
      · rw [lookups, if_neg other]
        exact found

/-! ### The scan -/

/-- A scan that runs: no connection before its index is idle. -/
structure Connmgr.Swept (manager : Connmgr config) (began : Int) : Prop where
  tabled : manager.Tabled
  events : 0 < manager.pollRet
  clean : ∃ i, manager.position = .scanning i ∧
    ∀ index, 1 ≤ index → index < i → ¬ manager.Idle began index

/-- An iteration does not touch the connections before its index. -/
theorem Examined.idle_of_lt {manager after : Connmgr config} {input : ScanInput}
    {examination : Examination config} (examined : Examined manager input examination)
    (scanned : Scanned manager input examination after) (tabled : manager.Tabled) {time : Int}
    {index : Nat} (positive : 1 ≤ index) (before : index < examination.i)
    (idle : after.Idle time index) : manager.Idle time index := by
  obtain ⟨fd, client, place, found, silent⟩ := idle
  rw [List.getElem?_map, scanned.getElem?_of_lt before] at place
  obtain ⟨entry, present, rfl⟩ := Option.map_eq_some_iff.mp place
  have other := tabled.fd_ne (tabled.sized.index _ examined.position) positive
    (Nat.ne_of_gt before) examined.entry present
  rw [examined.clientOf_scanned scanned other] at found
  refine ⟨entry.fd, client, ?_, found, silent⟩
  rw [List.getElem?_map, present, Option.map_some]

/-- An iteration that keeps its connection has found it active. -/
theorem Examined.not_idle_of_kept {manager : Connmgr config} {input : ScanInput}
    {examination : Examination config} (examined : Examined manager input examination)
    (lives : ¬ examination.visit.Closes manager.connmgrSensorStopsig input) {began : Int}
    (clock : began ≤ input.closeTime) :
    ¬ ((manager.examined examination).keep examination).Idle began examination.i := by
  rintro ⟨fd, client, place, found, silent⟩
  have inside := (List.getElem?_eq_some_iff.mp examined.entry).1
  have entry : (manager.pollFd.set examination.i examination.visit.entry)[examination.i]? =
      some examination.visit.entry := List.getElem?_set_self inside
  have written : ((manager.pollFd.set examination.i examination.visit.entry).map
      PollFd.fd)[examination.i]? = some fd := place
  rw [List.getElem?_map, entry, Option.map_some, examined.visited.entry_fd,
    Option.some.injEq] at written
  rw [← written] at found
  have sameClient : (manager.examined examination).clientOf examination.entry.fd =
      some client := found
  cases visited : examination.visit.client with
  | none =>
    have missing : examination.client = none := by
      by_contra present
      obtain ⟨before, foundBefore⟩ := Option.ne_none_iff_exists'.mp present
      obtain ⟨after, foundAfter, -⟩ := examined.visited.client_some foundBefore
      exact nomatch visited.symm.trans foundAfter
    rw [Connmgr.clientOf, sockList_examined_of_none visited] at sameClient
    exact nomatch (examined.client.symm.trans missing).symm.trans sameClient
  | some other =>
    rw [examined.clientOf_self visited, Option.some.injEq] at sameClient
    refine lives (Or.inl (Or.inr ⟨other, visited, ?_⟩))
    rw [sameClient]
    omega

/-- An iteration drops its connection or finds it active. -/
theorem Connmgr.Swept.scan {manager after : Connmgr config} {began : Int}
    (swept : manager.Swept began) {input : ScanInput} (taken : manager.scan input = some after)
    (clock : began ≤ input.closeTime) : after.Swept began := by
  have tabled := swept.tabled.scan taken
  obtain ⟨examination, answered, examined, scanned⟩ := scan_scanned swept.tabled.sized taken
  obtain ⟨i, position, clean⟩ := swept.clean
  obtain rfl := Position.scanning.inj (position.symm.trans examined.position)
  have earlier (index : Nat) (positive : 1 ≤ index) (before : index < examination.i) :
      ¬ after.Idle began index := fun idle =>
    clean index positive before
      (examined.idle_of_lt scanned swept.tabled positive before idle)
  cases scanned with
  | kept lives =>
    refine ⟨tabled, swept.events, _, rfl, fun index positive before => ?_⟩
    rcases Nat.lt_succ_iff_lt_or_eq.mp before with less | rfl
    · exact earlier index positive less
    · exact examined.not_idle_of_kept lives clock
  | stopped client found wanted => exact ⟨tabled, swept.events, _, rfl, earlier⟩
  | closed client node found place other reason =>
    exact ⟨tabled, swept.events, _, rfl, earlier⟩
  | orphaned missing reason => exact ⟨tabled, swept.events, _, rfl, earlier⟩

/-- A stop request touches neither table. -/
theorem Connmgr.Swept.store {manager : Connmgr config} {began : Int}
    (swept : manager.Swept began) (id : BitVec 16) : (manager.store id).Swept began := by
  obtain ⟨i, position, clean⟩ := swept.clean
  have lawful : Lawful ⟨manager, .store id, manager.store id⟩ := fun _ _ same => nomatch same
  exact ⟨swept.tabled.step rfl lawful, swept.events, i, position, clean⟩

/-- A scan that does not run leaves both tables alone. -/
structure Connmgr.Resting (manager origin : Connmgr config) : Prop where
  events : manager.pollRet ≤ 0
  pollFd : manager.pollFd = origin.pollFd
  sockList : manager.sockList = origin.sockList

/-! ### The body -/

/-- What every event of the body keeps holds at its end. -/
theorem exists_last_of_body {manager after : Connmgr config} {body : List BodyEvent}
    {messageTime began : Int} (Invariant : Connmgr config → Prop) (initial : Invariant manager)
    (scans : ∀ before input next, Invariant before → before.scan input = some next →
      (BodyEvent.scan input).NotBefore began → Invariant next)
    (stores : ∀ before id, Invariant before → Invariant (before.store id))
    (clock : ∀ event ∈ body, event.NotBefore began)
    (ran : Runs.complete Connmgr.step manager
      (body.map BodyEvent.event ++ [.endScan messageTime]) = some after) :
    ∃ last, Invariant last ∧ last.endScan messageTime = some after := by
  rw [Runs.complete_append] at ran
  obtain ⟨last, ranBody, ended⟩ := Option.bind_eq_some_iff.mp ran
  refine ⟨last, ?_, ?_⟩
  · refine Runs.invariant_of_complete Invariant
      (fun transition => transition.event ∈ body.map BodyEvent.event) initial ?_
      (fun transition member => Runs.event_mem_of_mem_transitions member) ranBody
    intro before event next holds taken member
    obtain ⟨bodyEvent, bodyMember, rfl⟩ := List.mem_map.mp member
    cases bodyEvent with
    | scan input => exact scans before input next holds taken (clock _ bodyMember)
    | store id =>
      rw [← Option.some.inj taken]
      exact stores before id holds
  · rw [Runs.complete] at ended
    obtain ⟨next, taken, same⟩ := Option.bind_eq_some_iff.mp ended
    rw [Runs.complete] at same
    exact taken.trans same

/-- A complete body leaves no idle connection registered exactly when the scan runs, that is
when poll reported an event besides the one that the accept part took, or when no connection
was idle before. -/
theorem body_noneIdle_iff {manager after : Connmgr config} (tabled : manager.Tabled)
    {outcome : Poll} {input : AcceptInput} {body : List BodyEvent} {messageTime began : Int}
    (lawful : ∀ next, manager.poll outcome input = some next →
      manager.counter < next.counter → input.Fresh manager)
    (clockAccept : began ≤ input.activeTime) (clock : ∀ event ∈ body, event.NotBefore began)
    (ran : Runs.complete Connmgr.step manager (bodyEvents outcome input body messageTime) =
      some after) :
    after.NoneIdle began ↔ manager.Scans outcome ∨ manager.NoneIdle began := by
  obtain ⟨polled, taken, ranBody⟩ := Option.bind_eq_some_iff.mp ran
  have pollTaken : manager.poll outcome input = some polled := taken
  have running : polled.position ≠ .returned := by
    intro returned
    obtain ⟨last, holds, ended⟩ := exists_last_of_body (fun state => state.position = .returned)
      returned
      (fun before input next holds scan => by
        obtain ⟨examination, answered, -⟩ := Option.bind_eq_some_iff.mp scan
        exact nomatch holds.symm.trans (examined_of_examine answered).position)
      (fun before id holds => holds) clock ranBody
    obtain ⟨⟨i, position, -⟩, -⟩ := endScan_ended ended
    exact nomatch holds.symm.trans position
  obtain ⟨revents, result, left, position, same⟩ :=
    poll_noneIdle_iff tabled pollTaken (lawful polled pollTaken) clockAccept running
  have ending {last : Connmgr config} (ended : last.endScan messageTime = some after) :
      after.NoneIdle began ↔ last.NoneIdle began := by
    obtain ⟨-, rfl | rfl⟩ := endScan_ended ended
    · exact Iff.rfl
    · exact Iff.rfl
  rcases Int.lt_or_le 0 polled.pollRet with events | nothing
  · have swept : polled.Swept began := by
      refine ⟨tabled.poll pollTaken (lawful polled pollTaken), events, 1, position, ?_⟩
      intro index positive before
      omega
    obtain ⟨last, lastSwept, ended⟩ := exists_last_of_body (fun state => state.Swept began)
      swept (fun before input next holds scan times => holds.scan scan times.2.2)
      (fun before id holds => holds.store id) clock ranBody
    refine iff_of_true ?_ (Or.inl ⟨revents, result, left ▸ events⟩)
    refine (ending ended).mpr fun index positive idle => ?_
    obtain ⟨i, lastPosition, clean⟩ := lastSwept.clean
    obtain ⟨⟨j, samePosition, stopped⟩, -⟩ := endScan_ended ended
    obtain rfl := Position.scanning.inj (lastPosition.symm.trans samePosition)
    refine clean index positive ?_ idle
    obtain ⟨fd, client, place, -⟩ := idle
    have inside := (List.getElem?_eq_some_iff.mp place).1
    rw [List.length_map, lastSwept.tabled.sized.length] at inside
    have exhausted : ¬ i < last.counter + 1 := fun within =>
      stopped ⟨within, lastSwept.events⟩
    omega
  · have resting : polled.Resting polled := ⟨nothing, rfl, rfl⟩
    obtain ⟨last, lastResting, ended⟩ := exists_last_of_body
      (fun state => state.Resting polled) resting
      (fun before input next holds scan => by
        obtain ⟨examination, answered, -⟩ := Option.bind_eq_some_iff.mp scan
        have events := (examined_of_examine answered).events
        exact absurd events (Int.not_lt.mpr holds.events))
      (fun before id holds => ⟨holds.events, holds.pollFd, holds.sockList⟩) clock ranBody
    have none : ¬ manager.Scans outcome := by
      rintro ⟨other, sameResult, events⟩
      obtain rfl := Poll.ready.inj (result.symm.trans sameResult)
      rw [← left] at events
      omega
    rw [ending ended, noneIdle_iff_of_same (congrArg _ lastResting.pollFd) lastResting.sockList,
      same]
    exact (or_iff_right none).symm

/-- In a run in which `accept` keeps its promise, every complete body of the poll loop leaves no
connection registered that was idle when the body began, exactly when the scan runs or no
connection was idle before. -/
theorem idle_dropped_iff (listener : Int) (revents : BitVec 16) (pollRet tcpConnRet : Int)
    (uninitialised : SensorData config.layout) (earlier : List ConnmgrEvent)
    (outcome : Poll) (input : AcceptInput) (body : List BodyEvent) (messageTime began : Int)
    (manager after : Connmgr config)
    (reached : Runs.complete Connmgr.step
      (Connmgr.start listener revents pollRet tcpConnRet uninitialised) earlier = some manager)
    (ran : Runs.complete Connmgr.step manager (bodyEvents outcome input body messageTime) =
      some after)
    (lawful : ∀ transition ∈ Runs.transitions Connmgr.step
      (Connmgr.start listener revents pollRet tcpConnRet uninitialised)
      (earlier ++ bodyEvents outcome input body messageTime), Lawful transition)
    (clock : began ≤ input.activeTime ∧ ∀ event ∈ body, event.NotBefore began) :
    after.NoneIdle began ↔ manager.Scans outcome ∨ manager.NoneIdle began := by
  rw [Runs.transitions_append_of_complete reached] at lawful
  have tabled := tabled_of_complete
    (start_tabled listener revents pollRet tcpConnRet uninitialised)
    (fun transition member => lawful transition (List.mem_append_left _ member)) reached
  refine body_noneIdle_iff tabled (fun next taken => ?_) clock.1 clock.2 ran
  have first : (⟨manager, .poll outcome input, next⟩ :
      Runs.Transition (Connmgr config) ConnmgrEvent) ∈
        Runs.transitions Connmgr.step manager (bodyEvents outcome input body messageTime) := by
    unfold bodyEvents
    rw [Runs.transitions_cons_of_some (show manager.step (.poll outcome input) = some next
      from taken)]
    exact List.mem_cons_self
  exact lawful _ (List.mem_append_right _ first) outcome input rfl

/-- A sensor falls silent after its first reading. It sends again after 100 seconds: the scan runs
and drops its connection, the only one. -/
theorem idle_dropped_in_scan : ∃ manager after : Connmgr gatewayConfig,
    Runs.complete Connmgr.step gatewayStart (oneReading ++ [.endScan 1]) = some manager ∧
    Runs.complete Connmgr.step manager (bodyEvents (.returns [0, pollin])
      (accepted 5 100 0) [.scan (scanAt 100 [] [] [])] 100) = some after ∧
    manager.counter = 1 ∧ after.counter = 0 ∧ after.NoneIdle 100 := by
  refine ⟨_, _, rfl, rfl, rfl, rfl, ?_⟩
  refine (idle_dropped_iff 3 0 0 (-1) zeroData (oneReading ++ [.endScan 1])
    (.returns [0, pollin]) (accepted 5 100 0) [.scan (scanAt 100 [] [] [])] 100 100 _ _ rfl rfl
    (by decide) (by decide)).mpr ?_
  exact Or.inl ⟨_, rfl, by decide⟩

/-- A sensor connects and stays silent: poll times out after 5 and after 10 seconds, and the
connection is still registered. -/
theorem idle_kept_after_timeout :
    ¬ ∀ (earlier : List ConnmgrEvent) (outcome : Poll) (input : AcceptInput)
      (body : List BodyEvent) (messageTime began : Int) (manager after : Connmgr gatewayConfig),
      Runs.complete Connmgr.step gatewayStart earlier = some manager →
      Runs.complete Connmgr.step manager (bodyEvents outcome input body messageTime) =
        some after →
      (∀ transition ∈ Runs.transitions Connmgr.step gatewayStart
        (earlier ++ bodyEvents outcome input body messageTime), Lawful transition) →
      (began ≤ input.activeTime ∧ ∀ event ∈ body, event.NotBefore began) →
      after.NoneIdle began := by
  intro holds
  have noneIdle := holds [.poll (.returns [pollin]) (accepted 4 0 0), .endScan 0,
    .poll (.returns []) (accepted 5 5 0), .endScan 5] (.returns []) (accepted 5 10 0) [] 10 10
    _ _ rfl rfl (by decide) (by decide)
  refine noneIdle 1 (Nat.le_refl 1) ⟨4, (accepted 4 0 0 |> acceptedClient), rfl, rfl, ?_⟩
  decide

end SensorGateway
