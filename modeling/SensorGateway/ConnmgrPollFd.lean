/-
This file proves that `poll_fd` may be changed while it is scanned. A scan drops
entries from the array it walks over and moves the entries behind them one place
forward; it steps its index back by one each time. The array is then at each moment
the entry of the listening socket, the entries kept so far, and the entries not yet
examined, and the index stands at the first of the latter.

From the run of one scan follows the shape of `poll_fd` in every reachable state.

The sizes passed to `malloc` and `realloc` are read as numbers of entries: one entry at
the start, `counter + 1` entries after an accept. Nothing else depends on them.
-/

import SensorGateway.ConnmgrScan

namespace SensorGateway

variable {config : Config}

/-! ### What a scan examines and keeps -/

/-- The event is an iteration of the scan. -/
def ConnmgrEvent.isScan : ConnmgrEvent → Bool
  | .scan _ => true
  | .poll _ _ => false
  | .endScan _ => false
  | .store _ => false

/-- The event is a stop request of the data manager. -/
def ConnmgrEvent.isStore : ConnmgrEvent → Bool
  | .store _ => true
  | .poll _ _ => false
  | .scan _ => false
  | .endScan _ => false

/-- The entry that a step examines: an iteration of the scan examines one. -/
def Connmgr.examinedEntry (manager : Connmgr config) : ConnmgrEvent → Option PollFd
  | .scan input => (manager.examine input).map Examination.entry
  | .poll _ _ => none
  | .endScan _ => none
  | .store _ => none

/-- The entry that a step examines and keeps: the close test fails for it. -/
def Connmgr.keptEntry (manager : Connmgr config) : ConnmgrEvent → Option PollFd
  | .scan input => (manager.examine input).bind fun examination =>
      if examination.visit.Closes manager.connmgrSensorStopsig input then none
      else some examination.entry
  | .poll _ _ => none
  | .endScan _ => none
  | .store _ => none

/-- The entries examined by the steps of a run, in order. -/
def examinedEntries (run : List (Runs.Transition (Connmgr config) ConnmgrEvent)) : List PollFd :=
  run.filterMap fun transition => transition.before.examinedEntry transition.event

/-- The entries kept by the steps of a run, in order. -/
def keptEntries (run : List (Runs.Transition (Connmgr config) ConnmgrEvent)) : List PollFd :=
  run.filterMap fun transition => transition.before.keptEntry transition.event

/-- A scan in progress: `seen` client entries have been examined, and `kept` are those among
them that were not closed. -/
structure Scanning (start : Connmgr config) (seen : Nat) (kept : List PollFd)
    (now : Connmgr config) : Prop where
  position : now.position = .scanning (kept.length + 1)
  pollFd : now.pollFd = start.pollFd.take 1 ++ kept ++ start.pollFd.drop (seen + 1)
  counter : now.counter + seen = start.counter + kept.length
  pollRet : now.pollRet = start.pollRet
  fewer : kept.length ≤ seen

theorem scanning_start {manager : Connmgr config} (point : manager.position = .scanning 1) :
    Scanning manager 0 [] manager where
  position := point
  pollFd := by rw [List.append_nil, List.take_append_drop]
  counter := rfl
  pollRet := rfl
  fewer := Nat.le_refl 0

section Scan

variable {start now : Connmgr config} {seen : Nat} {kept : List PollFd}

theorem Scanning.store (scanning : Scanning start seen kept now) (id : BitVec 16) :
    Scanning start seen kept (now.store id) :=
  ⟨scanning.position, scanning.pollFd, scanning.counter, scanning.pollRet, scanning.fewer⟩

theorem exists_examine {manager : Connmgr config} {i : Nat} {entry : PollFd}
    (point : manager.position = .scanning i) (bound : i < manager.counter + 1)
    (reported : 0 < manager.pollRet) (present : manager.pollFd[i]? = some entry)
    (input : ScanInput) :
    ∃ examination, manager.examine input = some examination ∧ examination.i = i ∧
      examination.entry = entry := by
  unfold Connmgr.examine
  rw [point]
  dsimp only
  rw [if_pos ⟨bound, reported⟩, present]
  exact ⟨_, rfl, rfl, rfl⟩

/-- An iteration that keeps the connection leaves its entry as it was. -/
theorem Visited.entry_of_not_closes {client : Option TcpsockDpl} {entry : PollFd}
    {data : SensorData config.layout} {input : ScanInput} {visit : Visit config}
    (visited : Visited client entry data input visit) {stopsig : BitVec 16}
    (lives : ¬ visit.Closes stopsig input) : visit.entry = entry := by
  cases visited with
  | passed silent => rfl
  | reading before found receives status => rfl
  | lost before found receives status => exact absurd (Or.inr (Or.inr rfl)) lives
  | failed before found receives statusNoError statusClosed => rfl

theorem endConnection_pollRet (manager : Connmgr config) (node : Option Nat)
    (client : Option TcpsockDpl) (input : ScanInput) :
    (manager.endConnection node client input).pollRet = manager.pollRet := by
  unfold Connmgr.endConnection
  cases client with
  | none => rfl
  | some client =>
    dsimp only
    split_ifs
    · rfl
    · rfl

/-- What an iteration does to `poll_fd` when the close test succeeds: the entry goes, and the
index stays. -/
theorem scan_of_closes {manager : Connmgr config} {input : ScanInput}
    {examination : Examination config} (answered : manager.examine input = some examination)
    (size : manager.pollFd.length = manager.counter + 1)
    (closes : examination.visit.Closes manager.connmgrSensorStopsig input) :
    ∃ after, manager.scan input = some after ∧ after.position = .scanning examination.i ∧
      after.pollFd = manager.pollFd.eraseIdx examination.i ∧
      after.counter = manager.counter - 1 ∧ after.pollRet = manager.pollRet := by
  have bound := (examined_of_examine answered).bound
  obtain ⟨samePollFd, sameCounter⟩ := endConnection_pollFd (manager.examined examination)
    examination.node examination.visit.client input
  have samePollRet := endConnection_pollRet (manager.examined examination)
    examination.node examination.visit.client input
  have examinedSize : (manager.examined examination).pollFd.length =
      (manager.examined examination).counter + 1 := List.length_set.trans size
  have concluded : (manager.examined examination).conclude examination input = _ :=
    conclude_of_closes closes examinedSize bound
  refine ⟨((manager.examined examination).endConnection examination.node
    examination.visit.client input).drop examination, ?_, rfl, ?_, ?_, samePollRet⟩
  · rw [Connmgr.scan, answered, Option.bind_eq_bind, Option.bind_some, concluded]
  · unfold Connmgr.drop
    dsimp only
    rw [samePollFd]
    exact List.eraseIdx_set_eq
  · unfold Connmgr.drop
    dsimp only
    rw [sameCounter]
    rfl

/-- What an iteration does to `poll_fd` when the close test fails: nothing. -/
theorem scan_of_not_closes {manager : Connmgr config} {input : ScanInput}
    {examination : Examination config} (answered : manager.examine input = some examination)
    (lives : ¬ examination.visit.Closes manager.connmgrSensorStopsig input) :
    ∃ after, manager.scan input = some after ∧ after.position = .scanning (examination.i + 1) ∧
      after.pollFd = manager.pollFd ∧ after.counter = manager.counter ∧
      after.pollRet = manager.pollRet := by
  have examined := examined_of_examine answered
  have concluded : (manager.examined examination).conclude examination input = _ :=
    conclude_of_not_closes lives
  refine ⟨(manager.examined examination).keep examination, ?_, rfl, ?_, rfl, rfl⟩
  · rw [Connmgr.scan, answered, Option.bind_eq_bind, Option.bind_some, concluded]
  · show manager.pollFd.set examination.i examination.visit.entry = manager.pollFd
    obtain ⟨inside, present⟩ := List.getElem?_eq_some_iff.mp examined.entry
    rw [examined.visited.entry_of_not_closes lives, ← present, List.set_getElem_self]

/-- A scan in progress is at the first entry not yet examined. -/
theorem Scanning.split (scanning : Scanning start seen kept now)
    (inside : seen + 1 < start.pollFd.length) :
    now.pollFd = (start.pollFd.take 1 ++ kept) ++
      start.pollFd[seen + 1] :: start.pollFd.drop (seen + 1 + 1) := by
  rw [scanning.pollFd, List.drop_eq_getElem_cons inside]

/-- One iteration: the next entry is examined, and dropped exactly when it is to be closed. -/
theorem Scanning.scan (scanning : Scanning start seen kept now)
    (size : start.pollFd.length = start.counter + 1) (reported : 0 < start.pollRet)
    (left : seen < start.counter) (input : ScanInput) :
    ∃ after, now.scan input = some after ∧
      now.examinedEntry (.scan input) = start.pollFd[seen + 1]? ∧
      Scanning start (seen + 1) (kept ++ (now.keptEntry (.scan input)).toList) after := by
  have inside : seen + 1 < start.pollFd.length := by omega
  have counts := scanning.counter
  have fewer := scanning.fewer
  have front : (start.pollFd.take 1 ++ kept).length = kept.length + 1 := by
    rw [List.length_append, List.length_take, size]
    omega
  have nowSize : now.pollFd.length = now.counter + 1 := by
    rw [scanning.split inside, List.length_append, front, List.length_cons, List.length_drop]
    omega
  have present : now.pollFd[kept.length + 1]? = some start.pollFd[seen + 1] := by
    rw [scanning.split inside, List.getElem?_append_right (Nat.le_of_eq front), front,
      Nat.sub_self, List.getElem?_cons_zero]
  obtain ⟨examination, answered, index, entry⟩ := exists_examine scanning.position (by omega)
    (scanning.pollRet ▸ reported) present input
  have looked : now.examinedEntry (.scan input) = start.pollFd[seen + 1]? := by
    rw [Connmgr.examinedEntry, answered, Option.map_some, entry, List.getElem?_eq_getElem inside]
  by_cases closes : examination.visit.Closes now.connmgrSensorStopsig input
  · have dropped : now.keptEntry (.scan input) = none := by
      rw [Connmgr.keptEntry, answered, Option.bind_some, if_pos closes]
    obtain ⟨after, ran, position, pollFd, counter, pollRet⟩ :=
      scan_of_closes answered nowSize closes
    refine ⟨after, ran, looked, ?_⟩
    rw [dropped, Option.toList_none, List.append_nil]
    refine ⟨position.trans (congrArg _ index), ?_, by omega, pollRet.trans scanning.pollRet,
      by omega⟩
    rw [pollFd, index, scanning.split inside, ← front,
      List.eraseIdx_append_of_length_le (Nat.le_refl _), Nat.sub_self, List.eraseIdx_cons_zero]
  · have keeps : now.keptEntry (.scan input) = some start.pollFd[seen + 1] := by
      rw [Connmgr.keptEntry, answered, Option.bind_some, if_neg closes, entry]
    obtain ⟨after, ran, position, pollFd, counter, pollRet⟩ := scan_of_not_closes answered closes
    refine ⟨after, ran, looked, ?_⟩
    rw [keeps, Option.toList_some]
    have longer : (kept ++ [start.pollFd[seen + 1]]).length = kept.length + 1 :=
      List.length_append
    refine ⟨?_, ?_, by omega, pollRet.trans scanning.pollRet, by omega⟩
    · rw [position, index, longer]
    · rw [pollFd, scanning.split inside]
      simp only [List.append_assoc, List.cons_append, List.nil_append]

/-- Iterations and stop requests in any order: each iteration examines the next entry. -/
theorem Scanning.run (scanning : Scanning start seen kept now)
    (size : start.pollFd.length = start.counter + 1) (reported : 0 < start.pollRet)
    {events : List ConnmgrEvent} (inScan : ∀ event ∈ events, event.isScan ∨ event.isStore)
    (enough : seen + events.countP ConnmgrEvent.isScan ≤ start.counter) :
    ∃ after, Runs.complete Connmgr.step now events = some after ∧
      examinedEntries (Runs.transitions Connmgr.step now events) =
        (start.pollFd.drop (seen + 1)).take (events.countP ConnmgrEvent.isScan) ∧
      Scanning start (seen + events.countP ConnmgrEvent.isScan)
        (kept ++ keptEntries (Runs.transitions Connmgr.step now events)) after := by
  induction events generalizing seen kept now with
  | nil =>
    refine ⟨now, rfl, rfl, ?_⟩
    have nothing : kept ++ keptEntries (Runs.transitions Connmgr.step now []) = kept :=
      List.append_nil kept
    rw [nothing]
    exact scanning
  | cons event rest inductionHypothesis =>
    have restInScan := fun other member => inScan other (List.mem_cons_of_mem event member)
    cases event with
    | poll outcome input =>
      exact absurd (inScan _ List.mem_cons_self)
        (by simp [ConnmgrEvent.isScan, ConnmgrEvent.isStore])
    | endScan messageTime =>
      exact absurd (inScan _ List.mem_cons_self)
        (by simp [ConnmgrEvent.isScan, ConnmgrEvent.isStore])
    | store id =>
      have taken : now.step (.store id) = some (now.store id) := rfl
      obtain ⟨after, ran, looked, reached⟩ :=
        inductionHypothesis (scanning.store id) restInScan enough
      rw [Runs.transitions_cons_of_some taken, Runs.complete, taken, Option.bind_some]
      exact ⟨after, ran, looked, reached⟩
    | scan input =>
      have count : (ConnmgrEvent.scan input :: rest).countP ConnmgrEvent.isScan =
          rest.countP ConnmgrEvent.isScan + 1 := List.countP_cons_of_pos rfl
      rw [count] at enough ⊢
      have left : seen < start.counter := by omega
      have inside : seen + 1 < start.pollFd.length := by omega
      obtain ⟨next, ran, looked, entered⟩ := scanning.scan size reported left input
      have taken : now.step (.scan input) = some next := ran
      obtain ⟨after, ranRest, lookedRest, reached⟩ :=
        inductionHypothesis entered restInScan (by omega)
      rw [Runs.transitions_cons_of_some taken, Runs.complete, taken, Option.bind_some]
      refine ⟨after, ranRest, ?_, ?_⟩
      · rw [List.getElem?_eq_getElem inside] at looked
        rw [List.drop_eq_getElem_cons inside, List.take_succ_cons, ← lookedRest]
        exact List.filterMap_cons_some looked
      · have whole : keptEntries (⟨now, .scan input, next⟩ ::
            Runs.transitions Connmgr.step next rest) =
              (now.keptEntry (.scan input)).toList ++
                keptEntries (Runs.transitions Connmgr.step next rest) := by
          unfold keptEntries
          rw [List.filterMap_cons]
          cases now.keptEntry (.scan input) with
          | none => rfl
          | some entry => rfl
        have order : seen + 1 + rest.countP ConnmgrEvent.isScan =
            seen + (rest.countP ConnmgrEvent.isScan + 1) := by omega
        rw [whole, ← List.append_assoc, ← order]
        exact reached

/-- Until all entries have been examined, the scan goes on. -/
theorem Scanning.endScan (scanning : Scanning start seen kept now)
    (reported : 0 < start.pollRet) (left : seen < start.counter) (messageTime : Int) :
    now.endScan messageTime = none := by
  have counts := scanning.counter
  have more : kept.length + 1 < now.counter + 1 ∧ now.pollRet > 0 :=
    ⟨by omega, scanning.pollRet ▸ reported⟩
  unfold Connmgr.endScan
  rw [scanning.position]
  exact if_pos more

end Scan

/-- The result of a whole scan that begins at `manager` and leaves it at `after`. -/
structure ScanSound (manager after : Connmgr config)
    (run : List (Runs.Transition (Connmgr config) ConnmgrEvent)) : Prop where
  /-- Each client entry was examined exactly once, in order. -/
  examined : examinedEntries run = manager.pollFd.drop 1
  /-- The entries not closed remain, unchanged and in order. -/
  pollFd : after.pollFd = manager.pollFd.take 1 ++ keptEntries run
  counter : after.counter = (keptEntries run).length
  /-- The loop condition fails. -/
  ended : after.position = .scanning (after.counter + 1)

/-! ### Every reachable state -/

/-- What holds of `poll_fd` throughout. -/
structure Connmgr.Bounded (listener : Int) (manager : Connmgr config) : Prop where
  sized : manager.Sized
  bound : manager.counter ≤ config.maxConn
  listening : manager.pollFd[0]?.map PollFd.fd = some listener

theorem fd_polledEntries (pollFd : List PollFd) (revents : Nat → BitVec 16) (index : Nat) :
    (polledEntries pollFd revents)[index]?.map PollFd.fd = pollFd[index]?.map PollFd.fd := by
  rw [getElem?_polledEntries, Option.map_map]
  rfl

theorem start_bounded (listener : Int) (revents : BitVec 16) (pollRet tcpConnRet : Int)
    (uninitialised : SensorData config.layout) :
    (Connmgr.start listener revents pollRet tcpConnRet uninitialised).Bounded listener where
  sized := start_sized listener revents pollRet tcpConnRet uninitialised
  bound := Nat.zero_le _
  listening := rfl

section Bounded

variable {listener : Int} {manager after : Connmgr config}

theorem Connmgr.Bounded.poll (bounded : manager.Bounded listener) {outcome : Poll}
    {input : AcceptInput} (taken : manager.poll outcome input = some after) :
    after.Bounded listener := by
  have sized := bounded.sized.poll taken
  have entries (revents : Nat → BitVec 16) :=
    (fd_polledEntries manager.pollFd revents 0).trans bounded.listening
  obtain ⟨-, polled⟩ := poll_polled taken
  cases polled with
  | failed result => exact ⟨sized, bounded.bound, bounded.listening⟩
  | finished revents result nothing unconnected => exact ⟨sized, bounded.bound, entries revents⟩
  | skipped revents result unready => exact ⟨sized, bounded.bound, entries revents⟩
  | refused revents result ready => exact ⟨sized, bounded.bound, entries revents⟩
  | registered revents result ready sockList inserted =>
    refine ⟨sized, ready.2, ?_⟩
    dsimp only
    rw [set_append_acceptedEntry bounded.sized.length, List.getElem?_append_left]
    · exact entries revents
    · rw [length_polledEntries, bounded.sized.length]
      omega

theorem Connmgr.Bounded.scan (bounded : manager.Bounded listener) {input : ScanInput}
    (taken : manager.scan input = some after) : after.Bounded listener := by
  have sized := bounded.sized.scan taken
  obtain ⟨examination, answered, -⟩ := Option.bind_eq_some_iff.mp taken
  have examined := examined_of_examine answered
  have positive := bounded.sized.index _ examined.position
  have bound := bounded.bound
  by_cases closes : examination.visit.Closes manager.connmgrSensorStopsig input
  · obtain ⟨next, ran, -, pollFd, counter, -⟩ :=
      scan_of_closes answered bounded.sized.length closes
    obtain rfl := Option.some.inj (ran.symm.trans taken)
    refine ⟨sized, by omega, ?_⟩
    rw [pollFd, List.getElem?_eraseIdx_of_lt (by omega)]
    exact bounded.listening
  · obtain ⟨next, ran, -, pollFd, counter, -⟩ := scan_of_not_closes answered closes
    obtain rfl := Option.some.inj (ran.symm.trans taken)
    refine ⟨sized, by omega, ?_⟩
    rw [pollFd]
    exact bounded.listening

theorem Connmgr.Bounded.step (bounded : manager.Bounded listener) {event : ConnmgrEvent}
    (taken : manager.step event = some after) : after.Bounded listener := by
  have sized := bounded.sized.step taken
  cases event with
  | poll outcome input => exact bounded.poll taken
  | scan input => exact bounded.scan taken
  | endScan messageTime =>
    obtain ⟨-, rfl | rfl⟩ := endScan_ended taken
    · exact ⟨sized, bounded.bound, bounded.listening⟩
    · exact ⟨sized, bounded.bound, bounded.listening⟩
  | store id =>
    obtain rfl := Option.some.inj taken
    exact ⟨sized, bounded.bound, bounded.listening⟩

end Bounded

/-- A scan over any `poll_fd` with one entry more than there are connections examines every
client entry once and in order, reads and writes inside the array only (the model has no step
otherwise), does not end before, and leaves the entries that it did not close. In every
reachable state there are at most MAX_CONN connections, `poll_fd` has one entry more, and the
first one is the listening socket. -/
theorem pollFd_scan_sound :
    (∀ (manager : Connmgr config) (events : List ConnmgrEvent),
      manager.pollFd.length = manager.counter + 1 → manager.position = .scanning 1 →
      0 < manager.pollRet → (∀ event ∈ events, event.isScan ∨ event.isStore) →
      events.countP ConnmgrEvent.isScan = manager.counter →
      (∃ after, Runs.complete Connmgr.step manager events = some after ∧
        ScanSound manager after (Runs.transitions Connmgr.step manager events)) ∧
      ∀ earlier later, events = earlier ++ later →
        earlier.countP ConnmgrEvent.isScan < manager.counter →
        ∃ middle, Runs.complete Connmgr.step manager earlier = some middle ∧
          ∀ messageTime, middle.endScan messageTime = none) ∧
    ∀ (listener : Int) (revents : BitVec 16) (pollRet tcpConnRet : Int)
      (uninitialised : SensorData config.layout) (events : List ConnmgrEvent)
      (reached : Connmgr config),
      Runs.complete Connmgr.step
        (Connmgr.start listener revents pollRet tcpConnRet uninitialised) events = some reached →
      reached.counter ≤ config.maxConn ∧ reached.pollFd.length = reached.counter + 1 ∧
        reached.pollFd[0]?.map PollFd.fd = some listener := by
  refine ⟨fun manager events size point reported inScan count => ⟨?_, ?_⟩, ?_⟩
  · obtain ⟨after, ran, looked, reached⟩ :=
      (scanning_start point).run size reported inScan (by omega)
    rw [count, Nat.zero_add] at reached
    rw [count, Nat.zero_add, List.take_of_length_le (by rw [List.length_drop]; omega)] at looked
    have whole := reached.pollFd
    rw [List.drop_eq_nil_of_le (by omega), List.append_nil, List.nil_append] at whole
    have counter := reached.counter
    have length : after.counter = (keptEntries _).length := Nat.add_right_cancel
      (counter.trans (Nat.add_comm _ _))
    exact ⟨after, ran, looked, whole, length, length ▸ reached.position⟩
  · rintro earlier later rfl fewer
    obtain ⟨middle, ran, -, reached⟩ := (scanning_start point).run size reported
      (fun event member => inScan event (List.mem_append_left later member)) (by omega)
    exact ⟨middle, ran, reached.endScan reported (by omega)⟩
  · intro listener revents pollRet tcpConnRet uninitialised events reached ran
    have bounded := Runs.invariant_of_complete (Connmgr.Bounded listener) (fun _ => True)
      (start_bounded listener revents pollRet tcpConnRet uninitialised)
      (fun before event after holds taken _ => holds.step taken) (fun _ _ => trivial) ran
    exact ⟨bounded.bound, bounded.sized.length, bounded.listening⟩

/-- Three connections, of which the first two have hung up. -/
def hungUp : Connmgr gatewayConfig :=
  { gatewayStart with
    pollFd := [⟨3, pollin, 0⟩, ⟨4, pollin, pollhup⟩, ⟨5, pollin, pollhup⟩, ⟨6, pollin, 0⟩]
    counter := 3
    pollRet := 2
    position := .scanning 1 }

theorem pollFd_scan_sound_hungUp :
    (∃ after, Runs.complete Connmgr.step hungUp
        [.scan (scanAt 1 [] [] []), .store 9, .scan (scanAt 1 [] [] []),
          .scan (scanAt 1 [] [] [])] = some after ∧
      ScanSound hungUp after (Runs.transitions Connmgr.step hungUp
        [.scan (scanAt 1 [] [] []), .store 9, .scan (scanAt 1 [] [] []),
          .scan (scanAt 1 [] [] [])])) ∧
    gatewayStart.counter ≤ gatewayConfig.maxConn :=
  ⟨(pollFd_scan_sound.1 hungUp _ rfl rfl (by decide) (by decide) rfl).1,
    (pollFd_scan_sound.2 3 0 0 (-1) zeroData [] gatewayStart rfl).1⟩

end SensorGateway
