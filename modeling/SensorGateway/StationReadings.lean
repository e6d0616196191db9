/-
This file follows readings through the whole gateway: from the bytes on a connection, through
the three receives of the connection manager and the shared buffer, to the loop of one of the
two consumers and, by way of the storage manager, to the database.

The connection manager of the station runs as the connection manager alone does, so that
what is known of its receives holds here. When no field is cut short and `malloc` grants
every node of the buffer, each reading sent on a connection is handed on once, in order,
whatever the other connections and threads do; and one that has left the buffer has been
processed.
-/

import SensorGateway.NodeReadings
import SensorGateway.Station

namespace SensorGateway

open Fragments

variable {config : Config} {rooms : DatamgrConfig} {Conn : Type} {layout : Layout}

/-! ### Readings of one connection -/

theorem sinceRegistered_sublist (fd : Int) (log : List (Action layout)) :
    (sinceRegistered fd log).Sublist log := by
  induction log using List.reverseRecOn with
  | nil => exact List.Sublist.refl _
  | append_singleton log action inductionHypothesis =>
    rcases sinceRegistered_append_singleton fd log action with anew | longer
    · rw [anew]
      exact List.nil_sublist _
    · rw [longer]
      exact inductionHypothesis.append (List.Sublist.refl _)

/-- The readings of a connection are among those of all connections, in order. -/
theorem insertedReadings_sublist (fd : Int) (log : List (Action layout)) :
    (insertedReadings fd log).Sublist (offeredReadings log) := by
  have own : (insertedReadings fd log).Sublist (offeredReadings (sinceRegistered fd log)) := by
    unfold insertedReadings offeredReadings
    induction sinceRegistered fd log with
    | nil => exact List.Sublist.refl _
    | cons action rest inductionHypothesis =>
      cases action with
      | sbufferInsert sd data =>
        by_cases here : sd = fd
        · have taken : Action.insertedFor fd (.sbufferInsert sd data) = some data := if_pos here
          rw [List.filterMap_cons_some taken]
          exact inductionHypothesis.cons_cons data
        · have left : Action.insertedFor fd (.sbufferInsert sd data) = none := if_neg here
          rw [List.filterMap_cons_none left]
          exact inductionHypothesis.cons data
      | _ => exact inductionHypothesis
  exact own.trans ((sinceRegistered_sublist fd log).filterMap _)

/-! ### Readings removed from the buffer -/

/-- A loop has processed what it has removed. -/
def Gateway.Handled {Data : Type} (gateway : Gateway Data) : Prop :=
  ∀ entry ∈ gateway.removals, entry.2 ∈ (gateway.loops entry.1).processed

/-- An iteration processes what is in the variable afterwards, unless the remove fails. -/
theorem Loop.iterate_processed {Data : Type} {indexOf : Data → Int} {consumer : Consumer}
    {memory after : Memory Data} {buffer : Pointer} {loop later : Loop Data}
    {status : SbufferStatus}
    (iterated : loop.iterate (consumer.body indexOf) memory buffer = some (status, later, after)) :
    (∀ data ∈ loop.processed, data ∈ later.processed) ∧
      (status = .success → later.data ∈ later.processed) := by
  obtain ⟨⟨result, data, left⟩, -, built⟩ := Option.bind_eq_some_iff.mp iterated
  dsimp only at built
  split_ifs at built with failed
  · obtain ⟨rfl, rest⟩ := Prod.mk.inj (Option.some.inj built)
    obtain ⟨rfl, rfl⟩ := Prod.mk.inj rest
    unfold Loop.processed
    dsimp only
    rw [List.map_append, List.map_singleton, consumer.reading_body]
    exact ⟨fun data member => List.mem_append_left _ member,
      fun _ => List.mem_append_right _ (List.mem_singleton_self _)⟩
  · obtain ⟨rfl, rest⟩ := Prod.mk.inj (Option.some.inj built)
    obtain ⟨rfl, rfl⟩ := Prod.mk.inj rest
    refine ⟨fun data member => member, fun succeeded => ?_⟩
    rw [succeeded] at failed
    exact absurd (by decide) failed

theorem Gateway.Handled.step {Data : Type} {gateway next : Gateway Data}
    (handled : gateway.Handled) {indexOf : Data → Int} {event : GatewayEvent Data}
    (taken : gateway.step indexOf event = some next) : next.Handled := by
  cases event with
  | insert data granted =>
    obtain ⟨⟨status, memory⟩, -, built⟩ := Option.bind_eq_some_iff.mp taken
    dsimp only at built
    split_ifs at built
    · rw [← Option.some.inj built]
      exact handled
    · rw [← Option.some.inj built]
      exact handled
  | iterate consumer =>
    unfold Gateway.step at taken
    dsimp only at taken
    split_ifs at taken with running
    obtain ⟨⟨status, loop, memory⟩, iterated, built⟩ := Option.bind_eq_some_iff.mp taken
    obtain ⟨kept, processed⟩ := Loop.iterate_processed iterated
    obtain rfl := Option.some.inj built
    have earlier : ∀ entry ∈ gateway.removals,
        entry.2 ∈ (Function.update gateway.loops consumer loop entry.1).processed := by
      intro entry member
      by_cases own : entry.1 = consumer
      · rw [own, Function.update_self]
        exact kept _ (own ▸ handled entry member)
      · rw [Function.update_of_ne own]
        exact handled entry member
    unfold Gateway.Handled
    dsimp only
    split_ifs with succeeded
    · refine List.forall_mem_append.mpr ⟨earlier, List.forall_mem_singleton.mpr ?_⟩
      dsimp only
      rw [Function.update_self]
      exact processed succeeded
    · exact earlier

/-- Inserts remove nothing. -/
theorem Gateway.Handled.insertEach {Data : Type} {gateway next : Gateway Data}
    (handled : gateway.Handled) {indexOf : Data → Int} {granted : Bool} {readings : List Data}
    (taken : gateway.insertEach indexOf granted readings = some next) : next.Handled := by
  induction readings generalizing gateway with
  | nil => exact Option.some.inj taken ▸ handled
  | cons data rest inductionHypothesis =>
    obtain ⟨middle, first, others⟩ := Option.bind_eq_some_iff.mp taken
    exact inductionHypothesis (handled.step first) others

/-! ### The station hands everything on -/

/-- The inserts of an event get their nodes. -/
def StationEvent.Granted : StationEvent → Prop
  | .scan _ granted => granted = true
  | _ => True

instance : DecidablePred StationEvent.Granted
  | .poll _ _ => inferInstanceAs (Decidable True)
  | .scan _ granted => inferInstanceAs (Decidable (granted = true))
  | .endScan _ => inferInstanceAs (Decidable True)
  | .datamgr => inferInstanceAs (Decidable True)
  | .storagemgr => inferInstanceAs (Decidable True)

/-- The connection manager has run as it does alone, the buffer has accepted all it was offered, and
the loops have processed what they have removed. -/
structure Station.HandsOn (start : Connmgr config) (station : Station config rooms Conn) :
    Prop where
  reached : ∃ events, Runs.complete Connmgr.step start events = some station.connmgr
  accepted : station.gateway.accepted = offeredReadings station.connmgr.log
  handled : station.gateway.Handled

section Steps

variable {setting : Setting config rooms Conn} {sensors : List (BitVec 16)}
  {uninitialised : Consumer → SensorData config.layout} {start connmgr : Connmgr config}
  {station next : Station config rooms Conn}

/-- One more step of the connection manager. -/
theorem reached_step
    (reached : ∃ events, Runs.complete Connmgr.step start events = some station.connmgr)
    {event : ConnmgrEvent} (taken : station.connmgr.step event = some connmgr) :
    ∃ events, Runs.complete Connmgr.step start events = some connmgr := by
  obtain ⟨events, ran⟩ := reached
  refine ⟨events ++ [event], ?_⟩
  rw [Runs.complete_append, ran, Option.bind_some, Runs.complete, taken]
  rfl

/-- A step of the connection manager outside the scan offers nothing. -/
theorem Station.HandsOn.quiet (handsOn : station.HandsOn start) {event : ConnmgrEvent}
    (taken : station.connmgr.step event = some connmgr) (other : ∀ input, event ≠ .scan input) :
    Station.HandsOn start { station with connmgr } := by
  obtain ⟨rest, log, outside⟩ := log_of_not_scan taken other
  refine ⟨reached_step handsOn.reached taken, ?_, handsOn.handled⟩
  dsimp only
  rw [log, offeredReadings_append, offeredReadings_of_outside outside, List.append_nil]
  exact handsOn.accepted

/-- An iteration of a consumer's loop leaves what was accepted as it is. -/
theorem Gateway.accepted_iterate {Data : Type} {gateway later : Gateway Data}
    {indexOf : Data → Int} {consumer : Consumer}
    (taken : gateway.step indexOf (.iterate consumer) = some later) :
    later.accepted = gateway.accepted := by
  unfold Gateway.step at taken
  dsimp only at taken
  split_ifs at taken with running
  obtain ⟨⟨status, loop, memory⟩, -, built⟩ := Option.bind_eq_some_iff.mp taken
  rw [← Option.some.inj built]

/-- Every step whose inserts get their nodes hands everything on. -/
theorem Station.HandsOn.step (handsOn : station.HandsOn start)
    (sound : station.Sound setting sensors uninitialised) {event : StationEvent}
    (taken : station.step setting event = some next) (granted : event.Granted) :
    next.HandsOn start := by
  cases event with
  | poll outcome input =>
    obtain ⟨connmgr, polled, rfl⟩ := Option.map_eq_some_iff.mp taken
    have stepped : station.connmgr.step (.poll outcome input) = some connmgr := polled
    exact handsOn.quiet stepped fun _ => ConnmgrEvent.noConfusion
  | scan input grants =>
    obtain rfl : grants = true := granted
    obtain ⟨connmgr, scanned, rest⟩ := Option.bind_eq_some_iff.mp taken
    obtain ⟨gateway, inserted, built⟩ := Option.bind_eq_some_iff.mp rest
    obtain rfl := Option.some.inj built
    have stepped : station.connmgr.step (.scan input) = some connmgr := scanned
    obtain ⟨history, conserves⟩ := sound.conserves
    obtain ⟨-, -, accepted⟩ := conserves.insertEach inserted
    refine ⟨reached_step handsOn.reached stepped, ?_, handsOn.handled.insertEach inserted⟩
    obtain ⟨examination, -, -, scan⟩ := scan_scanned sound.sized scanned
    obtain ⟨actions, log, -⟩ := scan.exists_rest
    rw [List.append_assoc] at log
    dsimp only
    rw [accepted, newActions_of_append log, if_pos rfl, handsOn.accepted, log]
    exact (offeredReadings_append _ _).symm
  | endScan messageTime =>
    obtain ⟨connmgr, ended, rfl⟩ := Option.map_eq_some_iff.mp taken
    have stepped : station.connmgr.step (.endScan messageTime) = some connmgr := ended
    exact handsOn.quiet stepped fun _ => ConnmgrEvent.noConfusion
  | datamgr =>
    obtain ⟨gateway, iterated, rest⟩ := Option.bind_eq_some_iff.mp taken
    have accepted := (Gateway.accepted_iterate iterated).trans handsOn.accepted
    have handled := handsOn.handled.step iterated
    split_ifs at rest
    · obtain ⟨⟨datamgr, scratch⟩, -, built⟩ := Option.bind_eq_some_iff.mp rest
      obtain rfl := Option.some.inj built
      by_cases missing : scratch.i = -1
      · have stored : station.connmgr.step (.store (setting.decode
            (gateway.loops .datamgr).data).id) = some (station.connmgr.store (setting.decode
              (gateway.loops .datamgr).data).id) := rfl
        refine ⟨?_, ?_, handled⟩
        · dsimp only
          rw [if_pos missing]
          exact reached_step handsOn.reached stored
        · dsimp only
          rw [if_pos missing, accepted, Connmgr.store, offeredReadings_append]
          exact (List.append_nil _).symm
      · refine ⟨?_, ?_, handled⟩
        · dsimp only
          rw [if_neg missing]
          exact handsOn.reached
        · dsimp only
          rw [if_neg missing]
          exact accepted
    · obtain rfl := Option.some.inj rest
      exact ⟨handsOn.reached, accepted, handled⟩
  | storagemgr =>
    obtain ⟨gateway, iterated, rest⟩ := Option.bind_eq_some_iff.mp taken
    have accepted := (Gateway.accepted_iterate iterated).trans handsOn.accepted
    have handled := handsOn.handled.step iterated
    split_ifs at rest
    · obtain ⟨outcome, -, built⟩ := Option.bind_eq_some_iff.mp rest
      obtain rfl := Option.some.inj built
      exact ⟨handsOn.reached, accepted, handled⟩
    · obtain rfl := Option.some.inj rest
      exact ⟨handsOn.reached, accepted, handled⟩

end Steps

/-! ### Whole runs -/

/-- A reading that is mirrored has a row. -/
theorem Mirrors.exists_row {readings : List SensorReading} {table : List SensorRow}
    (mirrors : Mirrors readings table) {reading : SensorReading} (member : reading ∈ readings) :
    ∃ row ∈ table, Stores reading row := by
  obtain ⟨index, inside, same⟩ := List.getElem_of_mem member
  obtain ⟨lengths, stores⟩ := List.forall₂_iff_get.mp mirrors.stores
  refine ⟨_, List.get_mem table ⟨index, lengths ▸ inside⟩, ?_⟩
  have stored := stores index inside (lengths ▸ inside)
  rwa [List.get_eq_getElem, same] at stored

section Runs

variable {setting : Setting config rooms Conn} {dplist : SensorList rooms}
  {entries : List (Address × SensorNode rooms)} {conn : Conn} {listener : Int}
  {revents : BitVec 16} {pollRet tcpConnRet : Int} {received : SensorData config.layout}
  {uninitialised : Consumer → SensorData config.layout} {scratch : LoopVariables rooms}

/-- In every run in which `malloc` grants the nodes of the buffer, for every connection whose client
sends readings, and perhaps a part of one more, and whose fields are all received whole: the
readings are handed on in order, and all of them once the end is found. They are part, in order, of
what the consumers have removed followed by what is in the buffer, and this is all that was received
on any connection. One that has left the buffer has been processed by the data manager, or has a
row in the database. -/
theorem sent_readings_reach_consumers
    (known : setting.lookup = .code ∨ setting.lookup = .meant) (faithful : setting.sqlite.Exact)
    (shown : Shows dplist entries) (empty : setting.sqlite.table conn = [])
    {events : List StationEvent} {last : Station config rooms Conn}
    (ran : Runs.complete (Station.step setting)
      (Station.start listener revents pollRet tcpConnRet received uninitialised dplist scratch
        conn) events = some last)
    (granted : ∀ event ∈ events, event.Granted) {fd : Int} {cut : Fragmentation}
    {readings : List (SensorData config.layout)} {rest : List UInt8}
    (short : rest.length ≤ 2 + config.layout.sizeofValue)
    (whole : cut.Whole (config.layout.fieldSizes (readings.length + 1)))
    (delivers : Delivers cut (sentStream readings ++ rest) (receivesOn fd last.connmgr.log)) :
    Transferred fd last.connmgr.log readings ∧
      ∃ self waiting, last.gateway.buffer = some self ∧
        last.gateway.memory.Represents self waiting ∧
        last.gateway.removals.map Prod.snd ++ waiting = offeredReadings last.connmgr.log ∧
        (insertedReadings fd last.connmgr.log).Sublist
          (last.gateway.removals.map Prod.snd ++ waiting) ∧
        ∀ reading ∈ insertedReadings fd last.connmgr.log,
          reading ∈ waiting ∨ reading ∈ (last.gateway.loops .datamgr).processed ∨
            ∃ row ∈ setting.sqlite.table last.conn, Stores (setting.decode reading) row := by
  have initial := Station.start_sound listener revents pollRet tcpConnRet received uninitialised
    scratch shown empty
  have fresh : Station.HandsOn (Connmgr.start listener revents pollRet tcpConnRet received)
      (Station.start listener revents pollRet tcpConnRet received uninitialised dplist scratch
        conn) :=
    ⟨⟨[], rfl⟩, rfl, fun entry member => absurd member List.not_mem_nil⟩
  obtain ⟨sound, handsOn⟩ := Runs.invariant_of_complete
    (fun station : Station config rooms Conn =>
      station.Sound setting (sensorsOf entries) uninitialised ∧
        station.HandsOn (Connmgr.start listener revents pollRet tcpConnRet received))
    (fun transition => transition.event.Granted) ⟨initial, fresh⟩
    (fun _ _ _ held taken admitted =>
      ⟨held.1.step (Lookup.sound_of_known known) faithful taken,
        held.2.step held.1 taken admitted⟩)
    (fun transition member => granted _ (Runs.event_mem_of_mem_transitions member)) ran
  obtain ⟨connmgrEvents, reached⟩ := handsOn.reached
  have transferred := transferred_of_partial listener revents pollRet tcpConnRet received reached
    short whole delivers
  obtain ⟨history, simulates, conserved⟩ := sound.conserves
  obtain ⟨self, points, represents⟩ := simulates.buffer
  have everything : last.gateway.removals.map Prod.snd ++ history.waiting =
      offeredReadings last.connmgr.log := by
    rw [simulates.removals, conserved, ← simulates.accepted, handsOn.accepted]
  have part : (insertedReadings fd last.connmgr.log).Sublist
      (last.gateway.removals.map Prod.snd ++ history.waiting) :=
    everything ▸ insertedReadings_sublist fd last.connmgr.log
  refine ⟨transferred, self, history.waiting, points, represents, everything, part,
    fun reading member => ?_⟩
  rcases List.mem_append.mp (part.subset member) with removed | waits
  · obtain ⟨⟨consumer, data⟩, entry, rfl⟩ := List.mem_map.mp removed
    have processed := handsOn.handled _ entry
    cases consumer with
    | datamgr => exact Or.inr (Or.inl processed)
    | storagemgr =>
      exact Or.inr (Or.inr (sound.mirrors.exists_row (List.mem_map_of_mem processed)))
  · exact Or.inl waits

/-- A reading of sensor 5. -/
def fiveData : SensorData gatewayConfig.layout := { zeroData with id := Field.ofWord 5 }

/-- Sensor 5 sends two readings: the data manager takes the first one, and the storage manager the
second one. -/
theorem sent_readings_reach_consumers_sensorFive :
    ∃ last, Runs.complete (Station.step zeroSetting)
        (stationWith (Dplist.create (Heap.empty (SensorNode makefileConfig)))) sensorFive =
          some last ∧
      Transferred 4 last.connmgr.log [fiveData, fiveData] ∧
      last.gateway.removals = [(.datamgr, fiveData), (.storagemgr, fiveData)] := by
  have shown : Shows (Dplist.create (Heap.empty (SensorNode makefileConfig))) [] :=
    ⟨⟨[], create_represents _, rfl⟩, by simp, List.nodup_nil⟩
  obtain ⟨last, ran, removals, delivers⟩ :
      ∃ last, Runs.complete (Station.step zeroSetting)
          (stationWith (Dplist.create (Heap.empty (SensorNode makefileConfig)))) sensorFive =
            some last ∧
        last.gateway.removals = [(.datamgr, fiveData), (.storagemgr, fiveData)] ∧
        Delivers ⟨fun _ => 8, fun _ => by decide⟩ (sentStream [fiveData, fiveData] ++ [])
          (receivesOn 4 last.connmgr.log) := by
    refine ⟨_, rfl, rfl, ?_⟩
    decide
  obtain ⟨transferred, -⟩ := sent_readings_reach_consumers
    (show zeroSetting.lookup = .code ∨ zeroSetting.lookup = .meant from Or.inr rfl)
    memorySqlite_exact shown rfl ran (by decide) (Nat.zero_le _) (by
      simp only [Layout.fieldSizes, List.length_cons, List.length_nil,
        Fragmentation.whole_cons_iff, Fragmentation.whole_nil]
      decide) delivers
  exact ⟨last, ran, transferred, removals⟩

end Runs

end SensorGateway
