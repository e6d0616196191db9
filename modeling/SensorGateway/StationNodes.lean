/-
This file is about the data manager at its work in the station, with the lookup that is
meant. Each node holds what the readings of its sensor make of it, whatever the other
threads and the other sensors do, and a stop is requested once for each reading of a
sensor without a node.
-/

import SensorGateway.Station

namespace SensorGateway

variable {config : Config} {rooms : DatamgrConfig} {Conn : Type}

/-! ### The nodes after some readings -/

/-- The nodes after readings: each is updated by those of its sensor. -/
def updatedNodes (entries : List (Address × SensorNode rooms)) (readings : List SensorReading) :
    List (Address × SensorNode rooms) :=
  entries.map fun entry => (entry.1, entry.2.updateAll (ofSensor entry.2.sensor.id readings))

theorem SensorNode.updateAll_id (node : SensorNode rooms) (readings : List SensorReading) :
    (node.updateAll readings).sensor.id = node.sensor.id := by
  induction readings generalizing node with
  | nil => rfl
  | cons reading rest inductionHypothesis =>
    exact (inductionHypothesis _).trans (node.update_id reading)

theorem sensorsOf_updatedNodes (entries : List (Address × SensorNode rooms))
    (readings : List SensorReading) :
    sensorsOf (updatedNodes entries readings) = sensorsOf entries := by
  unfold sensorsOf updatedNodes
  rw [List.map_map]
  refine List.map_congr_left fun entry _ => ?_
  exact entry.2.updateAll_id _

/-- One more reading updates the nodes of its sensor. -/
theorem updatedNodes_append (entries : List (Address × SensorNode rooms))
    (readings : List SensorReading) (reading : SensorReading) :
    updatedNodes entries (readings ++ [reading]) =
      (updatedNodes entries readings).map fun entry =>
        if entry.2.sensor.id = reading.id then (entry.1, (entry.2.update reading).1)
        else entry := by
  unfold updatedNodes
  rw [List.map_map]
  refine List.map_congr_left fun entry _ => ?_
  rw [Function.comp_apply]
  dsimp only
  rw [SensorNode.updateAll_id, ofSensor, List.filter_append]
  by_cases own : entry.2.sensor.id = reading.id
  · rw [if_pos own, List.filter_singleton, decide_eq_true own.symm, cond_true,
      SensorNode.updateAll, List.foldl_append]
    rfl
  · rw [if_neg own, List.filter_singleton, decide_eq_false (Ne.symm own), cond_false,
      List.append_nil]
    rfl

/-- A turn with the lookup that is meant updates the nodes of the reading's sensor, or requests a
stop if there are none. -/
theorem turn_updates {datamgr : Datamgr rooms} {entries : List (Address × SensorNode rooms)}
    {readings : List SensorReading} (distinct : (sensorsOf entries).Nodup)
    (shown : Shows datamgr.dplist (updatedNodes entries readings))
    (scratch : LoopVariables rooms) (reading : SensorReading) :
    ∃ after rest, datamgr.turn .meant scratch reading = some (after, rest) ∧
      Shows after.dplist (updatedNodes entries (readings ++ [reading])) ∧
      (rest.i = -1 ↔ reading.id ∉ sensorsOf entries) := by
  have sensors := sensorsOf_updatedNodes entries readings
  by_cases mapped : reading.id ∈ sensorsOf entries
  · have tracks : datamgr.Tracks ⟨updatedNodes entries readings, datamgr.stopsig⟩ := ⟨shown, rfl⟩
    obtain ⟨after, rest, ran, ⟨later, -⟩⟩ := turn_tracks tracks
      (show (sensorsOf (updatedNodes entries readings)).Nodup by rw [sensors]; exact distinct)
      scratch reading
    obtain ⟨entry, member, own⟩ := List.mem_map.mp (sensors.symm ▸ mapped)
    rw [Board.route, if_pos ⟨entry, member, own⟩, ← updatedNodes_append] at later
    refine ⟨after, rest, ran, later, iff_of_false (fun missing => ?_) (not_not.mpr mapped)⟩
    exact (turn_sensors meant_sound shown ran).2 missing (sensors.symm ▸ mapped)
  · have absent : ∀ entry ∈ updatedNodes entries readings, entry.2.sensor.id ≠ reading.id :=
      fun entry member own => mapped (sensors ▸ List.mem_map.mpr ⟨entry, member, own⟩)
    refine ⟨_, _, turn_meant_absent shown absent scratch, ?_, iff_of_true rfl mapped⟩
    have same : updatedNodes entries (readings ++ [reading]) = updatedNodes entries readings := by
      rw [updatedNodes_append]
      exact (List.map_congr_left fun entry member => if_neg (absent entry member)).trans
        (List.map_id _)
    rw [same]
    exact shown

/-! ### The stop requests -/

/-- The sensors that the data manager has requested to stop. -/
def requestedStops {layout : Layout} (log : List (Action layout)) : List (BitVec 16) :=
  log.filterMap fun action =>
    match action with
    | .writeStopsig .datamgr id => some id
    | _ => none

theorem requestedStops_append {layout : Layout} (first second : List (Action layout)) :
    requestedStops (first ++ second) = requestedStops first ++ requestedStops second :=
  List.filterMap_append

theorem requestedStops_store (connmgr : Connmgr config) (id : BitVec 16) :
    requestedStops (connmgr.store id).log = requestedStops connmgr.log ++ [id] :=
  requestedStops_append _ _

/-- The other steps of the connection manager request nothing. -/
theorem requestedStops_step {connmgr after : Connmgr config} (sized : connmgr.Sized)
    {event : ConnmgrEvent} (taken : connmgr.step event = some after)
    (own : ∀ id, event ≠ .store id) :
    requestedStops after.log = requestedStops connmgr.log := by
  have quiet (rest : List (Action config.layout)) (nothing : requestedStops rest = [])
      (log : after.log = connmgr.log ++ rest) :
      requestedStops after.log = requestedStops connmgr.log := by
    rw [log, requestedStops_append, nothing, List.append_nil]
  cases event with
  | poll outcome input =>
    obtain ⟨-, polled⟩ := poll_polled taken
    cases polled with
    | failed result => rfl
    | finished revents result nothing unconnected => exact quiet [_] rfl rfl
    | skipped revents result unready => exact quiet [_] rfl rfl
    | refused revents result ready => exact quiet [_, _] rfl (List.append_assoc _ _ _)
    | registered revents result ready sockList inserted =>
      exact quiet [_, _, _] rfl (List.append_assoc _ _ _)
  | scan input =>
    obtain ⟨examination, answered, examined, scanned⟩ := scan_scanned sized taken
    obtain ⟨rest, log, kinds⟩ := scanned.exists_rest
    rw [List.append_assoc] at log
    refine quiet _ ?_ log
    rw [requestedStops_append]
    have visit : requestedStops examination.visit.actions = [] :=
      examined.visited.filterMap_eq_nil fun action kind => by cases kind <;> rfl
    have ending : requestedStops rest = [] := by
      refine List.filterMap_eq_nil_iff.mpr fun action member => ?_
      rcases kinds action member with kind | rfl
      · cases kind <;> rfl
      · rfl
    rw [visit, ending, List.append_nil]
  | endScan messageTime =>
    obtain ⟨-, rfl | rfl⟩ := endScan_ended taken
    · rfl
    · exact quiet [_] rfl rfl
  | store id => exact absurd rfl (own id)

/-! ### The data manager in the station -/

/-- The readings that the data manager has processed. -/
def Station.managed (setting : Setting config rooms Conn) (station : Station config rooms Conn) :
    List SensorReading :=
  (station.gateway.loops .datamgr).processed.map setting.decode

/-- The nodes hold what the data manager has processed, and it has requested a stop for each reading
without a node. -/
structure Station.Routed (setting : Setting config rooms Conn)
    (entries : List (Address × SensorNode rooms)) (station : Station config rooms Conn) :
    Prop where
  shown : Shows station.datamgr.dplist (updatedNodes entries (station.managed setting))
  requests : requestedStops station.connmgr.log =
    ((station.managed setting).map SensorReading.id).filter fun id => id ∉ sensorsOf entries

section Routed

variable {setting : Setting config rooms Conn} {entries : List (Address × SensorNode rooms)}
  {uninitialised : Consumer → SensorData config.layout}
  {station next : Station config rooms Conn}

/-- A step of another thread. -/
theorem Station.Routed.other (routed : station.Routed setting entries)
    (nodes : next.datamgr = station.datamgr)
    (loop : (next.gateway.loops .datamgr).processed =
      (station.gateway.loops .datamgr).processed)
    (log : requestedStops next.connmgr.log = requestedStops station.connmgr.log) :
    next.Routed setting entries := by
  have managed : next.managed setting = station.managed setting := by
    rw [Station.managed, loop, Station.managed]
  constructor
  · rw [nodes, managed]
    exact routed.shown
  · rw [log, managed]
    exact routed.requests

/-- An iteration of the data manager's loop, which has a result. -/
theorem Station.Routed.manage (routed : station.Routed setting entries)
    (sound : station.Sound setting (sensorsOf entries) uninitialised)
    (meant : setting.lookup = .meant) (distinct : (sensorsOf entries).Nodup) :
    ∃ after, station.manage setting = some after ∧ after.Routed setting entries := by
  obtain ⟨history, conserves⟩ := sound.conserves
  obtain ⟨gateway, data, iterated, -, -, updated, -⟩ :=
    conserves.iterate (station.indexOf setting) .datamgr
  obtain ⟨running, latest, processed, -⟩ := processed_of_update updated
  obtain ⟨datamgr, scratch, ran, shown, requested⟩ :=
    turn_updates distinct routed.shown station.scratch (setting.decode data)
  refine ⟨{ station with
    connmgr := if scratch.i = -1 then station.connmgr.store (setting.decode data).id
      else station.connmgr
    gateway, datamgr, scratch }, ?_, ?_, ?_⟩
  · unfold Station.manage
    simp only [iterated, Option.bind_eq_bind, Option.bind_some, if_pos running, latest, meant, ran]
  · dsimp only [Station.managed]
    rw [processed, List.map_append]
    exact shown
  · dsimp only [Station.managed]
    rw [processed, List.map_append, List.map_append, List.filter_append, ← Station.managed,
      ← routed.requests]
    by_cases missing : scratch.i = -1
    · rw [if_pos missing, requestedStops_store]
      refine congrArg _ (List.filter_eq_self.mpr fun id member => ?_).symm
      rw [List.mem_singleton.mp member]
      exact decide_eq_true (requested.mp missing)
    · rw [if_neg missing]
      refine (List.append_nil _).symm.trans (congrArg _ ?_)
      refine (List.filter_eq_nil_iff.mpr fun id member => ?_).symm
      rw [List.mem_singleton.mp member]
      simpa using mt requested.mpr missing

/-- Every step keeps the nodes and the requests. -/
theorem Station.Routed.step (routed : station.Routed setting entries)
    (sound : station.Sound setting (sensorsOf entries) uninitialised)
    (meant : setting.lookup = .meant) (distinct : (sensorsOf entries).Nodup)
    {event : StationEvent} (taken : station.step setting event = some next) :
    next.Routed setting entries := by
  cases event with
  | poll outcome input =>
    obtain ⟨connmgr, polled, rfl⟩ := Option.map_eq_some_iff.mp taken
    have stepped : station.connmgr.step (.poll outcome input) = some connmgr := polled
    exact routed.other rfl rfl
      (requestedStops_step sound.sized stepped fun _ => ConnmgrEvent.noConfusion)
  | scan input granted =>
    obtain ⟨connmgr, scanned, rest⟩ := Option.bind_eq_some_iff.mp taken
    obtain ⟨gateway, inserted, built⟩ := Option.bind_eq_some_iff.mp rest
    obtain ⟨history, conserves⟩ := sound.conserves
    obtain ⟨-, loops, -⟩ := conserves.insertEach inserted
    obtain rfl := Option.some.inj built
    have stepped : station.connmgr.step (.scan input) = some connmgr := scanned
    exact routed.other rfl (by rw [loops])
      (requestedStops_step sound.sized stepped fun _ => ConnmgrEvent.noConfusion)
  | endScan messageTime =>
    obtain ⟨connmgr, ended, rfl⟩ := Option.map_eq_some_iff.mp taken
    have stepped : station.connmgr.step (.endScan messageTime) = some connmgr := ended
    exact routed.other rfl rfl
      (requestedStops_step sound.sized stepped fun _ => ConnmgrEvent.noConfusion)
  | datamgr =>
    obtain ⟨after, ran, later⟩ := routed.manage sound meant distinct
    obtain rfl := Option.some.inj (ran.symm.trans taken)
    exact later
  | storagemgr =>
    obtain ⟨history, conserves⟩ := sound.conserves
    obtain ⟨gateway, data, iterated, -, -, updated, -⟩ :=
      conserves.iterate (station.indexOf setting) .storagemgr
    obtain ⟨running, latest, -, others⟩ := processed_of_update updated
    change station.record setting = some next at taken
    unfold Station.record at taken
    simp only [iterated, Option.bind_eq_bind, Option.bind_some, if_pos running, latest] at taken
    obtain ⟨outcome, -, built⟩ := Option.bind_eq_some_iff.mp taken
    obtain rfl := Option.some.inj built
    exact routed.other rfl (by rw [others .datamgr (by decide)]) rfl

end Routed

/-! ### Whole runs -/

section Runs

variable {setting : Setting config rooms Conn} {dplist : SensorList rooms}
  {entries : List (Address × SensorNode rooms)} {conn : Conn} (listener : Int)
  (revents : BitVec 16) (pollRet tcpConnRet : Int) (received : SensorData config.layout)
  (uninitialised : Consumer → SensorData config.layout) (scratch : LoopVariables rooms)

/-- With the lookup that is meant and distinct sensors, whatever the order of the steps: each node
is what the readings of its sensor that the data manager has processed make of it, and the stop
requests are the sensors of its other readings, in order. -/
theorem station_nodes (meant : setting.lookup = .meant) (faithful : setting.sqlite.Exact)
    (shown : Shows dplist entries) (distinct : (sensorsOf entries).Nodup)
    (empty : setting.sqlite.table conn = []) (events : List StationEvent) :
    ∃ last, Runs.final (Station.step setting)
        (Station.start listener revents pollRet tcpConnRet received uninitialised dplist scratch
          conn) events = last ∧
      Shows last.datamgr.dplist (updatedNodes entries (last.managed setting)) ∧
      requestedStops last.connmgr.log =
        ((last.managed setting).map SensorReading.id).filter fun id =>
          id ∉ sensorsOf entries := by
  have initial : (Station.start listener revents pollRet tcpConnRet received uninitialised dplist
      scratch conn).Sound setting (sensorsOf entries) uninitialised :=
    Station.start_sound listener revents pollRet tcpConnRet received uninitialised scratch shown
      empty
  have nodes : updatedNodes entries [] = entries := by
    unfold updatedNodes
    exact List.map_id _
  have fresh : (Station.start listener revents pollRet tcpConnRet received uninitialised dplist
      scratch conn).Routed setting entries := by
    constructor
    · show Shows dplist (updatedNodes entries [])
      rw [nodes]
      exact shown
    · rfl
  have kept : (Runs.final (Station.step setting)
      (Station.start listener revents pollRet tcpConnRet received uninitialised dplist scratch
        conn) events).Sound setting (sensorsOf entries) uninitialised ∧
      (Runs.final (Station.step setting)
        (Station.start listener revents pollRet tcpConnRet received uninitialised dplist scratch
          conn) events).Routed setting entries :=
    Runs.invariant_final
      (fun station : Station config rooms Conn =>
        station.Sound setting (sensorsOf entries) uninitialised ∧ station.Routed setting entries)
      ⟨initial, fresh⟩
      fun _ _ _ held taken => ⟨held.1.step (Lookup.sound_of_known (Or.inr meant)) faithful taken,
        held.2.step held.1 meant distinct taken⟩
  exact ⟨_, rfl, kept.2.shown, kept.2.requests⟩

theorem station_nodes_oneSensor :
    ∃ loaded address, loadSensorMap makefileNode (mapFile [(1, 15)]) = some loaded ∧
      ∃ last, Runs.final (Station.step zeroSetting) (stationWith loaded) sensorFive = last ∧
        Shows last.datamgr.dplist (updatedNodes [(address, freshNode makefileNode (1, 15))]
          (last.managed zeroSetting)) := by
  obtain ⟨loaded, address, ran, shown⟩ := exists_oneSensor
  obtain ⟨last, ends, nodes, -⟩ := station_nodes 3 0 0 (-1) zeroData (fun _ => zeroData)
    ⟨makefileNode, 0⟩ (show zeroSetting.lookup = .meant from rfl) memorySqlite_exact shown
    (List.nodup_singleton _) rfl sensorFive
  exact ⟨loaded, address, ran, last, ends, nodes⟩

end Runs

end SensorGateway
