/-
This file is about finding the node of a sensor. The data manager is meant to be a table
of nodes, one for each sensor of the map, and each reading and each question goes to the
node with its sensor id. The board states that purpose; the loop over the readings and
the functions that answer for a sensor are compared with it.

They look a node up by passing the sensor id itself as the element to search for. The
comparison callback takes it for the address of a node, so that the search is stuck at
the first node. Only a list without nodes is searched without a comparison, and only
there do the loop and the answers do what the board says.
-/

import SensorGateway.SensorMap

namespace SensorGateway

variable {config : DatamgrConfig}

/-! ### The board -/

/-- The nodes of the sensors, and the stop request for the connection manager. -/
structure Board (config : DatamgrConfig) where
  nodes : List (Address × SensorNode config)
  stopsig : BitVec 16

/-- The sensors that have a node. -/
def Board.sensors (board : Board config) : List (BitVec 16) :=
  board.nodes.map fun entry => entry.2.sensor.id

/-- A reading of a sensor that has a node updates this node, a reading of another sensor becomes
the stop request. -/
def Board.route (board : Board config) (reading : SensorReading) : Board config :=
  if ∃ entry ∈ board.nodes, entry.2.sensor.id = reading.id then
    { board with nodes := board.nodes.map fun entry =>
        if entry.2.sensor.id = reading.id then (entry.1, (entry.2.update reading).1) else entry }
  else { board with stopsig := reading.id }

/-- The data manager is as the board has it. -/
def Datamgr.Tracks (datamgr : Datamgr config) (board : Board config) : Prop :=
  Shows datamgr.dplist board.nodes ∧ datamgr.stopsig = board.stopsig

/-- The data manager processes the readings, and each of them is routed as on the board. -/
def Datamgr.Routes : Datamgr config → Board config → List SensorReading → Prop
  | datamgr, board, [] => datamgr.Tracks board
  | datamgr, board, reading :: rest => datamgr.Tracks board ∧
    ∃ after, datamgr.process reading = some after ∧ after.Routes (board.route reading) rest

/-- What the functions return for a sensor: the members of its node if it has one, otherwise -1
with a complaint. -/
def Datamgr.Answers (datamgr : Datamgr config) (board : Board config) (sensorId : BitVec 16) :
    Prop :=
  (∀ entry ∈ board.nodes, entry.2.sensor.id = sensorId →
    datamgr.getRoomId sensorId = some (entry.2.roomId, "") ∧
    datamgr.getAvg sensorId = some (entry.2.sensor.value, "") ∧
    datamgr.getLastModified sensorId = some (entry.2.sensor.ts, "")) ∧
  (sensorId ∉ board.sensors →
    datamgr.getRoomId sensorId = some (-1, "Cannot get room id of the sensor node with " ++
      printId sensorId ++ "\n") ∧
    datamgr.getAvg sensorId = some (-1, "Cannot get avg of the sensor node with " ++
      printId sensorId ++ "\n") ∧
    datamgr.getLastModified sensorId = some (-1,
      "Cannot get the last time modified of the sensor node with " ++ printId sensorId ++ "\n"))

/-! ### The search -/

section Search

variable {dplist : SensorList config} {entries : List (Address × SensorNode config)}

theorem Shows.head_eq_none_iff (shown : Shows dplist entries) :
    dplist.head = none ↔ entries = [] := by
  obtain ⟨contents, represents, elements⟩ := shown.represents
  rw [represents.head_eq_none_iff, ← List.map_eq_nil_iff, elements, List.map_eq_nil_iff]

theorem getElementAtIndex_empty (empty : dplist.head = none) (world : Heap (SensorNode config))
    (index : Int) : Dplist.getElementAtIndex { dplist with world } index = some 0 := by
  unfold Dplist.getElementAtIndex
  rw [if_pos empty]

/-- The search for a number is stuck at the first node. -/
theorem getIndexOfElement_number (shown : Shows dplist entries) (id : BitVec 16) :
    dplist.getIndexOfElement (sensorCallbacks config) (.number id) =
      if entries = [] then some (-1, dplist.world) else none := by
  unfold Dplist.getIndexOfElement
  by_cases empty : entries = []
  · rw [if_pos (shown.head_eq_none_iff.mpr empty), if_pos empty]
  · rw [if_neg (mt shown.head_eq_none_iff.mp empty), if_neg empty]
    obtain ⟨first, head⟩ := Option.ne_none_iff_exists'.mp (mt shown.head_eq_none_iff.mp empty)
    rw [head]
    cases dplist.nodes.bound with
    | zero => rfl
    | succ fuel =>
      rw [Dplist.search]
      cases dplist.nodes.read first with
      | none => rfl
      | some node => rfl

end Search

section Empty

variable {datamgr : Datamgr config} {entries : List (Address × SensorNode config)}

/-- A reading is processed only when there is no node; it becomes the stop request. -/
theorem process_eq (shown : Shows datamgr.dplist entries) (reading : SensorReading) :
    datamgr.process reading =
      if entries = [] then some {
        dplist := datamgr.dplist
        stopsig := reading.id
        reports := datamgr.reports ++ [.unknownSensor reading.id] }
      else none := by
  rw [Datamgr.process, getIndexOfElement_number shown]
  by_cases empty : entries = []
  · rw [if_pos empty, if_pos empty]
    rfl
  · rw [if_neg empty, if_neg empty]
    rfl

/-- A question is answered only when there is no node; the answer is -1 with a complaint. -/
theorem lookUp_eq {Answer : Type} (shown : Shows datamgr.dplist entries) (sensorId : BitVec 16)
    (member : SensorNode config → Answer) (minusOne : Answer) (what : String) :
    datamgr.lookUp sensorId member minusOne what =
      if entries = [] then some (minusOne,
        "Cannot get " ++ what ++ " of the sensor node with " ++ printId sensorId ++ "\n")
      else none := by
  rw [Datamgr.lookUp, getIndexOfElement_number shown]
  by_cases empty : entries = []
  · rw [if_pos empty, if_pos empty, Option.bind_eq_bind, Option.bind_some]
    dsimp only
    rw [getElementAtIndex_empty (shown.head_eq_none_iff.mpr empty)]
    rfl
  · rw [if_neg empty, if_neg empty]
    rfl

end Empty

/-! ### The readings -/

/-- The data manager starts as the board with a fresh node for each line has it. -/
theorem loaded_tracks (uninitialised : SensorNode config) (stopsig : BitVec 16)
    (lines : List (BitVec 16 × BitVec 16)) :
    ∃ loaded nodes, loadSensorMap uninitialised (mapFile lines) = some loaded ∧
      Datamgr.Tracks ⟨loaded, stopsig, []⟩ ⟨nodes, stopsig⟩ ∧
      nodes.map Prod.snd = lines.reverse.map (freshNode uninitialised) := by
  obtain ⟨loaded, nodes, ran, shown, fresh⟩ :=
    loadLoop_of_empty lines (scratch_live uninitialised)
  exact ⟨loaded, nodes, ran, ⟨shown, rfl⟩, fresh⟩

theorem eq_nil_iff_of_fresh {nodes : List (Address × SensorNode config)}
    {uninitialised : SensorNode config} {lines : List (BitVec 16 × BitVec 16)}
    (fresh : nodes.map Prod.snd = lines.reverse.map (freshNode uninitialised)) :
    nodes = [] ↔ lines = [] := by
  rw [← List.map_eq_nil_iff, fresh, List.map_eq_nil_iff, List.reverse_eq_nil_iff]

section Readings

variable {datamgr : Datamgr config} {board : Board config}

theorem routes_of_no_nodes (tracks : datamgr.Tracks board) (empty : board.nodes = [])
    (readings : List SensorReading) : datamgr.Routes board readings := by
  induction readings generalizing datamgr board with
  | nil => exact tracks
  | cons reading rest inductionHypothesis =>
    have unknown : ¬∃ entry ∈ board.nodes, entry.2.sensor.id = reading.id := by
      rw [empty]
      simp only [List.not_mem_nil, false_and, exists_false, not_false_eq_true]
    refine ⟨tracks, _, (process_eq tracks.1 reading).trans (if_pos empty), ?_⟩
    rw [Board.route, if_neg unknown]
    exact inductionHypothesis ⟨tracks.1, rfl⟩ empty

/-- Readings are routed exactly when there is no node to find or no reading to route. -/
theorem routes_iff (tracks : datamgr.Tracks board) (readings : List SensorReading) :
    datamgr.Routes board readings ↔ board.nodes = [] ∨ readings = [] := by
  cases readings with
  | nil => exact iff_of_true tracks (Or.inr rfl)
  | cons reading rest =>
    rw [or_iff_left (List.cons_ne_nil reading rest)]
    refine ⟨fun routes => ?_, fun empty => routes_of_no_nodes tracks empty _⟩
    obtain ⟨-, after, processed, -⟩ := routes
    by_contra nonempty
    rw [process_eq tracks.1, if_neg nonempty] at processed
    cases processed

end Readings

/-- For every map and every sequence of readings: the map is loaded, and the readings are routed to
their nodes exactly when the map has no line or there is no reading. -/
theorem readings_routed_iff (uninitialised : SensorNode config) (stopsig : BitVec 16)
    (lines : List (BitVec 16 × BitVec 16)) (readings : List SensorReading) :
    ∃ loaded nodes, loadSensorMap uninitialised (mapFile lines) = some loaded ∧
      nodes.map Prod.snd = lines.reverse.map (freshNode uninitialised) ∧
      Datamgr.Tracks ⟨loaded, stopsig, []⟩ ⟨nodes, stopsig⟩ ∧
      (Datamgr.Routes ⟨loaded, stopsig, []⟩ ⟨nodes, stopsig⟩ readings ↔
        lines = [] ∨ readings = []) := by
  obtain ⟨loaded, nodes, ran, tracks, fresh⟩ := loaded_tracks uninitialised stopsig lines
  refine ⟨loaded, nodes, ran, fresh, tracks, ?_⟩
  rw [routes_iff tracks, ← eq_nil_iff_of_fresh fresh]

/-- The first reading for a map with one line is not processed at all: the search for its sensor
is stuck. -/
theorem reading_not_routed :
    ∃ loaded nodes, loadSensorMap makefileNode (mapFile [(1, 15)]) = some loaded ∧
      Datamgr.Tracks ⟨loaded, 0, []⟩ ⟨nodes, 0⟩ ∧
      Board.sensors ⟨nodes, 0⟩ = [15] ∧
      Datamgr.process ⟨loaded, 0, []⟩ ⟨15, 20, 1⟩ = none ∧
      ¬Datamgr.Routes ⟨loaded, 0, []⟩ ⟨nodes, 0⟩ [⟨15, 20, 1⟩] := by
  obtain ⟨loaded, nodes, ran, tracks, fresh⟩ := loaded_tracks makefileNode 0 [(1, 15)]
  have nonempty : nodes ≠ [] := mt (eq_nil_iff_of_fresh fresh).mp (by simp)
  refine ⟨loaded, nodes, ran, tracks, ?_, ?_, ?_⟩
  · have ids := congrArg (List.map fun node => node.sensor.id) fresh
    rwa [List.map_map] at ids
  · rw [process_eq tracks.1, if_neg nonempty]
  · rw [routes_iff tracks]
    simp [nonempty]

/-! ### The answers -/

/-- The readings that are processed leave the nodes alone. -/
theorem Shows.processAll {datamgr after : Datamgr config}
    {entries : List (Address × SensorNode config)} (shown : Shows datamgr.dplist entries)
    {readings : List SensorReading} (ran : datamgr.processAll readings = some after) :
    Shows after.dplist entries := by
  induction readings generalizing datamgr with
  | nil =>
    rw [← Option.some.inj ran]
    exact shown
  | cons reading rest inductionHypothesis =>
    obtain ⟨next, processed, others⟩ := Option.bind_eq_some_iff.mp ran
    rw [process_eq shown] at processed
    split_ifs at processed with empty
    refine inductionHypothesis ?_ others
    rw [← Option.some.inj processed]
    exact shown

/-- The data manager answers for a sensor exactly when it has no node. -/
theorem answers_iff {datamgr : Datamgr config} {board : Board config}
    (shown : Shows datamgr.dplist board.nodes) (sensorId : BitVec 16) :
    datamgr.Answers board sensorId ↔ board.nodes = [] := by
  constructor
  · rintro ⟨mapped, unmapped⟩
    by_contra nonempty
    have stuck : datamgr.getRoomId sensorId = none := by
      rw [Datamgr.getRoomId, lookUp_eq shown, if_neg nonempty]
    by_cases member : sensorId ∈ board.sensors
    · obtain ⟨entry, present, same⟩ := List.mem_map.mp member
      exact absurd (stuck.symm.trans (mapped entry present same).1) (by simp)
    · exact absurd (stuck.symm.trans (unmapped member).1) (by simp)
  · intro empty
    refine ⟨fun entry member => ?_, fun _ => ?_⟩
    · rw [empty] at member
      exact absurd member List.not_mem_nil
    · unfold Datamgr.getRoomId Datamgr.getAvg Datamgr.getLastModified
      rw [lookUp_eq shown, lookUp_eq shown, lookUp_eq shown, if_pos empty, if_pos empty,
        if_pos empty]
      exact ⟨rfl, rfl, rfl⟩

/-- For every map, every sequence of readings that is processed and every sensor id: the functions
answer for the sensor exactly when the map has no line. -/
theorem getters_answer_iff (uninitialised : SensorNode config) (stopsig : BitVec 16)
    (lines : List (BitVec 16 × BitVec 16)) :
    ∃ loaded, loadSensorMap uninitialised (mapFile lines) = some loaded ∧
      ∀ readings after, Datamgr.processAll ⟨loaded, stopsig, []⟩ readings = some after →
        ∃ board, after.Tracks board ∧
          board.sensors = lines.reverse.map Prod.snd ∧
          ∀ sensorId, after.Answers board sensorId ↔ lines = [] := by
  obtain ⟨loaded, nodes, ran, tracks, fresh⟩ := loaded_tracks uninitialised stopsig lines
  refine ⟨loaded, ran, fun readings after processed => ?_⟩
  have still : Shows after.dplist nodes := tracks.1.processAll processed
  refine ⟨⟨nodes, after.stopsig⟩, ⟨still, rfl⟩, ?_, fun sensorId => ?_⟩
  · have ids := congrArg (List.map fun node => node.sensor.id) fresh
    rwa [List.map_map, List.map_map] at ids
  · exact (answers_iff still sensorId).trans (eq_nil_iff_of_fresh fresh)

/-- The room of the only sensor of a map is not returned. -/
theorem room_not_returned :
    ∃ loaded nodes, loadSensorMap makefileNode (mapFile [(1, 15)]) = some loaded ∧
      Datamgr.Tracks ⟨loaded, 0, []⟩ ⟨nodes, 0⟩ ∧
      nodes.map Prod.snd = [freshNode makefileNode (1, 15)] ∧
      Datamgr.getRoomId ⟨loaded, 0, []⟩ 15 = none ∧
      ¬Datamgr.Answers ⟨loaded, 0, []⟩ ⟨nodes, 0⟩ 15 := by
  obtain ⟨loaded, nodes, ran, tracks, fresh⟩ := loaded_tracks makefileNode 0 [(1, 15)]
  have nonempty : nodes ≠ [] := mt (eq_nil_iff_of_fresh fresh).mp (by simp)
  refine ⟨loaded, nodes, ran, tracks, fresh, ?_, ?_⟩
  · rw [Datamgr.getRoomId, lookUp_eq tracks.1, if_neg nonempty]
  · rw [answers_iff tracks.1]
    exact nonempty

end SensorGateway
