/-
This file is about the loop over the readings and the lookup that it is meant to use: the
one that returns the node with the sensor id of the reading.

The loop is written once with the lookup and its variables as arguments. With the lookup
of the code it is the loop of the data manager, which depends on no variable of the turn
before. With the one that is meant, a reading updates the first node with its sensor id
and leaves the others alone. So sensors do not influence each other: where the ids are
distinct, a node and the alerts of its sensor depend on the readings of the sensor only,
in whatever order they come with those of others.

The time of a reading is stored in one member of the node, and the function that answers
for it returns another. The answer is the time of the last reading when this is 0.
-/

import SensorGateway.Library.Streams
import SensorGateway.SensorLookup
import SensorGateway.SensorWindow

namespace SensorGateway

variable {config : DatamgrConfig}

/-! ### The loop and its variables -/

/-- A lookup: `dpl_get_index_of_element` for a sensor id, and `dpl_get_element_at_index`. -/
structure Lookup (config : DatamgrConfig) where
  indexOf : SensorList config → BitVec 16 → Option (Int × Heap (SensorNode config))
  elementAt : SensorList config → Int → Option VoidPointer

/-- The lookup of the code. -/
def Lookup.code : Lookup config where
  indexOf dplist id := dplist.getIndexOfElement (sensorCallbacks config) (.number id)
  elementAt dplist i := dplist.getElementAtIndex i

/-- The variables that are declared outside the loop over the readings. -/
structure LoopVariables (config : DatamgrConfig) where
  tempnode : SensorNode config
  i : Int

/-- The body of the loop over the readings, with its variables. `sbuffer_remove` has filled
`tempnode.sensor`. -/
def Datamgr.turn (lookup : Lookup config) (datamgr : Datamgr config)
    (scratch : LoopVariables config) (reading : SensorReading) :
    Option (Datamgr config × LoopVariables config) := do
  let tempnode := { scratch.tempnode with sensor := reading }
  let (i, world) ← lookup.indexOf datamgr.dplist tempnode.sensor.id
  let dplist := { datamgr.dplist with world }
  if i = -1 then
    some ({
      dplist
      stopsig := tempnode.sensor.id
      reports := datamgr.reports ++ [.unknownSensor tempnode.sensor.id] }, { tempnode, i })
  else
    let temp ← lookup.elementAt dplist i
    let node ← temp.read world
    let (node, alert) := node.update tempnode.sensor
    let world ← temp.write world node
    some ({ datamgr with
      dplist := { dplist with world }
      reports := datamgr.reports ++ alert.toList }, { tempnode, i })

/-- The loop over the readings. -/
def Datamgr.turns (lookup : Lookup config) :
    Datamgr config → LoopVariables config → List SensorReading →
      Option (Datamgr config × LoopVariables config)
  | datamgr, scratch, [] => some (datamgr, scratch)
  | datamgr, scratch, reading :: rest => do
    let (datamgr, scratch) ← datamgr.turn lookup scratch reading
    Datamgr.turns lookup datamgr scratch rest

/-- The shape of the functions that answer for a sensor. -/
def Datamgr.lookUpWith {Answer : Type} (lookup : Lookup config) (datamgr : Datamgr config)
    (sensorId : BitVec 16) (member : SensorNode config → Answer) (minusOne : Answer)
    (what : String) : Option (Answer × String) := do
  let (i, world) ← lookup.indexOf datamgr.dplist sensorId
  let node ← lookup.elementAt { datamgr.dplist with world } i
  if node = 0 then
    some (minusOne,
      "Cannot get " ++ what ++ " of the sensor node with " ++ printId sensorId ++ "\n")
  else
    let node ← node.read world
    some (member node, "")

/-- The time of the last reading of a sensor. -/
def Datamgr.getLastModifiedWith (lookup : Lookup config) (datamgr : Datamgr config)
    (sensorId : BitVec 16) : Option (Int × String) :=
  datamgr.lookUpWith lookup sensorId (fun node => node.sensor.ts) (-1) "the last time modified"

/-- With the lookup of the code, the body of the loop is the one of the data manager, whatever its
variables hold. -/
theorem turn_code (datamgr : Datamgr config) (scratch : LoopVariables config)
    (reading : SensorReading) :
    (datamgr.turn .code scratch reading).map Prod.fst = datamgr.process reading := by
  unfold Datamgr.turn Datamgr.process Lookup.code
  simp only [Option.bind_eq_bind, Option.map_bind]
  refine congrArg _ (funext fun found => ?_)
  rw [Function.comp_apply]
  split_ifs
  · rfl
  · simp only [Option.map_bind, Function.comp_def]
    rfl

/-- What a turn does to the data manager does not depend on what the variables hold. -/
theorem turn_scratch (lookup : Lookup config) (datamgr : Datamgr config)
    (scratch other : LoopVariables config) (reading : SensorReading) :
    (datamgr.turn lookup scratch reading).map Prod.fst =
      (datamgr.turn lookup other reading).map Prod.fst := by
  unfold Datamgr.turn
  simp only [Option.bind_eq_bind, Option.map_bind]
  refine congrArg _ (funext fun found => ?_)
  rw [Function.comp_apply, Function.comp_apply]
  split_ifs
  · rfl
  · simp only [Option.map_bind, Function.comp_def]
    rfl

theorem turns_code (datamgr : Datamgr config) (scratch : LoopVariables config)
    (readings : List SensorReading) :
    (datamgr.turns .code scratch readings).map Prod.fst = datamgr.processAll readings := by
  induction readings generalizing datamgr scratch with
  | nil => rfl
  | cons reading rest inductionHypothesis =>
    rw [Datamgr.turns, Datamgr.processAll, ← turn_code datamgr scratch reading]
    simp only [Option.bind_eq_bind, Option.map_bind, Option.bind_map]
    exact congrArg _ (funext fun after => inductionHypothesis after.1 after.2)

theorem turns_single (lookup : Lookup config) (datamgr : Datamgr config)
    (scratch : LoopVariables config) (reading : SensorReading) :
    datamgr.turns lookup scratch [reading] = datamgr.turn lookup scratch reading := by
  rw [Datamgr.turns]
  cases datamgr.turn lookup scratch reading with
  | none => rfl
  | some after => rfl

theorem getLastModifiedWith_code (datamgr : Datamgr config) (sensorId : BitVec 16) :
    datamgr.getLastModifiedWith .code sensorId = datamgr.getLastModified sensorId := rfl

/-! ### The lookup that is meant -/

/-- The elements of the nodes from a pointer on. -/
def elementsFrom {Element : Type} (nodes : Nodes Element) : Nat → Pointer → Option (List Element)
  | _, none => some []
  | 0, some _ => none
  | fuel + 1, some pt => do
    let node ← nodes.read pt
    let rest ← elementsFrom nodes fuel node.next
    some (node.element :: rest)

/-- The elements of a list. -/
def Dplist.elements {World Element : Type} (list : Dplist World Element) :
    Option (List Element) := elementsFrom list.nodes list.nodes.bound list.head

/-- The lookup that is meant: the index is that of the first node with the sensor id, -1 if there is
none, and the element is the one at the index. -/
def Lookup.meant : Lookup config where
  indexOf dplist id := do
    let elements ← dplist.elements
    let nodes ← elements.mapM (VoidPointer.read dplist.world)
    let index := nodes.findIdx? fun node => node.sensor.id = id
    some ((index.map Int.ofNat).getD (-1), dplist.world)
  elementAt dplist i := do
    let elements ← dplist.elements
    elements[i.toNat]?

theorem elementsFrom_eq {Element : Type} {nodes : Nodes Element} {before start : Pointer}
    {contents : List (Address × Element)} (chained : Chained nodes before start contents none)
    {fuel : Nat} (enough : contents.length ≤ fuel) :
    elementsFrom nodes fuel start = some (contents.map Prod.snd) := by
  induction contents generalizing before start fuel with
  | nil =>
    obtain rfl := chained
    cases fuel <;> rfl
  | cons entry rest inductionHypothesis =>
    obtain ⟨place, found⟩ := entry
    obtain ⟨rfl, node, live, -, rfl, tail⟩ := chained
    obtain ⟨fuel, rfl⟩ := Nat.exists_eq_add_one_of_ne_zero (Nat.ne_zero_of_lt enough)
    rw [elementsFrom, live, Option.bind_eq_bind, Option.bind_some,
      inductionHypothesis tail (Nat.le_of_succ_le_succ enough)]
    rfl

section Meant

variable {dplist : SensorList config} {entries front back : List (Address × SensorNode config)}
  {address : Address} {node : SensorNode config} {id : BitVec 16}

theorem Shows.elements (shown : Shows dplist entries) :
    dplist.elements = some (entries.map fun entry => .node entry.1) := by
  obtain ⟨contents, represents, elements⟩ := shown.represents
  rw [Dplist.elements, elementsFrom_eq represents represents.path.length_le_bound, elements]

theorem Shows.readAll (shown : Shows dplist entries) :
    (entries.map fun entry => VoidPointer.node entry.1).mapM (VoidPointer.read dplist.world) =
      some (entries.map Prod.snd) := by
  have lives := shown.live
  clear shown
  induction entries with
  | nil => rfl
  | cons entry rest inductionHypothesis =>
    obtain ⟨first, others⟩ := List.forall_mem_cons.mp lives
    rw [List.map_cons, List.mapM_cons, VoidPointer.read_node, first, inductionHypothesis others]
    rfl

theorem Shows.indexOf_eq (shown : Shows dplist entries) (id : BitVec 16) :
    Lookup.meant.indexOf dplist id = some
      (((entries.findIdx? fun entry => entry.2.sensor.id = id).map Int.ofNat).getD (-1),
        dplist.world) := by
  unfold Lookup.meant
  dsimp only
  rw [shown.elements, Option.bind_eq_bind, Option.bind_some, shown.readAll, Option.bind_eq_bind,
    Option.bind_some, List.findIdx?_map]
  rfl

/-- The first node with a sensor id has the index that is looked up. -/
theorem Shows.meant_indexOf (shown : Shows dplist (front ++ (address, node) :: back))
    (others : ∀ entry ∈ front, entry.2.sensor.id ≠ id) (own : node.sensor.id = id) :
    Lookup.meant.indexOf dplist id = some ((front.length : Int), dplist.world) := by
  have inFront : front.findIdx? (fun entry => entry.2.sensor.id = id) = none :=
    List.findIdx?_eq_none_iff.mpr fun entry member => decide_eq_false (others entry member)
  rw [shown.indexOf_eq, List.findIdx?_append, inFront, List.findIdx?_cons,
    if_pos (decide_eq_true own)]
  simp

/-- A sensor without a node has no index. -/
theorem Shows.meant_indexOf_absent (shown : Shows dplist entries)
    (absent : ∀ entry ∈ entries, entry.2.sensor.id ≠ id) :
    Lookup.meant.indexOf dplist id = some (-1, dplist.world) := by
  have nowhere : entries.findIdx? (fun entry => entry.2.sensor.id = id) = none :=
    List.findIdx?_eq_none_iff.mpr fun entry member => decide_eq_false (absent entry member)
  rw [shown.indexOf_eq, nowhere]
  rfl

theorem Shows.meant_elementAt (shown : Shows dplist (front ++ (address, node) :: back)) :
    Lookup.meant.elementAt dplist (front.length : Int) = some (.node address) := by
  unfold Lookup.meant
  dsimp only
  rw [shown.elements, Option.bind_eq_bind, Option.bind_some, Int.toNat_natCast, List.map_append,
    List.getElem?_append_right (by rw [List.length_map]), List.length_map, Nat.sub_self]
  rfl

/-- A node of the list can be overwritten, and the others stay. -/
theorem Shows.exists_write (shown : Shows dplist (front ++ (address, node) :: back))
    (later : SensorNode config) :
    ∃ world, dplist.world.write address later = some world ∧
      Shows { dplist with world } (front ++ (address, later) :: back) := by
  have live := shown.live (address, node) List.mem_append_cons_self
  obtain ⟨world, written, -, -, reads⟩ := dplist.world.exists_write_update live later
  have alone := shown.distinct
  rw [List.map_append, List.map_cons, List.nodup_middle, List.nodup_cons, ← List.map_append]
    at alone
  have away : ∀ entry ∈ front ++ back, world.read entry.1 = some entry.2 := by
    intro entry member
    have other : entry.1 ≠ address := fun same =>
      alone.1 (List.mem_map.mpr ⟨entry, member, same⟩)
    rw [reads, Function.update_of_ne other]
    refine shown.live entry ?_
    rcases List.mem_append.mp member with inFront | behind
    · exact List.mem_append_left _ inFront
    · exact List.mem_append_right _ (List.mem_cons_of_mem _ behind)
  obtain ⟨inFront, behind⟩ := List.forall_mem_append.mp away
  refine ⟨world, written, ?_, ?_, ?_⟩
  · obtain ⟨contents, represents, elements⟩ := shown.represents
    refine ⟨contents, represents, elements.trans ?_⟩
    rw [List.map_append, List.map_append]
    rfl
  · refine List.forall_mem_append.mpr ⟨inFront, List.forall_mem_cons.mpr ⟨?_, behind⟩⟩
    rw [reads, Function.update_self]
  · have same := shown.distinct
    rw [List.map_append] at same ⊢
    exact same

/-- A reading of a sensor with a node updates the first such node and raises its alert, whatever the
variables of the loop hold. -/
theorem turn_meant {datamgr : Datamgr config}
    (shown : Shows datamgr.dplist (front ++ (address, node) :: back)) {reading : SensorReading}
    (others : ∀ entry ∈ front, entry.2.sensor.id ≠ reading.id) (own : node.sensor.id = reading.id)
    (scratch : LoopVariables config) :
    ∃ after, datamgr.turn .meant scratch reading = some
        (after, ⟨{ scratch.tempnode with sensor := reading }, front.length⟩) ∧
      Shows after.dplist (front ++ (address, (node.update reading).1) :: back) ∧
      after.stopsig = datamgr.stopsig ∧
      after.reports = datamgr.reports ++ (node.update reading).2.toList := by
  obtain ⟨world, written, later⟩ := shown.exists_write (node.update reading).1
  have live := shown.live (address, node) List.mem_append_cons_self
  have notMissing : ¬(front.length : Int) = -1 := by omega
  refine ⟨{ datamgr with
    dplist := { datamgr.dplist with world }
    reports := datamgr.reports ++ (node.update reading).2.toList }, ?_, later, rfl, rfl⟩
  unfold Datamgr.turn
  simp only [shown.meant_indexOf others own, shown.meant_elementAt, VoidPointer.read_node,
    VoidPointer.write, live, written, notMissing, if_false, Option.bind_eq_bind, Option.bind_some]

/-- A reading of a sensor without a node becomes the stop request. -/
theorem turn_meant_absent {datamgr : Datamgr config} (shown : Shows datamgr.dplist entries)
    {reading : SensorReading} (absent : ∀ entry ∈ entries, entry.2.sensor.id ≠ reading.id)
    (scratch : LoopVariables config) :
    datamgr.turn .meant scratch reading = some (
      { dplist := datamgr.dplist
        stopsig := reading.id
        reports := datamgr.reports ++ [.unknownSensor reading.id] },
      ⟨{ scratch.tempnode with sensor := reading }, -1⟩) := by
  unfold Datamgr.turn
  simp only [shown.meant_indexOf_absent absent, if_true, Option.bind_eq_bind, Option.bind_some]

/-- A question about a sensor with a node is answered by the member of the first such node. -/
theorem lookUpWith_meant {Answer : Type} {datamgr : Datamgr config}
    (shown : Shows datamgr.dplist (front ++ (address, node) :: back))
    (others : ∀ entry ∈ front, entry.2.sensor.id ≠ id) (own : node.sensor.id = id)
    (member : SensorNode config → Answer) (minusOne : Answer) (what : String) :
    datamgr.lookUpWith .meant id member minusOne what = some (member node, "") := by
  have live := shown.live (address, node) List.mem_append_cons_self
  have notNull : ¬VoidPointer.node address = 0 := fun null => by cases null
  unfold Datamgr.lookUpWith
  simp only [shown.meant_indexOf others own, shown.meant_elementAt, VoidPointer.read_node, live,
    notNull, if_false, Option.bind_eq_bind, Option.bind_some]

end Meant

/-! ### Sensors do not influence each other -/

/-- The sensor that a report is about. -/
def Report.sensor : Report → BitVec 16
  | .unknownSensor id => id
  | .tooHot _ id _ => id
  | .tooCold _ id _ => id

theorem SensorNode.update_id (node : SensorNode config) (reading : SensorReading) :
    (node.update reading).1.sensor.id = node.sensor.id := by
  unfold SensorNode.update
  dsimp only
  split <;> rfl

theorem SensorNode.sensor_of_alert {node : SensorNode config} {reading : SensorReading}
    {report : Report} (raised : report ∈ (node.update reading).2.toList) :
    report.sensor = node.sensor.id := by
  rw [Option.mem_toList] at raised
  unfold SensorNode.update SensorNode.alert at raised
  dsimp only at raised
  split_ifs at raised <;> cases raised <;> rfl

/-- The nodes as machines: each takes the readings of its sensor and puts out their alerts. -/
def sensorMachines (config : DatamgrConfig) :
    Streams.Machines (Address × SensorNode config) SensorReading Report (BitVec 16) where
  stateKey entry := entry.2.sensor.id
  eventKey := SensorReading.id
  outputKey := Report.sensor
  step entry reading :=
    ((entry.1, (entry.2.update reading).1), (entry.2.update reading).2.toList)
  stateKey_step entry reading := entry.2.update_id reading
  outputKey_step _ _ _ raised := SensorNode.sensor_of_alert raised

section Sensors

variable {datamgr : Datamgr config} {entries : List (Address × SensorNode config)}

/-- The readings of a sensor, in order. -/
def ofSensor (id : BitVec 16) (readings : List SensorReading) : List SensorReading :=
  readings.filter fun reading => reading.id = id

/-- Two readings of different sensors may come in either order. -/
theorem ofSensor_swap {first second : SensorReading} (different : first.id ≠ second.id)
    (earlier rest : List SensorReading) (id : BitVec 16) :
    ofSensor id (earlier ++ first :: second :: rest) =
      ofSensor id (earlier ++ second :: first :: rest) := by
  unfold ofSensor
  rw [List.filter_append, List.filter_append]
  refine congrArg _ ?_
  by_cases own : first.id = id
  · have other : ¬second.id = id := fun same => different (own.trans same.symm)
    simp [own, other]
  · simp [List.filter_cons, own]

theorem sensorMachines_run (entry : Address × SensorNode config) (readings : List SensorReading) :
    (sensorMachines config).run entry readings = (entry.1, entry.2.updateAll readings) := by
  induction readings generalizing entry with
  | nil => rfl
  | cons reading rest inductionHypothesis => exact inductionHypothesis _

/-- A list of nodes is split at the first one with a sensor id. -/
theorem exists_first {id : BitVec 16} (mapped : id ∈ entries.map fun entry => entry.2.sensor.id) :
    ∃ front address node back, entries = front ++ (address, node) :: back ∧
      (∀ entry ∈ front, entry.2.sensor.id ≠ id) ∧ node.sensor.id = id := by
  obtain ⟨entry, member, own⟩ := List.mem_map.mp mapped
  have present : (entries.find? fun entry => entry.2.sensor.id = id).isSome :=
    List.find?_isSome.mpr ⟨entry, member, decide_eq_true own⟩
  obtain ⟨⟨address, node⟩, found⟩ := Option.isSome_iff_exists.mp present
  obtain ⟨own, front, back, split, others⟩ := List.find?_eq_some_iff_append.mp found
  refine ⟨front, address, node, back, split, fun entry member => ?_, of_decide_eq_true own⟩
  simpa using others entry member

/-- With distinct sensor ids, a turn of the loop does what the machines do. -/
theorem turn_machines (shown : Shows datamgr.dplist entries)
    (distinct : (entries.map fun entry => entry.2.sensor.id).Nodup) {reading : SensorReading}
    (mapped : reading.id ∈ entries.map fun entry => entry.2.sensor.id)
    (scratch : LoopVariables config) :
    ∃ after rest, datamgr.turn .meant scratch reading = some (after, rest) ∧
      Shows after.dplist ((sensorMachines config).merge entries reading) ∧
      after.stopsig = datamgr.stopsig ∧
      after.reports = datamgr.reports ++ (sensorMachines config).output entries reading := by
  obtain ⟨front, address, node, back, rfl, others, own⟩ := exists_first mapped
  have takes : (sensorMachines config).stateKey (address, node) =
      (sensorMachines config).eventKey reading := own
  obtain ⟨merged, output⟩ := Streams.merge_split takes distinct
  obtain ⟨after, ran, later, stopsig, reports⟩ := turn_meant shown others own scratch
  exact ⟨after, _, ran, merged ▸ later, stopsig, output ▸ reports⟩

/-- With the lookup that is meant and distinct sensor ids, a turn does what the board says. -/
theorem turn_tracks {board : Board config} (tracks : datamgr.Tracks board)
    (distinct : board.sensors.Nodup) (scratch : LoopVariables config) (reading : SensorReading) :
    ∃ after rest, datamgr.turn .meant scratch reading = some (after, rest) ∧
      after.Tracks (board.route reading) := by
  obtain ⟨shown, stopsig⟩ := tracks
  unfold Board.route
  split_ifs with mapped
  · obtain ⟨entry, member, own⟩ := mapped
    obtain ⟨after, rest, ran, later, same, -⟩ :=
      turn_machines shown distinct (List.mem_map.mpr ⟨entry, member, own⟩) scratch
    refine ⟨after, rest, ran, ?_, same.trans stopsig⟩
    have routed : (sensorMachines config).merge board.nodes reading =
        board.nodes.map fun entry =>
          if entry.2.sensor.id = reading.id then (entry.1, (entry.2.update reading).1)
          else entry := by
      refine List.map_congr_left fun entry _ => ?_
      show ((sensorMachines config).receive entry reading).1 = _
      by_cases takes : (sensorMachines config).stateKey entry =
          (sensorMachines config).eventKey reading
      · rw [Streams.receive_own takes]
        exact (if_pos takes).symm
      · rw [Streams.receive_other takes]
        exact (if_neg takes).symm
    rwa [routed] at later
  · refine ⟨_, _, turn_meant_absent shown (fun entry member own => ?_) scratch, shown, rfl⟩
    exact mapped ⟨entry, member, own⟩

/-- With distinct sensor ids, the loop does what the machines do. -/
theorem turns_machines (shown : Shows datamgr.dplist entries)
    (distinct : (entries.map fun entry => entry.2.sensor.id).Nodup)
    {readings : List SensorReading}
    (mapped : ∀ reading ∈ readings, reading.id ∈ entries.map fun entry => entry.2.sensor.id)
    (scratch : LoopVariables config) :
    ∃ after rest, datamgr.turns .meant scratch readings = some (after, rest) ∧
      Shows after.dplist ((sensorMachines config).mergeAll entries readings) ∧
      after.stopsig = datamgr.stopsig ∧
      after.reports = datamgr.reports ++ (sensorMachines config).outputs entries readings := by
  induction readings generalizing datamgr entries scratch with
  | nil => exact ⟨datamgr, scratch, rfl, shown, rfl, (List.append_nil _).symm⟩
  | cons reading rest inductionHypothesis =>
    obtain ⟨first, others⟩ := List.forall_mem_cons.mp mapped
    obtain ⟨next, nextScratch, ran, nextShown, nextStopsig, nextReports⟩ :=
      turn_machines shown distinct first scratch
    -- An update keeps the sensor id, so that the readings to come still find their nodes.
    have sameIds : ((sensorMachines config).merge entries reading).map
        (fun entry => entry.2.sensor.id) = entries.map fun entry => entry.2.sensor.id :=
      (sensorMachines config).map_stateKey_merge entries reading
    obtain ⟨after, last, ranRest, afterShown, afterStopsig, afterReports⟩ :=
      inductionHypothesis nextShown (by rwa [sameIds]) (by rwa [sameIds]) nextScratch
    refine ⟨after, last, ?_, afterShown, afterStopsig.trans nextStopsig, ?_⟩
    · rw [Datamgr.turns, ran]
      exact ranRest
    · rw [afterReports, nextReports, List.append_assoc]
      rfl

/-- Sensors do not influence each other. Two sequences of readings that agree for each sensor, from
whatever the variables of the loop hold, leave every node the same and give the same alerts for each
sensor; and a turn leaves the nodes of other sensors alone, and what it does does not depend on the
variables. -/
theorem sensors_independent (shown : Shows datamgr.dplist entries)
    (distinct : (entries.map fun entry => entry.2.sensor.id).Nodup) :
    (∀ (first second : List SensorReading) (scratch otherScratch : LoopVariables config),
      (∀ reading ∈ first ++ second, reading.id ∈ entries.map fun entry => entry.2.sensor.id) →
      (∀ id, ofSensor id first = ofSensor id second) →
      ∃ after other rest otherRest later,
        datamgr.turns .meant scratch first = some (after, rest) ∧
        datamgr.turns .meant otherScratch second = some (other, otherRest) ∧
        later = entries.map (fun entry =>
          (entry.1, entry.2.updateAll (ofSensor entry.2.sensor.id first))) ∧
        Shows after.dplist later ∧ Shows other.dplist later ∧
        after.stopsig = datamgr.stopsig ∧ other.stopsig = datamgr.stopsig ∧
        ∀ id, after.reports.filter (fun report => report.sensor = id) =
          other.reports.filter fun report => report.sensor = id) ∧
    ∀ (reading : SensorReading) (scratch otherScratch : LoopVariables config),
      reading.id ∈ entries.map (fun entry => entry.2.sensor.id) →
      ∃ after rest otherRest, datamgr.turn .meant scratch reading = some (after, rest) ∧
        datamgr.turn .meant otherScratch reading = some (after, otherRest) ∧
        ∀ entry ∈ entries, entry.2.sensor.id ≠ reading.id →
          after.dplist.world.read entry.1 = datamgr.dplist.world.read entry.1 := by
  constructor
  · intro first second scratch otherScratch mapped same
    obtain ⟨mappedFirst, mappedSecond⟩ := List.forall_mem_append.mp mapped
    obtain ⟨after, rest, ran, later, stopsig, reports⟩ :=
      turns_machines shown distinct mappedFirst scratch
    obtain ⟨other, otherRest, otherRan, otherLater, otherStopsig, otherReports⟩ :=
      turns_machines shown distinct mappedSecond otherScratch
    obtain ⟨sameStates, sameOutputs⟩ := (sensorMachines config).merged_agree same entries
    rw [← sameStates] at otherLater
    refine ⟨after, other, rest, otherRest, _, ran, otherRan, ?_, later, otherLater, stopsig,
      otherStopsig, fun id => ?_⟩
    · rw [(sensorMachines config).mergeAll_eq]
      exact List.map_congr_left fun entry _ => sensorMachines_run entry _
    · rw [reports, otherReports, List.filter_append, List.filter_append]
      exact congrArg _ (sameOutputs id)
  · intro reading scratch otherScratch mapped
    obtain ⟨front, address, node, back, rfl, others, own⟩ := exists_first mapped
    obtain ⟨after, ran, later, -⟩ := turn_meant shown others own scratch
    obtain ⟨otherAfter, otherRan, -⟩ := turn_meant shown others own otherScratch
    have same := turn_scratch .meant datamgr scratch otherScratch reading
    rw [ran, otherRan, Option.map_some, Option.map_some, Option.some.injEq] at same
    dsimp only at same
    subst same
    refine ⟨after, _, _, ran, otherRan, fun entry member different => ?_⟩
    -- The turn writes the first node with the sensor id of the reading only.
    have still : entry ∈ front ++ (address, (node.update reading).1) :: back := by
      rcases List.mem_append.mp member with inFront | behind
      · exact List.mem_append_left _ inFront
      · rcases List.mem_cons.mp behind with rfl | later
        · exact absurd own different
        · exact List.mem_append_right _ (List.mem_cons_of_mem _ later)
    rw [later.live entry still, shown.live entry member]

theorem two_sensors_independent :
    ∃ (loaded : SensorList makefileConfig) (nodes : List (Address × SensorNode makefileConfig)),
      loadSensorMap makefileNode (mapFile [(1, 15), (2, 16)]) = some loaded ∧
      nodes.map Prod.snd = [freshNode makefileNode (2, 16), freshNode makefileNode (1, 15)] ∧
      ∃ after other rest otherRest later,
        Datamgr.turns .meant ⟨loaded, 0, []⟩ ⟨makefileNode, 0⟩ [⟨15, 20, 1⟩, ⟨16, 5, 2⟩] =
          some (after, rest) ∧
        Datamgr.turns .meant ⟨loaded, 0, []⟩ ⟨makefileNode, 7⟩ [⟨16, 5, 2⟩, ⟨15, 20, 1⟩] =
          some (other, otherRest) ∧
        Shows after.dplist later ∧ Shows other.dplist later := by
  obtain ⟨loaded, nodes, ran, shown, fresh⟩ :=
    loadLoop_of_empty [(1, 15), (2, 16)] (scratch_live makefileNode)
  have ids : nodes.map (fun entry => entry.2.sensor.id) = [16, 15] := by
    have mapped := congrArg (List.map fun node => node.sensor.id) fresh
    rwa [List.map_map] at mapped
  have start : Shows (Datamgr.mk loaded 0 []).dplist nodes := shown
  obtain ⟨runs, -⟩ := sensors_independent start (by rw [ids]; decide)
  have different : (⟨15, 20, 1⟩ : SensorReading).id ≠ (⟨16, 5, 2⟩ : SensorReading).id := by decide
  obtain ⟨after, other, rest, otherRest, later, first, second, -, shownFirst, shownSecond, -⟩ :=
    runs _ _ ⟨makefileNode, 0⟩ ⟨makefileNode, 7⟩ (by rw [ids]; decide)
      (ofSensor_swap different [] [])
  exact ⟨loaded, nodes, ran, fresh, after, other, rest, otherRest, later, first, second,
    shownFirst, shownSecond⟩

end Sensors

/-! ### The time of the last reading -/

section LastModified

variable {datamgr : Datamgr config} {entries : List (Address × SensorNode config)}

/-- The time of the last reading of a sensor, or 0. -/
def lastTime (id : BitVec 16) (readings : List SensorReading) : Int :=
  ((ofSensor id readings).getLast?.map SensorReading.ts).getD 0

/-- What a node is found by, and the member that is returned as the time of its last reading. -/
def stamp (entry : Address × SensorNode config) : BitVec 16 × Int :=
  (entry.2.sensor.id, entry.2.sensor.ts)

theorem map_fst_stamp (entries : List (Address × SensorNode config)) :
    (entries.map stamp).map Prod.fst = entries.map fun entry => entry.2.sensor.id := by
  rw [List.map_map]
  rfl

/-- The time of the last reading is in the member that is not returned. -/
theorem SensorNode.updateAll_lastModified (node : SensorNode config)
    (readings : List SensorReading) :
    (node.updateAll readings).lastModified =
      (readings.getLast?.map SensorReading.ts).getD node.lastModified := by
  have stored (node : SensorNode config) (reading : SensorReading) :
      (node.update reading).1.lastModified = reading.ts := by
    unfold SensorNode.update
    dsimp only
    split <;> rfl
  induction readings generalizing node with
  | nil => rfl
  | cons reading rest inductionHypothesis =>
    have onward : node.updateAll (reading :: rest) = (node.update reading).1.updateAll rest := rfl
    rw [onward, inductionHypothesis, stored, List.getLast?_cons]
    cases rest.getLast? <;> rfl

theorem SensorNode.update_ts (node : SensorNode config) (reading : SensorReading) :
    (node.update reading).1.sensor.ts = node.sensor.ts := by
  unfold SensorNode.update
  dsimp only
  split <;> rfl

/-- The readings of mapped sensors do not change the members that are returned. -/
theorem turns_stamps (shown : Shows datamgr.dplist entries) {readings : List SensorReading}
    (mapped : ∀ reading ∈ readings, reading.id ∈ entries.map fun entry => entry.2.sensor.id)
    (scratch : LoopVariables config) :
    ∃ after rest later, datamgr.turns .meant scratch readings = some (after, rest) ∧
      Shows after.dplist later ∧ later.map stamp = entries.map stamp := by
  induction readings generalizing datamgr entries scratch with
  | nil => exact ⟨datamgr, scratch, entries, rfl, shown, rfl⟩
  | cons reading rest inductionHypothesis =>
    obtain ⟨first, others⟩ := List.forall_mem_cons.mp mapped
    obtain ⟨front, address, node, back, rfl, away, own⟩ := exists_first first
    obtain ⟨next, ran, nextShown, -⟩ := turn_meant shown away own scratch
    have sameStamps : (front ++ (address, (node.update reading).1) :: back).map stamp =
        (front ++ (address, node) :: back).map stamp := by
      simp only [List.map_append, List.map_cons, stamp, node.update_id, node.update_ts]
    rw [← map_fst_stamp, ← sameStamps, map_fst_stamp] at others
    obtain ⟨after, last, later, ranRest, afterShown, afterStamps⟩ :=
      inductionHypothesis nextShown others _
    refine ⟨after, last, later, ?_, afterShown, afterStamps.trans sameStamps⟩
    rw [Datamgr.turns, ran]
    exact ranRest

theorem lastTime_eq_zero_iff (id : BitVec 16) (readings : List SensorReading) :
    lastTime id readings = 0 ↔ ∀ reading ∈ (ofSensor id readings).getLast?, reading.ts = 0 := by
  unfold lastTime
  cases (ofSensor id readings).getLast? with
  | none => simp
  | some reading => simp

/-- For every map, every sequence of readings of sensors with a node and every such sensor: the
answer is the time of the last reading exactly when there is none or it has the time 0. -/
theorem last_modified_iff (uninitialised : SensorNode config) (file : List Char)
    (stopsig : BitVec 16) :
    ∃ loaded entries, loadSensorMap uninitialised file = some loaded ∧ Shows loaded entries ∧
      ∀ (scratch : LoopVariables config) (readings : List SensorReading) (s : BitVec 16),
        (∀ reading ∈ readings, reading.id ∈ entries.map fun entry => entry.2.sensor.id) →
        s ∈ entries.map (fun entry => entry.2.sensor.id) →
        ∃ after rest,
          Datamgr.turns .meant ⟨loaded, stopsig, []⟩ scratch readings = some (after, rest) ∧
          (after.getLastModifiedWith .meant s = some (lastTime s readings, "") ↔
            ∀ reading ∈ (ofSensor s readings).getLast?, reading.ts = 0) := by
  obtain ⟨loaded, entries, ran, shown, fresh⟩ := exists_loadSensorMap uninitialised file
  refine ⟨loaded, entries, ran, shown, fun scratch readings s mapped known => ?_⟩
  have start : Shows (Datamgr.mk loaded stopsig []).dplist entries := shown
  obtain ⟨after, rest, later, turned, laterShown, stamps⟩ := turns_stamps start mapped scratch
  rw [← map_fst_stamp, ← stamps, map_fst_stamp] at known
  obtain ⟨front, address, node, back, rfl, away, own⟩ := exists_first known
  have listed : stamp (address, node) ∈ entries.map stamp := by
    rw [← stamps]
    exact List.mem_map_of_mem List.mem_append_cons_self
  obtain ⟨entry, member, same⟩ := List.mem_map.mp listed
  obtain ⟨line, isFresh⟩ := fresh entry member
  have zero : node.sensor.ts = 0 := by
    rw [← (Prod.mk.inj same).2, isFresh]
    rfl
  have answer : after.getLastModifiedWith .meant s = some (0, "") := by
    rw [Datamgr.getLastModifiedWith, lookUpWith_meant laterShown away own, zero]
  refine ⟨after, rest, turned, ?_⟩
  rw [answer, ← lastTime_eq_zero_iff, Option.some.injEq, Prod.mk.injEq, and_iff_left rfl, eq_comm]

/-- A map with one line gives a list with one node. -/
theorem exists_oneSensor :
    ∃ loaded address, loadSensorMap makefileNode (mapFile [(1, 15)]) = some loaded ∧
      Shows loaded [(address, freshNode makefileNode (1, 15))] := by
  obtain ⟨loaded, nodes, ran, shown, fresh⟩ :=
    loadLoop_of_empty [(1, 15)] (scratch_live makefileNode)
  obtain ⟨⟨address, node⟩, rfl, rfl⟩ := List.map_eq_singleton_iff.mp fresh
  exact ⟨loaded, address, ran, shown⟩

theorem last_modified_oneSensor :
    ∃ loaded after rest, loadSensorMap makefileNode (mapFile [(1, 15)]) = some loaded ∧
      Datamgr.turns .meant ⟨loaded, 0, []⟩ ⟨makefileNode, 0⟩ [⟨15, 20, 0⟩] = some (after, rest) ∧
      after.getLastModifiedWith .meant 15 = some (0, "") := by
  obtain ⟨loaded, address, ran, shown⟩ := exists_oneSensor
  obtain ⟨again, entries, ranAgain, shownAgain, answers⟩ :=
    last_modified_iff makefileNode (mapFile [(1, 15)]) 0
  obtain rfl := Option.some.inj (ran.symm.trans ranAgain)
  obtain rfl := shown.unique shownAgain
  obtain ⟨after, rest, turned, agrees⟩ :=
    answers ⟨makefileNode, 0⟩ [⟨15, 20, 0⟩] 15 (by simp [freshNode]) (by simp [freshNode])
  exact ⟨loaded, after, rest, ran, turned, agrees.mpr (by decide)⟩

/-- After a reading at time 7, the answer is 0. -/
theorem last_modified_lost :
    ∃ loaded address after rest, loadSensorMap makefileNode (mapFile [(1, 15)]) = some loaded ∧
      Shows loaded [(address, freshNode makefileNode (1, 15))] ∧
      Datamgr.turns .meant ⟨loaded, 0, []⟩ ⟨makefileNode, 0⟩ [⟨15, 20, 7⟩] = some (after, rest) ∧
      after.getLastModifiedWith .meant 15 = some (0, "") ∧
      lastTime 15 [⟨15, 20, 7⟩] = 7 ∧
      after.getLastModifiedWith .meant 15 ≠ some (lastTime 15 [⟨15, 20, 7⟩], "") := by
  obtain ⟨loaded, address, ran, shown⟩ := exists_oneSensor
  have start : Shows (Datamgr.mk loaded 0 []).dplist
      ([] ++ (address, freshNode makefileNode (1, 15)) :: []) := shown
  have own : (freshNode makefileNode (1, 15)).sensor.id =
      (⟨15, 20, 7⟩ : SensorReading).id := rfl
  obtain ⟨after, turned, later, -⟩ := turn_meant start (by simp) own ⟨makefileNode, 0⟩
  have still : ((freshNode makefileNode (1, 15)).update ⟨15, 20, 7⟩).1.sensor.id = 15 :=
    SensorNode.update_id _ _
  have answer : after.getLastModifiedWith .meant 15 = some (0, "") := by
    rw [Datamgr.getLastModifiedWith, lookUpWith_meant later (by simp) still, SensorNode.update_ts]
    rfl
  have time : lastTime 15 [⟨15, 20, 7⟩] = 7 := by decide
  refine ⟨loaded, address, after, _, ran, shown, (turns_single _ _ _ _).trans turned, answer,
    time, ?_⟩
  rw [answer, time]
  decide

end LastModified

end SensorGateway
