/-
This file models the data manager: the loop that loads the sensor map, the loop that
processes the readings, the callbacks of its list and the functions that answer for a
sensor. The list is the one in memory, and its elements are `void` pointers: to a node
of the data manager, or a number cast to a pointer. The nodes of the data manager, and
the scratch node on the stack of the loading loop, live in a memory of their own.

The loops pass `(void *)(sensor.id)` to the search. The comparison callback reads both
of its arguments as nodes; a number is the address of no node, so that it has no result
on one. The number 0 is NULL.

These names are read as the declared ones: `coppy_sensor` as `copy_sensor`,
`dpl_get_element_of_index` as `dpl_get_element_at_index`, MAX_TEMP and MIN_TEMP as
SET_MAX_TEMP and SET_MIN_TEMP, the test `temp == NULL` as a test of the node looked up.
The undeclared member `last_modified` is read as a member of the node. The assignment of
a scalar to `node.data_list` is left out. The map file has been opened, and locking the
mutex of the stop request does nothing here.
-/

import Mathlib.Data.Rat.Floor
import SensorGateway.DplistHeap
import SensorGateway.Library.Decimal
import SensorGateway.Library.Text
import SensorGateway.Reading

namespace SensorGateway

open Text

/-- The build settings: RUN_AVG_LENGTH, SET_MAX_TEMP and SET_MIN_TEMP. -/
structure DatamgrConfig where
  runAvgLength : Nat
  runAvgLengthPositive : 0 < runAvgLength
  maxTemp : ℚ
  minTemp : ℚ

/-- The settings of the Makefile, with the default length of the average. -/
def makefileConfig : DatamgrConfig where
  runAvgLength := 5
  runAvgLengthPositive := by decide
  maxTemp := 20
  minTemp := 10

/-- The array `data_list`. -/
structure DataList (length : Nat) where
  values : List ℚ
  sized : values.length = length
  deriving DecidableEq

/-- A node of the data manager. -/
structure SensorNode (config : DatamgrConfig) where
  roomId : BitVec 16
  sensor : SensorReading
  dataList : DataList config.runAvgLength
  lastModified : Int
  deriving DecidableEq

variable {config : DatamgrConfig}

/-! ### The window of a node -/

/-- The array of zeros. -/
def DataList.zero (length : Nat) : DataList length where
  values := List.replicate length 0
  sized := List.length_replicate

/-- A scratch node before anything is assigned to it. -/
def makefileNode : SensorNode makefileConfig where
  roomId := 0
  sensor := ⟨0, 0, 0⟩
  dataList := DataList.zero 5
  lastModified := 0

/-- The first place with a 0, or the length. -/
def DataList.size {length : Nat} (dataList : DataList length) : Nat :=
  dataList.values.findIdx (· = 0)

/-- Assign to a place. -/
def DataList.store {length : Nat} (dataList : DataList length) (place : Nat) (value : ℚ) :
    DataList length where
  values := dataList.values.set place value
  sized := List.length_set.trans dataList.sized

/-- The loop `data_list[i] = data_list[i+1]`, with the number of turns left and `i`. -/
def shiftLoop : Nat → Nat → List ℚ → List ℚ
  | 0, _, values => values
  | left + 1, i, values => shiftLoop left (i + 1) (values.set i (values.getD (i + 1) 0))

theorem length_shiftLoop (left i : Nat) (values : List ℚ) :
    (shiftLoop left i values).length = values.length := by
  induction left generalizing i values with
  | zero => rfl
  | succ left inductionHypothesis => exact (inductionHypothesis _ _).trans List.length_set

/-- Shift the array by one place; the last value stays. -/
def DataList.shift {length : Nat} (dataList : DataList length) : DataList length where
  values := shiftLoop (length - 1) 0 dataList.values
  sized := (length_shiftLoop _ _ _).trans dataList.sized

/-- The loop `sum += data_list[i]`. -/
def DataList.sum {length : Nat} (dataList : DataList length) : ℚ :=
  dataList.values.foldl (· + ·) 0

/-! ### The messages -/

/-- What the data manager reports, on stderr and in the event log. -/
inductive Report where
  | unknownSensor (id : BitVec 16)
  | tooHot (roomId id : BitVec 16) (value : ℚ)
  | tooCold (roomId id : BitVec 16) (value : ℚ)
  deriving DecidableEq

/-- A number as %lf prints it. -/
def printF (value : ℚ) : String :=
  let scaled := (Decimal.roundHalfEven (value * 10 ^ 6)).natAbs
  let digits := toString (scaled % 10 ^ 6)
  (if value < 0 then "-" else "") ++ toString (scaled / 10 ^ 6) ++ "." ++
    String.ofList (List.replicate (6 - digits.length) '0') ++ digits

/-- The line on stderr. -/
def Report.stderr : Report → String
  | .unknownSensor id => "Invalid sensor ID" ++ printId id ++ "\n"
  | .tooHot roomId id value => "Room " ++ printId roomId ++ ": The sensor node with " ++
      printId id ++ "report. Temperature is " ++ printF value ++ ". Too hot!\n"
  | .tooCold roomId id value => "Room " ++ printId roomId ++ ": The sensor node with " ++
      printId id ++ "report. Temperature is " ++ printF value ++ ". Too cold!\n"

/-- The message in the event log. -/
def Report.message (time : Int) : Report → String
  | .unknownSensor id =>
    eventMessage time "Datamgr" ("Sensor with ID " ++ printId id ++ "doesn't exist")
  | .tooHot _ id _ =>
    eventMessage time "Datamgr" ("The sensor node with " ++ printId id ++ " report it's TOO HOT\n")
  | .tooCold _ id _ =>
    eventMessage time "Datamgr" ("The sensor node with " ++ printId id ++ " report it's TOO COLD\n")

/-- The alert for a new average. -/
def SensorNode.alert (node : SensorNode config) : Option Report :=
  if node.sensor.value > config.maxTemp then
    some (.tooHot node.roomId node.sensor.id node.sensor.value)
  else if node.sensor.value < config.minTemp then
    some (.tooCold node.roomId node.sensor.id node.sensor.value)
  else none

/-- The update of a node by a reading, and the alert. The value of the reading is stored only while
the array has a 0. -/
def SensorNode.update (node : SensorNode config) (reading : SensorReading) :
    SensorNode config × Option Report :=
  let size := node.dataList.size
  if size < config.runAvgLength then
    ({ node with
        lastModified := reading.ts
        dataList := node.dataList.store size reading.value }, none)
  else
    let node := { node with
      lastModified := reading.ts
      dataList := node.dataList.shift
      sensor := { node.sensor with value := node.dataList.shift.sum / config.runAvgLength } }
    (node, node.alert)

/-! ### The callbacks of the list -/

/-- A `void` pointer: the address of a node, or a number cast to a pointer. -/
inductive VoidPointer where
  | node (address : Address)
  | number (id : BitVec 16)
  deriving DecidableEq, Repr

/-- NULL is the number 0. -/
instance : Zero VoidPointer := ⟨.number 0⟩

/-- The node behind a pointer. -/
def VoidPointer.read (world : Heap (SensorNode config)) :
    VoidPointer → Option (SensorNode config)
  | .node address => world.read address
  | .number _ => none

/-- Assign to the node behind a pointer. -/
def VoidPointer.write (world : Heap (SensorNode config)) (node : SensorNode config) :
    VoidPointer → Option (Heap (SensorNode config))
  | .node address => world.write address node
  | .number _ => none

@[simp] theorem VoidPointer.read_node (world : Heap (SensorNode config)) (address : Address) :
    (VoidPointer.node address).read world = world.read address := rfl

@[simp] theorem VoidPointer.read_number (world : Heap (SensorNode config)) (id : BitVec 16) :
    (VoidPointer.number id).read world = none := rfl

/-- Copy a node. -/
def copySensor (world : Heap (SensorNode config)) (element : VoidPointer) :
    Option (VoidPointer × Heap (SensorNode config)) := do
  let node ← element.read world
  let (temp, world) := world.malloc node
  some (.node temp, world)

/-- Free a node. -/
def freeSensor (world : Heap (SensorNode config)) :
    VoidPointer → Option (Heap (SensorNode config))
  | .node address => world.free address
  | .number id => if id = 0 then some world else none

/-- Compare two pointers, after a look at the nodes behind them. -/
def compareSensor (world : Heap (SensorNode config)) (x y : VoidPointer) :
    Option (Int × Heap (SensorNode config)) := do
  let _ ← x.read world
  let _ ← y.read world
  some (if x = y then 0 else -1, world)

/-- The callbacks of the data manager's list. -/
def sensorCallbacks (config : DatamgrConfig) :
    Callbacks (Heap (SensorNode config)) VoidPointer where
  elementCopy := copySensor
  elementFree := freeSensor
  elementCompare := compareSensor

/-- The list of the data manager. -/
abbrev SensorList (config : DatamgrConfig) := Dplist (Heap (SensorNode config)) VoidPointer

/-! ### The sensor map -/

/-- The size of the line buffer, `N`. -/
def lineSize : Nat := 20

/-- `sscanf(line, "%hu %hu", &node.room_id, &node.sensor.id)`. -/
def scanLine (line : List Char) (node : SensorNode config) : SensorNode config :=
  match scanUnsigned line with
  | none => node
  | some (roomId, rest) =>
    match scanUnsigned rest with
    | none => { node with roomId }
    | some (id, _) => { node with roomId, sensor := { node.sensor with id } }

/-- The loop that loads the map: it scans each line into the scratch node and inserts a copy. -/
def loadLoop (scratch : Address) : Nat → List Char → SensorList config →
    Option (SensorList config)
  | 0, _, _ => none
  | fuel + 1, file, dplist =>
    match fgets lineSize file with
    | none => some dplist
    | some (line, file) => do
      let node ← dplist.world.read scratch
      let world ← dplist.world.write scratch (scanLine line node)
      let dplist ← Dplist.insertSorted (sensorCallbacks config) { dplist with world }
        (.node scratch) true
      loadLoop scratch fuel file dplist

/-- Load the sensor map. The members of the scratch node that are not assigned before the loop are
uninitialised. -/
def loadSensorMap (uninitialised : SensorNode config) (file : List Char) :
    Option (SensorList config) :=
  let node := { uninitialised with
    dataList := DataList.zero config.runAvgLength
    sensor := { uninitialised.sensor with value := 0, ts := 0 } }
  let (scratch, world) := (Heap.empty (SensorNode config)).malloc node
  loadLoop scratch (file.length + 1) file (Dplist.create world)

/-! ### The readings -/

/-- The data manager: its list, the stop request of the connection manager, and what it has
reported. -/
structure Datamgr (config : DatamgrConfig) where
  dplist : SensorList config
  stopsig : BitVec 16
  reports : List Report

/-- The body of the loop over the readings. -/
def Datamgr.process (datamgr : Datamgr config) (reading : SensorReading) :
    Option (Datamgr config) := do
  let (i, world) ← datamgr.dplist.getIndexOfElement (sensorCallbacks config) (.number reading.id)
  let dplist := { datamgr.dplist with world }
  if i = -1 then
    some {
      dplist
      stopsig := reading.id
      reports := datamgr.reports ++ [.unknownSensor reading.id] }
  else
    let temp ← dplist.getElementAtIndex i
    let node ← temp.read world
    let (node, alert) := node.update reading
    let world ← temp.write world node
    some { datamgr with
      dplist := { dplist with world }
      reports := datamgr.reports ++ alert.toList }

/-- The body of the loop, once for each reading. -/
def Datamgr.processAll (datamgr : Datamgr config) : List SensorReading → Option (Datamgr config)
  | [] => some datamgr
  | reading :: rest => do
    let datamgr ← datamgr.process reading
    datamgr.processAll rest

/-! ### The answers -/

/-- The shape of the functions that answer for a sensor: look the node up and return a member of
it, or complain on stderr and return -1. -/
def Datamgr.lookUp {Answer : Type} (datamgr : Datamgr config) (sensorId : BitVec 16)
    (member : SensorNode config → Answer) (minusOne : Answer) (what : String) :
    Option (Answer × String) := do
  let (i, world) ← datamgr.dplist.getIndexOfElement (sensorCallbacks config) (.number sensorId)
  let node ← Dplist.getElementAtIndex { datamgr.dplist with world } i
  if node = 0 then
    some (minusOne,
      "Cannot get " ++ what ++ " of the sensor node with " ++ printId sensorId ++ "\n")
  else
    let node ← node.read world
    some (member node, "")

/-- The room of a sensor. -/
def Datamgr.getRoomId (datamgr : Datamgr config) (sensorId : BitVec 16) :
    Option (BitVec 16 × String) :=
  datamgr.lookUp sensorId SensorNode.roomId (-1) "room id"

/-- The running average of a sensor. -/
def Datamgr.getAvg (datamgr : Datamgr config) (sensorId : BitVec 16) : Option (ℚ × String) :=
  datamgr.lookUp sensorId (fun node => node.sensor.value) (-1) "avg"

/-- The time of the last reading of a sensor: the member `sensor.ts`, not `last_modified`. -/
def Datamgr.getLastModified (datamgr : Datamgr config) (sensorId : BitVec 16) :
    Option (Int × String) :=
  datamgr.lookUp sensorId (fun node => node.sensor.ts) (-1) "the last time modified"

end SensorGateway
