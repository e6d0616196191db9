/-
This file models `file_creator`, which writes a sensor map and a file of measurements, and
reads both back with the two programs that load them.

The measurements are made in two loops over an array of temperatures: each temperature
walks at random, on its own, from one measurement to the next. The numbers are raw
fields: the step from one temperature to the next is a function of a random draw, and a
time is stored by a function of the number of seconds. The text copy of the measurements,
which is written for tests, is left out.
-/

import Mathlib.Logic.Function.Basic
import SensorGateway.SensorImport
import SensorGateway.SensorMap

namespace SensorGateway

variable {layout : Layout} {Draw Conn : Type}

/-- The number of measurements. -/
def numMeasurements : Nat := 100

/-- Every so many seconds, sensors wake up and measure the temperature. -/
def sleepTime : Int := 30

/-- The number of sensors and of rooms. -/
def numSensors : Nat := 8

/-- The rooms. -/
def roomIds : List (BitVec 16) := [1, 2, 3, 4, 11, 12, 13, 14]

/-- The sensors. -/
def sensorIds : List (BitVec 16) := [15, 21, 37, 49, 112, 129, 132, 142]

/-- The loop that prints `room_sensor.map`. -/
def createMap : List Char :=
  (List.range numSensors).foldl
    (fun file i => file ++ mapLine (roomIds.getD i 0, sensorIds.getD i 0)) []

/-- What the arithmetic of the machine and the clock give `file_creator`. -/
structure CreatorInput (Draw : Type) (layout : Layout) where
  next : Field layout.sizeofValue → Draw → Field layout.sizeofValue
  draw : Nat → Nat → Draw
  initial : Nat → Field layout.sizeofValue
  storeTime : Int → Field layout.sizeofTs
  starttime : Int

/-- The file `sensor_data`, the array of temperatures, and `starttime`. -/
@[ext]
structure Creator (layout : Layout) where
  file : List UInt8
  temperature : Nat → Field layout.sizeofValue
  starttime : Int

section Loops

variable (input : CreatorInput Draw layout)

/-- A turn of the inner loop: write the current temperature of a sensor, and get a new one. -/
def Creator.writeSensor (i : Nat) (creator : Creator layout) (j : Nat) : Creator layout :=
  { creator with
    file := fwriteReading creator.file {
      id := Field.ofWord (sensorIds.getD j 0)
      value := creator.temperature j
      ts := input.storeTime creator.starttime }
    temperature := Function.update creator.temperature j
      (input.next (creator.temperature j) (input.draw i j)) }

/-- A turn of the outer loop. -/
def Creator.measure (creator : Creator layout) (i : Nat) : Creator layout :=
  let creator := (List.range numSensors).foldl (Creator.writeSensor input i) creator
  { creator with starttime := creator.starttime + sleepTime }

/-- The loops that write `sensor_data`. -/
def createData : Creator layout :=
  (List.range numMeasurements).foldl (Creator.measure input)
    { file := [], temperature := input.initial, starttime := input.starttime }

/-! ### What is written -/

/-- The temperature of a sensor at a measurement: a random walk of its own. -/
def walk (j : Nat) : Nat → Field layout.sizeofValue
  | 0 => input.initial j
  | i + 1 => input.next (walk j i) (input.draw i j)

/-- A measurement of a sensor. -/
def measurement (i j : Nat) : SensorData layout where
  id := Field.ofWord (sensorIds.getD j 0)
  value := walk input j i
  ts := input.storeTime (input.starttime + sleepTime * i)

/-- The measurements in the order of the loops. -/
def measurements : List (SensorData layout) :=
  (List.range numMeasurements).flatMap fun i => (List.range numSensors).map (measurement input i)

theorem fwriteReading_eq (file : List UInt8) (reading : SensorData layout) :
    fwriteReading file reading = file ++ recordBytes reading := by
  unfold fwriteReading recordBytes
  rw [List.append_assoc, List.append_assoc]

/-- The inner loop writes the sensors in order, and moves the temperatures it has written. -/
theorem foldl_writeSensor (i count : Nat) (creator : Creator layout) :
    (List.range count).foldl (Creator.writeSensor input i) creator =
      { file := creator.file ++ (List.range count).flatMap fun j => recordBytes {
          id := Field.ofWord (sensorIds.getD j 0)
          value := creator.temperature j
          ts := input.storeTime creator.starttime }
        temperature := fun j =>
          if j < count then input.next (creator.temperature j) (input.draw i j)
          else creator.temperature j
        starttime := creator.starttime } := by
  induction count with
  | zero => exact Creator.ext (List.append_nil _).symm (funext fun j => rfl) rfl
  | succ count inductionHypothesis =>
    rw [List.range_succ, List.foldl_append, inductionHypothesis, List.foldl_cons, List.foldl_nil]
    refine Creator.ext ?_ ?_ rfl
    · unfold Creator.writeSensor
      dsimp only
      rw [fwriteReading_eq, if_neg (Nat.lt_irrefl count), List.flatMap_append, List.append_assoc,
        List.flatMap_cons, List.flatMap_nil, List.append_nil]
    · funext j
      unfold Creator.writeSensor
      dsimp only
      rw [Function.update_apply, if_neg (Nat.lt_irrefl count)]
      by_cases same : j = count
      · rw [if_pos same, if_pos (by omega), same]
      · rw [if_neg same]
        by_cases before : j < count
        · rw [if_pos before, if_pos (by omega)]
        · rw [if_neg before, if_neg (by omega)]

/-- The outer loop, up to a measurement. -/
theorem foldl_measure (count : Nat) :
    (List.range count).foldl (Creator.measure input)
        { file := [], temperature := input.initial, starttime := input.starttime } =
      { file := (List.range count).flatMap fun i =>
          (List.range numSensors).flatMap fun j => recordBytes (measurement input i j)
        temperature := fun j => if j < numSensors then walk input j count else input.initial j
        starttime := input.starttime + sleepTime * count } := by
  induction count with
  | zero =>
    refine Creator.ext rfl (funext fun j => ?_) ?_
    · exact (ite_self _).symm
    · exact (Int.add_zero _).symm
  | succ count inductionHypothesis =>
    rw [List.range_succ, List.foldl_append, inductionHypothesis, List.foldl_cons, List.foldl_nil,
      Creator.measure, foldl_writeSensor]
    refine Creator.ext ?_ (funext fun j => ?_) ?_
    · dsimp only
      rw [List.flatMap_append, List.flatMap_cons, List.flatMap_nil, List.append_nil]
      refine congrArg _ (List.flatMap_congr fun j member => ?_)
      rw [if_pos (List.mem_range.mp member)]
      rfl
    · dsimp only
      by_cases sensor : j < numSensors
      · rw [if_pos sensor, if_pos sensor, if_pos sensor]
        rfl
      · rw [if_neg sensor, if_neg sensor, if_neg sensor]
    · dsimp only
      rw [Int.add_assoc, Int.natCast_add, Int.mul_add]
      rfl

/-- The file holds the measurements. -/
theorem createData_file : (createData input).file = sensorDataFile (measurements input) := by
  unfold createData measurements
  rw [foldl_measure, sensorDataFile_eq, List.flatMap_assoc]
  refine List.flatMap_congr fun i member => ?_
  rw [List.flatMap_map]

/-- A sensor has one reading at each measurement. -/
theorem filter_measurement (i : Nat) {sensor : Nat} (known : sensor < numSensors) :
    ((List.range numSensors).map (measurement input i)).filter
        (fun reading => reading.id.word = sensorIds.getD sensor 0) =
      [measurement input i sensor] := by
  have distinct : ∀ sensor < numSensors, (List.range numSensors).filter
      (fun j => sensorIds.getD j 0 = sensorIds.getD sensor 0) = [sensor] := by
    decide
  have word (j : Nat) : (measurement input i j).id.word = sensorIds.getD j 0 :=
    Field.word_ofWord _
  rw [List.filter_map]
  simp only [Function.comp_def, word]
  rw [distinct sensor known]
  rfl

/-- The readings of a sensor are its random walk, one every so many seconds. -/
theorem filter_measurements {sensor : Nat} (known : sensor < numSensors) :
    (measurements input).filter (fun reading => reading.id.word = sensorIds.getD sensor 0) =
      (List.range numMeasurements).map fun i => measurement input i sensor := by
  have single (i : Nat) := filter_measurement input i known
  unfold measurements
  rw [List.filter_flatMap]
  simp only [single]
  exact List.map_eq_flatMap.symm

/-! ### What is read back -/

/-- The room and the sensor of a line. -/
def roomLine (i : Nat) : BitVec 16 × BitVec 16 := (roomIds.getD i 0, sensorIds.getD i 0)

theorem createMap_eq : createMap = mapFile ((List.range numSensors).map roomLine) := by
  unfold createMap mapFile
  rw [List.flatMap_map, List.flatMap_eq_foldl]
  rfl

/-- The two files belong together. The map loads into one node for each sensor; the import of
the measurements inserts every one of them, in the order of the loops; and what it inserts for
the sensor of a node is the walk of that sensor, with no other reading left over. -/
theorem created_files_load (config : DatamgrConfig) (uninitialised : SensorNode config)
    (insertSensor : Conn → SensorData layout → Int × Conn) (conn : Conn)
    (unread : SensorData layout) :
    ∃ loaded entries inserted,
      loadSensorMap uninitialised createMap = some loaded ∧
      Shows loaded entries ∧
      entries.map Prod.snd =
        (List.range numSensors).reverse.map (fun j => freshNode uninitialised (roomLine j)) ∧
      insertSensorFromFile (fun conn reading => some (insertSensor conn reading)) conn
          (openFile (createData input).file) unread =
        some {
          calls := inserted
          stream := { rest := [], eof := true }
          conn := inserted.foldl (fun conn reading => (insertSensor conn reading).2) conn
          ending := .returned 0 } ∧
      (∀ entry ∈ entries, ∃ j < numSensors, entry.2 = freshNode uninitialised (roomLine j) ∧
        inserted.filter (fun reading => reading.id.word = entry.2.sensor.id) =
          (List.range numMeasurements).map fun i => measurement input i j) ∧
      ∀ reading ∈ inserted, ∃ entry ∈ entries, reading.id.word = entry.2.sensor.id := by
  obtain ⟨loaded, entries, ran, shown, nodes⟩ := loadLoop_of_empty
    ((List.range numSensors).map roomLine) (scratch_live uninitialised)
  rw [← createMap_eq] at ran
  rw [← List.map_reverse, List.map_map] at nodes
  refine ⟨loaded, entries, measurements input, ran, shown, nodes, ?_, ?_, ?_⟩
  · rw [createData_file]
    exact insertSensorFromFile_eq (insertions_some insertSensor conn _) unread
  · intro entry member
    have listed : entry.2 ∈ entries.map Prod.snd := List.mem_map_of_mem member
    rw [nodes] at listed
    obtain ⟨j, known, same⟩ := List.mem_map.mp listed
    rw [List.mem_reverse, List.mem_range] at known
    refine ⟨j, known, same.symm, ?_⟩
    rw [← same]
    exact filter_measurements input known
  · intro reading member
    obtain ⟨i, -, made⟩ := List.mem_flatMap.mp member
    obtain ⟨j, known, rfl⟩ := List.mem_map.mp made
    have listed : freshNode uninitialised (roomLine j) ∈ entries.map Prod.snd := by
      rw [nodes]
      exact List.mem_map.mpr ⟨j, List.mem_reverse.mpr known, rfl⟩
    obtain ⟨entry, present, same⟩ := List.mem_map.mp listed
    refine ⟨entry, present, ?_⟩
    rw [same]
    exact Field.word_ofWord _

end Loops

end SensorGateway
