/-
This file is about the number of sensors that the data manager reports. It is meant to
be the number of distinct sensor ids in the map, whatever readings have been processed.

The loading loop puts a node into the list for each line, also for a sensor id that has
one already, and the loop that counts the nodes starts at 1. So the number that is
reported for a map with lines is one more than their number, and too high. Processing
readings changes what the nodes hold but never the list, however a node is looked up.
-/

import Mathlib.Data.List.Dedup
import SensorGateway.SensorRouting

namespace SensorGateway

variable {config : DatamgrConfig}

/-- The number of sensors: `datamgr_get_total_sensors`. -/
def Datamgr.getTotalSensors (datamgr : Datamgr config) : Option Int := datamgr.dplist.size

/-- The number of distinct sensor ids of a map. -/
def distinctSensors (lines : List (BitVec 16 × BitVec 16)) : Nat :=
  (lines.map Prod.snd).dedup.length

theorem distinctSensors_le (lines : List (BitVec 16 × BitVec 16)) :
    distinctSensors lines ≤ lines.length := by
  have shorter := (List.dedup_sublist (lines.map Prod.snd)).length_le
  rwa [List.length_map] at shorter

/-! ### The readings leave the list alone -/

section Turns

variable {lookup : Lookup config} {datamgr after : Datamgr config}
  {scratch rest : LoopVariables config}

/-- A turn writes to the memory of the nodes of the data manager only. -/
theorem turn_keeps_list {reading : SensorReading}
    (ran : datamgr.turn lookup scratch reading = some (after, rest)) :
    after.dplist = { datamgr.dplist with world := after.dplist.world } := by
  obtain ⟨⟨i, world⟩, -, ran⟩ := Option.bind_eq_some_iff.mp ran
  dsimp only at ran
  split_ifs at ran with unknown
  · obtain ⟨rfl, -⟩ := Prod.mk.inj (Option.some.inj ran)
    rfl
  · obtain ⟨temp, -, ran⟩ := Option.bind_eq_some_iff.mp ran
    obtain ⟨node, -, ran⟩ := Option.bind_eq_some_iff.mp ran
    obtain ⟨written, -, ran⟩ := Option.bind_eq_some_iff.mp ran
    obtain ⟨rfl, -⟩ := Prod.mk.inj (Option.some.inj ran)
    rfl

theorem turn_total {reading : SensorReading}
    (ran : datamgr.turn lookup scratch reading = some (after, rest)) :
    after.getTotalSensors = datamgr.getTotalSensors := by
  rw [Datamgr.getTotalSensors, turn_keeps_list ran]
  rfl

/-- No sequence of readings changes the number of sensors. -/
theorem turns_total {readings : List SensorReading}
    (ran : Datamgr.turns lookup datamgr scratch readings = some (after, rest)) :
    after.getTotalSensors = datamgr.getTotalSensors := by
  induction readings generalizing datamgr scratch with
  | nil =>
    obtain ⟨rfl, -⟩ := Prod.mk.inj (Option.some.inj ran)
    rfl
  | cons reading others inductionHypothesis =>
    obtain ⟨⟨next, nextScratch⟩, turned, ran⟩ := Option.bind_eq_some_iff.mp ran
    exact (inductionHypothesis ran).trans (turn_total turned)

end Turns

/-- The loop of the code is the one with the lookup of the code. -/
theorem processAll_total {datamgr after : Datamgr config} (scratch : LoopVariables config)
    {readings : List SensorReading} (processed : datamgr.processAll readings = some after) :
    after.getTotalSensors = datamgr.getTotalSensors := by
  rw [← turns_code datamgr scratch readings] at processed
  obtain ⟨⟨final, rest⟩, ran, rfl⟩ := Option.map_eq_some_iff.mp processed
  exact turns_total ran

/-- With the lookup that is meant, every sequence of readings is processed. -/
theorem exists_turns_meant {datamgr : Datamgr config}
    {entries : List (Address × SensorNode config)} (shown : Shows datamgr.dplist entries)
    (scratch : LoopVariables config) (readings : List SensorReading) :
    ∃ after, datamgr.turns .meant scratch readings = some after := by
  induction readings generalizing datamgr entries scratch with
  | nil => exact ⟨_, rfl⟩
  | cons reading rest inductionHypothesis =>
    rw [Datamgr.turns]
    by_cases mapped : reading.id ∈ entries.map fun entry => entry.2.sensor.id
    · obtain ⟨front, address, node, back, rfl, others, own⟩ := exists_first mapped
      obtain ⟨next, ran, nextShown, -⟩ := turn_meant shown others own scratch
      rw [ran]
      exact inductionHypothesis nextShown _
    · have absent : ∀ entry ∈ entries, entry.2.sensor.id ≠ reading.id := fun entry member own =>
        mapped (List.mem_map.mpr ⟨entry, member, own⟩)
      have still : Shows (Datamgr.mk datamgr.dplist reading.id
          (datamgr.reports ++ [.unknownSensor reading.id])).dplist entries := shown
      rw [turn_meant_absent shown absent scratch]
      exact inductionHypothesis still _

/-! ### The number that is reported -/

/-- The nodes of a nonempty list are counted from 1 on. -/
theorem Shows.total {datamgr : Datamgr config} {entries : List (Address × SensorNode config)}
    (shown : Shows datamgr.dplist entries) :
    datamgr.getTotalSensors = some (if entries = [] then (0 : Int) else entries.length + 1) := by
  obtain ⟨contents, represents, elements⟩ := shown.represents
  have sameLength : contents.length = entries.length := by
    have lengths := congrArg List.length elements
    rwa [List.length_map, List.length_map] at lengths
  have sameEmpty : contents = [] ↔ entries = [] := by
    rw [← List.length_eq_zero_iff, sameLength, List.length_eq_zero_iff]
  rw [Datamgr.getTotalSensors, size_eq represents]
  simp only [sameEmpty, sameLength]

/-- The number that is reported is that of the distinct sensor ids for a map without lines only. -/
theorem total_eq_distinct_iff (lines : List (BitVec 16 × BitVec 16)) :
    (if lines = [] then (0 : Int) else lines.length + 1) = distinctSensors lines ↔
      lines = [] := by
  by_cases empty : lines = []
  · subst empty
    exact iff_of_true rfl rfl
  · have few := distinctSensors_le lines
    rw [if_neg empty]
    exact iff_of_false (by omega) empty

/-- For every map and every sequence of readings, the number of sensors that is reported afterwards
is the number of distinct sensor ids in the map exactly when the map has no line. This is so for
any other lookup as well, and with the one that is meant every sequence is processed. -/
theorem total_sensors_iff (uninitialised : SensorNode config) (stopsig : BitVec 16)
    (lines : List (BitVec 16 × BitVec 16)) :
    ∃ loaded, loadSensorMap uninitialised (mapFile lines) = some loaded ∧
      (∀ readings after, Datamgr.processAll ⟨loaded, stopsig, []⟩ readings = some after →
        (after.getTotalSensors = some (distinctSensors lines : Int) ↔ lines = [])) ∧
      (∀ lookup scratch readings after rest,
        Datamgr.turns lookup ⟨loaded, stopsig, []⟩ scratch readings = some (after, rest) →
          (after.getTotalSensors = some (distinctSensors lines : Int) ↔ lines = [])) ∧
      ∀ scratch readings, ∃ after,
        Datamgr.turns .meant ⟨loaded, stopsig, []⟩ scratch readings = some after := by
  obtain ⟨loaded, nodes, ran, tracks, fresh⟩ := loaded_tracks uninitialised stopsig lines
  have sameLength : nodes.length = lines.length := by
    have lengths := congrArg List.length fresh
    rwa [List.length_map, List.length_map, List.length_reverse] at lengths
  have reported : Datamgr.getTotalSensors ⟨loaded, stopsig, []⟩ =
      some (distinctSensors lines : Int) ↔ lines = [] := by
    rw [tracks.1.total, Option.some.injEq, ← total_eq_distinct_iff lines]
    simp only [eq_nil_iff_of_fresh fresh, sameLength]
  refine ⟨loaded, ran, fun readings after processed => ?_,
    fun lookup scratch readings after rest turned => ?_, exists_turns_meant tracks.1⟩
  · rw [processAll_total ⟨uninitialised, 0⟩ processed]
    exact reported
  · rw [turns_total turned]
    exact reported

/-- A map with one line is reported to have two sensors. -/
theorem one_sensor_counted_twice :
    ∃ loaded, loadSensorMap makefileNode (mapFile [(1, 15)]) = some loaded ∧
      Datamgr.getTotalSensors ⟨loaded, 0, []⟩ = some 2 ∧
      distinctSensors [(1, 15)] = 1 ∧
      Datamgr.getTotalSensors ⟨loaded, 0, []⟩ ≠ some (distinctSensors [(1, 15)] : Int) := by
  obtain ⟨loaded, address, ran, shown⟩ := exists_oneSensor
  have start : Shows (Datamgr.mk loaded 0 []).dplist
      [(address, freshNode makefileNode (1, 15))] := shown
  have total : Datamgr.getTotalSensors ⟨loaded, 0, []⟩ = some 2 := start.total
  have distinct : distinctSensors [(1, 15)] = 1 := by decide
  refine ⟨loaded, ran, total, distinct, ?_⟩
  rw [total, distinct]
  decide

end SensorGateway
