/-
This file proves that loading the sensor map undoes writing it. The map has one line for
each pair of a room and a sensor, as `file_creator` prints it, and the loading loop leaves
one node for each line.

A line has at most twelve characters with its newline, so that it fits the line buffer;
the scan reads both numbers back. The comparison callback never finds two nodes in order:
it answers -1 for different pointers, so that every node goes to the front of the list,
and the nodes stand in the reverse of the order of the lines.
-/

import SensorGateway.Datamgr
import SensorGateway.DplistSorted

namespace SensorGateway

open Text

variable {config : DatamgrConfig}

/-! ### The map file -/

/-- One line of the map: `fprintf(fp_text, "%hu %hu\n", room_id, sensor_id)`. -/
def mapLine (line : BitVec 16 × BitVec 16) : List Char :=
  printUnsigned line.1 ++ ' ' :: (printUnsigned line.2 ++ ['\n'])

/-- The map with one line for each pair. -/
def mapFile (lines : List (BitVec 16 × BitVec 16)) : List Char := lines.flatMap mapLine

/-- The node that belongs to a line. -/
def freshNode (uninitialised : SensorNode config) (line : BitVec 16 × BitVec 16) :
    SensorNode config :=
  { uninitialised with
    roomId := line.1
    sensor := { id := line.2, value := 0, ts := 0 }
    dataList := DataList.zero config.runAvgLength }

/-- The line buffer holds a line whole. -/
theorem fgets_mapLine (line : BitVec 16 × BitVec 16) (rest : List Char) :
    fgets lineSize (mapLine line ++ rest) = some (mapLine line, rest) := by
  have single : '\n' ∉ printUnsigned line.1 ++ ' ' :: printUnsigned line.2 := by
    intro member
    rcases List.mem_append.mp member with digit | member
    · exact absurd (isDigit_of_mem_printUnsigned digit) (by decide)
    · rcases List.mem_cons.mp member with space | digit
      · exact absurd space (by decide)
      · exact absurd (isDigit_of_mem_printUnsigned digit) (by decide)
  have fits : (printUnsigned line.1 ++ ' ' :: printUnsigned line.2).length + 1 < lineSize := by
    have room := length_printUnsigned_le line.1
    have sensor := length_printUnsigned_le line.2
    rw [List.length_append, List.length_cons, lineSize]
    omega
  have whole : mapLine line ++ rest =
      (printUnsigned line.1 ++ ' ' :: printUnsigned line.2) ++ '\n' :: rest := by
    simp [mapLine]
  have stored : mapLine line =
      (printUnsigned line.1 ++ ' ' :: printUnsigned line.2) ++ ['\n'] := by
    simp [mapLine]
  rw [whole, fgets_append single fits, stored]

/-- The scan of a line reads both numbers back, and nothing else of the node changes. -/
theorem scanLine_mapLine (line : BitVec 16 × BitVec 16) (node : SensorNode config) :
    scanLine (mapLine line) node =
      { node with roomId := line.1, sensor := { node.sensor with id := line.2 } } := by
  have room : scanUnsigned (mapLine line) =
      some (line.1, ' ' :: (printUnsigned line.2 ++ ['\n'])) :=
    scanUnsigned_append (by simp [Char.isDigit])
  have sensor : scanUnsigned (' ' :: (printUnsigned line.2 ++ ['\n'])) = some (line.2, ['\n']) := by
    rw [scanUnsigned_space (by decide)]
    exact scanUnsigned_append (by simp [Char.isDigit])
  unfold scanLine
  rw [room]
  dsimp only
  rw [sensor]

/-! ### The list of the nodes -/

/-- The list holds the listed nodes, in order, each in a place of its own. -/
structure Shows (dplist : SensorList config) (entries : List (Address × SensorNode config)) :
    Prop where
  represents : ∃ contents, dplist.Represents contents ∧
    contents.map Prod.snd = entries.map fun entry => VoidPointer.node entry.1
  live : ∀ entry ∈ entries, dplist.world.read entry.1 = some entry.2
  distinct : (entries.map Prod.fst).Nodup

variable {dplist : SensorList config} {entries : List (Address × SensorNode config)}

/-- A change of the nodes' memory that leaves the listed nodes alone. -/
theorem Shows.frame (shown : Shows dplist entries) {world : Heap (SensorNode config)}
    (same : ∀ entry ∈ entries, world.read entry.1 = dplist.world.read entry.1) :
    Shows { dplist with world } entries :=
  ⟨shown.represents, fun entry member => (same entry member).trans (shown.live entry member),
    shown.distinct⟩

/-- A list holds one list of nodes. -/
theorem Shows.unique {other : List (Address × SensorNode config)} (shown : Shows dplist entries)
    (again : Shows dplist other) : entries = other := by
  obtain ⟨contents, represents, elements⟩ := shown.represents
  obtain ⟨contentsAgain, representsAgain, elementsAgain⟩ := again.represents
  obtain rfl := represents.path.unique representsAgain.path
  have whole {entries : List (Address × SensorNode config)} (shown : Shows dplist entries) :
      entries.map (fun entry => (VoidPointer.node entry.1, some entry.2)) =
        (entries.map fun entry => VoidPointer.node entry.1).map fun pointer =>
          (pointer, pointer.read dplist.world) := by
    rw [List.map_map]
    refine List.map_congr_left fun entry member => ?_
    rw [Function.comp_apply, VoidPointer.read_node, shown.live entry member]
  have injective : Function.Injective fun entry : Address × SensorNode config =>
      (VoidPointer.node entry.1, some entry.2) := by
    rintro ⟨first, node⟩ ⟨second, otherNode⟩ same
    simpa using same
  refine List.map_injective_iff.mpr injective ?_
  rw [whole shown, whole again, ← elements, ← elementsAgain]

/-- Inserting a copy of a node that is not in the list puts the copy in front. -/
theorem Shows.insertSorted (shown : Shows dplist entries) {scratch : Address}
    {node : SensorNode config} (live : dplist.world.read scratch = some node) :
    ∃ after, Dplist.insertSorted (sensorCallbacks config) dplist (.node scratch) true =
        some after ∧
      after.world = (dplist.world.malloc node).2 ∧
      Shows after ((dplist.world.bound, node) :: entries) := by
  obtain ⟨contents, represents, elements⟩ := shown.represents
  have copied : Dplist.copyIf (sensorCallbacks config) dplist.world (.node scratch) true =
      some (.node dplist.world.bound, (dplist.world.malloc node).2) := by
    show copySensor dplist.world (.node scratch) = _
    rw [copySensor, VoidPointer.read_node, live]
    rfl
  have fresh : ∀ entry ∈ entries, entry.1 ≠ dplist.world.bound := by
    intro entry member
    exact (dplist.world.lt_bound_of_read (shown.live entry member)).ne
  have compares : ComparesTo (sensorCallbacks config) (dplist.world.malloc node).2
      (fun _ _ => -1) (.node dplist.world.bound) contents := by
    intro place member
    have listed : place.2 ∈ entries.map fun entry => VoidPointer.node entry.1 :=
      elements ▸ List.mem_map_of_mem member
    obtain ⟨entry, present, same⟩ := List.mem_map.mp listed
    have different : VoidPointer.node dplist.world.bound ≠ .node entry.1 :=
      fun equal => fresh entry present (VoidPointer.node.inj equal).symm
    show compareSensor _ _ _ = _
    rw [← same, compareSensor, VoidPointer.read_node, VoidPointer.read_node,
      dplist.world.read_malloc_self, dplist.world.read_malloc_of_ne node (fresh entry present),
      shown.live entry present, if_neg different]
    rfl
  obtain ⟨after, ran, world, inserted⟩ :=
    (insertSorted_refines represents copied compares).1 _
      (dplInsertSorted_of_neg fun other member => by decide)
  refine ⟨after, ran, world, ⟨_, inserted, ?_⟩, ?_, ?_⟩
  · rw [List.map_cons, List.map_cons, elements]
  · rw [world]
    refine List.forall_mem_cons.mpr ⟨dplist.world.read_malloc_self node, fun entry member => ?_⟩
    rw [dplist.world.read_malloc_of_ne node (fresh entry member), shown.live entry member]
  · refine List.nodup_cons.mpr ⟨fun member => ?_, shown.distinct⟩
    obtain ⟨entry, present, same⟩ := List.mem_map.mp member
    exact fresh entry present same

/-! ### The loading loop -/

/-- What the scratch node holds after each line of a file. -/
def scannedNodes : Nat → List Char → SensorNode config → List (SensorNode config)
  | 0, _, _ => []
  | fuel + 1, file, node =>
    match fgets lineSize file with
    | none => []
    | some (line, file) => scanLine line node :: scannedNodes fuel file (scanLine line node)

/-- The loop ends, and puts a node in front for each line of the file. -/
theorem loadLoop_scans {scratch : Address} :
    ∀ (fuel : Nat) (file : List Char) (dplist : SensorList config)
      (entries : List (Address × SensorNode config)) (node : SensorNode config),
      file.length < fuel → Shows dplist entries → scratch ∉ entries.map Prod.fst →
      dplist.world.read scratch = some node →
      ∃ loaded added, loadLoop scratch fuel file dplist = some loaded ∧
        Shows loaded (added ++ entries) ∧
        added.map Prod.snd = (scannedNodes fuel file node).reverse := by
  intro fuel
  induction fuel with
  | zero => exact fun file dplist entries node enough => absurd enough (Nat.not_lt_zero _)
  | succ fuel inductionHypothesis =>
    intro file dplist entries node enough shown away live
    cases read : fgets lineSize file with
    | none =>
      refine ⟨dplist, [], ?_, shown, ?_⟩
      · rw [loadLoop, read]
      · rw [scannedNodes, read]
        rfl
    | some taken =>
      obtain ⟨line, rest⟩ := taken
      have shorter := length_lt_of_fgets (by decide) read
      obtain ⟨world, written, bound, -, reads⟩ :=
        dplist.world.exists_write_update live (scanLine line node)
      have framed : Shows { dplist with world } entries := shown.frame fun entry member => by
        have other : entry.1 ≠ scratch := fun same => away (same ▸ List.mem_map_of_mem member)
        rw [reads, Function.update_of_ne other]
      have scratchLive : world.read scratch = some (scanLine line node) := by
        rw [reads, Function.update_self]
      obtain ⟨after, inserted, afterWorld, afterShown⟩ := framed.insertSorted scratchLive
      have used : scratch < world.bound := world.lt_bound_of_read scratchLive
      have stillAway : scratch ∉ ((world.bound, scanLine line node) :: entries).map Prod.fst := by
        rw [List.map_cons, List.mem_cons, not_or]
        exact ⟨used.ne, away⟩
      have stillLive : after.world.read scratch = some (scanLine line node) := by
        rw [afterWorld]
        exact (world.read_malloc_of_ne _ used.ne).trans scratchLive
      obtain ⟨loaded, added, ran, loadedShown, nodes⟩ := inductionHypothesis rest after _ _
        (by omega) afterShown stillAway stillLive
      refine ⟨loaded, added ++ [(world.bound, scanLine line node)], ?_, ?_, ?_⟩
      · rw [loadLoop, read]
        simp only [live, written, inserted, Option.bind_eq_bind, Option.bind_some]
        exact ran
      · rwa [List.append_assoc]
      · rw [List.map_append, nodes, scannedNodes, read, List.reverse_cons]
        rfl

/-- From an empty list on, the loop leaves the nodes that were scanned, the last one first. -/
theorem loadLoop_of_live {scratch : Address} {world : Heap (SensorNode config)}
    {node : SensorNode config} (file : List Char) (live : world.read scratch = some node) :
    ∃ loaded entries,
      loadLoop scratch (file.length + 1) file (Dplist.create world) = some loaded ∧
      Shows loaded entries ∧
      entries.map Prod.snd = (scannedNodes (file.length + 1) file node).reverse := by
  have empty : Shows (Dplist.create world) [] :=
    ⟨⟨[], create_represents world, rfl⟩, by simp, List.nodup_nil⟩
  obtain ⟨loaded, added, ran, shown, nodes⟩ := loadLoop_scans _ file _ [] node
    (Nat.lt_succ_self _) empty List.not_mem_nil live
  rw [List.append_nil] at shown
  exact ⟨loaded, added, ran, shown, nodes⟩

/-- The lines of a map are scanned as they were written. -/
theorem scannedNodes_mapFile {uninitialised : SensorNode config}
    (lines : List (BitVec 16 × BitVec 16)) {fuel : Nat} (enough : lines.length < fuel)
    (last : BitVec 16 × BitVec 16) :
    scannedNodes fuel (mapFile lines) (freshNode uninitialised last) =
      lines.map (freshNode uninitialised) := by
  induction lines generalizing fuel last with
  | nil =>
    obtain ⟨fuel, rfl⟩ := Nat.exists_eq_add_one_of_ne_zero enough.ne'
    rfl
  | cons line rest inductionHypothesis =>
    obtain ⟨fuel, rfl⟩ := Nat.exists_eq_add_one_of_ne_zero (Nat.ne_zero_of_lt enough)
    have scanned : scanLine (mapLine line) (freshNode uninitialised last) =
        freshNode uninitialised line := scanLine_mapLine line _
    rw [mapFile, List.flatMap_cons, scannedNodes, fgets_mapLine]
    dsimp only
    rw [scanned]
    exact congrArg _ (inductionHypothesis (Nat.lt_of_succ_lt_succ enough) line)

theorem length_le_mapFile (lines : List (BitVec 16 × BitVec 16)) :
    lines.length ≤ (mapFile lines).length := by
  induction lines with
  | nil => exact Nat.le_refl 0
  | cons line rest inductionHypothesis =>
    unfold mapFile at inductionHypothesis ⊢
    rw [List.flatMap_cons, List.length_append, mapLine, List.length_append, List.length_cons,
      List.length_cons]
    omega

/-- From an empty list on, the loop leaves the nodes of the lines. -/
theorem loadLoop_of_empty {scratch : Address} {uninitialised : SensorNode config}
    {world : Heap (SensorNode config)} {last : BitVec 16 × BitVec 16}
    (lines : List (BitVec 16 × BitVec 16))
    (live : world.read scratch = some (freshNode uninitialised last)) :
    ∃ loaded entries,
      loadLoop scratch ((mapFile lines).length + 1) (mapFile lines) (Dplist.create world) =
        some loaded ∧
      Shows loaded entries ∧
      entries.map Prod.snd = lines.reverse.map (freshNode uninitialised) := by
  obtain ⟨loaded, entries, ran, shown, nodes⟩ := loadLoop_of_live (mapFile lines) live
  rw [scannedNodes_mapFile lines (Nat.lt_succ_of_le (length_le_mapFile lines)),
    ← List.map_reverse] at nodes
  exact ⟨loaded, entries, ran, shown, nodes⟩

/-- The scratch node before the first line is read, with what the uninitialised members hold. -/
theorem scratch_live (uninitialised : SensorNode config) :
    ((Heap.empty (SensorNode config)).malloc
        (freshNode uninitialised (uninitialised.roomId, uninitialised.sensor.id))).2.read
      (Heap.empty (SensorNode config)).bound =
        some (freshNode uninitialised (uninitialised.roomId, uninitialised.sensor.id)) :=
  Heap.read_malloc_self _ _

/-- Scanning a line changes the room and the sensor at most. -/
theorem scanLine_freshNode (uninitialised : SensorNode config) (text : List Char)
    (line : BitVec 16 × BitVec 16) :
    ∃ scanned, scanLine text (freshNode uninitialised line) =
      freshNode uninitialised scanned := by
  unfold scanLine
  split
  · exact ⟨line, rfl⟩
  · split
    · exact ⟨(_, line.2), rfl⟩
    · exact ⟨(_, _), rfl⟩

theorem scannedNodes_fresh (uninitialised : SensorNode config) (fuel : Nat) (file : List Char)
    (line : BitVec 16 × BitVec 16) :
    ∀ node ∈ scannedNodes fuel file (freshNode uninitialised line),
      ∃ scanned, node = freshNode uninitialised scanned := by
  induction fuel generalizing file line with
  | zero => exact fun node member => absurd member List.not_mem_nil
  | succ fuel inductionHypothesis =>
    rw [scannedNodes]
    split
    · exact fun node member => absurd member List.not_mem_nil
    · obtain ⟨scanned, same⟩ := scanLine_freshNode uninitialised _ line
      rw [same]
      exact List.forall_mem_cons.mpr ⟨⟨scanned, rfl⟩, inductionHypothesis _ scanned⟩

/-- Loading ends for every file, and leaves fresh nodes only. -/
theorem exists_loadSensorMap (uninitialised : SensorNode config) (file : List Char) :
    ∃ loaded entries, loadSensorMap uninitialised file = some loaded ∧ Shows loaded entries ∧
      ∀ entry ∈ entries, ∃ line, entry.2 = freshNode uninitialised line := by
  obtain ⟨loaded, entries, ran, shown, nodes⟩ :=
    loadLoop_of_live file (scratch_live uninitialised)
  refine ⟨loaded, entries, ran, shown, fun entry member => ?_⟩
  have listed : entry.2 ∈ entries.map Prod.snd := List.mem_map_of_mem member
  rw [nodes, List.mem_reverse] at listed
  exact scannedNodes_fresh uninitialised _ file _ entry.2 listed

/-- Loading the map that was written for the lines ends, and leaves one node for each line, with
its room and sensor and an empty window, in the reverse order. -/
theorem load_undoes_write (uninitialised : SensorNode config)
    (lines : List (BitVec 16 × BitVec 16)) :
    ∃ loaded entries, loadSensorMap uninitialised (mapFile lines) = some loaded ∧
      Shows loaded entries ∧
      entries.map Prod.snd = lines.reverse.map (freshNode uninitialised) :=
  loadLoop_of_empty lines (scratch_live uninitialised)

end SensorGateway
