/-
This file puts the three threads of the gateway together: the connection manager, whose
scan inserts the readings it receives into the shared buffer, the data manager, which
takes readings from the buffer and requests stops from the connection manager, and the
storage manager, which takes readings and inserts them into the database. A poll, an
iteration of the scan, the end of a body, and an iteration of a consumer's loop are the
steps, in any order. Each step runs to its end: the mutex of the stop slot never blocks one
here.

A `double` and a `time_t` are decoded by functions that are parameters, and so is the
lookup of the data manager, because the one of the code has no result once the map has a
line. What is proved here holds for the lookup of the code and for the one that is meant.
-/

import SensorGateway.ConnmgrReceives
import SensorGateway.SensorDb
import SensorGateway.SensorRouting
import SensorGateway.Consumers

namespace SensorGateway

variable {config : Config} {rooms : DatamgrConfig} {Conn : Type}

/-! ### The station -/

/-- What the threads use: how a `double` and a `time_t` are decoded, the lookup of the data manager,
and the database library. -/
structure Setting (config : Config) (rooms : DatamgrConfig) (Conn : Type) where
  value : Field config.layout.sizeofValue → ℚ
  ts : Field config.layout.sizeofTs → Int
  lookup : Lookup rooms
  sqlite : Sqlite Conn

/-- The reading that the bytes of a sensor stand for. -/
def Setting.decode (setting : Setting config rooms Conn) (data : SensorData config.layout) :
    SensorReading where
  id := data.id.word
  value := setting.value data.value
  ts := setting.ts data.ts

/-- The connection manager, the buffer with the loops of its consumers, the data manager with the
variables of its loop, and the connection to the database. -/
structure Station (config : Config) (rooms : DatamgrConfig) (Conn : Type) where
  connmgr : Connmgr config
  gateway : Gateway (SensorData config.layout)
  datamgr : Datamgr rooms
  scratch : LoopVariables rooms
  conn : Conn

/-- One step of one of the threads. An iteration of the scan has whether `malloc` grants the node
of an insert. -/
inductive StationEvent where
  | poll (outcome : Poll) (input : AcceptInput)
  | scan (input : ScanInput) (granted : Bool)
  | endScan (messageTime : Int)
  | datamgr
  | storagemgr

/-- The readings that the connection manager has offered to the buffer. -/
def offeredReadings {layout : Layout} (log : List (Action layout)) : List (SensorData layout) :=
  log.filterMap fun action =>
    match action with
    | .sbufferInsert _ data => some data
    | _ => none

/-- Insert each of the readings. -/
def Gateway.insertEach {Data : Type} (indexOf : Data → Int) (granted : Bool) :
    Gateway Data → List Data → Option (Gateway Data)
  | gateway, [] => some gateway
  | gateway, data :: rest => do
    let gateway ← gateway.step indexOf (.insert data granted)
    gateway.insertEach indexOf granted rest

/-- The index of the node for a reading. -/
def Station.indexOf (setting : Setting config rooms Conn) (station : Station config rooms Conn)
    (data : SensorData config.layout) : Int :=
  ((setting.lookup.indexOf station.datamgr.dplist data.id.word).map Prod.fst).getD (-1)

/-- The condition and the body of the data manager's loop, once. -/
def Station.manage (setting : Setting config rooms Conn) (station : Station config rooms Conn) :
    Option (Station config rooms Conn) := do
  let gateway ← station.gateway.step (station.indexOf setting) (.iterate .datamgr)
  if (gateway.loops .datamgr).running then do
    let reading := setting.decode (gateway.loops .datamgr).data
    let (datamgr, scratch) ← station.datamgr.turn setting.lookup station.scratch reading
    some { station with
      connmgr := if scratch.i = -1 then station.connmgr.store reading.id else station.connmgr
      gateway, datamgr, scratch }
  else some { station with gateway }

/-- The condition and the body of the storage manager's loop, once. -/
def Station.record (setting : Setting config rooms Conn) (station : Station config rooms Conn) :
    Option (Station config rooms Conn) := do
  let gateway ← station.gateway.step (station.indexOf setting) (.iterate .storagemgr)
  if (gateway.loops .storagemgr).running then do
    let reading := setting.decode (gateway.loops .storagemgr).data
    let outcome ← insertSensor setting.sqlite station.conn reading.id reading.value reading.ts
    some { station with gateway, conn := outcome.conn }
  else some { station with gateway }

/-- Answer one event. -/
def Station.step (setting : Setting config rooms Conn) (station : Station config rooms Conn) :
    StationEvent → Option (Station config rooms Conn)
  | .poll outcome input =>
    (station.connmgr.poll outcome input).map fun connmgr => { station with connmgr }
  | .scan input granted => do
    let connmgr ← station.connmgr.scan input
    let gateway ← station.gateway.insertEach (station.indexOf setting) granted
      (offeredReadings (newActions station.connmgr connmgr))
    some { station with connmgr, gateway }
  | .endScan messageTime =>
    (station.connmgr.endScan messageTime).map fun connmgr => { station with connmgr }
  | .datamgr => station.manage setting
  | .storagemgr => station.record setting

/-! ### What a lookup tells -/

/-- The sensors of a list of nodes. -/
def sensorsOf (entries : List (Address × SensorNode rooms)) : List (BitVec 16) :=
  entries.map fun entry => entry.2.sensor.id

/-- A lookup leaves the nodes alone, and does not answer -1 for a sensor with a node. -/
structure Lookup.Sound (lookup : Lookup rooms) : Prop where
  world : ∀ {dplist entries id i world}, Shows dplist entries →
    lookup.indexOf dplist id = some (i, world) → world = dplist.world
  absent : ∀ {dplist entries id world}, Shows dplist entries →
    lookup.indexOf dplist id = some (-1, world) → id ∉ sensorsOf entries

theorem code_sound : (Lookup.code : Lookup rooms).Sound where
  world shown found := by
    change Dplist.getIndexOfElement _ _ _ = _ at found
    rw [getIndexOfElement_number shown] at found
    split_ifs at found
    exact (Prod.mk.inj (Option.some.inj found)).2.symm
  absent shown found := by
    change Dplist.getIndexOfElement _ _ _ = _ at found
    rw [getIndexOfElement_number shown] at found
    split_ifs at found with empty
    rw [empty]
    exact List.not_mem_nil

theorem meant_sound : (Lookup.meant : Lookup rooms).Sound where
  world shown found := by
    rw [shown.indexOf_eq] at found
    exact (Prod.mk.inj (Option.some.inj found)).2.symm
  absent {dplist entries id world} shown found member := by
    rw [shown.indexOf_eq] at found
    have nowhere := (Prod.mk.inj (Option.some.inj found)).1
    obtain ⟨entry, listed, same⟩ := List.mem_map.mp member
    cases index : entries.findIdx? fun entry => entry.2.sensor.id = id with
    | none => exact absurd same (by simpa using List.findIdx?_eq_none_iff.mp index entry listed)
    | some place =>
      rw [index] at nowhere
      exact absurd nowhere (by simp)

section Turn

variable {dplist : SensorList rooms} {entries : List (Address × SensorNode rooms)}

/-- Overwriting a node with one of the same sensor keeps the sensors of the list. -/
theorem Shows.write_same (shown : Shows dplist entries) {address : Address}
    {node later : SensorNode rooms} (live : dplist.world.read address = some node)
    (same : later.sensor.id = node.sensor.id) {world : Heap (SensorNode rooms)}
    (written : dplist.world.write address later = some world) :
    ∃ kept, Shows { dplist with world } kept ∧ sensorsOf kept = sensorsOf entries := by
  obtain ⟨after, ran, -, -, reads⟩ := dplist.world.exists_write_update live later
  obtain rfl := Option.some.inj (ran.symm.trans written)
  refine ⟨entries.map fun entry => if entry.1 = address then (entry.1, later) else entry, ?_, ?_⟩
  · refine ⟨?_, ?_, ?_⟩
    · obtain ⟨contents, represents, elements⟩ := shown.represents
      refine ⟨contents, represents, elements.trans ?_⟩
      rw [List.map_map]
      refine List.map_congr_left fun entry _ => ?_
      rw [Function.comp_apply]
      split_ifs <;> rfl
    · refine List.forall_mem_map.mpr fun entry member => ?_
      rw [reads]
      split_ifs with here
      · rw [here, Function.update_self]
      · rw [Function.update_of_ne here, shown.live entry member]
    · have first : ((entries.map fun entry =>
          if entry.1 = address then (entry.1, later) else entry).map Prod.fst) =
          entries.map Prod.fst := by
        rw [List.map_map]
        refine List.map_congr_left fun entry _ => ?_
        rw [Function.comp_apply]
        split_ifs <;> rfl
      rw [first]
      exact shown.distinct
  · unfold sensorsOf
    rw [List.map_map]
    refine List.map_congr_left fun entry member => ?_
    rw [Function.comp_apply]
    split_ifs with here
    · have found := shown.live entry member
      rw [here, live] at found
      rw [same, Option.some.inj found]
    · rfl

/-- A turn of the data manager keeps the sensors of its nodes, and requests a stop only for a
sensor without a node. -/
theorem turn_sensors {lookup : Lookup rooms} (sound : lookup.Sound) {datamgr after : Datamgr rooms}
    {scratch rest : LoopVariables rooms} {reading : SensorReading}
    (shown : Shows datamgr.dplist entries)
    (ran : datamgr.turn lookup scratch reading = some (after, rest)) :
    (∃ kept, Shows after.dplist kept ∧ sensorsOf kept = sensorsOf entries) ∧
      (rest.i = -1 → reading.id ∉ sensorsOf entries) := by
  obtain ⟨⟨i, world⟩, found, body⟩ := Option.bind_eq_some_iff.mp ran
  obtain rfl := sound.world shown found
  dsimp only at body
  split_ifs at body with missing
  · obtain ⟨rfl, rfl⟩ := Prod.mk.inj (Option.some.inj body)
    subst missing
    exact ⟨⟨entries, shown, rfl⟩, fun _ => sound.absent shown found⟩
  · obtain ⟨temp, -, body⟩ := Option.bind_eq_some_iff.mp body
    obtain ⟨node, read, body⟩ := Option.bind_eq_some_iff.mp body
    obtain ⟨world, written, body⟩ := Option.bind_eq_some_iff.mp body
    obtain ⟨rfl, rfl⟩ := Prod.mk.inj (Option.some.inj body)
    refine ⟨?_, fun nothing => absurd nothing missing⟩
    cases temp with
    | number id => cases read
    | node address => exact shown.write_same read (node.update_id reading) written

end Turn

/-! ### What the buffer hands out -/

/-- The gateway agrees with a history that loses and repeats nothing. -/
structure Gateway.Conserves {Data : Type} (gateway : Gateway Data)
    (history : Fifo.History Data Consumer) : Prop where
  simulates : gateway.Simulates history
  conserved : history.taken.map Prod.snd ++ history.waiting = history.entered

section Gateway

variable {Data : Type} {gateway : Gateway Data} {history : Fifo.History Data Consumer}

/-- An insert adds its reading, if it is granted. -/
theorem Gateway.Conserves.insert (conserves : gateway.Conserves history)
    {indexOf : Data → Int} {data : Data} {granted : Bool} {next : Gateway Data}
    (taken : gateway.step indexOf (.insert data granted) = some next) :
    (∃ later, next.Conserves later) ∧ next.loops = gateway.loops ∧
      next.accepted = gateway.accepted ++ if granted then [data] else [] := by
  have loops : next.loops = gateway.loops := by
    obtain ⟨⟨status, memory⟩, -, built⟩ := Option.bind_eq_some_iff.mp taken
    dsimp only at built
    split_ifs at built <;> rw [← Option.some.inj built]
  cases granted with
  | false =>
    obtain ⟨refused, ran, later⟩ := conserves.simulates.refuse indexOf data
    obtain rfl := Option.some.inj (ran.symm.trans taken)
    refine ⟨⟨history, later, conserves.conserved⟩, loops, ?_⟩
    rw [later.accepted, conserves.simulates.accepted]
    exact (List.append_nil _).symm
  | true =>
    obtain ⟨inserted, ran, later⟩ := conserves.simulates.insert indexOf data
    obtain rfl := Option.some.inj (ran.symm.trans taken)
    refine ⟨⟨_, later, Fifo.History.step_conserves conserves.conserved _⟩, loops, ?_⟩
    rw [later.accepted, conserves.simulates.accepted]
    rfl

/-- The inserts of one iteration. -/
theorem Gateway.Conserves.insertEach (conserves : gateway.Conserves history)
    {indexOf : Data → Int} {granted : Bool} {readings : List Data} {next : Gateway Data}
    (taken : gateway.insertEach indexOf granted readings = some next) :
    (∃ later, next.Conserves later) ∧ next.loops = gateway.loops ∧
      next.accepted = gateway.accepted ++ if granted then readings else [] := by
  induction readings generalizing gateway history with
  | nil =>
    obtain rfl := Option.some.inj taken
    exact ⟨⟨history, conserves⟩, rfl, by rw [ite_self, List.append_nil]⟩
  | cons data rest inductionHypothesis =>
    obtain ⟨middle, first, others⟩ := Option.bind_eq_some_iff.mp taken
    obtain ⟨⟨later, stays⟩, loops, accepted⟩ := conserves.insert first
    obtain ⟨ends, lastLoops, lastAccepted⟩ := inductionHypothesis stays others
    refine ⟨ends, lastLoops.trans loops, ?_⟩
    rw [lastAccepted, accepted]
    cases granted with
    | false => exact List.append_nil _
    | true => exact List.append_assoc _ _ _

/-- An iteration of a loop runs the body on a reading of the buffer, or once more on the reading in
its variable. -/
theorem Gateway.Conserves.iterate (conserves : gateway.Conserves history)
    (indexOf : Data → Int) (consumer : Consumer) :
    ∃ next data, gateway.step indexOf (.iterate consumer) = some next ∧
      (∃ later, next.Conserves later) ∧ next.accepted = gateway.accepted ∧
      next.loops = Function.update gateway.loops consumer {
        data
        bodies := (gateway.loops consumer).bodies ++ [consumer.body indexOf data]
        running := true } ∧
      (data = (gateway.loops consumer).data ∨ data ∈ gateway.accepted) := by
  obtain ⟨simulates, conserved⟩ := conserves
  obtain ⟨self, points, represents⟩ := simulates.buffer
  have conservedNext := Fifo.History.step_conserves conserved (.take consumer)
  cases front : Fifo.take history.waiting with
  | none =>
    obtain ⟨next, taken, later⟩ := simulates.miss indexOf consumer front
    refine ⟨next, (gateway.loops consumer).data, taken, ⟨_, later, conservedNext⟩, ?_, ?_,
      Or.inl rfl⟩
    all_goals
      have removed := sbufferRemove_of_take_none represents front (gateway.loops consumer).data
      simp only [Gateway.step, Loop.iterate, simulates.running, if_true, points, removed,
        Option.bind_eq_bind, Option.bind_some, ne_eq, reduceCtorEq, not_false_eq_true,
        if_false] at taken
      rw [← Option.some.inj taken]
  | some entry =>
    obtain ⟨item, rest⟩ := entry
    obtain ⟨next, taken, later⟩ := simulates.obtain indexOf consumer front
    refine ⟨next, item, taken, ⟨_, later, conservedNext⟩, ?_, ?_, Or.inr ?_⟩
    · obtain ⟨after, removed, -⟩ :=
        sbufferRemove_of_take_some represents front (gateway.loops consumer).data
      simp only [Gateway.step, Loop.iterate, simulates.running, if_true, points, removed,
        Option.bind_eq_bind, Option.bind_some, ne_eq, reduceCtorEq, not_false_eq_true] at taken
      rw [← Option.some.inj taken]
    · obtain ⟨after, removed, -⟩ :=
        sbufferRemove_of_take_some represents front (gateway.loops consumer).data
      simp only [Gateway.step, Loop.iterate, simulates.running, if_true, points, removed,
        Option.bind_eq_bind, Option.bind_some, ne_eq, reduceCtorEq, not_false_eq_true] at taken
      rw [← Option.some.inj taken]
    · have waits : item ∈ history.waiting := by
        cases queue : history.waiting with
        | nil => rw [queue] at front; cases front
        | cons head tail =>
          rw [queue] at front
          rw [← (Prod.mk.inj (Option.some.inj front)).1]
          exact List.mem_cons_self
      rw [simulates.accepted, ← conserved]
      exact List.mem_append_right _ waits

end Gateway

/-! ### The station keeps its accounts -/

/-- The readings a loop has processed and the one in its variable. -/
def Loop.seen {Data : Type} (loop : Loop Data) : List Data := loop.processed ++ [loop.data]

/-- What holds between two steps, for a map with these sensors. -/
structure Station.Sound (setting : Setting config rooms Conn) (sensors : List (BitVec 16))
    (uninitialised : Consumer → SensorData config.layout) (station : Station config rooms Conn) :
    Prop where
  sized : station.connmgr.Sized
  /-- The buffer hands out each accepted reading at most once, in order. -/
  conserves : ∃ history, station.gateway.Conserves history
  offered : station.gateway.accepted.Sublist (offeredReadings station.connmgr.log)
  /-- A loop processes accepted readings and what was in its variable. -/
  origin : ∀ consumer, ∀ data ∈ (station.gateway.loops consumer).seen,
    data = uninitialised consumer ∨ data ∈ station.gateway.accepted
  mirrors : Mirrors
    ((station.gateway.loops .storagemgr).processed.map setting.decode)
    (setting.sqlite.table station.conn)
  shown : ∃ entries, Shows station.datamgr.dplist entries ∧ sensorsOf entries = sensors
  /-- The slot holds a sensor that the data manager has not found. -/
  slot : station.connmgr.connmgrSensorStopsig = 0 ∨
    station.connmgr.connmgrSensorStopsig ∉ sensors ∧
      ∃ data ∈ (station.gateway.loops .datamgr).processed,
        data.id.word = station.connmgr.connmgrSensorStopsig

@[simp]
theorem offeredReadings_append {layout : Layout} (first second : List (Action layout)) :
    offeredReadings (first ++ second) = offeredReadings first ++ offeredReadings second :=
  List.filterMap_append

/-- Outside the scan nothing is offered. -/
theorem offeredReadings_of_outside {layout : Layout} {actions : List (Action layout)}
    (outside : ∀ action ∈ actions, action.OutsideScan) : offeredReadings actions = [] := by
  refine List.filterMap_eq_nil_iff.mpr fun action member => ?_
  cases outside action member <;> rfl

section Sound

variable {setting : Setting config rooms Conn} {sensors : List (BitVec 16)}
  {uninitialised : Consumer → SensorData config.layout} {station next : Station config rooms Conn}

/-- A step of the connection manager outside the scan. -/
theorem Station.Sound.quiet (sound : station.Sound setting sensors uninitialised)
    {connmgr : Connmgr config} {event : ConnmgrEvent}
    (taken : station.connmgr.step event = some connmgr) (other : ∀ input, event ≠ .scan input)
    (stopsig : connmgr.connmgrSensorStopsig = station.connmgr.connmgrSensorStopsig) :
    Station.Sound setting sensors uninitialised { station with connmgr } := by
  obtain ⟨rest, log, outside⟩ := log_of_not_scan taken other
  exact {
    sized := sound.sized.step taken
    conserves := sound.conserves
    offered := by
      dsimp only
      rw [log, offeredReadings_append, offeredReadings_of_outside outside, List.append_nil]
      exact sound.offered
    origin := sound.origin
    mirrors := sound.mirrors
    shown := sound.shown
    slot := by
      dsimp only
      rw [stopsig]
      exact sound.slot }

/-- A step of the connection manager with the inserts of what it has received, which keeps the slot
or empties it. -/
theorem Station.Sound.inserted (sound : station.Sound setting sensors uninitialised)
    {connmgr : Connmgr config} {actions : List (Action config.layout)} {granted : Bool}
    {gateway : Gateway (SensorData config.layout)} (sized : connmgr.Sized)
    (log : connmgr.log = station.connmgr.log ++ actions)
    (stopsig : connmgr.connmgrSensorStopsig = station.connmgr.connmgrSensorStopsig ∨
      connmgr.connmgrSensorStopsig = 0)
    (inserted : station.gateway.insertEach (station.indexOf setting) granted
      (offeredReadings actions) = some gateway) :
    Station.Sound setting sensors uninitialised { station with connmgr, gateway } := by
  obtain ⟨history, conserves⟩ := sound.conserves
  obtain ⟨later, loops, accepted⟩ := conserves.insertEach inserted
  exact {
    sized := sized
    conserves := later
    offered := by
      dsimp only
      rw [log, offeredReadings_append, accepted]
      refine List.Sublist.append sound.offered ?_
      split_ifs
      · exact List.Sublist.refl _
      · exact List.nil_sublist _
    origin := fun consumer data member => by
      dsimp only at member ⊢
      rw [loops] at member
      rw [accepted]
      exact (sound.origin consumer data member).imp_right (List.mem_append_left _)
    mirrors := by
      dsimp only
      rw [loops]
      exact sound.mirrors
    shown := sound.shown
    slot := by
      dsimp only
      rw [loops]
      rcases stopsig with same | emptied
      · rw [same]
        exact sound.slot
      · exact Or.inl emptied }

/-- An iteration of the scan with its inserts. -/
theorem Station.Sound.scan (sound : station.Sound setting sensors uninitialised)
    {connmgr : Connmgr config} {input : ScanInput} {granted : Bool}
    {gateway : Gateway (SensorData config.layout)}
    (taken : station.connmgr.scan input = some connmgr)
    (inserted : station.gateway.insertEach (station.indexOf setting) granted
      (offeredReadings (newActions station.connmgr connmgr)) = some gateway) :
    Station.Sound setting sensors uninitialised { station with connmgr, gateway } := by
  have stepped : station.connmgr.step (.scan input) = some connmgr := taken
  obtain ⟨examination, answered, examined, scanned⟩ := scan_scanned sound.sized taken
  obtain ⟨emptied, ending, log, -, served⟩ := scanned.log
  have appended : connmgr.log =
      station.connmgr.log ++ newActions station.connmgr connmgr := by
    rw [newActions, log, List.append_assoc, List.append_assoc, List.append_assoc, List.drop_left]
  exact sound.inserted (sound.sized.step stepped) appended (served.imp And.right And.right) inserted

/-- What an iteration of a loop does to the readings processed. -/
theorem processed_of_update {Data : Type} {loops later : Consumer → Loop Data}
    {indexOf : Data → Int} {consumer : Consumer} {data : Data}
    (updated : later = Function.update loops consumer {
      data
      bodies := (loops consumer).bodies ++ [consumer.body indexOf data]
      running := true }) :
    (later consumer).running = true ∧ (later consumer).data = data ∧
      (later consumer).processed = (loops consumer).processed ++ [data] ∧
      ∀ other, other ≠ consumer → later other = loops other := by
  subst updated
  refine ⟨?_, ?_, ?_, fun other different => Function.update_of_ne different _ _⟩
  all_goals rw [Function.update_self]
  rw [Loop.processed, List.map_append, List.map_singleton, Consumer.reading_body]
  rfl

/-- An iteration keeps the origin of the readings of both loops. -/
theorem Station.Sound.seen (sound : station.Sound setting sensors uninitialised)
    {later : Consumer → Loop (SensorData config.layout)} {consumer : Consumer}
    {data : SensorData config.layout} (latest : (later consumer).data = data)
    (processed : (later consumer).processed =
      (station.gateway.loops consumer).processed ++ [data])
    (others : ∀ other, other ≠ consumer → later other = station.gateway.loops other)
    (source : data = (station.gateway.loops consumer).data ∨ data ∈ station.gateway.accepted)
    (taker : Consumer) : ∀ reading ∈ (later taker).seen,
      reading = uninitialised taker ∨ reading ∈ station.gateway.accepted := by
  by_cases same : taker = consumer
  · subst same
    have own : data = uninitialised taker ∨ data ∈ station.gateway.accepted := by
      rcases source with rfl | accepted
      · exact sound.origin taker _ (List.mem_append_right _ List.mem_cons_self)
      · exact Or.inr accepted
    intro reading member
    rw [Loop.seen, processed, latest] at member
    rcases List.mem_append.mp member with inProcessed | last
    · rcases List.mem_append.mp inProcessed with earlier | now
      · exact sound.origin taker reading (List.mem_append_left _ earlier)
      · exact List.mem_singleton.mp now ▸ own
    · exact List.mem_singleton.mp last ▸ own
  · rw [others taker same]
    exact sound.origin taker

/-- An iteration of the data manager's loop. -/
theorem Station.Sound.manage (sound : station.Sound setting sensors uninitialised)
    (lookup : setting.lookup.Sound) (taken : station.manage setting = some next) :
    next.Sound setting sensors uninitialised := by
  obtain ⟨history, conserves⟩ := sound.conserves
  obtain ⟨gateway, data, iterated, later, accepted, updated, source⟩ :=
    conserves.iterate (station.indexOf setting) .datamgr
  obtain ⟨running, latest, processed, others⟩ := processed_of_update updated
  unfold Station.manage at taken
  simp only [iterated, Option.bind_eq_bind, Option.bind_some, if_pos running, latest] at taken
  obtain ⟨⟨datamgr, scratch⟩, ran, built⟩ := Option.bind_eq_some_iff.mp taken
  obtain rfl := Option.some.inj built
  obtain ⟨entries, shown, mapped⟩ := sound.shown
  obtain ⟨⟨kept, shownKept, sameSensors⟩, requested⟩ := turn_sensors lookup shown ran
  have inProcessed {reading : SensorData config.layout}
      (member : reading ∈ (station.gateway.loops .datamgr).processed) :
      reading ∈ (gateway.loops .datamgr).processed := by
    rw [processed]
    exact List.mem_append_left _ member
  refine {
    sized := ?_
    conserves := later
    offered := ?_
    origin := fun taker => accepted ▸ sound.seen latest processed others source taker
    mirrors := ?_
    shown := ⟨kept, shownKept, sameSensors.trans mapped⟩
    slot := ?_ }
  · have stored : station.connmgr.step (.store data.id.word) =
        some (station.connmgr.store data.id.word) := rfl
    dsimp only
    split_ifs
    · exact sound.sized.step stored
    · exact sound.sized
  · dsimp only
    rw [accepted]
    split_ifs
    · refine sound.offered.trans ?_
      rw [Connmgr.store, offeredReadings_append]
      exact List.sublist_append_left _ _
    · exact sound.offered
  · dsimp only
    rw [others .storagemgr (by decide)]
    exact sound.mirrors
  · dsimp only
    split_ifs with missing
    · refine Or.inr ⟨mapped ▸ requested missing, data, ?_, rfl⟩
      rw [processed]
      exact List.mem_append_right _ List.mem_cons_self
    · rcases sound.slot with empty | ⟨unknown, reading, member, same⟩
      · exact Or.inl empty
      · exact Or.inr ⟨unknown, reading, inProcessed member, same⟩

/-- An iteration of the storage manager's loop. -/
theorem Station.Sound.record (sound : station.Sound setting sensors uninitialised)
    (faithful : setting.sqlite.Exact) (taken : station.record setting = some next) :
    next.Sound setting sensors uninitialised := by
  obtain ⟨history, conserves⟩ := sound.conserves
  obtain ⟨gateway, data, iterated, later, accepted, updated, source⟩ :=
    conserves.iterate (station.indexOf setting) .storagemgr
  obtain ⟨running, latest, processed, others⟩ := processed_of_update updated
  unfold Station.record at taken
  simp only [iterated, Option.bind_eq_bind, Option.bind_some, if_pos running, latest] at taken
  obtain ⟨outcome, ran, built⟩ := Option.bind_eq_some_iff.mp taken
  obtain rfl := Option.some.inj built
  exact {
    sized := sound.sized
    conserves := later
    offered := accepted ▸ sound.offered
    origin := fun taker => accepted ▸ sound.seen latest processed others source taker
    mirrors := by
      dsimp only
      rw [processed, List.map_append, List.map_singleton]
      exact sound.mirrors.insertSensor faithful ran
    shown := sound.shown
    slot := by
      dsimp only
      rw [others .datamgr (by decide)]
      exact sound.slot }

/-- Every step keeps the accounts. -/
theorem Station.Sound.step (sound : station.Sound setting sensors uninitialised)
    (lookup : setting.lookup.Sound) (faithful : setting.sqlite.Exact) {event : StationEvent}
    (taken : station.step setting event = some next) :
    next.Sound setting sensors uninitialised := by
  cases event with
  | poll outcome input =>
    obtain ⟨connmgr, polled, rfl⟩ := Option.map_eq_some_iff.mp taken
    have stepped : station.connmgr.step (.poll outcome input) = some connmgr := polled
    refine sound.quiet stepped (fun _ => ConnmgrEvent.noConfusion) ?_
    obtain ⟨-, ways⟩ := poll_polled polled
    cases ways <;> rfl
  | scan input granted =>
    obtain ⟨connmgr, scanned, rest⟩ := Option.bind_eq_some_iff.mp taken
    obtain ⟨gateway, inserted, built⟩ := Option.bind_eq_some_iff.mp rest
    rw [← Option.some.inj built]
    exact sound.scan scanned inserted
  | endScan messageTime =>
    obtain ⟨connmgr, ended, rfl⟩ := Option.map_eq_some_iff.mp taken
    have stepped : station.connmgr.step (.endScan messageTime) = some connmgr := ended
    refine sound.quiet stepped (fun _ => ConnmgrEvent.noConfusion) ?_
    obtain ⟨-, rfl | rfl⟩ := endScan_ended ended <;> rfl
  | datamgr => exact sound.manage lookup taken
  | storagemgr => exact sound.record faithful taken

end Sound

/-! ### Whole runs -/

/-- The station when its threads start, with a loaded map. -/
def Station.start (listener : Int) (revents : BitVec 16) (pollRet tcpConnRet : Int)
    (received : SensorData config.layout) (uninitialised : Consumer → SensorData config.layout)
    (dplist : SensorList rooms) (scratch : LoopVariables rooms) (conn : Conn) :
    Station config rooms Conn where
  connmgr := Connmgr.start listener revents pollRet tcpConnRet received
  gateway := Gateway.start uninitialised
  datamgr := { dplist, stopsig := 0, reports := [] }
  scratch
  conn

section Runs

variable {setting : Setting config rooms Conn} {dplist : SensorList rooms}
  {entries : List (Address × SensorNode rooms)} {conn : Conn} (listener : Int)
  (revents : BitVec 16) (pollRet tcpConnRet : Int) (received : SensorData config.layout)
  (uninitialised : Consumer → SensorData config.layout) (scratch : LoopVariables rooms)

theorem Station.start_sound (shown : Shows dplist entries)
    (empty : setting.sqlite.table conn = []) :
    (Station.start listener revents pollRet tcpConnRet received uninitialised dplist scratch
      conn).Sound setting (sensorsOf entries) uninitialised where
  sized := start_sized listener revents pollRet tcpConnRet received
  conserves := ⟨_, Gateway.start_simulates uninitialised, rfl⟩
  offered := List.Sublist.refl _
  origin consumer data member := Or.inl (List.mem_singleton.mp member)
  mirrors := by
    show Mirrors [] (setting.sqlite.table conn)
    rw [empty]
    exact ⟨.nil, .nil⟩
  shown := ⟨entries, shown, rfl⟩
  slot := Or.inl rfl

/-- Both lookups leave the nodes alone and miss no sensor. -/
theorem Lookup.sound_of_known {lookup : Lookup rooms}
    (known : lookup = .code ∨ lookup = .meant) : lookup.Sound := by
  rcases known with rfl | rfl
  · exact code_sound
  · exact meant_sound

theorem Station.sound_final (known : setting.lookup = .code ∨ setting.lookup = .meant)
    (faithful : setting.sqlite.Exact) (shown : Shows dplist entries)
    (empty : setting.sqlite.table conn = []) (events : List StationEvent) :
    (Runs.final (Station.step setting)
      (Station.start listener revents pollRet tcpConnRet received uninitialised dplist scratch
        conn) events).Sound setting (sensorsOf entries) uninitialised :=
  Runs.invariant_final _
    (Station.start_sound listener revents pollRet tcpConnRet received uninitialised scratch shown
      empty)
    fun _ _ _ held taken => held.step (Lookup.sound_of_known known) faithful taken

/-- A setting with a database in memory that decodes zero bytes as 0. -/
def zeroSetting : Setting gatewayConfig makefileConfig (List SensorRow) where
  value _ := 0
  ts _ := 0
  lookup := .meant
  sqlite := memorySqlite

/-- Sensor 5 connects and sends a reading, the data manager takes it, and sensor 5 sends another
one, which the storage manager takes. -/
def sensorFive : List StationEvent :=
  [.poll (.returns [pollin]) (accepted 4 0 0), .endScan 0,
    .poll (.returns [0, pollin]) (accepted 5 0 0),
    .scan (scanAt 1 [5, 0] [0, 0, 0, 0, 0, 0, 0, 0] [0, 0, 0, 0, 0, 0, 0, 0]) true, .endScan 1,
    .datamgr, .poll (.returns [0, pollin]) (accepted 5 0 0),
    .scan (scanAt 2 [5, 0] [0, 0, 0, 0, 0, 0, 0, 0] [0, 0, 0, 0, 0, 0, 0, 0]) true, .endScan 2,
    .storagemgr]

/-- The station with a loaded map. -/
def stationWith (loaded : SensorList makefileConfig) :
    Station gatewayConfig makefileConfig (List SensorRow) :=
  Station.start 3 0 0 (-1) zeroData (fun _ => zeroData) loaded ⟨makefileNode, 0⟩ []

/-- Whatever the order of the steps: what the consumers have removed, in order, followed by what is
in the buffer, is what the buffer has accepted, which is part of what the connection manager has
received, in order. The database has one row for each reading that the storage manager's loop has
processed, and what either loop has processed was received or was in its variable. -/
theorem station_accounts (known : setting.lookup = .code ∨ setting.lookup = .meant)
    (faithful : setting.sqlite.Exact) (shown : Shows dplist entries)
    (empty : setting.sqlite.table conn = []) (events : List StationEvent) :
    ∃ last, Runs.final (Station.step setting)
        (Station.start listener revents pollRet tcpConnRet received uninitialised dplist scratch
          conn) events = last ∧
      (∃ self waiting, last.gateway.buffer = some self ∧
        last.gateway.memory.Represents self waiting ∧
        last.gateway.removals.map Prod.snd ++ waiting = last.gateway.accepted) ∧
      last.gateway.accepted.Sublist (offeredReadings last.connmgr.log) ∧
      Mirrors ((last.gateway.loops .storagemgr).processed.map setting.decode)
        (setting.sqlite.table last.conn) ∧
      ∀ consumer, ∀ data ∈ (last.gateway.loops consumer).processed,
        data = uninitialised consumer ∨ data ∈ offeredReadings last.connmgr.log := by
  have sound := Station.sound_final listener revents pollRet tcpConnRet received uninitialised
    scratch known faithful shown empty events
  refine ⟨_, rfl, ?_, sound.offered, sound.mirrors, fun consumer data member => ?_⟩
  · obtain ⟨history, simulates, conserved⟩ := sound.conserves
    obtain ⟨self, points, represents⟩ := simulates.buffer
    refine ⟨self, history.waiting, points, represents, ?_⟩
    rw [simulates.removals, conserved, simulates.accepted]
  · refine (sound.origin consumer data (List.mem_append_left _ member)).imp_right
      fun accepted => ?_
    exact sound.offered.subset accepted

theorem station_accounts_oneSensor :
    ∃ loaded, loadSensorMap makefileNode (mapFile [(1, 15)]) = some loaded ∧
      ∃ last, Runs.final (Station.step zeroSetting) (stationWith loaded) sensorFive = last ∧
        Mirrors ((last.gateway.loops .storagemgr).processed.map zeroSetting.decode) last.conn := by
  obtain ⟨loaded, address, ran, shown⟩ := exists_oneSensor
  obtain ⟨last, ends, -, -, mirrors, -⟩ := station_accounts 3 0 0 (-1) zeroData
    (fun _ => zeroData) ⟨makefileNode, 0⟩
    (show zeroSetting.lookup = .code ∨ zeroSetting.lookup = .meant from Or.inr rfl)
    memorySqlite_exact shown rfl sensorFive
  exact ⟨loaded, ran, last, ends, mirrors⟩

end Runs

end SensorGateway
