/-
This file holds what the data manager and the storage manager share: the readings they
take from the buffer, and the form of the messages they write to the event log.

The value of a reading is a `double`; it is read as the exact rational it stands for, so
that the arithmetic on it is exact. A message goes through `write_pipe` as it is.
-/

import Mathlib.Algebra.Order.Ring.Rat

namespace SensorGateway

/-- A reading: the sensor, the value and the timestamp. -/
structure SensorReading where
  id : BitVec 16
  value : ℚ
  ts : Int
  deriving DecidableEq

/-- A sensor id, or a room id, as `PRIu16` prints it. -/
def printId (id : BitVec 16) : String := toString id.toNat

/-- A message of the event log: its time stamp, the sender and the text. -/
def eventMessage (time : Int) (sender text : String) : String :=
  toString time ++ " " ++ sender ++ ": " ++ text

end SensorGateway
