/-
This file models `insert_sensor_from_file` and the way `file_creator` writes the file it
reads: for each reading the raw bytes of the id, the value and the timestamp.

The end-of-file flag of a stream is set by a read that comes up short, not by one that
takes the last byte. After the last record the loop therefore runs once more, reads no
id, and leaves. The function `insert_sensor` is a parameter here, with what it returns
and what it does to the connection.

Each turn of the loop takes a byte or ends the loop, so that one turn more than the file
has bytes is enough.
-/

import SensorGateway.SensorDb
import SensorGateway.Tcpsock

namespace SensorGateway

variable {Conn : Type} {layout : Layout} {size : Nat}

/-! ### Files -/

/-- A stream: the bytes from its position on, and the end-of-file flag. -/
structure FileStream where
  rest : List UInt8
  eof : Bool
  deriving DecidableEq

/-- A file that has just been opened. -/
def openFile (bytes : List UInt8) : FileStream where
  rest := bytes
  eof := false

/-- Read one field: the number of fields read, the field and the stream afterwards. The bytes read
overwrite the front of the field. -/
def fread (stream : FileStream) (field : Field size) : Nat × Field size × FileStream :=
  if stream.rest.length < size then
    (0, field.overwrite (.delivered stream.rest), { rest := [], eof := true })
  else
    (1, field.overwrite (.delivered stream.rest),
      { stream with rest := stream.rest.drop size })

/-- The three `fwrite` calls for one measurement. -/
def fwriteReading (file : List UInt8) (reading : SensorData layout) : List UInt8 :=
  file ++ reading.id.bytes ++ reading.value.bytes ++ reading.ts.bytes

/-- The file that holds the readings. -/
def sensorDataFile (readings : List (SensorData layout)) : List UInt8 :=
  readings.foldl fwriteReading []

/-! ### The import -/

/-- How the import ended: with a return value, in a failed assertion, or in a call of
`insert_sensor` that did not return. -/
inductive ImportEnd where
  | returned (rval : Int)
  | assertionFailed
  | insertLost
  deriving DecidableEq

/-- An import: the calls of `insert_sensor` with their arguments, the stream and the connection
afterwards, and how it ended. -/
structure Import (Conn : Type) (layout : Layout) where
  calls : List (SensorData layout)
  stream : FileStream
  conn : Conn
  ending : ImportEnd

/-- The loop `while (!feof(sensor_data))`. -/
def importLoop (insertSensor : Conn → SensorData layout → Option (Int × Conn)) :
    Nat → List (SensorData layout) → FileStream → Conn → SensorData layout →
      Option (Import Conn layout)
  | 0, _, _, _, _ => none
  | fuel + 1, calls, stream, conn, data =>
    if stream.eof then some ⟨calls, stream, conn, .returned 0⟩
    else
      let (length, id, stream) := fread stream data.id
      if length = 0 then some ⟨calls, stream, conn, .returned 0⟩
      else
        let (length, value, stream) := fread stream data.value
        if length = 0 then some ⟨calls, stream, conn, .assertionFailed⟩
        else
          let (length, ts, stream) := fread stream data.ts
          if length = 0 then some ⟨calls, stream, conn, .assertionFailed⟩
          else
            let data : SensorData layout := { id, value, ts }
            match insertSensor conn data with
            | none => some ⟨calls ++ [data], stream, conn, .insertLost⟩
            | some (_, conn) => importLoop insertSensor fuel (calls ++ [data]) stream conn data

/-- Insert the readings of a file; the last argument is what the variables hold at the start. -/
def insertSensorFromFile (insertSensor : Conn → SensorData layout → Option (Int × Conn))
    (conn : Conn) (sensorData : FileStream) (uninitialised : SensorData layout) :
    Option (Import Conn layout) :=
  importLoop insertSensor (sensorData.rest.length + 1) [] sensorData conn uninitialised

/-! ### Reading back what was written -/

/-- The bytes of one measurement. -/
def recordBytes (reading : SensorData layout) : List UInt8 :=
  reading.id.bytes ++ (reading.value.bytes ++ reading.ts.bytes)

theorem sensorDataFile_eq (readings : List (SensorData layout)) :
    sensorDataFile readings = readings.flatMap recordBytes := by
  have writes : ∀ file : List UInt8,
      readings.foldl fwriteReading file = file ++ readings.flatMap recordBytes := by
    induction readings with
    | nil => exact fun file => (List.append_nil file).symm
    | cons reading rest inductionHypothesis =>
      intro file
      rw [List.foldl_cons, inductionHypothesis, List.flatMap_cons, fwriteReading, recordBytes,
        List.append_assoc, List.append_assoc, List.append_assoc, List.append_assoc,
        List.append_assoc]
  exact writes []

@[simp] theorem sensorDataFile_nil : sensorDataFile ([] : List (SensorData layout)) = [] := rfl

theorem sensorDataFile_cons (reading : SensorData layout) (rest : List (SensorData layout)) :
    sensorDataFile (reading :: rest) = recordBytes reading ++ sensorDataFile rest := by
  rw [sensorDataFile_eq, sensorDataFile_eq, List.flatMap_cons]

theorem length_le_sensorDataFile (readings : List (SensorData layout)) :
    readings.length ≤ (sensorDataFile readings).length := by
  induction readings with
  | nil => exact Nat.le_refl 0
  | cons reading rest inductionHypothesis =>
    rw [sensorDataFile_cons, recordBytes, List.length_append, List.length_append, reading.id.sized,
      List.length_cons]
    omega

/-- A field at the front of the stream is read back. -/
theorem fread_append (written field : Field size) (rest : List UInt8) (eof : Bool) :
    fread ⟨written.bytes ++ rest, eof⟩ field = (1, written, ⟨rest, eof⟩) := by
  have taken : (written.bytes ++ rest).take size = written.bytes :=
    List.take_left' written.sized
  have whole : field.overwrite (.delivered (written.bytes ++ rest)) = written := by
    refine Field.ext_bytes ?_
    rw [Field.overwrite_of_full, Recv.chunk, taken]
    rw [Recv.chunk, taken, written.sized]
  unfold fread
  rw [if_neg (by rw [List.length_append, written.sized]; omega), whole,
    List.drop_left' written.sized]

/-! ### The import as a whole -/

/-- The connection after a sequence of inserts, if each of them returns. -/
def insertions (insertSensor : Conn → SensorData layout → Option (Int × Conn)) :
    Conn → List (SensorData layout) → Option Conn
  | conn, [] => some conn
  | conn, reading :: rest => do
    let (_, conn) ← insertSensor conn reading
    insertions insertSensor conn rest

section Import

variable {insertSensor : Conn → SensorData layout → Option (Int × Conn)}

/-- One turn of the loop on a whole record. -/
theorem importLoop_record {conn after : Conn} {reading : SensorData layout} {rval : Int}
    (inserted : insertSensor conn reading = some (rval, after)) (fuel : Nat)
    (calls : List (SensorData layout)) (rest : List UInt8) (data : SensorData layout) :
    importLoop insertSensor (fuel + 1) calls ⟨recordBytes reading ++ rest, false⟩ conn data =
      importLoop insertSensor fuel (calls ++ [reading]) ⟨rest, false⟩ after reading := by
  rw [importLoop, if_neg Bool.false_ne_true, recordBytes, List.append_assoc, List.append_assoc,
    fread_append]
  dsimp only
  rw [if_neg Nat.one_ne_zero, fread_append]
  dsimp only
  rw [if_neg Nat.one_ne_zero, fread_append]
  dsimp only
  rw [if_neg Nat.one_ne_zero, inserted]

/-- The turn of the loop behind the last record: without an id it ends the import, and when the
value or the timestamp is missing its assertion fails. -/
theorem importLoop_residue (fuel : Nat) (calls : List (SensorData layout)) {residue : List UInt8}
    (short : residue.length < 2 + layout.sizeofValue + layout.sizeofTs) (conn : Conn)
    (data : SensorData layout) :
    importLoop insertSensor (fuel + 1) calls ⟨residue, false⟩ conn data =
      some ⟨calls, ⟨[], true⟩, conn,
        if residue.length < 2 then .returned 0 else .assertionFailed⟩ := by
  rw [importLoop, if_neg Bool.false_ne_true]
  by_cases noId : residue.length < 2
  · have id : fread ⟨residue, false⟩ data.id = (0, _, ⟨[], true⟩) := if_pos noId
    rw [id, if_pos noId]
    rfl
  · have id : fread ⟨residue, false⟩ data.id = (1, _, ⟨residue.drop 2, false⟩) := if_neg noId
    rw [id, if_neg noId]
    dsimp only
    rw [if_neg Nat.one_ne_zero]
    by_cases noValue : (residue.drop 2).length < layout.sizeofValue
    · have value : fread ⟨residue.drop 2, false⟩ data.value = (0, _, ⟨[], true⟩) :=
        if_pos noValue
      rw [value]
      rfl
    · have value : fread ⟨residue.drop 2, false⟩ data.value =
          (1, _, ⟨(residue.drop 2).drop layout.sizeofValue, false⟩) := if_neg noValue
      have noTs : ((residue.drop 2).drop layout.sizeofValue).length < layout.sizeofTs := by
        have behindId : (residue.drop 2).length = residue.length - 2 := List.length_drop
        rw [List.length_drop]
        omega
      have ts : fread ⟨(residue.drop 2).drop layout.sizeofValue, false⟩ data.ts =
          (0, _, ⟨[], true⟩) := if_pos noTs
      rw [value]
      dsimp only
      rw [if_neg Nat.one_ne_zero, ts]
      rfl

/-- The loop takes the readings at the front of the file, and goes on with what is behind them. -/
theorem importLoop_readings {readings : List (SensorData layout)} {conn loaded : Conn}
    (inserted : insertions insertSensor conn readings = some loaded) (residue : List UInt8) :
    ∀ (fuel : Nat) (calls : List (SensorData layout)) (data : SensorData layout),
      readings.length < fuel →
      ∃ left last,
        importLoop insertSensor fuel calls ⟨sensorDataFile readings ++ residue, false⟩ conn data =
          importLoop insertSensor (left + 1) (calls ++ readings) ⟨residue, false⟩ loaded last := by
  induction readings generalizing conn with
  | nil =>
    intro fuel calls data enough
    obtain ⟨left, rfl⟩ := Nat.exists_eq_add_one_of_ne_zero enough.ne'
    refine ⟨left, data, ?_⟩
    rw [sensorDataFile_nil, List.nil_append, List.append_nil, Option.some.inj inserted]
  | cons reading rest inductionHypothesis =>
    intro fuel calls data enough
    obtain ⟨fuel, rfl⟩ := Nat.exists_eq_add_one_of_ne_zero (Nat.ne_zero_of_lt enough)
    obtain ⟨⟨rval, after⟩, first, others⟩ := Option.bind_eq_some_iff.mp inserted
    obtain ⟨left, last, ran⟩ :=
      inductionHypothesis others fuel (calls ++ [reading]) reading (Nat.lt_of_succ_lt_succ enough)
    refine ⟨left, last, ?_⟩
    rw [sensorDataFile_cons, List.append_assoc, importLoop_record first, ran, List.append_assoc]
    rfl

/-- An import of a file with readings and a residue, when the inserts of the readings return. -/
theorem insertSensorFromFile_residue {readings : List (SensorData layout)} {conn loaded : Conn}
    (inserted : insertions insertSensor conn readings = some loaded) {residue : List UInt8}
    (short : residue.length < 2 + layout.sizeofValue + layout.sizeofTs)
    (uninitialised : SensorData layout) :
    insertSensorFromFile insertSensor conn (openFile (sensorDataFile readings ++ residue))
        uninitialised =
      some ⟨readings, ⟨[], true⟩, loaded,
        if residue.length < 2 then .returned 0 else .assertionFailed⟩ := by
  have enough : readings.length < (sensorDataFile readings ++ residue).length + 1 := by
    have few := length_le_sensorDataFile readings
    rw [List.length_append]
    omega
  obtain ⟨left, last, ran⟩ := importLoop_readings inserted residue _ [] uninitialised enough
  exact ran.trans (importLoop_residue left readings short loaded last)

/-- An import of a file that holds readings whose inserts return. -/
theorem insertSensorFromFile_eq {readings : List (SensorData layout)} {conn loaded : Conn}
    (inserted : insertions insertSensor conn readings = some loaded)
    (uninitialised : SensorData layout) :
    insertSensorFromFile insertSensor conn (openFile (sensorDataFile readings)) uninitialised =
      some ⟨readings, ⟨[], true⟩, loaded, .returned 0⟩ := by
  have none : ([] : List UInt8).length < 2 + layout.sizeofValue + layout.sizeofTs := by
    rw [List.length_nil]
    omega
  have ran := insertSensorFromFile_residue inserted none uninitialised
  rwa [List.append_nil] at ran

end Import

theorem insertions_some (insertSensor : Conn → SensorData layout → Int × Conn) (conn : Conn)
    (readings : List (SensorData layout)) :
    insertions (fun conn reading => some (insertSensor conn reading)) conn readings =
      some (readings.foldl (fun conn reading => (insertSensor conn reading).2) conn) := by
  induction readings generalizing conn with
  | nil => rfl
  | cons reading rest inductionHypothesis => exact inductionHypothesis (insertSensor conn reading).2

/-- Importing the file that holds the readings calls `insert_sensor` once for each reading, in
their order, and returns 0 at the end of the file. -/
theorem import_undoes_write (insertSensor : Conn → SensorData layout → Int × Conn) (conn : Conn)
    (uninitialised : SensorData layout) (readings : List (SensorData layout)) :
    insertSensorFromFile (fun conn reading => some (insertSensor conn reading)) conn
        (openFile (sensorDataFile readings)) uninitialised =
      some {
        calls := readings
        stream := { rest := [], eof := true }
        conn := readings.foldl (fun conn reading => (insertSensor conn reading).2) conn
        ending := .returned 0 } :=
  insertSensorFromFile_eq (insertions_some insertSensor conn readings) uninitialised

/-! ### Importing into the database -/

/-- `insert_sensor` on raw fields, with the numbers that they stand for. -/
def insertDecoded (sqlite : Sqlite Conn) (decode : SensorData layout → SensorReading)
    (conn : Conn) (data : SensorData layout) : Option (Int × Conn) := do
  let outcome ← insertSensor sqlite conn (decode data).id (decode data).value (decode data).ts
  some (outcome.rval, outcome.conn)

theorem insertions_insertDecoded (sqlite : Sqlite Conn)
    (decode : SensorData layout → SensorReading) (conn : Conn)
    (readings : List (SensorData layout)) :
    insertions (insertDecoded sqlite decode) conn readings =
      insertAll sqlite conn (readings.map decode) := by
  induction readings generalizing conn with
  | nil => rfl
  | cons reading rest inductionHypothesis =>
    rw [insertions, List.map_cons, insertAll, insertDecoded]
    cases inserted : insertSensor sqlite conn (decode reading).id (decode reading).value
      (decode reading).ts with
    | none => rfl
    | some outcome => exact inductionHypothesis outcome.conn

/-- When the inserts succeed, an import leaves the table that the inserts of the readings one by
one leave. -/
theorem import_into_database {sqlite : Sqlite Conn} {decode : SensorData layout → SensorReading}
    {conn loaded : Conn} {readings : List (SensorData layout)}
    (inserted : insertAll sqlite conn (readings.map decode) = some loaded)
    (uninitialised : SensorData layout) :
    insertSensorFromFile (insertDecoded sqlite decode) conn
        (openFile (sensorDataFile readings)) uninitialised =
      some ⟨readings, ⟨[], true⟩, loaded, .returned 0⟩ :=
  insertSensorFromFile_eq ((insertions_insertDecoded sqlite decode conn readings).trans inserted)
    uninitialised

end SensorGateway
