/-
This file models the storage manager's side of the database: `insert_sensor` and the
`find_sensor` queries. Each prints one SQL statement and hands it to SQLite, which is a
parameter: a connection with a table behind it, a function that executes a statement on
it, and the promises that a successful execution keeps. A statement is modelled by its
meaning, so that a number in it is the number that its digits denote.

The insert prints the value with %e, the queries print it with %g. Both round it, to
seven significant digits and to six. A query by value therefore compares the stored
value with a coarser rounding of the value asked for.

The undeclared `errmsg` of `find_sensor_exceed_value` is read as `error_msg`. When the
insert fails, `asprintf(buf, ...)` writes through the uninitialised `buf`, so that the
function has no result.
-/

import Mathlib.Data.List.Nodup
import Mathlib.Data.Rat.Floor
import SensorGateway.Reading
import SensorGateway.Library.Decimal

namespace SensorGateway

open Decimal

variable {Conn : Type}

/-! ### The statements -/

/-- The number that %e prints. -/
def formatE (value : ℚ) : ℚ := roundScientific 6 value

/-- The number that %g prints. -/
def formatG (value : ℚ) : ℚ := roundScientific 5 value

/-- A row of the table. -/
structure SensorRow where
  id : Nat
  sensorId : BitVec 16
  sensorValue : ℚ
  timestamp : Int
  deriving DecidableEq

/-- The WHERE clause of a SELECT statement. -/
inductive Condition where
  | all
  | valueIs (value : ℚ)
  | valueExceeds (value : ℚ)
  | timestampIs (ts : Int)
  | timestampExceeds (ts : Int)
  deriving DecidableEq

/-- Whether a row meets the WHERE clause. -/
def Condition.holds (row : SensorRow) : Condition → Bool
  | .all => true
  | .valueIs value => row.sensorValue = value
  | .valueExceeds value => value < row.sensorValue
  | .timestampIs ts => row.timestamp = ts
  | .timestampExceeds ts => ts < row.timestamp

/-- The statements of the storage manager. -/
inductive Statement where
  | insert (sensorId : BitVec 16) (sensorValue : ℚ) (timestamp : Int)
  | selectOrderedById (condition : Condition)

/-! ### The database library -/

/-- The return code of a success. -/
def sqliteOk : Int := 0

/-- The outcome of `sqlite3_exec`: the return code, the error message, the rows given to the
callback, and the connection afterwards. -/
structure Execution (Conn : Type) where
  rval : Int
  errorMsg : String
  rows : List SensorRow
  conn : Conn

/-- The database library: the table behind a connection, in the order of the inserts, and
`sqlite3_exec`. -/
structure Sqlite (Conn : Type) where
  table : Conn → List SensorRow
  exec : Conn → Statement → Execution Conn

/-- What a successful execution does: a row is added under a larger id, the rows that meet the
condition are delivered in the order of their ids. -/
structure Sqlite.Exact (sqlite : Sqlite Conn) : Prop where
  insert : ∀ conn sensorId sensorValue timestamp,
    (sqlite.exec conn (.insert sensorId sensorValue timestamp)).rval = sqliteOk →
    ∃ id, (∀ row ∈ sqlite.table conn, row.id < id) ∧
      sqlite.table (sqlite.exec conn (.insert sensorId sensorValue timestamp)).conn =
        sqlite.table conn ++ [⟨id, sensorId, sensorValue, timestamp⟩]
  select : ∀ conn condition,
    (sqlite.exec conn (.selectOrderedById condition)).rval = sqliteOk →
    (sqlite.exec conn (.selectOrderedById condition)).rows.Perm
        ((sqlite.table conn).filter condition.holds) ∧
      (sqlite.exec conn (.selectOrderedById condition)).rows.Pairwise (·.id ≤ ·.id)

/-! ### The functions of the storage manager -/

/-- The name of the table. -/
def tableName : String := "SensorData"

/-- The outcome of a function on the database: what it returns, the rows its callback was given,
what it wrote to stderr and to the event log, and the connection afterwards. -/
structure DbOutcome (Conn : Type) where
  rval : Int
  rows : List SensorRow
  stderr : String
  message : String
  conn : Conn

/-- Insert one reading. -/
def insertSensor (sqlite : Sqlite Conn) (conn : Conn) (id : BitVec 16) (value : ℚ) (ts : Int) :
    Option (DbOutcome Conn) :=
  let execution := sqlite.exec conn (.insert id (formatE value) ts)
  if execution.rval ≠ sqliteOk then none
  else some {
    rval := execution.rval
    rows := execution.rows
    stderr := ""
    message := eventMessage ts "Storagemgr" ("Inserted new reading in " ++ tableName)
    conn := execution.conn }

/-- The shape of the queries: execute, report a failure with the text of the error, and log the
outcome under a name. -/
def findSensor (sqlite : Sqlite Conn) (conn : Conn) (time : Int) (condition : Condition)
    (error name : String) : DbOutcome Conn :=
  let execution := sqlite.exec conn (.selectOrderedById condition)
  if execution.rval ≠ sqliteOk then {
    rval := execution.rval
    rows := execution.rows
    stderr := error ++ execution.errorMsg ++ "\n"
    message := eventMessage time "Storagemgr" (name ++ " failed::" ++ execution.errorMsg)
    conn := execution.conn }
  else {
    rval := execution.rval
    rows := execution.rows
    stderr := ""
    message := eventMessage time "Storagemgr" (name ++ " complete")
    conn := execution.conn }

/-- All readings. -/
def findSensorAll (sqlite : Sqlite Conn) (conn : Conn) (time : Int) : DbOutcome Conn :=
  findSensor sqlite conn time .all "SQL exec error: " "Select all sensor"

/-- The readings with a value. -/
def findSensorByValue (sqlite : Sqlite Conn) (conn : Conn) (time : Int) (value : ℚ) :
    DbOutcome Conn :=
  findSensor sqlite conn time (.valueIs (formatG value)) "SQL exec error: "
    "Select Sensor query by value"

/-- The readings above a value. -/
def findSensorExceedValue (sqlite : Sqlite Conn) (conn : Conn) (time : Int) (value : ℚ) :
    DbOutcome Conn :=
  findSensor sqlite conn time (.valueExceeds (formatG value)) "SQL exec error: "
    "Sensor query GT value"

/-- The readings of a time. -/
def findSensorByTimestamp (sqlite : Sqlite Conn) (conn : Conn) (time ts : Int) :
    DbOutcome Conn :=
  findSensor sqlite conn time (.timestampIs ts) "SQL error: " "Sensor query by timestamp"

/-- The readings after a time. -/
def findSensorAfterTimestamp (sqlite : Sqlite Conn) (conn : Conn) (time ts : Int) :
    DbOutcome Conn :=
  findSensor sqlite conn time (.timestampExceeds ts) "SQL exec error: "
    "Sensor query GT timestamp"

/-- Successful inserts of a sequence of readings. -/
def insertAll (sqlite : Sqlite Conn) : Conn → List SensorReading → Option Conn
  | conn, [] => some conn
  | conn, reading :: rest => do
    let outcome ← insertSensor sqlite conn reading.id reading.value reading.ts
    insertAll sqlite outcome.conn rest

/-! ### The table after the inserts -/

/-- The row holds the reading, with its value as %e prints it. -/
def Stores (reading : SensorReading) (row : SensorRow) : Prop :=
  row.sensorId = reading.id ∧ row.sensorValue = formatE reading.value ∧ row.timestamp = reading.ts

/-- The table has one row for each reading, in the order of the inserts and of the ids. -/
structure Mirrors (readings : List SensorReading) (table : List SensorRow) : Prop where
  stores : List.Forall₂ Stores readings table
  ascending : table.Pairwise (·.id < ·.id)

variable {sqlite : Sqlite Conn} {conn loaded : Conn} {readings : List SensorReading}

/-- A successful insert appends the row of the reading. -/
theorem insertSensor_table (exact : sqlite.Exact) {id : BitVec 16} {value : ℚ} {ts : Int}
    {outcome : DbOutcome Conn} (inserted : insertSensor sqlite conn id value ts = some outcome) :
    ∃ rowId, (∀ row ∈ sqlite.table conn, row.id < rowId) ∧
      sqlite.table outcome.conn = sqlite.table conn ++ [⟨rowId, id, formatE value, ts⟩] := by
  unfold insertSensor at inserted
  dsimp only at inserted
  split_ifs at inserted with failed
  have added := exact.insert conn id (formatE value) ts (not_not.mp failed)
  rw [← Option.some.inj inserted]
  exact added

theorem Mirrors.insertSensor (exact : sqlite.Exact) {reading : SensorReading}
    (mirrors : Mirrors readings (sqlite.table conn)) {outcome : DbOutcome Conn}
    (inserted : insertSensor sqlite conn reading.id reading.value reading.ts = some outcome) :
    Mirrors (readings ++ [reading]) (sqlite.table outcome.conn) := by
  obtain ⟨rowId, fresh, appended⟩ := insertSensor_table exact inserted
  rw [appended]
  constructor
  · exact List.rel_append mirrors.stores (.cons ⟨rfl, rfl, rfl⟩ .nil)
  · refine List.pairwise_append.mpr ⟨mirrors.ascending, List.pairwise_singleton _ _, ?_⟩
    intro row member added single
    rw [List.mem_singleton.mp single]
    exact fresh row member

/-- Inserts keep the table a mirror of the readings. -/
theorem Mirrors.insertAll (exact : sqlite.Exact) {rest : List SensorReading}
    (mirrors : Mirrors readings (sqlite.table conn))
    (inserted : insertAll sqlite conn rest = some loaded) :
    Mirrors (readings ++ rest) (sqlite.table loaded) := by
  induction rest generalizing readings conn with
  | nil =>
    rw [List.append_nil, ← Option.some.inj inserted]
    exact mirrors
  | cons reading rest inductionHypothesis =>
    obtain ⟨outcome, first, others⟩ := Option.bind_eq_some_iff.mp inserted
    rw [List.append_cons]
    exact inductionHypothesis (mirrors.insertSensor exact first) others

/-- An empty table mirrors the inserts that follow. -/
theorem mirrors_of_insertAll (exact : sqlite.Exact) (empty : sqlite.table conn = [])
    (inserted : insertAll sqlite conn readings = some loaded) :
    Mirrors readings (sqlite.table loaded) := by
  have start : Mirrors [] (sqlite.table conn) := by
    rw [empty]
    exact ⟨.nil, .nil⟩
  exact start.insertAll exact inserted

/-! ### What a query selects -/

/-- The rows delivered are those of the readings that pass a test, in the order of the inserts. -/
def Selects (readings : List SensorReading) (table delivered : List SensorRow)
    (test : SensorReading → Prop) [DecidablePred test] : Prop :=
  delivered = ((readings.zip table).filter fun entry => test entry.1).map Prod.snd

theorem Mirrors.nodup_ids {table : List SensorRow} (mirrors : Mirrors readings table) :
    (table.map SensorRow.id).Nodup :=
  List.pairwise_map.mpr (mirrors.ascending.imp Nat.ne_of_lt)

/-- A successful SELECT delivers the rows that meet its condition, in the order of the table. -/
theorem Mirrors.delivered_eq (exact : sqlite.Exact)
    (mirrors : Mirrors readings (sqlite.table loaded)) {condition : Condition}
    (ok : (sqlite.exec loaded (.selectOrderedById condition)).rval = sqliteOk) :
    (sqlite.exec loaded (.selectOrderedById condition)).rows =
      (sqlite.table loaded).filter condition.holds := by
  obtain ⟨permutation, sorted⟩ := exact.select loaded condition ok
  have ascending := mirrors.ascending.filter condition.holds
  refine permutation.eq_of_pairwise ?_ sorted (ascending.imp le_of_lt)
  intro first second delivered kept upward downward
  have member := List.mem_of_mem_filter (permutation.mem_iff.mp delivered)
  exact List.inj_on_of_nodup_map mirrors.nodup_ids member (List.mem_of_mem_filter kept)
    (le_antisymm upward downward)

/-- Two tests select the same entries exactly when they agree on every entry, if the entries have
distinct keys. -/
theorem map_filter_eq_iff {Entry Key : Type} {entries : List Entry} {key : Entry → Key}
    (distinct : (entries.map key).Nodup) {first second : Entry → Bool} :
    (entries.filter first).map key = (entries.filter second).map key ↔
      ∀ entry ∈ entries, first entry = second entry := by
  refine ⟨fun same entry member => ?_, fun agree => by rw [List.filter_congr agree]⟩
  have selected : ∀ test : Entry → Bool,
      key entry ∈ (entries.filter test).map key ↔ test entry := by
    intro test
    refine ⟨fun found => ?_, fun passes => ?_⟩
    · obtain ⟨other, kept, sameKey⟩ := List.mem_map.mp found
      obtain ⟨present, passes⟩ := List.mem_filter.mp kept
      rwa [List.inj_on_of_nodup_map distinct present member sameKey] at passes
    · exact List.mem_map_of_mem (List.mem_filter.mpr ⟨member, passes⟩)
  exact Bool.eq_iff_iff.mpr ((selected first).symm.trans (same ▸ selected second))

/-- A condition on the rows selects the right readings exactly when it holds of the row of each
reading as the test holds of the reading. -/
theorem Mirrors.selects_iff {table : List SensorRow} (mirrors : Mirrors readings table)
    (condition : Condition) (test : SensorReading → Prop) [DecidablePred test] :
    Selects readings table (table.filter condition.holds) test ↔
      ∀ entry ∈ readings.zip table, condition.holds entry.2 ↔ test entry.1 := by
  have rows : (readings.zip table).map Prod.snd = table :=
    List.map_snd_zip mirrors.stores.length_eq.ge
  have distinct : ((readings.zip table).map Prod.snd).Nodup := by
    rw [rows]
    exact List.Nodup.of_map SensorRow.id mirrors.nodup_ids
  have filtered : table.filter condition.holds =
      ((readings.zip table).filter fun entry => condition.holds entry.2).map Prod.snd := by
    conv_lhs => rw [← rows, List.filter_map]
    rfl
  unfold Selects
  rw [filtered, map_filter_eq_iff distinct]
  refine forall₂_congr fun entry member => ?_
  rw [Bool.eq_iff_iff, decide_eq_true_iff]

/-- A query by value tells the asked value from an inserted one as the numbers themselves do. -/
def Tells (asked value : ℚ) : Prop :=
  if value = asked then formatE value = formatG value
  else formatE value ≠ formatG asked ∧ (value < asked ↔ value < formatG asked)

/-- %e does not carry a value across a number that %g prints. -/
theorem formatE_lt_formatG_iff {asked value : ℚ} (apart : formatE value ≠ formatG asked) :
    formatE value < formatG asked ↔ value < formatG asked := by
  have places : HasPlaces 6 (formatG asked) := hasPlaces_roundScientific 5 asked
  refine ⟨fun less => ?_, fun less => (roundScientific_le places less.le).lt_of_ne apart⟩
  by_contra above
  exact absurd (le_roundScientific places (not_lt.mp above)) (not_le.mpr less)

theorem tells_iff (asked value : ℚ) :
    Tells asked value ↔ (formatE value = formatG asked ↔ value = asked) ∧
      (formatG asked < formatE value ↔ asked < value) := by
  unfold Tells
  by_cases same : value = asked
  · rw [if_pos same, same]
    refine ⟨fun equal => ?_, fun both => both.1.mpr rfl⟩
    rw [equal]
    exact ⟨iff_of_true rfl rfl, iff_of_false (lt_irrefl _) (lt_irrefl _)⟩
  · rw [if_neg same, iff_false_right same]
    refine and_congr_right fun apart => ?_
    have values : value < asked ↔ ¬asked < value :=
      (Ne.le_iff_lt same).symm.trans not_lt.symm
    have formats : formatE value < formatG asked ↔ ¬formatG asked < formatE value :=
      (Ne.le_iff_lt apart).symm.trans not_lt.symm
    rw [← formatE_lt_formatG_iff apart, values, formats, not_iff_not]
    exact iff_comm

@[simp] theorem findSensor_rval (sqlite : Sqlite Conn) (conn : Conn) (time : Int)
    (condition : Condition) (error name : String) :
    (findSensor sqlite conn time condition error name).rval =
      (sqlite.exec conn (.selectOrderedById condition)).rval := by
  unfold findSensor
  dsimp only
  split <;> rfl

@[simp] theorem findSensor_rows (sqlite : Sqlite Conn) (conn : Conn) (time : Int)
    (condition : Condition) (error name : String) :
    (findSensor sqlite conn time condition error name).rows =
      (sqlite.exec conn (.selectOrderedById condition)).rows := by
  unfold findSensor
  dsimp only
  split <;> rfl

@[simp] theorem findSensor_conn (sqlite : Sqlite Conn) (conn : Conn) (time : Int)
    (condition : Condition) (error name : String) :
    (findSensor sqlite conn time condition error name).conn =
      (sqlite.exec conn (.selectOrderedById condition)).conn := by
  unfold findSensor
  dsimp only
  split <;> rfl

/-- The queries by value agree with what was inserted exactly when the query tells the asked value
from every inserted one. -/
theorem queries_agree_iff (exact : sqlite.Exact) (empty : sqlite.table conn = [])
    (inserted : insertAll sqlite conn readings = some loaded) (time : Int) (asked : ℚ)
    (equalOk : (findSensorByValue sqlite loaded time asked).rval = sqliteOk)
    (exceedOk : (findSensorExceedValue sqlite loaded time asked).rval = sqliteOk) :
    (Selects readings (sqlite.table loaded) (findSensorByValue sqlite loaded time asked).rows
        (fun reading => reading.value = asked) ∧
      Selects readings (sqlite.table loaded)
        (findSensorExceedValue sqlite loaded time asked).rows
        fun reading => asked < reading.value) ↔
      ∀ reading ∈ readings, Tells asked reading.value := by
  have mirrors := mirrors_of_insertAll exact empty inserted
  unfold findSensorByValue findSensorExceedValue at *
  rw [findSensor_rval] at equalOk exceedOk
  rw [findSensor_rows, findSensor_rows, mirrors.delivered_eq exact equalOk,
    mirrors.delivered_eq exact exceedOk, mirrors.selects_iff, mirrors.selects_iff,
    ← forall₂_and]
  have first : (readings.zip (sqlite.table loaded)).map Prod.fst = readings :=
    List.map_fst_zip mirrors.stores.length_eq.le
  conv_rhs => rw [← first]
  rw [List.forall_mem_map]
  refine forall₂_congr fun entry member => ?_
  obtain ⟨-, stored, -⟩ := List.forall₂_zip mirrors.stores member
  rw [tells_iff, ← stored]
  simp only [Condition.holds, decide_eq_true_eq]

/-! ### A database in memory -/

/-- An id above those of the rows. -/
def nextId : List SensorRow → Nat
  | [] => 1
  | row :: rest => max (row.id + 1) (nextId rest)

theorem lt_nextId {rows : List SensorRow} {row : SensorRow} (member : row ∈ rows) :
    row.id < nextId rows := by
  induction member with
  | head rest => exact Nat.lt_of_lt_of_le (Nat.lt_succ_self _) (le_max_left _ _)
  | tail other member inductionHypothesis =>
    exact Nat.lt_of_lt_of_le inductionHypothesis (le_max_right _ _)

/-- A database that keeps its table in memory and never fails. -/
def memorySqlite : Sqlite (List SensorRow) where
  table rows := rows
  exec rows
    | .insert sensorId sensorValue timestamp => {
        rval := sqliteOk
        errorMsg := ""
        rows := []
        conn := rows ++ [⟨nextId rows, sensorId, sensorValue, timestamp⟩] }
    | .selectOrderedById condition => {
        rval := sqliteOk
        errorMsg := ""
        rows := (rows.filter condition.holds).mergeSort (·.id ≤ ·.id)
        conn := rows }

theorem memorySqlite_exact : memorySqlite.Exact where
  insert rows sensorId sensorValue timestamp ok :=
    ⟨nextId rows, fun row member => lt_nextId member, rfl⟩
  select rows condition ok := by
    refine ⟨List.mergeSort_perm _ _, ?_⟩
    have sorted : ((rows.filter condition.holds).mergeSort (·.id ≤ ·.id)).Pairwise
        fun first second => decide (first.id ≤ second.id) = true := by
      refine List.pairwise_mergeSort ?_ ?_ _
      · intro first second third
        simp only [decide_eq_true_eq]
        exact Nat.le_trans
      · intro first second
        simp only [Bool.or_eq_true, decide_eq_true_eq]
        exact Nat.le_total first.id second.id
    exact sorted.imp of_decide_eq_true

theorem queries_agree_powers :
    ∃ loaded, insertAll memorySqlite [] [⟨1, 1, 0⟩, ⟨2, 10, 1⟩] = some loaded ∧
      Selects [⟨1, 1, 0⟩, ⟨2, 10, 1⟩] loaded (findSensorByValue memorySqlite loaded 2 1).rows
        (fun reading => reading.value = 1) ∧
      Selects [⟨1, 1, 0⟩, ⟨2, 10, 1⟩] loaded (findSensorExceedValue memorySqlite loaded 2 1).rows
        fun reading => 1 < reading.value := by
  have one : ∀ places, roundScientific places (1 : ℚ) = 1 := by
    intro places
    have kept : roundScientific places ((10 : ℚ) ^ (0 : Int)) = 10 ^ (0 : Int) :=
      roundScientific_zpow places 0
    rwa [zpow_zero] at kept
  have ten : ∀ places, roundScientific places (10 : ℚ) = 10 := by
    intro places
    have kept : roundScientific places ((10 : ℚ) ^ (1 : Int)) = 10 ^ (1 : Int) :=
      roundScientific_zpow places 1
    rwa [zpow_one] at kept
  refine ⟨_, rfl, (queries_agree_iff memorySqlite_exact rfl rfl 2 1 rfl rfl).mpr ?_⟩
  intro reading member
  unfold Tells formatE formatG
  rcases List.mem_pair.mp member with rfl | rfl
  · simp only [one, if_true]
  · rw [if_neg (by norm_num)]
    simp only [one, ten]
    norm_num

/-- The unit of a number between one and ten. -/
theorem unit_of_one_le {number : ℚ} (places : Nat) (low : 1 ≤ number) (high : number < 10) :
    unit places number = 10 ^ (-(places : Int)) := by
  have positive : 0 < number := zero_lt_one.trans_le low
  have log : Int.log 10 |number| = 0 := by
    rw [abs_of_pos positive, Int.log_of_one_le_right 10 low, Nat.log_of_lt]
    · rfl
    · exact (Nat.floor_lt positive.le).mpr (by exact_mod_cast high)
  unfold unit
  rw [log, zero_sub]

/-- A reading is not found by its own value: it is stored as 1.234567 and asked for as 1.23457. -/
theorem query_misses_own_value :
    ∃ loaded, insertAll memorySqlite [] [⟨1, 1.234567, 0⟩] = some loaded ∧
      (findSensorByValue memorySqlite loaded 1 1.234567).rval = sqliteOk ∧
      ¬Selects [⟨1, 1.234567, 0⟩] loaded (findSensorByValue memorySqlite loaded 1 1.234567).rows
        fun reading => reading.value = 1.234567 := by
  have stored : formatE 1.234567 = 1.234567 := by
    refine HasPlaces.roundScientific_eq ⟨1234567, ?_⟩
    rw [unit_of_one_le 6 (by norm_num) (by norm_num)]
    norm_num
  have asked : formatG 1.234567 = 1.23457 := by
    have rounded : roundHalfEven (123456.7 : ℚ) = 123457 := by
      unfold roundHalfEven
      norm_num [Int.fract]
    unfold formatG roundScientific
    rw [unit_of_one_le 5 (by norm_num) (by norm_num)]
    have scaled : (1.234567 : ℚ) / 10 ^ (-((5 : Nat) : Int)) = 123456.7 := by norm_num
    rw [scaled, rounded]
    norm_num
  have mirrors : Mirrors [⟨1, 1.234567, 0⟩] (memorySqlite.table _) :=
    mirrors_of_insertAll memorySqlite_exact rfl rfl
  refine ⟨_, rfl, rfl, fun selects => ?_⟩
  unfold findSensorByValue at selects
  rw [findSensor_rows, mirrors.delivered_eq memorySqlite_exact rfl] at selects
  have found := ((mirrors.selects_iff _ _).mp selects _ List.mem_cons_self).mpr rfl
  simp only [Condition.holds, decide_eq_true_eq, stored, asked] at found
  norm_num at found

end SensorGateway
