/-
This file follows the storage manager from its start: the attempts to connect, after which
the table is new, and then any sequence of inserts and queries on the connection.

After every insert the table mirrors the readings inserted so far. Every query that
succeeds delivers the rows of those that pass its test, in the order of their inserts,
and a query leaves the table alone. The queries by value test what %e has stored
against what %g prints; those by time test the readings themselves.

`init_connection` compares with the undefined SQLITE_OPEN, which is read as SQLITE_OK.
The message of a failed CREATE has no place for the text of the error. After four failed
attempts the process exits, so that the message about three failures is never sent.
-/

import SensorGateway.Library.Runs
import SensorGateway.SensorDb

namespace SensorGateway

variable {Conn : Type}

/-! ### Connecting -/

/-- How `init_connection` sets up its table: dropped and created, or created if it is missing. -/
inductive Setup where
  | recreate
  | createIfMissing
  deriving DecidableEq, Repr

/-- The database library with the statements that create the table. -/
structure SqliteServer (Conn : Type) extends Sqlite Conn where
  setUp : Conn → Setup → Execution Conn

/-- A table that was dropped and created is empty, and a SELECT changes no table. -/
structure SqliteServer.Exact (server : SqliteServer Conn) : Prop extends
    server.toSqlite.Exact where
  recreates : ∀ conn, (server.setUp conn .recreate).rval = sqliteOk →
    server.table (server.setUp conn .recreate).conn = []
  reads : ∀ conn condition,
    server.table (server.exec conn (.selectOrderedById condition)).conn = server.table conn

/-- The name of the database. -/
def dbName : String := "Sensor.db"

/-- What the calls of an attempt return: `sqlite3_open`, and `time` before each message. -/
structure DbOpening (Conn : Type) where
  rval : Int
  database : Conn
  openTime : Int
  setUpTime : Int

/-- The outcome of an attempt: the connection, if there is one, and what was written to stderr and
to the event log. -/
structure ConnectOutcome (Conn : Type) where
  database : Option Conn
  stderr : String
  messages : List String

/-- Connect to the database and set up its table. -/
def initConnection (server : SqliteServer Conn) (clearUpFlag : Int) (opening : DbOpening Conn) :
    ConnectOutcome Conn :=
  if opening.rval ≠ sqliteOk then {
    database := none
    stderr := "Cannot open database " ++ dbName ++ "\n"
    messages :=
      [eventMessage opening.openTime "Storagemgr" "Cannot connect to SQL database"] }
  else
    let connected :=
      eventMessage opening.openTime "Storagemgr" "Connect successfully to SQL database"
    let execution := server.setUp opening.database
      (if clearUpFlag = 1 then .recreate else .createIfMissing)
    if execution.rval ≠ sqliteOk then {
      database := none
      stderr := "Cannot exec SQL " ++ dbName ++ "\n"
      messages := [connected, eventMessage opening.setUpTime "Storagemgr" ""] }
    else {
      database := some execution.conn
      stderr := ""
      messages := [connected, eventMessage opening.setUpTime "Storagemgr"
        ("New table " ++ tableName ++ " created")] }

/-- The loop of `stor_mgr` that connects, from an attempt on: the connection and the messages of all
attempts. Without a connection the process has exited. -/
def connectLoop (server : SqliteServer Conn) (openings : Nat → DbOpening Conn) :
    Nat → Nat → Option Conn × List String
  | 0, _ => (none, [])
  | left + 1, i =>
    let outcome := initConnection server 1 (openings i)
    match outcome.database with
    | some database => (some database, outcome.messages)
    | none =>
      let (database, messages) := connectLoop server openings left (i + 1)
      (database, outcome.messages ++ messages)

/-- The number of attempts of `stor_mgr`. -/
def connectAttempts : Nat := 4

section Connecting

variable {server : SqliteServer Conn}

/-- An attempt connects exactly when the database opens and the table is set up. -/
theorem initConnection_database_eq_some_iff {clearUpFlag : Int} {opening : DbOpening Conn}
    {conn : Conn} :
    (initConnection server clearUpFlag opening).database = some conn ↔
      opening.rval = sqliteOk ∧
        (server.setUp opening.database
          (if clearUpFlag = 1 then .recreate else .createIfMissing)).rval = sqliteOk ∧
        (server.setUp opening.database
          (if clearUpFlag = 1 then .recreate else .createIfMissing)).conn = conn := by
  unfold initConnection
  dsimp only
  by_cases opened : opening.rval = sqliteOk
  · rw [if_neg (not_not.mpr opened)]
    by_cases created : (server.setUp opening.database
        (if clearUpFlag = 1 then .recreate else .createIfMissing)).rval = sqliteOk
    · rw [if_neg (not_not.mpr created)]
      simp only [opened, created, true_and, Option.some.injEq]
    · rw [if_pos created]
      exact iff_of_false (Option.some_ne_none conn).symm fun both => created both.2.1
  · rw [if_pos opened]
    exact iff_of_false (Option.some_ne_none conn).symm fun both => opened both.1

/-- The connection comes from the first attempt that makes one. -/
theorem connectLoop_eq_some_iff {openings : Nat → DbOpening Conn} {left i : Nat} {conn : Conn} :
    (connectLoop server openings left i).1 = some conn ↔
      ∃ attempt < left, (initConnection server 1 (openings (i + attempt))).database = some conn ∧
        ∀ earlier < attempt,
          (initConnection server 1 (openings (i + earlier))).database = none := by
  induction left generalizing i with
  | zero =>
    rw [connectLoop]
    refine iff_of_false (Option.some_ne_none conn).symm ?_
    rintro ⟨attempt, less, -⟩
    exact absurd less (Nat.not_lt_zero attempt)
  | succ left inductionHypothesis =>
    rw [connectLoop]
    cases first : (initConnection server 1 (openings i)).database with
    | some database =>
      constructor
      · intro same
        exact ⟨0, Nat.succ_pos left, first.trans same, by simp⟩
      · rintro ⟨attempt, -, connects, fails⟩
        cases attempt with
        | zero => exact first.symm.trans connects
        | succ attempt =>
          have none := fails 0 (Nat.succ_pos attempt)
          rw [Nat.add_zero, first] at none
          cases none
    | none =>
      refine inductionHypothesis.trans ?_
      constructor
      · rintro ⟨attempt, less, connects, fails⟩
        refine ⟨attempt + 1, Nat.succ_lt_succ less, ?_, fun earlier before => ?_⟩
        · rwa [Nat.add_comm attempt, ← Nat.add_assoc]
        · cases earlier with
          | zero => exact first
          | succ earlier =>
            rw [Nat.add_comm earlier, ← Nat.add_assoc]
            exact fails earlier (Nat.lt_of_succ_lt_succ before)
      · rintro ⟨attempt, less, connects, fails⟩
        cases attempt with
        | zero =>
          rw [Nat.add_zero, first] at connects
          cases connects
        | succ attempt =>
          refine ⟨attempt, Nat.lt_of_succ_lt_succ less, ?_, fun earlier before => ?_⟩
          · rwa [Nat.add_assoc, Nat.add_comm 1]
          · rw [Nat.add_assoc, Nat.add_comm 1]
            exact fails (earlier + 1) (Nat.succ_lt_succ before)

/-- A new connection of the storage manager has an empty table. -/
theorem table_of_connectLoop (exact : server.Exact) {openings : Nat → DbOpening Conn}
    {left i : Nat} {conn : Conn}
    (connected : (connectLoop server openings left i).1 = some conn) :
    server.table conn = [] := by
  obtain ⟨attempt, -, connects, -⟩ := connectLoop_eq_some_iff.mp connected
  obtain ⟨-, created, same⟩ := initConnection_database_eq_some_iff.mp connects
  rw [if_pos rfl] at created same
  rw [← same]
  exact exact.recreates _ created

end Connecting

/-! ### Inserts and queries -/

/-- A call of one of the `find_sensor` functions. -/
inductive Query where
  | all
  | byValue (value : ℚ)
  | exceedValue (value : ℚ)
  | byTimestamp (ts : Int)
  | afterTimestamp (ts : Int)
  deriving DecidableEq

/-- The function behind a query. -/
def Query.run (sqlite : Sqlite Conn) (conn : Conn) (time : Int) : Query → DbOutcome Conn
  | .all => findSensorAll sqlite conn time
  | .byValue value => findSensorByValue sqlite conn time value
  | .exceedValue value => findSensorExceedValue sqlite conn time value
  | .byTimestamp ts => findSensorByTimestamp sqlite conn time ts
  | .afterTimestamp ts => findSensorAfterTimestamp sqlite conn time ts

/-- A connection with the readings that were inserted and the outcomes of the calls so far. -/
structure Storage (Conn : Type) where
  conn : Conn
  inserted : List SensorReading
  outcomes : List (DbOutcome Conn)

/-- A call of a function on the database. -/
inductive StorageEvent where
  | insert (reading : SensorReading)
  | find (query : Query) (time : Int)

/-- The test of a query on a reading that was inserted. -/
def Query.Tests (reading : SensorReading) : Query → Prop
  | .all => True
  | .byValue value => formatE reading.value = formatG value
  | .exceedValue value => formatG value < formatE reading.value
  | .byTimestamp ts => reading.ts = ts
  | .afterTimestamp ts => ts < reading.ts

instance (query : Query) : DecidablePred fun reading => query.Tests reading := fun reading =>
  match query with
  | .all => inferInstanceAs (Decidable True)
  | .byValue value => inferInstanceAs (Decidable (formatE reading.value = formatG value))
  | .exceedValue value => inferInstanceAs (Decidable (formatG value < formatE reading.value))
  | .byTimestamp ts => inferInstanceAs (Decidable (reading.ts = ts))
  | .afterTimestamp ts => inferInstanceAs (Decidable (ts < reading.ts))

/-- The WHERE clause of a query. -/
def Query.condition : Query → Condition
  | .all => .all
  | .byValue value => .valueIs (formatG value)
  | .exceedValue value => .valueExceeds (formatG value)
  | .byTimestamp ts => .timestampIs ts
  | .afterTimestamp ts => .timestampExceeds ts

/-- Answer a call. An insert that fails does not return. -/
def Storage.step (sqlite : Sqlite Conn) (storage : Storage Conn) :
    StorageEvent → Option (Storage Conn)
  | .insert reading => do
    let outcome ← insertSensor sqlite storage.conn reading.id reading.value reading.ts
    some {
      conn := outcome.conn
      inserted := storage.inserted ++ [reading]
      outcomes := storage.outcomes ++ [outcome] }
  | .find query time =>
    let outcome := query.run sqlite storage.conn time
    some { storage with conn := outcome.conn, outcomes := storage.outcomes ++ [outcome] }

/-- The storage manager has connected. -/
def Storage.start (conn : Conn) : Storage Conn where
  conn := conn
  inserted := []
  outcomes := []

/-! ### Runs -/

section Runs

variable {server : SqliteServer Conn} {storage after : Storage Conn}

/-- A query executes one SELECT with its condition. -/
theorem Query.run_eq (sqlite : Sqlite Conn) (conn : Conn) (time : Int) (query : Query) :
    ∃ error name, query.run sqlite conn time =
      findSensor sqlite conn time query.condition error name := by
  cases query <;> exact ⟨_, _, rfl⟩

/-- The row of a reading meets the condition of a query when the reading passes its test. -/
theorem Query.holds_iff_tests {query : Query} {reading : SensorReading} {row : SensorRow}
    (stores : Stores reading row) : query.condition.holds row ↔ query.Tests reading := by
  obtain ⟨-, value, ts⟩ := stores
  cases query <;> simp [Query.condition, Condition.holds, Query.Tests, value, ts]

/-- The readings inserted so far are in the table. -/
def Storage.Mirrored (server : SqliteServer Conn) (storage : Storage Conn) : Prop :=
  Mirrors storage.inserted (server.table storage.conn)

/-- What a call of a run does. -/
structure CallAnswered (server : SqliteServer Conn)
    (call : Runs.Transition (Storage Conn) StorageEvent) : Prop where
  mirrored : call.after.Mirrored server
  inserts : ∀ reading, call.event = .insert reading →
    call.after.inserted = call.before.inserted ++ [reading]
  finds : ∀ query time, call.event = .find query time →
    call.after.inserted = call.before.inserted ∧
      server.table call.after.conn = server.table call.before.conn ∧
      ∃ outcome, call.after.outcomes = call.before.outcomes ++ [outcome] ∧
        (outcome.rval = sqliteOk → Selects call.before.inserted (server.table call.before.conn)
          outcome.rows fun reading => query.Tests reading)

theorem callAnswered_of_step (exact : server.Exact) (mirrored : storage.Mirrored server)
    {event : StorageEvent} (taken : storage.step server.toSqlite event = some after) :
    CallAnswered server ⟨storage, event, after⟩ := by
  cases event with
  | insert reading =>
    obtain ⟨outcome, inserted, same⟩ := Option.bind_eq_some_iff.mp taken
    obtain rfl := Option.some.inj same
    exact {
      mirrored := Mirrors.insertSensor exact.toExact mirrored inserted
      inserts := fun other same => by
        cases same
        rfl
      finds := fun query time other => by cases other }
  | find query time =>
    obtain ⟨error, name, ran⟩ := query.run_eq server.toSqlite storage.conn time
    have table : server.table (query.run server.toSqlite storage.conn time).conn =
        server.table storage.conn := by
      rw [ran, findSensor_conn]
      exact exact.reads storage.conn query.condition
    obtain rfl := Option.some.inj taken
    have kept : Mirrors storage.inserted
        (server.table (query.run server.toSqlite storage.conn time).conn) := by
      rw [table]
      exact mirrored
    refine ⟨kept, fun reading other => (by cases other), fun query time same => ?_⟩
    cases same
    refine ⟨rfl, table, _, rfl, fun succeeded => ?_⟩
    rw [ran, findSensor_rval] at succeeded
    rw [ran, findSensor_rows, mirrored.delivered_eq exact.toExact succeeded]
    refine (mirrored.selects_iff _ _).mpr fun entry member => ?_
    exact Query.holds_iff_tests (List.forall₂_zip mirrored.stores member)

/-- Whatever the attempts to connect return: in every run of inserts and queries on the connection,
the table mirrors the readings inserted so far, a query that succeeds delivers the rows of those
that pass its test, in the order of their inserts, and a query changes no table. -/
theorem storage_answers (exact : server.Exact) {openings : Nat → DbOpening Conn} {conn : Conn}
    (connected : (connectLoop server openings connectAttempts 0).1 = some conn)
    (events : List StorageEvent) :
    ∀ call ∈ Runs.transitions (Storage.step server.toSqlite) (Storage.start conn) events,
      CallAnswered server call := by
  have start : (Storage.start conn).Mirrored server := by
    unfold Storage.Mirrored Storage.start
    rw [table_of_connectLoop exact connected]
    exact ⟨.nil, .nil⟩
  refine Runs.forall_transitions (Storage.Mirrored server) start ?_
  intro before event after mirrored taken
  have answered := callAnswered_of_step exact mirrored taken
  exact ⟨answered.mirrored, answered⟩

end Runs

/-! ### A run -/

/-- The database in memory, with its statements that create the table. -/
def memoryServer : SqliteServer (List SensorRow) where
  toSqlite := memorySqlite
  setUp rows setup := {
    rval := sqliteOk
    errorMsg := ""
    rows := []
    conn := match setup with
      | .recreate => []
      | .createIfMissing => rows }

theorem memoryServer_exact : memoryServer.Exact where
  toExact := memorySqlite_exact
  recreates _ _ := rfl
  reads _ _ := rfl

/-- The first attempt finds the database locked, the second one connects. -/
def secondOpens (i : Nat) : DbOpening (List SensorRow) where
  rval := if i = 0 then 5 else sqliteOk
  database := [⟨1, 9, 0, 0⟩]
  openTime := 0
  setUpTime := 0

/-- Two readings are inserted, and a query by time finds the later one. -/
theorem storage_answers_twoReadings :
    ∃ call ∈ Runs.transitions (Storage.step memoryServer.toSqlite) (Storage.start [])
        [.insert ⟨1, 20, 5⟩, .insert ⟨2, 21, 6⟩, .find (.afterTimestamp 5) 7],
      call.event = .find (.afterTimestamp 5) 7 ∧ CallAnswered memoryServer call := by
  have third : 2 < (Runs.transitions (Storage.step memoryServer.toSqlite) (Storage.start [])
      [.insert ⟨1, 20, 5⟩, .insert ⟨2, 21, 6⟩, .find (.afterTimestamp 5) 7]).length := by decide
  refine ⟨_, List.getElem_mem third, rfl, ?_⟩
  have connected : (connectLoop memoryServer secondOpens connectAttempts 0).1 = some [] := rfl
  exact storage_answers memoryServer_exact connected _ _ (List.getElem_mem third)

end SensorGateway
