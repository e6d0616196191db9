/-
This file is about an import that goes wrong: the file ends in the middle of a record,
or an insert fails. The import should insert the complete records and return 0 only if
there is nothing else in the file and every insert has succeeded.

Where the file ends decides in which of the three reads of a turn it ends. A missing
value or timestamp fails an assertion, so that the import does not return. A missing
second byte of an id ends the loop like the end of the file does, and the import returns
0. What the inserts return is not looked at.
-/

import SensorGateway.Connmgr
import SensorGateway.Library.Records
import SensorGateway.SensorImport

namespace SensorGateway

variable {Conn : Type} {layout : Layout}

/-! ### Records and residue -/

theorem recordBytes_injective : Function.Injective (@recordBytes layout) := by
  intro first second same
  obtain ⟨id, rest⟩ := List.append_inj same (first.id.sized.trans second.id.sized.symm)
  obtain ⟨value, ts⟩ := List.append_inj rest (first.value.sized.trans second.value.sized.symm)
  cases first
  cases second
  rw [SensorData.mk.injEq]
  exact ⟨Field.ext_bytes id, Field.ext_bytes value, Field.ext_bytes ts⟩

theorem length_recordBytes (reading : SensorData layout) :
    (recordBytes reading).length = 2 + layout.sizeofValue + layout.sizeofTs := by
  rw [recordBytes, List.length_append, List.length_append, reading.id.sized,
    reading.value.sized, reading.ts.sized, Nat.add_assoc]

/-- Every chunk of the right length is a measurement. -/
theorem exists_recordBytes (chunk : List UInt8)
    (whole : chunk.length = 2 + layout.sizeofValue + layout.sizeofTs) :
    ∃ reading : SensorData layout, recordBytes reading = chunk := by
  have id : (chunk.take 2).length = 2 := List.length_take_of_le (by omega)
  have value : ((chunk.drop 2).take layout.sizeofValue).length = layout.sizeofValue :=
    List.length_take_of_le (by rw [List.length_drop]; omega)
  have ts : ((chunk.drop 2).drop layout.sizeofValue).length = layout.sizeofTs := by
    rw [List.length_drop, List.length_drop]
    omega
  refine ⟨⟨⟨_, id⟩, ⟨_, value⟩, ⟨_, ts⟩⟩, ?_⟩
  rw [recordBytes, List.take_append_drop, List.take_append_drop]

theorem Layout.record_positive (layout : Layout) :
    0 < 2 + layout.sizeofValue + layout.sizeofTs := by
  have value := layout.valuePositive
  omega

/-- The measurements as records of a fixed width. -/
def recordCodec (layout : Layout) : Records.Codec (SensorData layout) UInt8 where
  width := 2 + layout.sizeofValue + layout.sizeofTs
  positive := layout.record_positive
  encode := recordBytes
  sized := length_recordBytes
  injective := recordBytes_injective
  surjective := exists_recordBytes

/-! ### What an import should report -/

/-- What the calls of `insert_sensor` return, one after the other. -/
def insertResults (insertSensor : Conn → SensorData layout → Int × Conn) :
    Conn → List (SensorData layout) → List Int
  | _, [] => []
  | conn, reading :: rest =>
    (insertSensor conn reading).1 :: insertResults insertSensor (insertSensor conn reading).2 rest

/-- The complete records are inserted in their order, and 0 is returned exactly when there is
nothing else in the file and every insert has succeeded. -/
structure ReportsErrors (contents : Records.Contents (recordCodec layout)) (results : List Int)
    (outcome : Import Conn layout) : Prop where
  inserts : outcome.calls = contents.records
  returns : outcome.ending = .returned 0 ↔
    contents.residue = [] ∧ ∀ rval ∈ results, rval = sqliteOk

/-- The import of any file ends; which read comes up short decides how. -/
theorem insertSensorFromFile_contents (insertSensor : Conn → SensorData layout → Int × Conn)
    (conn : Conn) (uninitialised : SensorData layout)
    (contents : Records.Contents (recordCodec layout)) :
    insertSensorFromFile (fun conn reading => some (insertSensor conn reading)) conn
        (openFile contents.stream) uninitialised =
      some {
        calls := contents.records
        stream := { rest := [], eof := true }
        conn := contents.records.foldl (fun conn reading => (insertSensor conn reading).2) conn
        ending := if contents.residue.length < 2 then .returned 0 else .assertionFailed } := by
  have written : contents.stream = sensorDataFile contents.records ++ contents.residue := by
    rw [sensorDataFile_eq]
    rfl
  rw [written]
  exact insertSensorFromFile_residue (insertions_some insertSensor conn contents.records)
    contents.short uninitialised

/-- For every file and whatever the inserts return: the import ends, and it reports errors exactly
when at least two bytes are left behind the last complete record, or none are and every insert has
succeeded. The contents are the only ones of the file. -/
theorem import_reports_iff (insertSensor : Conn → SensorData layout → Int × Conn) (conn : Conn)
    (uninitialised : SensorData layout) (bytes : List UInt8) :
    ∃ contents : Records.Contents (recordCodec layout), contents.stream = bytes ∧
      (∀ other : Records.Contents (recordCodec layout), other.stream = bytes →
        other = contents) ∧
      ∃ outcome,
        insertSensorFromFile (fun conn reading => some (insertSensor conn reading)) conn
          (openFile bytes) uninitialised = some outcome ∧
        (ReportsErrors contents (insertResults insertSensor conn contents.records) outcome ↔
          2 ≤ bytes.length % (recordCodec layout).width ∨
            bytes.length % (recordCodec layout).width = 0 ∧
              ∀ rval ∈ insertResults insertSensor conn contents.records, rval = sqliteOk) := by
  obtain ⟨injective, surjective⟩ := @Records.stream_bijective _ _ (recordCodec layout)
  obtain ⟨contents, rfl⟩ := surjective bytes
  refine ⟨contents, rfl, fun other same => injective same, _,
    insertSensorFromFile_contents insertSensor conn uninitialised contents, ?_⟩
  rw [contents.length_mod, List.length_eq_zero_iff]
  generalize insertResults insertSensor conn contents.records = results
  constructor
  · rintro ⟨-, returns⟩
    rcases Nat.lt_or_ge contents.residue.length 2 with noId | some
    · exact Or.inr (returns.mp (if_pos noId))
    · exact Or.inl some
  · rintro (some | ⟨nothing, succeeded⟩)
    · refine ⟨rfl, iff_of_false ?_ fun complete => ?_⟩
      · dsimp only
        rw [if_neg (Nat.not_lt.mpr some)]
        exact fun same => nomatch same
      · rw [complete.1] at some
        exact absurd some (by decide)
    · refine ⟨rfl, iff_of_true ?_ ⟨nothing, succeeded⟩⟩
      dsimp only
      rw [nothing]
      rfl

/-- Every import of a file on the gateway reports errors. -/
def AlwaysReports (insertSensor : Unit → SensorData gatewayConfig.layout → Int × Unit) : Prop :=
  ∀ (contents : Records.Contents (recordCodec gatewayConfig.layout)) (outcome : Import Unit _),
    insertSensorFromFile (fun conn reading => some (insertSensor conn reading)) ()
      (openFile contents.stream) zeroData = some outcome →
    ReportsErrors contents (insertResults insertSensor () contents.records) outcome

/-- A file with a single byte is imported with the return value 0, and so is a file with one record
whose insert fails. -/
theorem errors_passed_over :
    ¬ AlwaysReports (fun _ _ => (0, ())) ∧ ¬ AlwaysReports (fun _ _ => (1, ())) := by
  constructor
  · intro reports
    have report := reports ⟨[], [7], by decide⟩ _
      (insertSensorFromFile_contents (fun _ _ => (0, ())) () zeroData _)
    exact absurd (report.returns.mp rfl).1 (List.cons_ne_nil _ _)
  · intro reports
    have report := reports ⟨[zeroData], [], by decide⟩ _
      (insertSensorFromFile_contents (fun _ _ => (1, ())) () zeroData _)
    exact absurd ((report.returns.mp rfl).2 1 List.mem_cons_self) (by decide)

end SensorGateway
