/-
This file is about the readings on the wire. A sensor node sends a reading as three raw
fields, and the connection manager receives it with three calls of `recv`, one for each
field, whatever these return.

When every receive returns its whole field, the readings received are those sent.
When a receive returns less than its field, then there are readings, all with the same
sensor id, of which the first one that is not received whole is altered: the rest of the
field keeps what the variable held before, and the rest of the bytes are taken for the
next field.
-/

import SensorGateway.Library.Fragments
import SensorGateway.Tcpsock

namespace SensorGateway

open Fragments

variable {layout : Layout}

/-- The bytes that a sensor node sends for a reading. -/
def SensorData.sent (reading : SensorData layout) : List UInt8 :=
  reading.id.bytes ++ (reading.value.bytes ++ reading.ts.bytes)

/-- The bytes that a sensor node sends for a sequence of readings. -/
def sentStream (readings : List (SensorData layout)) : List UInt8 :=
  readings.flatMap SensorData.sent

@[simp]
theorem sentStream_cons (reading : SensorData layout) (readings : List (SensorData layout)) :
    sentStream (reading :: readings) = reading.sent ++ sentStream readings := List.flatMap_cons

/-- The sizes of the fields of a number of readings. -/
def Layout.fieldSizes (layout : Layout) : Nat → List Nat
  | 0 => []
  | count + 1 => 2 :: layout.sizeofValue :: layout.sizeofTs :: layout.fieldSizes count

/-- What the three receives of a reading return. -/
structure Reception where
  id : Recv
  value : Recv
  ts : Recv

/-- The calls of `recv` with their sizes. -/
def Reception.calls (layout : Layout) (reception : Reception) : List (Nat × Recv) :=
  [(2, reception.id), (layout.sizeofValue, reception.value), (layout.sizeofTs, reception.ts)]

/-- The variable `data` after the three receives. -/
def Reception.into (reception : Reception) (data : SensorData layout) : SensorData layout where
  id := data.id.overwrite reception.id
  value := data.value.overwrite reception.value
  ts := data.ts.overwrite reception.ts

/-- The reading that is inserted: one if the last receive has returned anything. -/
def Reception.reading (reception : Reception) (data : SensorData layout) :
    Option (SensorData layout) :=
  if reception.ts.chunk layout.sizeofTs = [] then none else some (reception.into data)

/-- The calls of `recv` deliver a stream in fragments. -/
def Delivers (cut : Fragmentation) (stream : List UInt8) (calls : List (Nat × Recv)) : Prop :=
  calls.map Prod.snd = (deliveries cut stream (calls.map Prod.fst)).map Recv.delivered

instance (cut : Fragmentation) (stream : List UInt8) (calls : List (Nat × Recv)) :
    Decidable (Delivers cut stream calls) := inferInstanceAs (Decidable (_ = _))

/-! ### One reading -/

/-- How much the receives of a reading return at most. -/
def firstReception (layout : Layout) (cut : Fragmentation) (stream : List UInt8) : Reception where
  id := .delivered (stream.take (min (cut.most 0) 2))
  value := .delivered ((stream.drop (min (cut.most 0) 2)).take
    (min (cut.most 1) layout.sizeofValue))
  ts := .delivered (((stream.drop (min (cut.most 0) 2)).drop
    (min (cut.most 1) layout.sizeofValue)).take (min (cut.most 2) layout.sizeofTs))

/-- The stream after the receives of a reading. -/
def afterReception (layout : Layout) (cut : Fragmentation) (stream : List UInt8) : List UInt8 :=
  ((stream.drop (min (cut.most 0) 2)).drop (min (cut.most 1) layout.sizeofValue)).drop
    (min (cut.most 2) layout.sizeofTs)

theorem delivers_append_iff {cut : Fragmentation} {stream : List UInt8} {reception : Reception}
    {calls : List (Nat × Recv)} :
    Delivers cut stream (reception.calls layout ++ calls) ↔
      reception = firstReception layout cut stream ∧
        Delivers (cut.after 3) (afterReception layout cut stream) calls := by
  have split : Delivers cut stream (reception.calls layout ++ calls) ↔
      reception.id :: reception.value :: reception.ts :: calls.map Prod.snd =
        (firstReception layout cut stream).id :: (firstReception layout cut stream).value ::
          (firstReception layout cut stream).ts ::
            (deliveries (cut.after 3) (afterReception layout cut stream)
              (calls.map Prod.fst)).map Recv.delivered := Iff.rfl
  rw [split]
  simp only [List.cons.injEq]
  constructor
  · rintro ⟨id, value, ts, rest⟩
    refine ⟨?_, rest⟩
    cases reception
    simp only at id value ts
    rw [id, value, ts]
  · rintro ⟨rfl, rest⟩
    exact ⟨rfl, rfl, rfl, rest⟩

/-- The receives of a reading that return its fields. -/
def SensorData.whole (reading : SensorData layout) : Reception where
  id := .delivered reading.id.bytes
  value := .delivered reading.value.bytes
  ts := .delivered reading.ts.bytes

/-- The receives of a reading that are not cut short return its fields. -/
theorem firstReception_of_whole {cut : Fragmentation} (reading : SensorData layout)
    (stream : List UInt8) (wholeId : 2 ≤ cut.most 0) (wholeValue : layout.sizeofValue ≤ cut.most 1)
    (wholeTs : layout.sizeofTs ≤ cut.most 2) :
    firstReception layout cut (reading.sent ++ stream) = reading.whole ∧
      afterReception layout cut (reading.sent ++ stream) = stream := by
  unfold firstReception afterReception SensorData.sent
  rw [Nat.min_eq_right wholeId, Nat.min_eq_right wholeValue, Nat.min_eq_right wholeTs,
    List.append_assoc, List.append_assoc, List.take_left' reading.id.sized,
    List.drop_left' reading.id.sized, List.take_left' reading.value.sized,
    List.drop_left' reading.value.sized, List.take_left' reading.ts.sized,
    List.drop_left' reading.ts.sized]
  exact ⟨rfl, rfl⟩

theorem Field.chunk_delivered {size : Nat} (field : Field size) :
    (Recv.delivered field.bytes).chunk size = field.bytes :=
  List.take_of_length_le (Nat.le_of_eq field.sized)

/-- A field that is received whole is the field that was sent. -/
theorem Field.overwrite_delivered {size : Nat} (stale field : Field size) :
    stale.overwrite (.delivered field.bytes) = field := by
  refine Field.ext_bytes ((stale.overwrite_of_full ?_).trans field.chunk_delivered)
  rw [field.chunk_delivered, field.sized]

/-- A field of positive size has bytes. -/
theorem Field.bytes_ne_nil {size : Nat} (field : Field size) (positive : 0 < size) :
    field.bytes ≠ [] := by
  intro empty
  have sized := field.sized
  rw [empty] at sized
  exact absurd sized (Nat.ne_of_lt positive)

/-- A reading that is received whole is inserted. -/
theorem reading_whole (reading data : SensorData layout) :
    reading.whole.reading data = some reading := by
  have some : (Recv.delivered reading.ts.bytes).chunk layout.sizeofTs ≠ [] := by
    rw [reading.ts.chunk_delivered]
    exact reading.ts.bytes_ne_nil layout.tsPositive
  refine (if_neg some).trans (congrArg _ ?_)
  unfold Reception.into SensorData.whole
  rw [Field.overwrite_delivered, Field.overwrite_delivered, Field.overwrite_delivered]

/-- A reading that is received whole does not look like the end of the connection. -/
theorem chunk_whole_ne_nil (reading : SensorData layout) :
    ∀ call ∈ reading.whole.calls layout, call.2.chunk call.1 ≠ [] := by
  simp only [Reception.calls, SensorData.whole, List.forall_mem_cons, List.not_mem_nil,
    false_imp_iff, implies_true, and_true, Field.chunk_delivered]
  exact ⟨reading.id.bytes_ne_nil (by decide), reading.value.bytes_ne_nil layout.valuePositive,
    reading.ts.bytes_ne_nil layout.tsPositive⟩

/-! ### Whole fields -/

/-- Three receives, and what `data` held before them. -/
structure Passage (layout : Layout) where
  data : SensorData layout
  reception : Reception

/-- The calls of `recv` of a passage. -/
def Passage.calls (passage : Passage layout) : List (Nat × Recv) := passage.reception.calls layout

/-- The reading that a passage inserts. -/
def Passage.reading (passage : Passage layout) : Option (SensorData layout) :=
  passage.reception.reading passage.data

theorem length_flatMap_calls (passages : List (Passage layout)) :
    (passages.flatMap Passage.calls).length = 3 * passages.length := by
  induction passages with
  | nil => rfl
  | cons passage rest inductionHypothesis =>
    rw [List.flatMap_cons, List.length_append, inductionHypothesis, List.length_cons, Nat.mul_succ,
      Nat.add_comm]
    rfl

/-- At the end of the stream nothing is received. -/
theorem readings_at_end {passages : List (Passage layout)} {cut : Fragmentation}
    (delivers : Delivers cut [] (passages.flatMap Passage.calls)) :
    passages.filterMap Passage.reading = [] := by
  induction passages generalizing cut with
  | nil => rfl
  | cons passage rest inductionHypothesis =>
    rw [List.flatMap_cons, Passage.calls, delivers_append_iff] at delivers
    obtain ⟨same, delivers⟩ := delivers
    have nothing : passage.reading = none := by
      rw [Passage.reading, Reception.reading, same]
      refine if_pos ?_
      simp only [firstReception, List.drop_nil, List.take_nil, Recv.chunk]
    rw [List.filterMap_cons_none nothing]
    have later : Delivers (cut.after 3) [] (rest.flatMap Passage.calls) := by
      simpa only [afterReception, List.drop_nil] using delivers
    exact inductionHypothesis later

/-- When every field of the readings is received whole, the readings received are those sent,
and the stream ends only after them. -/
theorem readings_of_whole {passages : List (Passage layout)} {readings : List (SensorData layout)}
    {cut : Fragmentation} (whole : cut.Whole (layout.fieldSizes readings.length))
    (delivers : Delivers cut (sentStream readings) (passages.flatMap Passage.calls)) :
    passages.filterMap Passage.reading = readings.take passages.length ∧
      ((∃ call ∈ passages.flatMap Passage.calls, call.2.chunk call.1 = []) →
        readings.length < passages.length) := by
  induction passages generalizing readings cut with
  | nil => exact ⟨rfl, fun ⟨call, member, nothing⟩ => absurd member List.not_mem_nil⟩
  | cons passage rest inductionHypothesis =>
    cases readings with
    | nil => exact ⟨readings_at_end delivers, fun ended => Nat.succ_pos rest.length⟩
    | cons reading others =>
      rw [List.length_cons, Layout.fieldSizes, Fragmentation.whole_cons_iff,
        Fragmentation.whole_cons_iff, Fragmentation.whole_cons_iff] at whole
      obtain ⟨wholeId, wholeValue, wholeTs, wholeRest⟩ := whole
      obtain ⟨first, after⟩ := firstReception_of_whole reading (sentStream others)
        wholeId wholeValue wholeTs
      rw [List.flatMap_cons, Passage.calls, delivers_append_iff, sentStream_cons] at delivers
      obtain ⟨same, delivers⟩ := delivers
      rw [after] at delivers
      have inserted : passage.reading = some reading := by
        rw [Passage.reading, same, first, reading_whole]
      obtain ⟨prefixed, ended⟩ := inductionHypothesis wholeRest delivers
      rw [List.filterMap_cons_some inserted, prefixed]
      refine ⟨rfl, ?_⟩
      rintro ⟨call, member, nothing⟩
      rw [List.flatMap_cons, Passage.calls, same, first, List.mem_append] at member
      rcases member with now | later
      · exact absurd nothing (chunk_whole_ne_nil reading call now)
      · exact Nat.succ_lt_succ (ended ⟨call, later, nothing⟩)

/-! ### Cut fields -/

/-- The readings of receptions in a row, from what `data` held before the first one. -/
def received (data : SensorData layout) : List Reception → List (SensorData layout)
  | [] => []
  | reception :: rest => reception.into data :: received (reception.into data) rest

/-- A field with one byte all over. -/
def Field.constant (size : Nat) (byte : UInt8) : Field size where
  bytes := List.replicate size byte
  sized := List.length_replicate

/-- A receive returns no more than it was asked for. -/
theorem Recv.chunk_take (stream : List UInt8) (most size : Nat) :
    (Recv.delivered (stream.take (min most size))).chunk size = stream.take (min most size) := by
  rw [Recv.chunk, List.take_take, Nat.min_comm size, Nat.min_assoc, Nat.min_self]

theorem Recv.length_chunk_take_lt (stream : List UInt8) {most size : Nat} (short : most < size) :
    ((Recv.delivered (stream.take (min most size))).chunk size).length < size := by
  rw [Recv.chunk_take]
  have bounded : (stream.take (min most size)).length ≤ most :=
    Nat.le_trans (List.length_take_le _ _) (Nat.min_le_left most size)
  exact Nat.lt_of_le_of_lt bounded short

/-- A field that is not received whole keeps its last byte. -/
theorem Field.getElem?_overwrite_of_short {size : Nat} (field : Field size) {recv : Recv}
    (short : (recv.chunk size).length < size) :
    (field.overwrite recv).bytes[size - 1]? = field.bytes[size - 1]? := by
  show (recv.chunk size ++ field.bytes.drop (recv.chunk size).length)[size - 1]? = _
  have last : (recv.chunk size).length ≤ size - 1 := by omega
  rw [List.getElem?_append_right last, List.getElem?_drop, Nat.add_sub_of_le last]

theorem exists_byte_ne (byte : UInt8) : ∃ other, other ≠ byte := by
  by_cases zero : byte = 0
  · rw [zero]
    exact ⟨1, by decide⟩
  · exact ⟨0, Ne.symm zero⟩

/-- What is left of a field that is not received whole differs from some field that may have
been sent. -/
theorem Field.exists_ne_overwrite {size : Nat} (field : Field size) (positive : 0 < size) :
    ∃ byte, ∀ recv : Recv, (recv.chunk size).length < size →
      field.overwrite recv ≠ Field.constant size byte := by
  have inside : size - 1 < field.bytes.length := by
    rw [field.sized]
    omega
  obtain ⟨byte, different⟩ := exists_byte_ne field.bytes[size - 1]
  refine ⟨byte, fun recv short same => different ?_⟩
  have last := field.getElem?_overwrite_of_short short
  have constant : (List.replicate size byte)[size - 1]? = some byte := by
    rw [List.getElem?_replicate, if_pos (by omega)]
  rw [same, List.getElem?_eq_getElem inside] at last
  exact Option.some.inj (constant.symm.trans last)

/-- When the receives of a reading are cut short, there is a reading that is altered, whatever
its id. -/
theorem exists_reading_altered {cut : Fragmentation} (short : ¬ cut.Whole (layout.fieldSizes 1))
    (id : Field 2) (data : SensorData layout) (rest : List UInt8) :
    ∃ reading : SensorData layout, reading.id = id ∧
      (firstReception layout cut (reading.sent ++ rest)).into data ≠ reading := by
  simp only [Layout.fieldSizes, Fragmentation.whole_cons_iff, Fragmentation.whole_nil, and_true,
    not_and_or, Nat.not_le] at short
  rcases short with shortId | shortValue | shortTs
  · -- The second byte of the id is taken for the first one of the value.
    obtain ⟨low, high, bytes⟩ := List.length_eq_two.mp id.sized
    obtain ⟨byte, different⟩ := exists_byte_ne high
    have one : min (cut.most 0) 2 = 1 := by
      have positive := cut.positive 0
      omega
    refine ⟨⟨id, .constant _ byte, .constant _ 0⟩, rfl, fun same => different ?_⟩
    have received : ((firstReception layout cut (SensorData.sent
        ⟨id, .constant layout.sizeofValue byte, .constant layout.sizeofTs 0⟩ ++ rest)).into
          data).value.bytes.head? = some high := by
      obtain ⟨most, some⟩ := Nat.exists_eq_add_one.mpr
        (Nat.lt_min.mpr ⟨cut.positive 1, layout.valuePositive⟩)
      show (Recv.chunk _ (.delivered (List.take _ (List.drop _ (_ ++ _ ++ rest)))) ++ _).head? = _
      rw [Recv.chunk_take, one, some, bytes]
      rfl
    have sent : (List.replicate layout.sizeofValue byte).head? = some byte := by
      rw [List.head?_replicate, if_neg (Nat.ne_of_gt layout.valuePositive)]
    rw [same] at received
    exact Option.some.inj (sent.symm.trans received)
  · obtain ⟨byte, altered⟩ := data.value.exists_ne_overwrite layout.valuePositive
    refine ⟨⟨id, .constant _ byte, .constant _ 0⟩, rfl, fun same => ?_⟩
    exact altered _ (Recv.length_chunk_take_lt _ shortValue) (congrArg SensorData.value same)
  · obtain ⟨byte, altered⟩ := data.ts.exists_ne_overwrite layout.tsPositive
    refine ⟨⟨id, .constant _ 0, .constant _ byte⟩, rfl, fun same => ?_⟩
    exact altered _ (Recv.length_chunk_take_lt _ shortTs) (congrArg SensorData.ts same)

theorem length_sent (reading : SensorData layout) :
    reading.sent.length = 2 + (layout.sizeofValue + layout.sizeofTs) := by
  unfold SensorData.sent
  rw [List.length_append, List.length_append, reading.id.sized, reading.value.sized,
    reading.ts.sized]

/-- While a reading is left, its last receive returns something. -/
theorem chunk_firstReception_ne_nil (cut : Fragmentation) (reading : SensorData layout)
    (rest : List UInt8) :
    (firstReception layout cut (reading.sent ++ rest)).ts.chunk layout.sizeofTs ≠ [] := by
  show (Recv.delivered (List.take _ _)).chunk _ ≠ []
  rw [Recv.chunk_take]
  intro nothing
  have empty := (cut.after 2).eq_nil_of_take layout.tsPositive nothing
  have length := congrArg List.length empty
  have positive := layout.tsPositive
  rw [List.length_drop, List.length_drop, List.length_append, length_sent,
    List.length_nil] at length
  omega

theorem whole_fieldSizes_succ_iff {cut : Fragmentation} {count : Nat} :
    cut.Whole (layout.fieldSizes (count + 1)) ↔
      cut.Whole (layout.fieldSizes 1) ∧ (cut.after 3).Whole (layout.fieldSizes count) := by
  simp only [Layout.fieldSizes, Fragmentation.whole_cons_iff, Fragmentation.whole_nil, and_true,
    and_assoc]
  rfl

/-- When a field is cut short, there are readings with one sensor id that are not received as
they were sent. -/
theorem exists_readings_altered {cut : Fragmentation} {count : Nat}
    (short : ¬ cut.Whole (layout.fieldSizes count)) (id : Field 2) (data : SensorData layout) :
    ∃ (readings : List (SensorData layout)) (receptions : List Reception),
      readings.length = count ∧ (∀ reading ∈ readings, reading.id = id) ∧
      (∀ reception ∈ receptions, reception.ts.chunk layout.sizeofTs ≠ []) ∧
      Delivers cut (sentStream readings) (receptions.flatMap (Reception.calls layout)) ∧
      ¬ received data receptions <+: readings := by
  induction count generalizing cut data with
  | zero => exact absurd cut.whole_nil short
  | succ count inductionHypothesis =>
    by_cases first : cut.Whole (layout.fieldSizes 1)
    · -- The first reading arrives whole, and is what `data` holds afterwards.
      have shortRest : ¬ (cut.after 3).Whole (layout.fieldSizes count) := fun rest =>
        short (whole_fieldSizes_succ_iff.mpr ⟨first, rest⟩)
      obtain ⟨readings, receptions, size, ids, going, delivers, altered⟩ :=
        inductionHypothesis shortRest { data with id }
      simp only [Layout.fieldSizes, Fragmentation.whole_cons_iff, Fragmentation.whole_nil,
        and_true] at first
      obtain ⟨same, after⟩ := firstReception_of_whole { data with id } (sentStream readings)
        first.1 first.2.1 first.2.2
      have inserted : (SensorData.whole { data with id }).into data = { data with id } := by
        unfold Reception.into SensorData.whole
        rw [Field.overwrite_delivered, Field.overwrite_delivered, Field.overwrite_delivered]
      refine ⟨{ data with id } :: readings, SensorData.whole { data with id } :: receptions,
        congrArg Nat.succ size, List.forall_mem_cons.mpr ⟨rfl, ids⟩,
        List.forall_mem_cons.mpr ⟨?_, going⟩, ?_, fun prefixed => altered ?_⟩
      · rw [← same]
        exact chunk_firstReception_ne_nil cut _ _
      · rw [List.flatMap_cons, delivers_append_iff, sentStream_cons, same, after]
        exact ⟨rfl, delivers⟩
      · rw [received, inserted] at prefixed
        exact (List.prefix_cons_inj _).mp prefixed
    · obtain ⟨reading, sameId, altered⟩ := exists_reading_altered first id data
        (sentStream (List.replicate count { data with id }))
      refine ⟨reading :: List.replicate count { data with id }, [firstReception layout cut
        (reading.sent ++ sentStream (List.replicate count { data with id }))], ?_, ?_, ?_, ?_,
        fun prefixed => altered ?_⟩
      · rw [List.length_cons, List.length_replicate]
      · refine List.forall_mem_cons.mpr ⟨sameId, fun other member => ?_⟩
        rw [List.eq_of_mem_replicate member]
      · exact List.forall_mem_singleton.mpr (chunk_firstReception_ne_nil cut _ _)
      · rw [sentStream_cons, List.flatMap_cons, delivers_append_iff]
        exact ⟨rfl, rfl⟩
      · exact (List.cons_prefix_cons.mp prefixed).1

end SensorGateway
