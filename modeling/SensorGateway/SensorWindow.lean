/-
This file is about the window of a sensor: the array `data_list` after a sequence of
readings of one sensor.

The array is meant to hold the latest readings. Two things keep it from that. Whether a
place is taken is read off the value stored there, so that a reading of 0 takes none.
And once the array is full, a reading shifts it without storing the new value: the value
that filled the array stays in the last place and is copied forward from then on.

So it holds the latest readings as long as none of those that fill it is 0, and after that
as long as every reading repeats the last of these.
-/

import Mathlib.Data.List.DropRight
import SensorGateway.SensorMap

namespace SensorGateway

/-! ### The shift -/

theorem shiftLoop_append (done rest : List ℚ) (first : ℚ) :
    shiftLoop rest.length done.length (done ++ first :: rest) =
      done ++ rest ++ [rest.getLastD first] := by
  induction rest generalizing done first with
  | nil => simp [shiftLoop]
  | cons second rest inductionHypothesis =>
    have next : (done ++ first :: second :: rest).getD (done.length + 1) 0 = second := by
      simp
    have stored : (done ++ first :: second :: rest).set done.length second =
        (done ++ [second]) ++ second :: rest := by
      simp
    rw [List.length_cons, shiftLoop, next, stored]
    have moved := inductionHypothesis (done ++ [second]) second
    rw [List.length_append, List.length_singleton] at moved
    rw [moved, List.getLastD_cons]
    simp

/-- The shift drops the first value and repeats the last one. -/
def dropAndRepeat (values : List ℚ) : List ℚ := values.tail ++ [values.getLastD 0]

section DataList

variable {length : Nat}

theorem DataList.shift_values (positive : 0 < length) (dataList : DataList length) :
    dataList.shift.values = dropAndRepeat dataList.values := by
  obtain ⟨values, sized⟩ := dataList
  cases values with
  | nil => exact absurd sized positive.ne
  | cons first rest =>
    have left : length - 1 = rest.length := by
      rw [← sized, List.length_cons, Nat.add_sub_cancel]
    show shiftLoop (length - 1) 0 (first :: rest) = dropAndRepeat (first :: rest)
    rw [left, dropAndRepeat, List.getLastD_cons]
    exact shiftLoop_append [] rest first

/-- What a reading does to the array. -/
def DataList.accept (dataList : DataList length) (value : ℚ) : DataList length :=
  if dataList.size < length then dataList.store dataList.size value else dataList.shift

/-- The array after a sequence of values, from zeros on. -/
def DataList.afterAll (length : Nat) (values : List ℚ) : DataList length :=
  values.foldl DataList.accept (DataList.zero length)

theorem DataList.afterAll_append (values : List ℚ) (value : ℚ) :
    DataList.afterAll length (values ++ [value]) =
      (DataList.afterAll length values).accept value := by
  unfold DataList.afterAll
  rw [List.foldl_append]
  rfl

/-- The taken places are those in front of the zeros. -/
theorem DataList.size_of_taken {dataList : DataList length} {taken : List ℚ} {free : Nat}
    (values : dataList.values = taken ++ List.replicate free 0)
    (nonzero : ∀ value ∈ taken, value ≠ 0) :
    dataList.size = taken.length := by
  have front : taken.findIdx (· = 0) = taken.length :=
    List.findIdx_eq_length.mpr fun value member => decide_eq_false (nonzero value member)
  have back : (List.replicate free (0 : ℚ)).findIdx (· = 0) = 0 := by
    cases free with
    | zero => rfl
    | succ free => rw [List.replicate_succ, List.findIdx_cons, decide_eq_true rfl, cond_true]
  rw [DataList.size, values, List.findIdx_append, front, if_neg (Nat.lt_irrefl _), back,
    Nat.zero_add]

/-- An array without zeros has no free place. -/
theorem DataList.size_of_nonzero {dataList : DataList length}
    (nonzero : ∀ value ∈ dataList.values, value ≠ 0) : dataList.size = length := by
  have unfree : dataList.values = dataList.values ++ List.replicate 0 0 :=
    (List.append_nil _).symm
  exact (dataList.size_of_taken unfree nonzero).trans dataList.sized

/-- While a place is free, a reading is stored there. -/
theorem DataList.accept_filling {dataList : DataList length} {taken : List ℚ} {free : Nat}
    (values : dataList.values = taken ++ List.replicate (free + 1) 0)
    (nonzero : ∀ value ∈ taken, value ≠ 0) (value : ℚ) :
    (dataList.accept value).values = taken ++ value :: List.replicate free 0 := by
  have size := dataList.size_of_taken values nonzero
  have room : dataList.size < length := by
    rw [size, ← dataList.sized, values, List.length_append, List.length_replicate]
    omega
  rw [DataList.accept, if_pos room, size]
  show dataList.values.set taken.length value = _
  rw [values, List.replicate_succ, List.set_append_right _ _ (Nat.le_refl _), Nat.sub_self,
    List.set_cons_zero]

/-- When no place is free, the array is shifted. -/
theorem DataList.accept_full (positive : 0 < length) {dataList : DataList length}
    (nonzero : ∀ value ∈ dataList.values, value ≠ 0) (value : ℚ) :
    (dataList.accept value).values = dropAndRepeat dataList.values := by
  have unfree : ¬dataList.size < length := (DataList.size_of_nonzero nonzero).not_lt
  rw [DataList.accept, if_neg unfree, DataList.shift_values positive]

end DataList

/-! ### The latest readings -/

/-- The array has the latest values in its first places, oldest first, and these are the places
that count as taken. -/
def HoldsLatest {length : Nat} (dataList : DataList length) (values : List ℚ) : Prop :=
  dataList.values.take (min values.length length) = values.rtake length ∧
    dataList.size = min values.length length

/-- No reading that fills the array is 0, and every later one repeats the last of them. -/
def Steady (length : Nat) (values : List ℚ) : Prop :=
  (∀ value ∈ values.take length, value ≠ 0) ∧
    ∀ value ∈ values.drop length, value = (values.take length).getLastD 0

section Latest

variable {length : Nat} {values : List ℚ}

theorem rtake_append_of_lt (short : values.length < length) (value : ℚ) :
    (values ++ [value]).rtake length = values.rtake length ++ [value] := by
  unfold List.rtake
  rw [List.length_append, List.length_singleton, Nat.sub_eq_zero_of_le short,
    Nat.sub_eq_zero_of_le short.le, List.drop_zero, List.drop_zero]

theorem rtake_append_of_le (positive : 0 < length) (full : length ≤ values.length) (value : ℚ) :
    (values ++ [value]).rtake length = (values.rtake length).tail ++ [value] := by
  have one : values.length + 1 - length = values.length - length + 1 := by omega
  unfold List.rtake
  rw [List.length_append, List.length_singleton, one, List.tail_drop,
    List.drop_append_of_le_length (by omega)]

theorem getLastD_rtake (positive : 0 < length) (values : List ℚ) :
    (values.rtake length).getLastD 0 = values.getLastD 0 := by
  obtain ⟨less, rfl⟩ := Nat.exists_eq_add_one_of_ne_zero positive.ne'
  rcases List.eq_nil_or_concat' values with rfl | ⟨front, last, rfl⟩
  · rw [List.rtake_nil]
  · rw [List.rtake_concat_succ, List.getLastD_concat, List.getLastD_concat]

theorem getLastD_mem (nonempty : values ≠ []) : values.getLastD 0 ∈ values := by
  obtain ⟨first, rest, rfl⟩ := List.exists_cons_of_ne_nil nonempty
  rw [List.getLastD_cons]
  exact List.getLastD_mem_cons

theorem steady_append (value : ℚ) :
    Steady length (values ++ [value]) ↔ Steady length values ∧
      if values.length < length then value ≠ 0 else value = (values.take length).getLastD 0 := by
  unfold Steady
  split_ifs with short
  · rw [List.take_of_length_le (by rw [List.length_append]; exact short),
      List.drop_of_length_le (by rw [List.length_append]; exact short),
      List.take_of_length_le short.le, List.drop_of_length_le short.le]
    simp only [List.forall_mem_append, List.forall_mem_singleton, List.not_mem_nil, false_implies,
      implies_true, and_true]
  · rw [List.take_append_of_le_length (not_lt.mp short),
      List.drop_append_of_le_length (not_lt.mp short)]
    rw [List.forall_mem_append, List.forall_mem_singleton, and_assoc]

/-- What steady readings make of the array. -/
structure Filled (length : Nat) (values : List ℚ) : Prop where
  array : (DataList.afterAll length values).values =
    values.rtake length ++ List.replicate (length - values.length) 0
  nonzero : ∀ value ∈ values.rtake length, value ≠ 0
  last : length ≤ values.length → values.getLastD 0 = (values.take length).getLastD 0

/-- Once there are enough readings, no place of the array is free. -/
theorem Filled.array_full (filled : Filled length values) (full : length ≤ values.length) :
    (DataList.afterAll length values).values = values.rtake length := by
  rw [filled.array, Nat.sub_eq_zero_of_le full, List.replicate_zero, List.append_nil]

theorem filled_of_steady (positive : 0 < length) (steady : Steady length values) :
    Filled length values := by
  induction values using List.reverseRecOn with
  | nil => exact ⟨by rw [List.rtake_nil]; rfl, by simp, fun _ => by rw [List.take_nil]⟩
  | append_singleton values value inductionHypothesis =>
    obtain ⟨before, step⟩ := (steady_append value).mp steady
    have filled := inductionHypothesis before
    split_ifs at step with short
    · obtain ⟨free, room⟩ := Nat.exists_eq_add_one_of_ne_zero (Nat.sub_ne_zero_of_lt short)
      have array := filled.array
      rw [room] at array
      have left : length - (values.length + 1) = free := by omega
      refine ⟨?_, ?_, fun full => ?_⟩
      · rw [DataList.afterAll_append, DataList.accept_filling array filled.nonzero,
          rtake_append_of_lt short, List.length_append, List.length_singleton, left,
          List.append_assoc, List.singleton_append]
      · rw [rtake_append_of_lt short]
        exact List.forall_mem_append.mpr ⟨filled.nonzero, List.forall_mem_singleton.mpr step⟩
      · rw [List.take_of_length_le (by rw [List.length_append]; exact short)]
    · have full : length ≤ values.length := not_lt.mp short
      have array := filled.array_full full
      have repeated : (values.rtake length).getLastD 0 = value := by
        rw [getLastD_rtake positive, filled.last full, step]
      have shifted : dropAndRepeat (values.rtake length) = (values ++ [value]).rtake length := by
        rw [dropAndRepeat, repeated, rtake_append_of_le positive full]
      refine ⟨?_, ?_, fun _ => ?_⟩
      · rw [DataList.afterAll_append,
          DataList.accept_full positive (array ▸ filled.nonzero), array, shifted,
          List.length_append, List.length_singleton,
          Nat.sub_eq_zero_of_le (Nat.le_succ_of_le full), List.replicate_zero, List.append_nil]
      · rw [rtake_append_of_le positive full]
        refine List.forall_mem_append.mpr ⟨fun kept member => ?_, ?_⟩
        · exact filled.nonzero kept (List.mem_of_mem_tail member)
        · rw [List.forall_mem_singleton, ← repeated]
          refine filled.nonzero _ (getLastD_mem fun empty => ?_)
          have count := congrArg List.length empty
          rw [List.rtake, List.length_drop, List.length_nil] at count
          omega
      · rw [List.getLastD_concat, List.take_append_of_le_length full, step]

/-- An array filled by steady readings holds the latest ones. -/
theorem Filled.holdsLatest (filled : Filled length values) :
    HoldsLatest (DataList.afterAll length values) values := by
  have count : (values.rtake length).length = min values.length length := by
    unfold List.rtake
    rw [List.length_drop]
    omega
  constructor
  · rw [filled.array, ← count, List.take_left]
  · rw [DataList.size_of_taken filled.array filled.nonzero, count]

/-- A reading after steady ones that leaves the array with the latest readings goes on as they
do. -/
theorem steady_of_holdsLatest (positive : 0 < length) (steady : Steady length values) {value : ℚ}
    (holds : HoldsLatest (DataList.afterAll length (values ++ [value])) (values ++ [value])) :
    Steady length (values ++ [value]) := by
  have filled := filled_of_steady positive steady
  refine (steady_append value).mpr ⟨steady, ?_⟩
  obtain ⟨latest, size⟩ := holds
  split_ifs with short
  · -- A value of 0 is stored in a place that counts as free afterwards.
    rintro rfl
    obtain ⟨free, room⟩ := Nat.exists_eq_add_one_of_ne_zero (Nat.sub_ne_zero_of_lt short)
    have array := filled.array
    rw [room] at array
    have stored := DataList.accept_filling array filled.nonzero 0
    rw [← List.replicate_succ, ← DataList.afterAll_append] at stored
    have taken := DataList.size_of_taken stored filled.nonzero
    rw [size, List.rtake, List.length_drop, List.length_append, List.length_singleton] at taken
    omega
  · have full : length ≤ values.length := not_lt.mp short
    have array := filled.array_full full
    have shifted := DataList.accept_full positive (array ▸ filled.nonzero) value
    rw [← DataList.afterAll_append, array, dropAndRepeat] at shifted
    have whole : length ≤ (values ++ [value]).length := by
      rw [List.length_append]
      omega
    rw [Nat.min_eq_right whole, List.take_of_length_le (DataList.sized _).le, shifted,
      rtake_append_of_le positive full] at latest
    rw [← filled.last full, ← getLastD_rtake positive]
    exact (List.singleton_inj.mp (List.append_cancel_left latest)).symm

/-- After every reading the array holds the latest readings exactly when the readings are
steady. -/
theorem holdsLatest_iff_steady (positive : 0 < length) (values : List ℚ) :
    (∀ earlier, earlier <+: values → HoldsLatest (DataList.afterAll length earlier) earlier) ↔
      Steady length values := by
  induction values using List.reverseRecOn with
  | nil =>
    have steady : Steady length [] := by simp [Steady]
    refine iff_of_true (fun earlier before => ?_) steady
    rw [List.prefix_nil.mp before]
    exact (filled_of_steady positive steady).holdsLatest
  | append_singleton values value inductionHypothesis =>
    constructor
    · intro holds
      have steady := inductionHypothesis.mp fun earlier before =>
        holds earlier (before.trans (List.prefix_append values [value]))
      exact steady_of_holdsLatest positive steady (holds _ (List.prefix_refl _))
    · intro steady earlier before
      rcases List.prefix_concat_iff.mp before with rfl | shorter
      · exact (filled_of_steady positive steady).holdsLatest
      · exact inductionHypothesis.mpr ((steady_append value).mp steady).1 earlier shorter

end Latest

/-! ### The window of a node -/

section Node

variable {config : DatamgrConfig}

/-- The node of a sensor after a sequence of readings of it. -/
def SensorNode.updateAll (node : SensorNode config) (readings : List SensorReading) :
    SensorNode config :=
  readings.foldl (fun node reading => (node.update reading).1) node

theorem SensorNode.update_dataList (node : SensorNode config) (reading : SensorReading) :
    (node.update reading).1.dataList = node.dataList.accept reading.value := by
  unfold SensorNode.update DataList.accept
  dsimp only
  split <;> rfl

theorem SensorNode.updateAll_dataList (node : SensorNode config) (readings : List SensorReading) :
    (node.updateAll readings).dataList =
      (readings.map SensorReading.value).foldl DataList.accept node.dataList := by
  induction readings generalizing node with
  | nil => rfl
  | cons reading rest inductionHypothesis =>
    rw [List.map_cons, List.foldl_cons, ← node.update_dataList reading]
    exact inductionHypothesis _

theorem freshNode_updateAll (uninitialised : SensorNode config) (line : BitVec 16 × BitVec 16)
    (readings : List SensorReading) :
    ((freshNode uninitialised line).updateAll readings).dataList =
      DataList.afterAll config.runAvgLength (readings.map SensorReading.value) :=
  SensorNode.updateAll_dataList (freshNode uninitialised line) readings

/-- After every reading of a sensor its array holds the latest readings exactly when the readings
are steady. -/
theorem window_holds_latest_iff (uninitialised : SensorNode config) (line : BitVec 16 × BitVec 16)
    (readings : List SensorReading) :
    (∀ earlier, earlier <+: readings →
      HoldsLatest ((freshNode uninitialised line).updateAll earlier).dataList
        (earlier.map SensorReading.value)) ↔
      Steady config.runAvgLength (readings.map SensorReading.value) := by
  rw [← holdsLatest_iff_steady config.runAvgLengthPositive]
  constructor
  · intro holds earlier before
    obtain ⟨first, isPrefix, rfl⟩ := List.prefix_map_iff.mp before
    rw [← freshNode_updateAll uninitialised line]
    exact holds first isPrefix
  · intro holds earlier before
    rw [freshNode_updateAll]
    exact holds _ (before.map SensorReading.value)

/-- The sixth reading is not in the array of five. -/
theorem sixth_reading_missing :
    ((freshNode makefileNode (1, 15)).updateAll
      [⟨15, 1, 1⟩, ⟨15, 2, 2⟩, ⟨15, 3, 3⟩, ⟨15, 4, 4⟩, ⟨15, 5, 5⟩, ⟨15, 6, 6⟩]).dataList.values =
        [2, 3, 4, 5, 5] ∧
    ¬HoldsLatest ((freshNode makefileNode (1, 15)).updateAll
      [⟨15, 1, 1⟩, ⟨15, 2, 2⟩, ⟨15, 3, 3⟩, ⟨15, 4, 4⟩, ⟨15, 5, 5⟩, ⟨15, 6, 6⟩]).dataList
        [1, 2, 3, 4, 5, 6] := by
  unfold HoldsLatest
  decide

end Node

end SensorGateway
