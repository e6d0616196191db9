/-
This file is about the running average of a sensor and its alerts.

The average is taken over the array after a shift, so that it is 0 until a reading finds
the array full. The array is filled by the first readings that are not 0, as many as it
has places. Each reading behind those drops the oldest of them and repeats the last one,
whatever its own value is. The average is that of the latest readings exactly when these
happen to have the same sum.
-/

import SensorGateway.SensorWindow

namespace SensorGateway

/-! ### The array after any readings -/

/-- The values that are not 0. -/
def nonzeros (values : List ℚ) : List ℚ := values.filter (· ≠ 0)

/-- The values behind the one that takes the last free place. -/
def behindFilling : Nat → List ℚ → List ℚ
  | 0, rest => rest
  | _ + 1, [] => []
  | free + 1, value :: rest =>
    if value = 0 then behindFilling (free + 1) rest else behindFilling free rest

section Array

variable {length : Nat}

theorem nonzeros_append (values : List ℚ) (value : ℚ) :
    nonzeros (values ++ [value]) =
      if value = 0 then nonzeros values else nonzeros values ++ [value] := by
  unfold nonzeros
  rw [List.filter_append, List.filter_singleton]
  split_ifs with zero <;> simp [zero]

theorem ne_zero_of_mem_nonzeros {values : List ℚ} {value : ℚ} (member : value ∈ nonzeros values) :
    value ≠ 0 := of_decide_eq_true (List.mem_filter.mp member).2

theorem behindFilling_append (free : Nat) (values : List ℚ) (value : ℚ) :
    behindFilling free (values ++ [value]) =
      if free ≤ (nonzeros values).length then behindFilling free values ++ [value] else [] := by
  induction values generalizing free with
  | nil =>
    cases free with
    | zero => rfl
    | succ free =>
      have none : nonzeros [] = [] := rfl
      rw [none, List.length_nil, if_neg (Nat.not_succ_le_zero free), List.nil_append, behindFilling]
      cases free <;> simp [behindFilling]
  | cons first rest inductionHypothesis =>
    cases free with
    | zero => rfl
    | succ free =>
      rw [List.cons_append, behindFilling, behindFilling, inductionHypothesis,
        inductionHypothesis, nonzeros, nonzeros, List.filter_cons]
      by_cases zero : first = 0 <;> simp [zero]

theorem length_nonzeros_le (values : List ℚ) (value : ℚ) :
    (nonzeros values).length ≤ (nonzeros (values ++ [value])).length := by
  rw [nonzeros_append]
  split_ifs
  · exact Nat.le_refl _
  · rw [List.length_append]
    exact Nat.le_add_right _ _

theorem behindFilling_of_lt {free : Nat} {values : List ℚ}
    (short : (nonzeros values).length < free) : behindFilling free values = [] := by
  induction values using List.reverseRecOn with
  | nil =>
    obtain ⟨less, rfl⟩ := Nat.exists_eq_add_one_of_ne_zero short.ne'
    rfl
  | append_singleton values value inductionHypothesis =>
    have before := (length_nonzeros_le values value).trans_lt short
    rw [behindFilling_append, if_neg (not_le.mpr before)]

/-- While places are free, the array holds the values that are not 0. -/
theorem afterAll_filling {values : List ℚ} (short : (nonzeros values).length < length) :
    (DataList.afterAll length values).values =
      nonzeros values ++ List.replicate (length - (nonzeros values).length) 0 := by
  induction values using List.reverseRecOn with
  | nil => rfl
  | append_singleton values value inductionHypothesis =>
    have before := (length_nonzeros_le values value).trans_lt short
    obtain ⟨free, room⟩ := Nat.exists_eq_add_one_of_ne_zero (Nat.sub_ne_zero_of_lt before)
    have array := inductionHypothesis before
    rw [room] at array
    rw [DataList.afterAll_append,
      DataList.accept_filling array (fun _ member => ne_zero_of_mem_nonzeros member),
      nonzeros_append]
    split_ifs with zero
    · rw [room, zero, ← List.replicate_succ]
    · have left : length - ((nonzeros values).length + 1) = free := by omega
      rw [List.length_append, List.length_singleton, left, List.append_assoc,
        List.singleton_append]

theorem getLastD_append_replicate (front : List ℚ) (count : Nat) :
    (front ++ List.replicate count (front.getLastD 0)).getLastD 0 = front.getLastD 0 := by
  cases count with
  | zero => rw [List.replicate_zero, List.append_nil]
  | succ count => rw [List.replicate_succ', ← List.append_assoc, List.getLastD_concat]

/-- Shifting again and again drops the values from the front and repeats the last one. -/
theorem iterate_dropAndRepeat {values : List ℚ} (nonempty : values ≠ []) (count : Nat) :
    dropAndRepeat^[count] values =
      values.drop count ++ List.replicate (min count values.length) (values.getLastD 0) := by
  induction count with
  | zero => simp
  | succ count inductionHypothesis =>
    rw [Function.iterate_succ_apply', inductionHypothesis]
    rcases Nat.lt_or_ge count values.length with inside | beyond
    · have last : (values.drop count).getLastD 0 = values.getLastD 0 := by
        rw [List.getLastD_eq_getLast?, List.getLast?_drop, if_neg (by omega),
          List.getLastD_eq_getLast?]
      have lastOfAll := getLastD_append_replicate (values.drop count) (min count values.length)
      rw [last] at lastOfAll
      rw [dropAndRepeat, lastOfAll, List.drop_eq_getElem_cons inside, List.cons_append,
        List.tail_cons, Nat.min_eq_left inside.le, Nat.min_eq_left inside, List.replicate_succ',
        List.append_assoc]
    · obtain ⟨less, size⟩ := Nat.exists_eq_add_one_of_ne_zero
        (mt List.length_eq_zero_iff.mp nonempty)
      rw [List.drop_of_length_le beyond, List.drop_of_length_le (Nat.le_succ_of_le beyond),
        Nat.min_eq_right beyond, Nat.min_eq_right (Nat.le_succ_of_le beyond), List.nil_append,
        size, dropAndRepeat, List.replicate_succ', List.getLastD_concat, ← List.replicate_succ',
        List.replicate_succ, List.tail_cons, ← List.replicate_succ', List.replicate_succ]

theorem mem_of_mem_iterate {values : List ℚ} (nonempty : values ≠ []) {count : Nat} {value : ℚ}
    (member : value ∈ dropAndRepeat^[count] values) : value ∈ values := by
  rw [iterate_dropAndRepeat nonempty] at member
  rcases List.mem_append.mp member with kept | repeated
  · exact List.mem_of_mem_drop kept
  · rw [List.eq_of_mem_replicate repeated]
    exact getLastD_mem nonempty

theorem filling_ne_nil (positive : 0 < length) {values : List ℚ}
    (full : length ≤ (nonzeros values).length) : (nonzeros values).take length ≠ [] := by
  intro none
  have size := congrArg List.length none
  rw [List.length_take, List.length_nil] at size
  omega

theorem ne_zero_of_mem_shifted (positive : 0 < length) {values : List ℚ}
    (full : length ≤ (nonzeros values).length) {count : Nat} {held : ℚ}
    (member : held ∈ dropAndRepeat^[count] ((nonzeros values).take length)) : held ≠ 0 := by
  have held := mem_of_mem_iterate (filling_ne_nil positive full) member
  exact ne_zero_of_mem_nonzeros (List.mem_of_mem_take held)

/-- Once no place is free, the array holds the first values that are not 0, shifted by one place
for each later value. -/
theorem afterAll_full (positive : 0 < length) {values : List ℚ}
    (full : length ≤ (nonzeros values).length) :
    (DataList.afterAll length values).values =
      dropAndRepeat^[(behindFilling length values).length] ((nonzeros values).take length) := by
  induction values using List.reverseRecOn with
  | nil => exact absurd full (not_le.mpr positive)
  | append_singleton values value inductionHypothesis =>
    rcases Nat.lt_or_ge (nonzeros values).length length with short | already
    · -- This value takes the last free place.
      have nonzero : value ≠ 0 := by
        rintro rfl
        rw [nonzeros_append, if_pos rfl] at full
        omega
      rw [nonzeros_append, if_neg nonzero, List.length_append, List.length_singleton] at full
      have room : length - (nonzeros values).length = 0 + 1 := by omega
      have array := afterAll_filling short
      rw [room] at array
      rw [DataList.afterAll_append,
        DataList.accept_filling array (fun _ member => ne_zero_of_mem_nonzeros member),
        behindFilling_append, if_neg (not_le.mpr short), nonzeros_append, if_neg nonzero,
        List.take_of_length_le (by rw [List.length_append, List.length_singleton]; omega)]
      rfl
    · have array := inductionHypothesis already
      have nonzero : ∀ held ∈ (DataList.afterAll length values).values, held ≠ 0 :=
        fun held member => ne_zero_of_mem_shifted positive already (array ▸ member)
      have same : (nonzeros (values ++ [value])).take length = (nonzeros values).take length := by
        rw [nonzeros_append]
        split_ifs
        · rfl
        · exact List.take_append_of_le_length already
      rw [DataList.afterAll_append, DataList.accept_full positive nonzero, array, same,
        behindFilling_append, if_pos already, List.length_append, List.length_singleton,
        Function.iterate_succ_apply']

theorem size_afterAll_lt_iff (positive : 0 < length) (values : List ℚ) :
    (DataList.afterAll length values).size < length ↔ (nonzeros values).length < length := by
  rcases Nat.lt_or_ge (nonzeros values).length length with short | full
  · rw [DataList.size_of_taken (afterAll_filling short) fun _ member =>
      ne_zero_of_mem_nonzeros member]
  · have array := afterAll_full positive full
    have nonzero : ∀ held ∈ (DataList.afterAll length values).values, held ≠ 0 :=
      fun held member => ne_zero_of_mem_shifted positive full (array ▸ member)
    exact iff_of_false (DataList.size_of_nonzero nonzero).not_lt (not_lt.mpr full)

/-- The sum of the first values that are not 0, the oldest of them replaced by the last one, one
for each later value. -/
def repeatedSum (length : Nat) (values : List ℚ) : ℚ :=
  let kept := (nonzeros values).take length
  let behind := (behindFilling length values).length
  (kept.drop behind).sum + min behind length * kept.getLastD 0

theorem sum_afterAll (positive : 0 < length) {values : List ℚ}
    (full : length ≤ (nonzeros values).length) :
    (DataList.afterAll length values).sum = repeatedSum length values := by
  have kept : ((nonzeros values).take length).length = length := by
    rw [List.length_take, Nat.min_eq_left full]
  rw [DataList.sum, ← List.sum_eq_foldl, afterAll_full positive full,
    iterate_dropAndRepeat (filling_ne_nil positive full), List.sum_append, List.sum_replicate,
    kept, nsmul_eq_mul, repeatedSum]

end Array

/-! ### The average and the alerts -/

section Node

variable {config : DatamgrConfig}

/-- The mean of the latest values. -/
def latestMean (length : Nat) (values : List ℚ) : ℚ := (values.rtake length).sum / length

/-- The running average of a sensor: 0 for fewer values than the array has places. -/
def runningAverage (length : Nat) (values : List ℚ) : ℚ :=
  if values.length < length then 0 else latestMean length values

/-- A too-hot message. -/
def Report.isTooHot : Report → Bool
  | .tooHot _ _ _ => true
  | _ => false

/-- A too-cold message. -/
def Report.isTooCold : Report → Bool
  | .tooCold _ _ _ => true
  | _ => false

/-- The alert while the last of the readings is processed. -/
def SensorNode.lastAlert (node : SensorNode config) (readings : List SensorReading) :
    Option Report := do
  let reading ← readings.getLast?
  ((node.updateAll readings.dropLast).update reading).2

/-- The node has the running average of its readings as its value, which is what `datamgr_get_avg`
returns, and the last reading raises the alert that this average asks for. -/
structure ReportsAverage (node : SensorNode config) (readings : List SensorReading) : Prop where
  average : (node.updateAll readings).sensor.value =
    runningAverage config.runAvgLength (readings.map SensorReading.value)
  tooHot : (node.lastAlert readings).any Report.isTooHot ↔
    config.runAvgLength ≤ readings.length ∧
      config.maxTemp < latestMean config.runAvgLength (readings.map SensorReading.value)
  tooCold : (node.lastAlert readings).any Report.isTooCold ↔
    config.runAvgLength ≤ readings.length ∧
      latestMean config.runAvgLength (readings.map SensorReading.value) < config.minTemp

/-- The values for which the code comes out right: too few for an average; or not enough that are
not 0 before the last one, with a mean of 0 that raises no alert; or enough of them, with the sum
of the latest values the same as that of the repeated ones and not both alerts due. -/
def AverageAgrees (config : DatamgrConfig) (values : List ℚ) : Prop :=
  values.length < config.runAvgLength ∨
    if behindFilling config.runAvgLength values = [] then
      (values.rtake config.runAvgLength).sum = 0 ∧ config.minTemp ≤ 0 ∧ 0 ≤ config.maxTemp
    else
      (values.rtake config.runAvgLength).sum = repeatedSum config.runAvgLength values ∧
        ¬(config.maxTemp < latestMean config.runAvgLength values ∧
          latestMean config.runAvgLength values < config.minTemp)

theorem SensorNode.updateAll_append (node : SensorNode config) (earlier : List SensorReading)
    (reading : SensorReading) :
    node.updateAll (earlier ++ [reading]) = ((node.updateAll earlier).update reading).1 := by
  unfold SensorNode.updateAll
  rw [List.foldl_append]
  rfl

theorem SensorNode.lastAlert_append (node : SensorNode config) (earlier : List SensorReading)
    (reading : SensorReading) :
    node.lastAlert (earlier ++ [reading]) = ((node.updateAll earlier).update reading).2 := by
  unfold SensorNode.lastAlert
  rw [List.getLast?_concat, List.dropLast_concat]
  rfl

theorem runningAverage_of_le {length : Nat} {readings : List SensorReading}
    (enough : length ≤ readings.length) :
    runningAverage length (readings.map SensorReading.value) =
      latestMean length (readings.map SensorReading.value) := by
  rw [runningAverage, List.length_map, if_neg (not_lt.mpr enough)]

/-- While a place is free, a reading changes neither the average nor raises an alert. -/
theorem SensorNode.update_of_free {node : SensorNode config}
    (free : node.dataList.size < config.runAvgLength) (reading : SensorReading) :
    (node.update reading).1.sensor = node.sensor ∧ (node.update reading).2 = none := by
  unfold SensorNode.update
  dsimp only
  rw [if_pos free]
  exact ⟨rfl, rfl⟩

/-- When no place is free, a reading sets the average and raises its alert. -/
theorem SensorNode.update_of_full {node : SensorNode config}
    (full : ¬node.dataList.size < config.runAvgLength) (reading : SensorReading) :
    (node.update reading).1.sensor.value =
        (node.update reading).1.dataList.sum / config.runAvgLength ∧
      (node.update reading).2 = (node.update reading).1.alert := by
  unfold SensorNode.update
  dsimp only
  rw [if_neg full]
  exact ⟨rfl, rfl⟩

variable (uninitialised : SensorNode config) (line : BitVec 16 × BitVec 16)

/-- The average and the alert after any readings. -/
theorem average_and_alert (readings : List SensorReading) :
    (behindFilling config.runAvgLength (readings.map SensorReading.value) = [] →
      ((freshNode uninitialised line).updateAll readings).sensor.value = 0 ∧
        (freshNode uninitialised line).lastAlert readings = none) ∧
    (behindFilling config.runAvgLength (readings.map SensorReading.value) ≠ [] →
      ((freshNode uninitialised line).updateAll readings).sensor.value =
          repeatedSum config.runAvgLength (readings.map SensorReading.value) /
            config.runAvgLength ∧
        (freshNode uninitialised line).lastAlert readings =
          ((freshNode uninitialised line).updateAll readings).alert) := by
  induction readings using List.reverseRecOn with
  | nil =>
    have none : behindFilling config.runAvgLength [] = [] :=
      behindFilling_of_lt config.runAvgLengthPositive
    exact ⟨fun _ => ⟨rfl, rfl⟩, fun some => absurd none some⟩
  | append_singleton earlier reading inductionHypothesis =>
    rw [List.map_append, List.map_singleton, behindFilling_append, SensorNode.updateAll_append,
      SensorNode.lastAlert_append]
    have free := size_afterAll_lt_iff config.runAvgLengthPositive
      (earlier.map SensorReading.value)
    rw [← freshNode_updateAll uninitialised line] at free
    by_cases short : (nonzeros (earlier.map SensorReading.value)).length < config.runAvgLength
    · rw [if_neg (not_le.mpr short)]
      refine ⟨fun _ => ?_, fun some => absurd rfl some⟩
      obtain ⟨sensor, alert⟩ := SensorNode.update_of_free (free.mpr short) reading
      rw [sensor, alert]
      exact ⟨(inductionHypothesis.1 (behindFilling_of_lt short)).1, rfl⟩
    · have full := not_lt.mp short
      rw [if_pos full]
      refine ⟨fun none => absurd none (by simp), fun _ => ?_⟩
      obtain ⟨value, alert⟩ := SensorNode.update_of_full (mt free.mp short) reading
      have array : (((freshNode uninitialised line).updateAll earlier).update reading).1.dataList =
          DataList.afterAll config.runAvgLength
            (earlier.map SensorReading.value ++ [reading.value]) := by
        rw [← SensorNode.updateAll_append, freshNode_updateAll, List.map_append,
          List.map_singleton]
      rw [value, alert, array, sum_afterAll config.runAvgLengthPositive
        (full.trans (length_nonzeros_le _ _))]
      exact ⟨rfl, rfl⟩

theorem isTooHot_alert (node : SensorNode config) :
    node.alert.any Report.isTooHot ↔ config.maxTemp < node.sensor.value := by
  unfold SensorNode.alert
  split_ifs with hot cold
  · exact iff_of_true rfl hot
  · exact iff_of_false Bool.false_ne_true hot
  · exact iff_of_false Bool.false_ne_true hot

theorem isTooCold_alert (node : SensorNode config) :
    node.alert.any Report.isTooCold ↔
      ¬config.maxTemp < node.sensor.value ∧ node.sensor.value < config.minTemp := by
  unfold SensorNode.alert
  split_ifs with hot cold
  · exact iff_of_false Bool.false_ne_true fun both => both.1 hot
  · exact iff_of_true rfl ⟨hot, cold⟩
  · exact iff_of_false Bool.false_ne_true fun both => cold both.2

/-- When no reading has found the array full, the average is that of the latest readings exactly
when there are too few of them, or their mean is 0 and raises no alert. -/
theorem reports_average_of_filling {readings : List SensorReading}
    (none : behindFilling config.runAvgLength (readings.map SensorReading.value) = [])
    (enough : config.runAvgLength ≤ readings.length) :
    ReportsAverage (freshNode uninitialised line) readings ↔
      ((readings.map SensorReading.value).rtake config.runAvgLength).sum = 0 ∧
        config.minTemp ≤ 0 ∧ 0 ≤ config.maxTemp := by
  obtain ⟨value, alert⟩ := (average_and_alert uninitialised line readings).1 none
  have positive : (config.runAvgLength : ℚ) ≠ 0 :=
    Nat.cast_ne_zero.mpr config.runAvgLengthPositive.ne'
  have average := runningAverage_of_le enough
  have zero : latestMean config.runAvgLength (readings.map SensorReading.value) = 0 ↔
      ((readings.map SensorReading.value).rtake config.runAvgLength).sum = 0 := by
    rw [latestMean, div_eq_zero_iff, or_iff_left positive]
  constructor
  · intro reports
    have mean := reports.average
    rw [value, average] at mean
    have notHot := mt reports.tooHot.mpr (by rw [alert]; exact Bool.false_ne_true)
    have notCold := mt reports.tooCold.mpr (by rw [alert]; exact Bool.false_ne_true)
    rw [← mean] at notHot notCold
    exact ⟨zero.mp mean.symm, not_lt.mp fun less => notCold ⟨enough, less⟩,
      not_lt.mp fun less => notHot ⟨enough, less⟩⟩
  · rintro ⟨sum, low, high⟩
    have mean := zero.mpr sum
    refine ⟨by rw [value, average, mean], ?_, ?_⟩
    · rw [alert, mean]
      exact iff_of_false Bool.false_ne_true fun both => absurd both.2 (not_lt.mpr high)
    · rw [alert, mean]
      exact iff_of_false Bool.false_ne_true fun both => absurd both.2 (not_lt.mpr low)

/-- When a reading has found the array full, the average is that of the latest readings exactly
when their sum is that of the repeated ones, and not both alerts are due. -/
theorem reports_average_of_full {readings : List SensorReading}
    (some : behindFilling config.runAvgLength (readings.map SensorReading.value) ≠ [])
    (enough : config.runAvgLength ≤ readings.length) :
    ReportsAverage (freshNode uninitialised line) readings ↔
      ((readings.map SensorReading.value).rtake config.runAvgLength).sum =
          repeatedSum config.runAvgLength (readings.map SensorReading.value) ∧
        ¬(config.maxTemp < latestMean config.runAvgLength (readings.map SensorReading.value) ∧
          latestMean config.runAvgLength (readings.map SensorReading.value) <
            config.minTemp) := by
  obtain ⟨value, alert⟩ := (average_and_alert uninitialised line readings).2 some
  have positive : (config.runAvgLength : ℚ) ≠ 0 :=
    Nat.cast_ne_zero.mpr config.runAvgLengthPositive.ne'
  have average := runningAverage_of_le enough
  have same : ((freshNode uninitialised line).updateAll readings).sensor.value =
      latestMean config.runAvgLength (readings.map SensorReading.value) ↔
      ((readings.map SensorReading.value).rtake config.runAvgLength).sum =
        repeatedSum config.runAvgLength (readings.map SensorReading.value) := by
    rw [value, latestMean, div_left_inj' positive, eq_comm]
  constructor
  · intro reports
    have mean := reports.average
    rw [average] at mean
    refine ⟨same.mp mean, fun both => ?_⟩
    have cold := reports.tooCold.mpr ⟨enough, both.2⟩
    rw [alert, isTooCold_alert, mean] at cold
    exact cold.1 both.1
  · rintro ⟨sum, apart⟩
    have mean := same.mpr sum
    refine ⟨mean.trans average.symm, ?_, ?_⟩
    · rw [alert, isTooHot_alert, mean, and_iff_right enough]
    · rw [alert, isTooCold_alert, mean, and_iff_right enough]
      exact ⟨fun both => both.2, fun cold => ⟨fun hot => apart ⟨hot, cold⟩, cold⟩⟩

/-- The reported average and the alerts are those of the latest readings exactly when the values
agree. -/
theorem reports_average_iff (readings : List SensorReading) :
    ReportsAverage (freshNode uninitialised line) readings ↔
      AverageAgrees config (readings.map SensorReading.value) := by
  unfold AverageAgrees
  rw [List.length_map]
  by_cases few : readings.length < config.runAvgLength
  · have short : (nonzeros (readings.map SensorReading.value)).length < config.runAvgLength :=
      (List.length_filter_le _ _).trans_lt (by rwa [List.length_map])
    obtain ⟨value, alert⟩ :=
      (average_and_alert uninitialised line readings).1 (behindFilling_of_lt short)
    refine iff_of_true ⟨?_, ?_, ?_⟩ (Or.inl few)
    · rw [value, runningAverage, List.length_map, if_pos few]
    · rw [alert]
      exact iff_of_false Bool.false_ne_true fun both => absurd few (not_lt.mpr both.1)
    · rw [alert]
      exact iff_of_false Bool.false_ne_true fun both => absurd few (not_lt.mpr both.1)
  · rw [or_iff_right few]
    split_ifs with none
    · exact reports_average_of_filling uninitialised line none (not_lt.mp few)
    · exact reports_average_of_full uninitialised line none (not_lt.mp few)

/-- The fifth reading of five gives no average. -/
theorem fifth_reading_not_averaged :
    ((freshNode makefileNode (1, 15)).updateAll
      [⟨15, 15, 1⟩, ⟨15, 15, 2⟩, ⟨15, 15, 3⟩, ⟨15, 15, 4⟩, ⟨15, 15, 5⟩]).sensor.value = 0 ∧
    runningAverage 5 [15, 15, 15, 15, 15] = 15 ∧
    ¬ReportsAverage (freshNode makefileNode (1, 15))
      [⟨15, 15, 1⟩, ⟨15, 15, 2⟩, ⟨15, 15, 3⟩, ⟨15, 15, 4⟩, ⟨15, 15, 5⟩] := by
  have value : ((freshNode makefileNode (1, 15)).updateAll
      [⟨15, 15, 1⟩, ⟨15, 15, 2⟩, ⟨15, 15, 3⟩, ⟨15, 15, 4⟩, ⟨15, 15, 5⟩]).sensor.value = 0 := by
    decide
  have average : runningAverage 5 [15, 15, 15, 15, 15] = 15 := by
    norm_num [runningAverage, latestMean, List.rtake]
  refine ⟨value, average, fun reports => ?_⟩
  have equal := reports.average
  rw [value] at equal
  have fifteen : (0 : ℚ) = 15 := equal.trans average
  norm_num at fifteen

end Node

end SensorGateway
