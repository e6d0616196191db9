/-
This file models the two consumer threads of the gateway on the shared buffer: the
loop of the data manager and the loop of the storage manager, both of the shape

    while (sbuffer_remove(buffer, &data) != SBUFFER_FAILURE) body(data);

interleaved with the inserts of the connection manager, each buffer call one atomic
step on the pointer-level buffer. The variable `data` is a local of the loop: it has
an arbitrary value before the first remove, and `sbuffer_remove` leaves it alone when
the buffer is empty.

The system simulates a queue shared by two takers, and its theorems follow from the
laws of that queue. The loops treat SBUFFER_NO_DATA as a reading: a loop body runs
once for each reading handed to the loop exactly when the buffer is never empty at an
iteration of the loop.
-/

import SensorGateway.SbufferQueue

namespace SensorGateway

variable {Data : Type}

/-- The two consumers of the buffer. -/
inductive Consumer where
  | datamgr
  | storagemgr
  deriving DecidableEq, Repr

/-- One execution of a loop body, with the reading it acts on. -/
inductive BodyRun (Data : Type) where
  | insertSensor (reading : Data)
  | updateAverage (index : Int) (reading : Data)
  | stopRequest (reading : Data)
  deriving DecidableEq, Repr

/-- The reading a loop body acted on. -/
def BodyRun.reading : BodyRun Data → Data
  | .insertSensor reading => reading
  | .updateAverage _ reading => reading
  | .stopRequest reading => reading

/-- The body of the storage manager's loop. -/
def storagemgrBody (data : Data) : BodyRun Data := .insertSensor data

/-- The body of the data manager's loop: a stop request when `dpl_get_index_of_element` does not
find the sensor, otherwise an update of the running average at the index found. -/
def datamgrBody (indexOf : Data → Int) (data : Data) : BodyRun Data :=
  if indexOf data = -1 then .stopRequest data else .updateAverage (indexOf data) data

/-- The body of a consumer's loop. -/
def Consumer.body (indexOf : Data → Int) : Consumer → Data → BodyRun Data
  | .datamgr => datamgrBody indexOf
  | .storagemgr => storagemgrBody

theorem Consumer.reading_body (indexOf : Data → Int) (consumer : Consumer) (data : Data) :
    (consumer.body indexOf data).reading = data := by
  cases consumer with
  | datamgr =>
    show (datamgrBody indexOf data).reading = data
    unfold datamgrBody
    split <;> rfl
  | storagemgr => rfl

/-- The state of a consumer's loop: its variable, the body executions so far, and whether the
loop still runs. -/
structure Loop (Data : Type) where
  data : Data
  bodies : List (BodyRun Data)
  running : Bool

/-- The readings the body of a loop has acted on. -/
def Loop.processed (loop : Loop Data) : List Data := loop.bodies.map BodyRun.reading

/-- The condition and the body of a consumer's loop, once. -/
def Loop.iterate (body : Data → BodyRun Data) (memory : Memory Data) (buffer : Pointer)
    (loop : Loop Data) : Option (SbufferStatus × Loop Data × Memory Data) := do
  let (status, data, memory) ← sbufferRemove memory buffer loop.data
  if status ≠ .failure then
    some (status, { loop with data, bodies := loop.bodies ++ [body data] }, memory)
  else some (status, { loop with data, running := false }, memory)

/-- The shared buffer, the readings inserted so far, the readings handed out so far in the order
of the removes, and the two loops. -/
structure Gateway (Data : Type) where
  memory : Memory Data
  buffer : Pointer
  accepted : List Data
  removals : List (Consumer × Data)
  loops : Consumer → Loop Data

/-- The gateway when its threads start, whatever `sbuffer_init` has returned; the loop variables are
not initialised. -/
def Gateway.initially (granted : Bool) (uninitialised : Consumer → Data) : Gateway Data where
  memory := (sbufferInit (Memory.empty Data) granted).2.2
  buffer := (sbufferInit (Memory.empty Data) granted).2.1
  accepted := []
  removals := []
  loops consumer := { data := uninitialised consumer, bodies := [], running := true }

/-- The gateway when its threads start with a buffer. -/
def Gateway.start (uninitialised : Consumer → Data) : Gateway Data :=
  Gateway.initially true uninitialised

/-- One atomic step: an insert of the connection manager, or one loop iteration. -/
inductive GatewayEvent (Data : Type) where
  | insert (data : Data) (granted : Bool)
  | iterate (consumer : Consumer)

/-- Answer one event. -/
def Gateway.step (indexOf : Data → Int) (gateway : Gateway Data) :
    GatewayEvent Data → Option (Gateway Data)
  | .insert data granted => do
    let (status, memory) ← sbufferInsert gateway.memory gateway.buffer data granted
    if status = .success then
      some { gateway with memory, accepted := gateway.accepted ++ [data] }
    else some { gateway with memory }
  | .iterate consumer =>
    if (gateway.loops consumer).running then do
      let (status, loop, memory) ←
        (gateway.loops consumer).iterate (consumer.body indexOf) gateway.memory gateway.buffer
      some { gateway with
        memory
        removals :=
          if status = .success then gateway.removals ++ [(consumer, loop.data)]
          else gateway.removals
        loops := Function.update gateway.loops consumer loop }
    else none

/-- The readings `sbuffer_remove` handed to a consumer, in order. -/
def Gateway.obtained (gateway : Gateway Data) (consumer : Consumer) : List Data :=
  (gateway.removals.filter fun entry => entry.1 = consumer).map Prod.snd

/-- The buffer has no node left. -/
def Gateway.Drained (gateway : Gateway Data) : Prop :=
  ∃ self sbuffer, gateway.buffer = some self ∧
    gateway.memory.buffers.read self = some sbuffer ∧ sbuffer.head = none

/-- The schedule on the queue that a list of events amounts to: a failed insert does nothing. -/
def schedule (events : List (GatewayEvent Data)) : List (Fifo.Event Data Consumer) :=
  events.filterMap fun event =>
    match event with
    | .insert data granted => if granted then some (.put data) else none
    | .iterate consumer => some (.take consumer)

/-! ### The gateway simulates a shared queue -/

/-- The gateway agrees with a history of the shared queue. -/
structure Gateway.Simulates (gateway : Gateway Data)
    (history : Fifo.History Data Consumer) : Prop where
  buffer : ∃ self, gateway.buffer = some self ∧
    gateway.memory.Represents self history.waiting
  accepted : gateway.accepted = history.entered
  removals : gateway.removals = history.taken
  running : ∀ consumer, (gateway.loops consumer).running = true
  /-- A body ran for every reading handed out, and once more for every miss. -/
  bodies : ∀ consumer, (gateway.loops consumer).bodies.length =
    (gateway.obtained consumer).length + history.missed.count consumer
  /-- A loop that never missed processed what it was handed. -/
  processed : ∀ consumer, consumer ∉ history.missed →
    (gateway.loops consumer).processed = gateway.obtained consumer

theorem Gateway.start_simulates (uninitialised : Consumer → Data) :
    (Gateway.start uninitialised).Simulates (Fifo.History.start Data Consumer) where
  buffer := ⟨_, rfl, sbufferInit_represents (Memory.empty Data)⟩
  accepted := rfl
  removals := rfl
  running _ := rfl
  bodies _ := rfl
  processed _ _ := rfl

theorem Gateway.obtained_append (gateway : Gateway Data) (consumer other : Consumer)
    (data : Data) :
    { gateway with removals := gateway.removals ++ [(consumer, data)] }.obtained other =
      if consumer = other then gateway.obtained other ++ [data] else gateway.obtained other := by
  unfold Gateway.obtained
  rw [List.filter_append, List.map_append]
  by_cases same : consumer = other
  · simp [same]
  · simp [same]

/-- A successful insert puts its reading into the queue. -/
theorem Gateway.Simulates.insert {gateway : Gateway Data} {history : Fifo.History Data Consumer}
    (simulates : gateway.Simulates history) (indexOf : Data → Int) (data : Data) :
    ∃ next, gateway.step indexOf (.insert data true) = some next ∧
      next.Simulates (history.step (.put data)) := by
  obtain ⟨self, points, represents⟩ := simulates.buffer
  obtain ⟨after, ran, afterRepresents⟩ := sbufferInsert_represents represents data
  refine ⟨{ gateway with memory := after, accepted := gateway.accepted ++ [data] }, ?_, ?_⟩
  · simp only [Gateway.step, points, ran, Option.bind_eq_bind, Option.bind_some, if_true]
  · exact {
      buffer := ⟨self, points, afterRepresents⟩
      accepted := congrArg (· ++ [data]) simulates.accepted
      removals := simulates.removals
      running := simulates.running
      bodies := simulates.bodies
      processed := simulates.processed }

/-- A failed insert changes nothing. -/
theorem Gateway.Simulates.refuse {gateway : Gateway Data} {history : Fifo.History Data Consumer}
    (simulates : gateway.Simulates history) (indexOf : Data → Int) (data : Data) :
    ∃ next, gateway.step indexOf (.insert data false) = some next ∧ next.Simulates history := by
  refine ⟨gateway, ?_, simulates⟩
  simp only [Gateway.step, sbufferInsert_refused, Option.bind_eq_bind, Option.bind_some,
    reduceCtorEq, if_false]

/-- An iteration on an empty buffer runs the body once more, on the old value of the variable. -/
theorem Gateway.Simulates.miss {gateway : Gateway Data} {history : Fifo.History Data Consumer}
    (simulates : gateway.Simulates history) (indexOf : Data → Int) (consumer : Consumer)
    (nothing : Fifo.take history.waiting = none) :
    ∃ next, gateway.step indexOf (.iterate consumer) = some next ∧
      next.Simulates (history.step (.take consumer)) := by
  obtain ⟨self, points, represents⟩ := simulates.buffer
  have removed := sbufferRemove_of_take_none represents nothing (gateway.loops consumer).data
  have stepped : history.step (.take consumer) =
      { history with missed := history.missed ++ [consumer] } := by
    unfold Fifo.History.step
    simp only [nothing]
  set loop : Loop Data := {
    data := (gateway.loops consumer).data
    bodies := (gateway.loops consumer).bodies ++
      [consumer.body indexOf (gateway.loops consumer).data]
    running := true } with loopDef
  refine ⟨{ gateway with loops := Function.update gateway.loops consumer loop }, ?_, ?_⟩
  · simp only [Gateway.step, Loop.iterate, simulates.running, if_true, points, removed,
      Option.bind_eq_bind, Option.bind_some, ne_eq, reduceCtorEq, not_false_eq_true, if_false]
    rfl
  · rw [stepped]
    refine {
      buffer := ⟨self, points, represents⟩
      accepted := simulates.accepted
      removals := simulates.removals
      running := (Function.forall_update_iff gateway.loops fun _ next => next.running = true).mpr
        ⟨rfl, fun other _ => simulates.running other⟩
      bodies := fun other => ?_
      processed := fun other untouched => ?_ }
    · have before := simulates.bodies other
      by_cases same : other = consumer
      · subst same
        simp only [Function.update_self, loopDef, List.length_append, List.length_singleton,
          List.count_append, List.count_singleton_self]
        show (gateway.loops other).bodies.length + 1 = (gateway.obtained other).length + _
        omega
      · simp only [Function.update_of_ne same, List.count_append]
        rw [List.count_singleton, if_neg (by simpa using Ne.symm same)]
        exact before
    · simp only [List.mem_append, List.mem_singleton, not_or] at untouched
      simp only [Function.update_of_ne untouched.2]
      exact simulates.processed other untouched.1

/-- An iteration on a nonempty buffer runs the body on the reading handed out. -/
theorem Gateway.Simulates.obtain {gateway : Gateway Data} {history : Fifo.History Data Consumer}
    (simulates : gateway.Simulates history) (indexOf : Data → Int) (consumer : Consumer)
    {item : Data} {rest : List Data} (taken : Fifo.take history.waiting = some (item, rest)) :
    ∃ next, gateway.step indexOf (.iterate consumer) = some next ∧
      next.Simulates (history.step (.take consumer)) := by
  obtain ⟨self, points, represents⟩ := simulates.buffer
  obtain ⟨after, removed, afterRepresents⟩ :=
    sbufferRemove_of_take_some represents taken (gateway.loops consumer).data
  have stepped : history.step (.take consumer) =
      { history with waiting := rest, taken := history.taken ++ [(consumer, item)] } := by
    unfold Fifo.History.step
    simp only [taken]
  set loop : Loop Data := {
    data := item
    bodies := (gateway.loops consumer).bodies ++ [consumer.body indexOf item]
    running := true } with loopDef
  have obtainedNext (other : Consumer) :
      ({ gateway with
        memory := after
        removals := gateway.removals ++ [(consumer, item)]
        loops := Function.update gateway.loops consumer loop } : Gateway Data).obtained other =
      if consumer = other then gateway.obtained other ++ [item] else gateway.obtained other :=
    gateway.obtained_append consumer other item
  refine ⟨{ gateway with
    memory := after
    removals := gateway.removals ++ [(consumer, item)]
    loops := Function.update gateway.loops consumer loop }, ?_, ?_⟩
  · simp only [Gateway.step, Loop.iterate, simulates.running, if_true, points, removed,
      Option.bind_eq_bind, Option.bind_some, ne_eq, reduceCtorEq, not_false_eq_true]
    rfl
  · rw [stepped]
    refine {
      buffer := ⟨self, points, afterRepresents⟩
      accepted := simulates.accepted
      removals := congrArg (· ++ [(consumer, item)]) simulates.removals
      running := (Function.forall_update_iff gateway.loops fun _ next => next.running = true).mpr
        ⟨rfl, fun other _ => simulates.running other⟩
      bodies := fun other => ?_
      processed := fun other untouched => ?_ }
    · have before := simulates.bodies other
      rw [obtainedNext]
      by_cases same : other = consumer
      · subst same
        simp only [Function.update_self, loopDef, List.length_append, List.length_singleton,
          if_true]
        omega
      · simp only [Function.update_of_ne same, if_neg (Ne.symm same)]
        exact before
    · have before := simulates.processed other untouched
      rw [obtainedNext]
      by_cases same : other = consumer
      · subst same
        rw [if_pos rfl, ← before]
        simp only [Function.update_self, loopDef, Loop.processed, List.map_append, List.map_cons,
          List.map_nil, Consumer.reading_body]
      · simp only [Function.update_of_ne same, if_neg (Ne.symm same)]
        exact before

/-- One event of the gateway is at most one event of the queue. -/
theorem Gateway.Simulates.step {gateway : Gateway Data} {history : Fifo.History Data Consumer}
    (simulates : gateway.Simulates history) (indexOf : Data → Int) (event : GatewayEvent Data) :
    ∃ next, gateway.step indexOf event = some next ∧
      next.Simulates ((schedule [event]).foldl Fifo.History.step history) := by
  cases event with
  | insert data granted =>
    cases granted with
    | false => exact simulates.refuse indexOf data
    | true => exact simulates.insert indexOf data
  | iterate consumer =>
    cases taken : Fifo.take history.waiting with
    | none => exact simulates.miss indexOf consumer taken
    | some entry => exact simulates.obtain indexOf consumer taken

/-- Every list of events runs, and its run is the schedule's history on the queue. -/
theorem Gateway.run_simulates (indexOf : Data → Int) {gateway : Gateway Data}
    {history : Fifo.History Data Consumer} (simulates : gateway.Simulates history)
    (events : List (GatewayEvent Data)) :
    ∃ last, Runs.complete (Gateway.step indexOf) gateway events = some last ∧
      last.Simulates ((schedule events).foldl Fifo.History.step history) := by
  induction events generalizing gateway history with
  | nil => exact ⟨gateway, rfl, simulates⟩
  | cons event rest inductionHypothesis =>
    obtain ⟨next, stepped, nextSimulates⟩ := simulates.step indexOf event
    obtain ⟨last, ran, lastSimulates⟩ := inductionHypothesis nextSimulates
    refine ⟨last, ?_, ?_⟩
    · rw [Runs.complete, stepped, Option.bind_some, ran]
    · rw [← List.foldl_append, schedule, schedule, ← List.filterMap_append] at lastSimulates
      exact lastSimulates

/-- The gateway from its start. -/
theorem Gateway.run_start (indexOf : Data → Int) (uninitialised : Consumer → Data)
    (events : List (GatewayEvent Data)) :
    ∃ gateway, Runs.complete (Gateway.step indexOf) (Gateway.start uninitialised) events =
        some gateway ∧ gateway.Simulates (Fifo.History.run (schedule events)) :=
  Gateway.run_simulates indexOf (Gateway.start_simulates uninitialised) events

/-- A drained buffer represents the empty queue. -/
theorem Gateway.Simulates.waiting_of_drained {gateway : Gateway Data}
    {history : Fifo.History Data Consumer} (simulates : gateway.Simulates history)
    (drained : gateway.Drained) : history.waiting = [] := by
  obtain ⟨self, points, contents, ⟨sbuffer, live, chains⟩, readings⟩ := simulates.buffer
  obtain ⟨other, otherSbuffer, otherPoints, otherLive, headNull⟩ := drained
  have sameAddress : other = self := Option.some.inj (otherPoints.symm.trans points)
  subst sameAddress
  have sameBuffer : otherSbuffer = sbuffer := Option.some.inj (otherLive.symm.trans live)
  subst sameBuffer
  rw [← readings, chains.path.start_eq_none_iff.mp headNull, List.map_nil]

/-! ### Who obtains a reading -/

/-- Whenever the buffer has been drained, the removes have handed out every inserted reading
exactly once, in insertion order; each reading went to one of the two consumers, and each
consumer's readings are in insertion order. -/
theorem drained_readings_split (indexOf : Data → Int) (uninitialised : Consumer → Data)
    (events : List (GatewayEvent Data)) :
    ∃ gateway, Runs.complete (Gateway.step indexOf) (Gateway.start uninitialised) events =
        some gateway ∧
      (gateway.Drained →
        gateway.removals.map Prod.snd = gateway.accepted ∧
        (gateway.obtained .datamgr ++ gateway.obtained .storagemgr).Perm gateway.accepted ∧
        ∀ consumer, (gateway.obtained consumer).Sublist gateway.accepted) := by
  obtain ⟨gateway, ran, simulates⟩ := Gateway.run_start indexOf uninitialised events
  refine ⟨gateway, ran, fun drained => ?_⟩
  have conserved := Fifo.History.taken_of_drained (simulates.waiting_of_drained drained)
  have portions (consumer : Consumer) : gateway.obtained consumer =
      (Fifo.History.run (schedule events)).portion consumer := by
    rw [Gateway.obtained, simulates.removals, Fifo.History.portion]
  rw [simulates.accepted, ← conserved, simulates.removals]
  refine ⟨rfl, ?_, fun consumer => ?_⟩
  · rw [portions, portions]
    refine Fifo.History.portions_perm _ (by decide) fun consumer => ?_
    cases consumer with
    | datamgr => exact Or.inl rfl
    | storagemgr => exact Or.inr rfl
  · rw [portions]
    exact Fifo.History.portion_sublist _ consumer

/-- The storage manager takes the only reading, and the data manager never sees it. -/
theorem drained_readings_lost :
    ¬ ∀ (indexOf : Nat → Int) (uninitialised : Consumer → Nat) (events : List (GatewayEvent Nat))
      (gateway : Gateway Nat),
      Runs.complete (Gateway.step indexOf) (Gateway.start uninitialised) events = some gateway →
      gateway.Drained →
      gateway.obtained .datamgr = gateway.accepted ∧
        gateway.obtained .storagemgr = gateway.accepted := by
  intro holds
  have both := holds (fun _ => 0) (fun _ => 0) [.insert 1 true, .iterate .storagemgr] _ rfl
    ⟨0, ⟨none, none⟩, rfl, rfl, rfl⟩
  exact absurd both.1 (by decide)

/-! ### How often a loop body runs -/

/-- The body of a loop runs once for each reading handed to the loop, on that reading, exactly
when a reading waits at every iteration of the loop. -/
theorem processed_eq_obtained_iff (indexOf : Data → Int) (uninitialised : Consumer → Data)
    (events : List (GatewayEvent Data)) (consumer : Consumer) :
    ∃ gateway, Runs.complete (Gateway.step indexOf) (Gateway.start uninitialised) events =
        some gateway ∧
      ((gateway.loops consumer).processed = gateway.obtained consumer ↔
        Fifo.Supplied (schedule events) consumer) := by
  obtain ⟨gateway, ran, simulates⟩ := Gateway.run_start indexOf uninitialised events
  refine ⟨gateway, ran, ?_⟩
  rw [← Fifo.History.not_missed_iff]
  refine ⟨fun same missed => ?_, simulates.processed consumer⟩
  have lengths := congrArg List.length same
  rw [Loop.processed, List.length_map, simulates.bodies consumer] at lengths
  have positive := List.count_pos_iff.mpr missed
  omega

/-- The storage manager starts before the first insert and stores an uninitialised reading. -/
theorem processed_uninitialised :
    ¬ ∀ (indexOf : Nat → Int) (uninitialised : Consumer → Nat) (events : List (GatewayEvent Nat))
      (consumer : Consumer) (gateway : Gateway Nat),
      Runs.complete (Gateway.step indexOf) (Gateway.start uninitialised) events = some gateway →
      (gateway.loops consumer).processed = gateway.obtained consumer := by
  intro holds
  have none := holds (fun _ => 0) (fun _ => 7) [.iterate .storagemgr] .storagemgr _ rfl
  exact absurd none (by decide)

end SensorGateway
