/-
This file follows the readings of a sensor node from its loop to the shared buffer of the
gateway: through `tcp_send` into the connection, and through the three receives of the
connection manager out of it, in every run of both programs.

When no field is cut short on either side, the gateway inserts the readings that the node
has logged, in order, and with the id from the command line of the node. This holds also
when the node exits in the middle of a reading: what it has sent of this reading never
becomes one.
-/

import SensorGateway.ConnmgrReadings
import SensorGateway.NodeProcess

namespace SensorGateway

open Fragments

variable {config : Config} {layout : Layout} {Draw : Type}

/-! ### The end of the stream -/

/-- A call that fails or finds no connection takes nothing. -/
theorem Sendto.taken_of_not_takes {size : Nat} {result : Sendto} (positive : 0 < size)
    (nothing : ¬ result.Takes size) (bytes : List UInt8) : result.taken bytes = [] := by
  cases result with
  | sent count =>
    have none : count = 0 := by
      rw [Sendto.Takes, Sendto.count] at nothing
      omega
    rw [none]
    rfl
  | failed notConnected => rfl

/-- What a node has sent of a reading that it could not send to its end: at most the first two
fields. -/
theorem NodeInput.length_bytes_le_of_stops {input : NodeInput Draw layout} (stops : ¬ input.Goes)
    (data : SensorData layout) : (input.bytes data).length ≤ 2 + layout.sizeofValue := by
  have id := input.sentId.length_taken_le data.id
  have value := input.sentValue.length_taken_le data.value
  unfold NodeInput.Goes at stops
  unfold NodeInput.bytes
  split_ifs with takesId takesValue
  · have nothing : ¬ input.sentTs.Takes layout.sizeofTs := fun takesTs =>
      stops ⟨takesId, takesValue, takesTs⟩
    rw [Sendto.taken_of_not_takes layout.tsPositive nothing, List.append_nil, List.length_append]
    omega
  · rw [List.append_nil, List.length_append]
    omega
  · rw [List.append_nil]
    omega

/-- When all fields of a stream are received whole that ends in the middle of a reading, the
readings received are those before. -/
theorem readings_of_partial {passages : List (Passage layout)}
    {readings : List (SensorData layout)} {rest : List UInt8} {cut : Fragmentation}
    (short : rest.length ≤ 2 + layout.sizeofValue)
    (whole : cut.Whole (layout.fieldSizes (readings.length + 1)))
    (delivers : Delivers cut (sentStream readings ++ rest) (passages.flatMap Passage.calls)) :
    passages.filterMap Passage.reading = readings.take passages.length ∧
      ((∃ call ∈ passages.flatMap Passage.calls, call.2.chunk call.1 = []) →
        readings.length < passages.length) := by
  induction passages generalizing readings cut with
  | nil => exact ⟨rfl, fun ⟨call, member, nothing⟩ => absurd member List.not_mem_nil⟩
  | cons passage later inductionHypothesis =>
    rw [Layout.fieldSizes, Fragmentation.whole_cons_iff, Fragmentation.whole_cons_iff,
      Fragmentation.whole_cons_iff] at whole
    obtain ⟨wholeId, wholeValue, wholeTs, wholeRest⟩ := whole
    have wholeSecond : layout.sizeofValue ≤ cut.most 1 := wholeValue
    cases readings with
    | nil =>
      refine ⟨?_, fun ended => Nat.succ_pos later.length⟩
      rw [List.flatMap_cons, Passage.calls, delivers_append_iff] at delivers
      obtain ⟨same, delivers⟩ := delivers
      have used : (rest.drop 2).drop layout.sizeofValue = [] := by
        rw [List.drop_drop]
        exact List.drop_of_length_le short
      have stream : sentStream ([] : List (SensorData layout)) ++ rest = rest := rfl
      have nothing : passage.reading = none := by
        rw [Passage.reading, Reception.reading, same, stream]
        refine if_pos ?_
        unfold firstReception
        rw [Nat.min_eq_right wholeId, Nat.min_eq_right wholeSecond, used, List.take_nil]
        exact List.take_nil
      rw [List.filterMap_cons_none nothing, List.take_nil]
      unfold afterReception at delivers
      rw [stream, Nat.min_eq_right wholeId, Nat.min_eq_right wholeSecond, used,
        List.drop_nil] at delivers
      exact readings_at_end delivers
    | cons reading others =>
      obtain ⟨first, after⟩ := firstReception_of_whole reading (sentStream others ++ rest)
        wholeId wholeValue wholeTs
      rw [List.flatMap_cons, Passage.calls, delivers_append_iff, sentStream_cons,
        List.append_assoc] at delivers
      obtain ⟨same, delivers⟩ := delivers
      rw [after] at delivers
      have inserted : passage.reading = some reading := by
        rw [Passage.reading, same, first, reading_whole]
      obtain ⟨prefixed, ended⟩ := inductionHypothesis wholeRest delivers
      rw [List.filterMap_cons_some inserted, prefixed]
      refine ⟨rfl, ?_⟩
      rintro ⟨call, member, nothing⟩
      rw [List.flatMap_cons, Passage.calls, same, first, List.mem_append] at member
      rcases member with now | next
      · exact absurd nothing (chunk_whole_ne_nil reading call now)
      · exact Nat.succ_lt_succ (ended ⟨call, next, nothing⟩)

/-! ### From the node to the gateway -/

/-- In every run, the readings of a stream that ends in the middle of a reading are handed on. -/
theorem transferred_of_partial (listener : Int) (revents : BitVec 16) (pollRet tcpConnRet : Int)
    (uninitialised : SensorData config.layout) {events : List ConnmgrEvent}
    {last : Connmgr config} {fd : Int} {cut : Fragmentation} {rest : List UInt8}
    {readings : List (SensorData config.layout)}
    (ran : Runs.complete Connmgr.step
      (Connmgr.start listener revents pollRet tcpConnRet uninitialised) events = some last)
    (short : rest.length ≤ 2 + config.layout.sizeofValue)
    (whole : cut.Whole (config.layout.fieldSizes (readings.length + 1)))
    (delivers : Delivers cut (sentStream readings ++ rest) (receivesOn fd last.log)) :
    Transferred fd last.log readings := by
  have followed := Runs.invariant_of_complete Connmgr.Followed (fun _ => True)
    (start_followed listener revents pollRet tcpConnRet uninitialised)
    (fun _ _ _ before taken _ => before.step taken) (fun _ _ => trivial) ran
  obtain ⟨passages, received, inserted⟩ := followed.passes fd
  rw [received] at delivers
  obtain ⟨order, ended⟩ := readings_of_partial short whole delivers
  have count : (receivesOn fd last.log).length / 3 = passages.length := by
    rw [received, length_flatMap_calls, Nat.mul_div_cancel_left _ (by decide)]
  refine ⟨?_, fun found => ?_⟩
  · rw [inserted, order, count]
  · rw [received] at found
    rw [inserted, order, List.take_of_length_le (Nat.le_of_lt (ended found))]

/-- Behind the readings that went out whole, the wire holds at most the first two fields of one. -/
theorem NodeRan.exists_rest {next : Field layout.sizeofValue → Draw → Field layout.sizeofValue}
    {loops : Nat} {node last : NodeProcess layout} {went stopped : List (NodeInput Draw layout)}
    (ran : NodeRan next loops node last went stopped) (whole : ∀ input ∈ went, input.Whole) :
    ∃ rest, rest.length ≤ 2 + layout.sizeofValue ∧
      last.wire = node.wire ++ (sentStream (samples next node.data went) ++ rest) := by
  obtain ⟨later, taken⟩ := takenBytes_append next node.data went stopped
  refine ⟨takenBytes next later stopped, ?_, ?_⟩
  · cases stopped with
    | nil => exact Nat.zero_le _
    | cons bad others =>
      obtain rfl : others = [] :=
        List.eq_nil_of_length_eq_zero (Nat.le_zero.mp (Nat.le_of_succ_le_succ ran.single))
      rw [takenBytes, takenBytes, List.append_nil]
      exact NodeInput.length_bytes_le_of_stops (ran.stops bad List.mem_cons_self) _
  · rw [ran.wire, taken, (takenBytes_eq_iff node.data went).mpr whole]

theorem id_of_mem_samples {next : Field layout.sizeofValue → Draw → Field layout.sizeofValue}
    {data reading : SensorData layout} {inputs : List (NodeInput Draw layout)}
    (member : reading ∈ samples next data inputs) : reading.id = data.id := by
  induction inputs generalizing data with
  | nil => cases member
  | cons input rest inductionHypothesis =>
    rcases List.mem_cons.mp member with rfl | later
    · rfl
    · have same : reading.id = (input.sample next data).id := inductionHypothesis later
      exact same

/-- When every call of `sendto` in an iteration that goes on, and every receive, moves its whole
field: whatever else happens in the gateway, and however the node ends, the gateway inserts the
readings that the node has logged, in order, with the id that the node was started with. -/
theorem node_readings_handed_on {kernel : Kernel} {host : Host} {fopen : Bool}
    {uninitialised : SensorData config.layout}
    {initialTemperature : Field config.layout.sizeofValue} {name sleepTime ip port : List Char}
    {id : BitVec 16} {opening : ActiveInput} {node last : NodeProcess config.layout}
    {next : Field config.layout.sizeofValue → Draw → Field config.layout.sizeofValue}
    {loops : Nat} {events : List (NodeEvent Draw config.layout)}
    (started : nodeMain kernel loops host fopen uninitialised initialTemperature
      [name, Text.printUnsigned id, sleepTime, ip, port] opening = some node)
    (running : node.exited = none)
    (ran : Runs.complete (NodeProcess.step next loops) node events = some last)
    (wholeSends : ∀ input ∈ iterations events, input.Goes → input.Whole)
    {listener : Int} {revents : BitVec 16} {pollRet tcpConnRet : Int}
    {data : SensorData config.layout} {gatewayEvents : List ConnmgrEvent}
    {manager : Connmgr config} {fd : Int} {cut : Fragmentation}
    (managed : Runs.complete Connmgr.step
      (Connmgr.start listener revents pollRet tcpConnRet data) gatewayEvents = some manager)
    (wholeReceives : cut.Whole (config.layout.fieldSizes (last.logged.length + 1)))
    (delivers : Delivers cut last.wire (receivesOn fd manager.log)) :
    Transferred fd manager.log last.logged ∧
      ∀ reading ∈ insertedReadings fd manager.log, reading.id.word = id := by
  obtain ⟨looping, wire, logged, _, text, _, _, _, arguments, sensorId⟩ :=
    nodeMain_looping started running
  obtain rfl : Text.printUnsigned id = text := (List.cons.inj (List.cons.inj arguments).2).1
  rw [Text.ofInt_atoi_printUnsigned] at sensorId
  obtain ⟨went, stopped, split, nodeRan⟩ := nodeRan_of_complete looping ran
  have loggedRan := nodeRan.logged
  rw [logged, List.nil_append] at loggedRan
  have whole : ∀ input ∈ went, input.Whole := fun input member =>
    wholeSends input (split ▸ List.mem_append_left stopped member) (nodeRan.goes input member)
  obtain ⟨rest, short, stream⟩ := nodeRan.exists_rest whole
  rw [wire, List.nil_append, ← loggedRan] at stream
  rw [stream] at delivers
  have transferred := transferred_of_partial listener revents pollRet tcpConnRet data managed short
    wholeReceives delivers
  refine ⟨transferred, fun reading member => ?_⟩
  rw [transferred.order, loggedRan] at member
  rw [id_of_mem_samples (List.mem_of_mem_take member), sensorId, Field.word_ofWord]

/-- The gateway receives a reading, and the id of another one before the connection ends. -/
def receivedThenLost : List ConnmgrEvent :=
  receivedInPieces [5, 0] (List.replicate 8 1) (List.replicate 8 2) ++
    [.endScan 0, .poll (.returns [0, pollin]) (accepted 5 0 0), .scan (scanAt 2 [5, 0] [] [])]

/-- A node that loses its connection in its second reading: the first one is handed on. -/
theorem node_readings_handed_on_lost :
    ∃ node last manager, startNode = some node ∧
      Runs.complete (NodeProcess.step (fun _ draw => draw) 3600) node
        [.loop sentWhole, .loop lostBehindId] = some last ∧
      Runs.complete Connmgr.step gatewayStart receivedThenLost = some manager ∧
      last.wire = [5, 0] ++ List.replicate 8 1 ++ List.replicate 8 2 ++ [5, 0] ∧
      Transferred 4 manager.log last.logged ∧
        ∀ reading ∈ insertedReadings 4 manager.log, reading.id.word = 5 := by
  obtain ⟨node, last, manager, started, running, ran, managed, wire, logged, delivers⟩ :
      ∃ (node last : NodeProcess gatewayConfig.layout) (manager : Connmgr gatewayConfig),
        startNode = some node ∧ node.exited = none ∧
        Runs.complete (NodeProcess.step (fun _ draw => draw) 3600) node
          [.loop sentWhole, .loop lostBehindId] = some last ∧
        Runs.complete Connmgr.step gatewayStart receivedThenLost = some manager ∧
        last.wire = [5, 0] ++ List.replicate 8 1 ++ List.replicate 8 2 ++ [5, 0] ∧
        last.logged.length = 1 ∧
        Delivers ⟨fun _ => 8, fun _ => by decide⟩ last.wire (receivesOn 4 manager.log) := by
    refine ⟨_, _, _, rfl, rfl, rfl, rfl, ?_, rfl, ?_⟩
    · decide
    · decide
  refine ⟨node, last, manager, started, ran, managed, wire, ?_⟩
  refine @node_readings_handed_on gatewayConfig (Field 8) Kernel.lowest (Host.initially ∅) true
    _ _ _ _ _ _ 5 opensActively node last _ 3600 _ started running ran ?_ _ _ _ _ _ _ _ _ _
    managed ?_ delivers
  · decide
  · rw [logged]
    simp only [Layout.fieldSizes, Fragmentation.whole_cons_iff, Fragmentation.whole_nil]
    decide

end SensorGateway
