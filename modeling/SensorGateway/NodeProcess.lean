/-
This file models the program of a sensor node: it opens a connection to the gateway and
then sends a reading in three calls of `tcp_send`, one for each field, logs it and sleeps,
LOOPS times or without end.

`tcp_send` makes a single call of `sendto`, and succeeds when that takes at least one
byte. A node therefore does not notice a field that is cut short. It logs the reading, and
when it has logged LOOPS of them it closes the connection and reports success; the bytes
it has sent are those of the readings it has logged exactly when every `sendto` took its
whole field.

The next temperature is a function of the last one and a random draw. The log is the list
of the readings that have been written to it; `sleep` and the help text are left out. The
address of the server is cut at the length of the string it is copied into. LOOPS is 0
when it is not defined.
-/

import SensorGateway.Connmgr
import SensorGateway.Library.Runs
import SensorGateway.Library.Text
import SensorGateway.Reception
import SensorGateway.SocketRuns

namespace SensorGateway

variable {layout : Layout} {Draw : Type}

/-! ### Sending -/

/-- The bytes of a buffer that a call of `sendto` takes. -/
def Sendto.taken (bytes : List UInt8) : Sendto → List UInt8
  | .sent count => bytes.take count
  | .failed _ => []

/-- How a program ends. -/
inductive ExitStatus where
  | success
  | failure
  deriving DecidableEq, Repr

/-- The variables of a sensor node, what `sendto` has taken so far, the readings in its log, and
how it has ended, if it has. -/
structure NodeProcess (layout : Layout) where
  host : Host
  client : Pointer
  data : SensorData layout
  i : Nat
  wire : List UInt8
  logged : List (SensorData layout)
  exited : Option ExitStatus

/-- Send one field: `if (tcp_send(..) != TCP_NO_ERROR) exit(EXIT_FAILURE)`. -/
def NodeProcess.send {size : Nat} (node : NodeProcess layout) (field : Field size)
    (result : Sendto) : Option (NodeProcess layout) := do
  let (status, _) ← tcpSendAt node.host node.client size result
  let wire :=
    if status = .socketError then node.wire else node.wire ++ result.taken field.bytes
  some { node with wire, exited := if status = .noError then none else some .failure }

/-- What the calls of an iteration return. -/
structure NodeInput (Draw : Type) (layout : Layout) where
  draw : Draw
  ts : Field layout.sizeofTs
  sentId : Sendto
  sentValue : Sendto
  sentTs : Sendto

/-- The reading of an iteration, from the one before. -/
def NodeInput.sample (next : Field layout.sizeofValue → Draw → Field layout.sizeofValue)
    (data : SensorData layout) (input : NodeInput Draw layout) : SensorData layout :=
  { data with value := next data.value input.draw, ts := input.ts }

/-- An event of a sensor node: an iteration of the loop, or what follows the loop. -/
inductive NodeEvent (Draw : Type) (layout : Layout) where
  | loop (input : NodeInput Draw layout)
  | close (shutdown : Bool)

/-- An iteration of the loop. -/
def NodeProcess.loop (next : Field layout.sizeofValue → Draw → Field layout.sizeofValue)
    (loops : Nat) (node : NodeProcess layout) (input : NodeInput Draw layout) :
    Option (NodeProcess layout) :=
  if node.exited ≠ none ∨ node.i = 0 then none
  else do
    let data := input.sample next node.data
    let node ← NodeProcess.send { node with data } data.id input.sentId
    if node.exited ≠ none then some node
    else do
      let node ← node.send data.value input.sentValue
      if node.exited ≠ none then some node
      else do
        let node ← node.send data.ts input.sentTs
        if node.exited ≠ none then some node
        else
          some { node with
            logged := node.logged ++ [data]
            i := if 1 < loops then node.i - 1 else node.i }

/-- Close the connection after the loop, and exit. -/
def NodeProcess.close (node : NodeProcess layout) (shutdown : Bool) :
    Option (NodeProcess layout) :=
  if node.exited ≠ none ∨ node.i ≠ 0 then none
  else do
    let outcome ← tcpClose node.host node.client shutdown
    some { node with
      host := outcome.host
      client := outcome.assigned.getD node.client
      exited := some (if outcome.status = .noError then .success else .failure) }

/-- Answer an event. A node that has exited answers none. -/
def NodeProcess.step (next : Field layout.sizeofValue → Draw → Field layout.sizeofValue)
    (loops : Nat) (node : NodeProcess layout) :
    NodeEvent Draw layout → Option (NodeProcess layout)
  | .loop input => node.loop next loops input
  | .close shutdown => node.close shutdown

/-- The length of `server_ip`, "000.000.000.000". -/
def serverIpLength : Nat := 15

/-- The beginning of `main`, up to the loop: the log, the arguments, the connection. -/
def nodeMain (kernel : Kernel) (loops : Nat) (host : Host) (fopen : Bool)
    (uninitialised : SensorData layout) (initialTemperature : Field layout.sizeofValue)
    (argv : List (List Char)) (opening : ActiveInput) : Option (NodeProcess layout) :=
  let node : NodeProcess layout :=
    { host, client := none, data := uninitialised, i := 0, wire := [], logged := []
      exited := none }
  if ¬ fopen then some { node with exited := some .failure }
  else
    match argv with
    | [_, id, _, ip, port] => do
      let data := { uninitialised with id := Field.ofWord (BitVec.ofInt 16 (Text.atoi id)) }
      let outcome ← tcpActiveOpen kernel host (Text.atoi port) (some (ip.take serverIpLength))
        opening
      let client := outcome.assigned.getD none
      if outcome.status ≠ .noError then
        some { node with host := outcome.host, client, data, exited := some .failure }
      else
        some { node with
          host := outcome.host
          client
          data := { data with value := initialTemperature }
          i := if 1 < loops then loops else 1 }
    | _ => some { node with exited := some .success }

/-! ### One iteration -/

section Iteration

variable {node after : NodeProcess layout} {input : NodeInput Draw layout}
  {next : Field layout.sizeofValue → Draw → Field layout.sizeofValue} {loops : Nat}

/-- The socket of the node is bound, and owns its descriptor and its address string. -/
def NodeProcess.Connected (node : NodeProcess layout) : Prop :=
  ∃ s cell, node.client = some s ∧ node.host.sockets.read s = some cell ∧
    cell.cookie = magicCookie ∧ 0 ≤ cell.sd ∧
    ∀ ip, cell.ipAddr = some ip → ∃ text, node.host.addresses.read ip = some text

/-- The call of `sendto` takes something. -/
def Sendto.Takes (size : Nat) (result : Sendto) : Prop := 0 < result.count size

instance (size : Nat) (result : Sendto) : Decidable (result.Takes size) :=
  inferInstanceAs (Decidable (0 < _))

/-- The call of `sendto` takes the whole field. -/
def Sendto.Whole (size : Nat) (result : Sendto) : Prop := result.count size = size

instance (size : Nat) (result : Sendto) : Decidable (result.Whole size) :=
  inferInstanceAs (Decidable (_ = (_ : Int)))

theorem Sendto.length_taken_le {size : Nat} (result : Sendto) (field : Field size) :
    (result.taken field.bytes).length ≤ size := by
  cases result with
  | sent count => exact (List.length_take_le' _ _).trans (Nat.le_of_eq field.sized)
  | failed notConnected => exact Nat.zero_le size

/-- A call takes the whole field exactly when it takes all its bytes. -/
theorem Sendto.whole_iff {size : Nat} (positive : 0 < size) (result : Sendto)
    (field : Field size) : result.Whole size ↔ (result.taken field.bytes).length = size := by
  unfold Sendto.Whole
  cases result with
  | sent count =>
    rw [Sendto.count, Sendto.taken, List.length_take, field.sized]
    omega
  | failed notConnected =>
    rw [Sendto.count, Sendto.taken, List.length_nil]
    omega

theorem Sendto.taken_of_whole {size : Nat} {result : Sendto} (positive : 0 < size)
    (field : Field size) (whole : result.Whole size) :
    result.taken field.bytes = field.bytes := by
  have length := (result.whole_iff positive field).mp whole
  cases result with
  | sent count =>
    rw [Sendto.taken] at length ⊢
    refine List.take_of_length_le ?_
    rw [List.length_take] at length
    have sized := field.sized
    omega
  | failed notConnected => exact absurd length (Nat.ne_of_lt positive)

/-- A send on a bound socket succeeds exactly when something is taken. -/
theorem tcpSend_eq_noError_iff {socket : Tcpsock} (bound : socket.cookie = magicCookie)
    (size : Nat) (result : Sendto) :
    (tcpSend socket size result).1 = .noError ↔ result.Takes size := by
  unfold tcpSend Sendto.Takes
  rw [if_neg (not_not.mpr bound)]
  split_ifs with closed lost failed
  · exact iff_of_false (by decide) (by omega)
  · exact iff_of_false (by decide) (by omega)
  · exact iff_of_false (by decide) (by omega)
  · exact iff_of_true rfl (by omega)

/-- A send on a bound socket: the bytes that were taken are on the wire, and the node goes on if
there are any. -/
theorem send_eq {size : Nat} (connected : node.Connected) (field : Field size)
    (result : Sendto) :
    node.send field result = some { node with
      wire := node.wire ++ result.taken field.bytes
      exited := if result.Takes size then none else some .failure } := by
  obtain ⟨s, cell, client, live, cookie, -⟩ := connected
  have bound : cell.value.cookie = magicCookie := cookie
  have asked : tcpSendAt node.host node.client size result =
      some (tcpSend cell.value size result) := by
    unfold tcpSendAt Host.ask
    rw [client]
    dsimp only
    rw [live, Option.bind_eq_bind, Option.bind_some, if_neg (not_not.mpr cookie)]
  unfold NodeProcess.send
  rw [asked, Option.bind_eq_bind, Option.bind_some]
  dsimp only
  rw [if_neg (tcpSend_ne_socketError bound size result)]
  simp only [tcpSend_eq_noError_iff bound]

/-- The bytes of an iteration that are taken: a field is sent only if something of the one before
it was taken. -/
def NodeInput.bytes (input : NodeInput Draw layout) (data : SensorData layout) : List UInt8 :=
  input.sentId.taken data.id.bytes ++
    if input.sentId.Takes 2 then
      input.sentValue.taken data.value.bytes ++
        if input.sentValue.Takes layout.sizeofValue then input.sentTs.taken data.ts.bytes else []
    else []

/-- All three calls of an iteration take something. -/
def NodeInput.Goes (input : NodeInput Draw layout) : Prop :=
  input.sentId.Takes 2 ∧ input.sentValue.Takes layout.sizeofValue ∧
    input.sentTs.Takes layout.sizeofTs

instance (input : NodeInput Draw layout) : Decidable input.Goes :=
  inferInstanceAs (Decidable (_ ∧ _ ∧ _))

/-- All three calls of an iteration take their whole field. -/
def NodeInput.Whole (input : NodeInput Draw layout) : Prop :=
  input.sentId.Whole 2 ∧ input.sentValue.Whole layout.sizeofValue ∧
    input.sentTs.Whole layout.sizeofTs

instance (input : NodeInput Draw layout) : Decidable input.Whole :=
  inferInstanceAs (Decidable (_ ∧ _ ∧ _))

/-- The node after an iteration has sampled a reading and sent what was taken of it. -/
def NodeProcess.sent (next : Field layout.sizeofValue → Draw → Field layout.sizeofValue)
    (node : NodeProcess layout) (input : NodeInput Draw layout) : NodeProcess layout :=
  { node with
    data := input.sample next node.data
    wire := node.wire ++ input.bytes (input.sample next node.data) }

/-- The node after an iteration that has sent something of each field. -/
def NodeProcess.wentOn (next : Field layout.sizeofValue → Draw → Field layout.sizeofValue)
    (loops : Nat) (node : NodeProcess layout) (input : NodeInput Draw layout) :
    NodeProcess layout :=
  { node.sent next input with
    logged := node.logged ++ [input.sample next node.data]
    i := if 1 < loops then node.i - 1 else node.i }

/-- The node after an iteration that has not. -/
def NodeProcess.failed (next : Field layout.sizeofValue → Draw → Field layout.sizeofValue)
    (node : NodeProcess layout) (input : NodeInput Draw layout) : NodeProcess layout :=
  { node.sent next input with exited := some .failure }

/-- An iteration goes on exactly when each call takes something, and exits otherwise. -/
theorem loop_eq (connected : node.Connected) (running : node.exited = none) (left : node.i ≠ 0)
    (input : NodeInput Draw layout) :
    node.loop next loops input = some
      (if input.Goes then node.wentOn next loops input else node.failed next input) := by
  have sends {size : Nat} (other : NodeProcess layout) (field : Field size) (result : Sendto)
      (client : other.client = node.client) (host : other.host = node.host) :
      other.send field result = some { other with
        wire := other.wire ++ result.taken field.bytes
        exited := if result.Takes size then none else some .failure } := by
    refine send_eq ?_ field result
    unfold NodeProcess.Connected
    rw [client, host]
    exact connected
  have entered : ¬ (node.exited ≠ none ∨ node.i = 0) := by simp [running, left]
  unfold NodeProcess.loop
  rw [if_neg entered]
  by_cases id : input.sentId.Takes 2
  case neg =>
    rw [if_neg fun goes : input.Goes => id goes.1]
    simp [id, sends, NodeProcess.failed, NodeProcess.sent, NodeInput.bytes]
  by_cases value : input.sentValue.Takes layout.sizeofValue
  case neg =>
    rw [if_neg fun goes : input.Goes => value goes.2.1]
    simp [id, value, sends, NodeProcess.failed, NodeProcess.sent, NodeInput.bytes]
  by_cases ts : input.sentTs.Takes layout.sizeofTs
  case neg =>
    rw [if_neg fun goes : input.Goes => ts goes.2.2]
    simp [id, value, ts, sends, NodeProcess.failed, NodeProcess.sent, NodeInput.bytes]
  have goes : input.Goes := ⟨id, value, ts⟩
  rw [if_pos goes]
  simp [id, value, ts, sends, running, NodeProcess.wentOn, NodeProcess.sent, NodeInput.bytes]

/-- Closing always succeeds. -/
theorem exists_close (connected : node.Connected) (running : node.exited = none)
    (done : node.i = 0) (shutdown : Bool) :
    ∃ host, node.close shutdown = some { node with
      host, client := none, exited := some .success } := by
  obtain ⟨s, cell, client, live, bound, nonneg, owned⟩ := connected
  obtain ⟨host, closes, -⟩ := tcpClose_of_live live bound nonneg owned shutdown
  refine ⟨host, ?_⟩
  unfold NodeProcess.close
  rw [if_neg (by simp [running, done]), client, closes]
  rfl

end Iteration

/-! ### Runs -/

/-- The input of an iteration. -/
def NodeEvent.input : NodeEvent Draw layout → Option (NodeInput Draw layout)
  | .loop input => some input
  | .close _ => none

/-- The inputs of the iterations of a run. -/
def iterations (events : List (NodeEvent Draw layout)) : List (NodeInput Draw layout) :=
  events.filterMap NodeEvent.input

section Runs

variable (next : Field layout.sizeofValue → Draw → Field layout.sizeofValue)

/-- The readings of iterations in a row, from the one before. -/
def samples : SensorData layout → List (NodeInput Draw layout) → List (SensorData layout)
  | _, [] => []
  | data, input :: rest => input.sample next data :: samples (input.sample next data) rest

/-- The bytes of iterations in a row that are taken. -/
def takenBytes : SensorData layout → List (NodeInput Draw layout) → List UInt8
  | _, [] => []
  | data, input :: rest =>
    input.bytes (input.sample next data) ++ takenBytes (input.sample next data) rest

/-- A node that is in its loop: the number of iterations left, or no end. -/
structure NodeProcess.Looping (loops : Nat) (node : NodeProcess layout) : Prop where
  connected : node.Connected
  running : node.exited = none
  counts : if 1 < loops then node.logged.length + node.i = loops else node.i = 1

/-- What a run of a node does: iterations that go on, and at most one that does not. -/
structure NodeRan (loops : Nat) (node last : NodeProcess layout)
    (went stopped : List (NodeInput Draw layout)) : Prop where
  goes : ∀ input ∈ went, input.Goes
  stops : ∀ input ∈ stopped, ¬ input.Goes
  single : stopped.length ≤ 1
  failure : last.exited = some .failure ↔ stopped ≠ []
  success : last.exited = some .success → 1 < loops ∧ last.logged.length = loops
  running : last.exited = none → last.Looping loops
  wire : last.wire = node.wire ++ takenBytes next node.data (went ++ stopped)
  logged : last.logged = node.logged ++ samples next node.data went

variable {next} {loops : Nat} {node last after : NodeProcess layout}

theorem NodeProcess.Looping.wentOn (looping : node.Looping loops) (left : node.i ≠ 0)
    (input : NodeInput Draw layout) : (node.wentOn next loops input).Looping loops where
  connected := looping.connected
  running := looping.running
  counts := by
    have counts := looping.counts
    unfold NodeProcess.wentOn
    dsimp only
    split_ifs at counts ⊢ with bounded
    · rw [List.length_append, List.length_singleton]
      omega
    · exact counts

theorem complete_of_exited {events : List (NodeEvent Draw layout)} (exited : node.exited ≠ none)
    (ran : Runs.complete (NodeProcess.step next loops) node events = some last) :
    events = [] ∧ last = node := by
  cases events with
  | nil => exact ⟨rfl, (Option.some.inj ran).symm⟩
  | cons event rest =>
    obtain ⟨after, taken, -⟩ := Option.bind_eq_some_iff.mp ran
    cases event with
    | loop input =>
      rw [NodeProcess.step, NodeProcess.loop, if_pos (Or.inl exited)] at taken
      cases taken
    | close shutdown =>
      rw [NodeProcess.step, NodeProcess.close, if_pos (Or.inl exited)] at taken
      cases taken

/-- Every run is a run of iterations that go on, and ends there, or with one that does not, or with
closing the connection. -/
theorem nodeRan_of_complete {events : List (NodeEvent Draw layout)} (looping : node.Looping loops)
    (ran : Runs.complete (NodeProcess.step next loops) node events = some last) :
    ∃ went stopped, iterations events = went ++ stopped ∧
      NodeRan next loops node last went stopped := by
  induction events generalizing node with
  | nil =>
    obtain rfl := Option.some.inj ran
    have running := looping.running
    exact ⟨[], [], rfl, {
      goes := by simp
      stops := by simp
      single := Nat.zero_le 1
      failure := by simp [running]
      success := by simp [running]
      running := fun _ => looping
      wire := (List.append_nil _).symm
      logged := (List.append_nil _).symm }⟩
  | cons event rest inductionHypothesis =>
    obtain ⟨after, taken, ranRest⟩ := Option.bind_eq_some_iff.mp ran
    cases event with
    | loop input =>
      by_cases left : node.i = 0
      · rw [NodeProcess.step, NodeProcess.loop, if_pos (Or.inr left)] at taken
        cases taken
      rw [NodeProcess.step, loop_eq looping.connected looping.running left] at taken
      obtain rfl := Option.some.inj taken
      by_cases goes : input.Goes
      · rw [if_pos goes] at ranRest
        obtain ⟨went, stopped, split, ranOn⟩ :=
          inductionHypothesis (looping.wentOn left input) ranRest
        refine ⟨input :: went, stopped, ?_, ?_⟩
        · show input :: iterations rest = input :: went ++ stopped
          rw [split, List.cons_append]
        · exact {
            goes := List.forall_mem_cons.mpr ⟨goes, ranOn.goes⟩
            stops := ranOn.stops
            single := ranOn.single
            failure := ranOn.failure
            success := ranOn.success
            running := ranOn.running
            wire := ranOn.wire.trans (List.append_assoc _ _ _)
            logged := ranOn.logged.trans (List.append_assoc _ _ _) }
      · rw [if_neg goes] at ranRest
        obtain ⟨rfl, rfl⟩ := complete_of_exited (Option.some_ne_none _) ranRest
        exact ⟨[], [input], rfl, {
          goes := by simp
          stops := List.forall_mem_singleton.mpr goes
          single := Nat.le_refl 1
          failure := iff_of_true rfl (List.cons_ne_nil _ _)
          success := fun other => by cases other
          running := fun other => by cases other
          wire := by
            show node.wire ++ input.bytes _ = node.wire ++ (input.bytes _ ++ [])
            rw [List.append_nil]
          logged := (List.append_nil _).symm }⟩
    | close shutdown =>
      by_cases done : node.i = 0
      · obtain ⟨host, closes⟩ := exists_close looping.connected looping.running done shutdown
        rw [NodeProcess.step, closes] at taken
        obtain rfl := Option.some.inj taken
        obtain ⟨rfl, rfl⟩ := complete_of_exited (Option.some_ne_none _) ranRest
        have counts := looping.counts
        exact ⟨[], [], rfl, {
          goes := by simp
          stops := by simp
          single := Nat.zero_le 1
          failure := by simp
          success := fun _ => by
            show 1 < loops ∧ node.logged.length = loops
            split_ifs at counts with bounded
            · exact ⟨bounded, by omega⟩
            · omega
          running := fun other => by cases other
          wire := (List.append_nil _).symm
          logged := (List.append_nil _).symm }⟩
      · rw [NodeProcess.step, NodeProcess.close, if_pos (Or.inr done)] at taken
        cases taken

/-! ### What is on the wire -/

theorem Sendto.takes_of_whole {size : Nat} {result : Sendto} (positive : 0 < size)
    (whole : result.Whole size) : result.Takes size := by
  unfold Sendto.Takes
  rw [whole]
  exact Int.natCast_pos.mpr positive

/-- Of a reading whose fields are taken whole, all bytes are taken. -/
theorem NodeInput.bytes_of_whole {input : NodeInput Draw layout} (whole : input.Whole)
    (data : SensorData layout) : input.bytes data = data.sent := by
  obtain ⟨id, value, ts⟩ := whole
  unfold NodeInput.bytes SensorData.sent
  rw [if_pos (Sendto.takes_of_whole (by decide) id),
    if_pos (Sendto.takes_of_whole layout.valuePositive value),
    Sendto.taken_of_whole (by decide) data.id id,
    Sendto.taken_of_whole layout.valuePositive data.value value,
    Sendto.taken_of_whole layout.tsPositive data.ts ts]

/-- Of any other reading, some bytes are not taken. -/
theorem NodeInput.length_bytes_lt {input : NodeInput Draw layout} (short : ¬ input.Whole)
    (data : SensorData layout) : (input.bytes data).length < data.sent.length := by
  have id := input.sentId.length_taken_le data.id
  have value := input.sentValue.length_taken_le data.value
  have ts := input.sentTs.length_taken_le data.ts
  have positive := layout.valuePositive
  have positiveTs := layout.tsPositive
  unfold NodeInput.Whole at short
  rw [Sendto.whole_iff (by decide) _ data.id, Sendto.whole_iff positive _ data.value,
    Sendto.whole_iff positiveTs _ data.ts] at short
  rw [length_sent]
  unfold NodeInput.bytes
  split_ifs
  · rw [List.length_append, List.length_append]
    omega
  · rw [List.length_append, List.append_nil]
    omega
  · rw [List.append_nil]
    omega

theorem NodeInput.length_bytes_le (input : NodeInput Draw layout) (data : SensorData layout) :
    (input.bytes data).length ≤ data.sent.length := by
  by_cases whole : input.Whole
  · rw [input.bytes_of_whole whole]
  · exact Nat.le_of_lt (input.length_bytes_lt whole data)

variable (next) in
theorem length_takenBytes_le (data : SensorData layout) (inputs : List (NodeInput Draw layout)) :
    (takenBytes next data inputs).length ≤ (sentStream (samples next data inputs)).length := by
  induction inputs generalizing data with
  | nil => exact Nat.le_refl 0
  | cons input rest inductionHypothesis =>
    rw [takenBytes, samples, sentStream_cons, List.length_append, List.length_append]
    exact Nat.add_le_add (input.length_bytes_le _) (inductionHypothesis _)

/-- The bytes that were taken are those of the readings exactly when every field was taken whole. -/
theorem takenBytes_eq_iff (data : SensorData layout) (inputs : List (NodeInput Draw layout)) :
    takenBytes next data inputs = sentStream (samples next data inputs) ↔
      ∀ input ∈ inputs, input.Whole := by
  induction inputs generalizing data with
  | nil => exact iff_of_true rfl (by simp)
  | cons input rest inductionHypothesis =>
    rw [takenBytes, samples, sentStream_cons, List.forall_mem_cons, ← inductionHypothesis]
    constructor
    · intro same
      have whole : input.Whole := by
        by_contra short
        have length := congrArg List.length same
        rw [List.length_append, List.length_append] at length
        have less := input.length_bytes_lt short (input.sample next data)
        have rest := length_takenBytes_le next (input.sample next data) rest
        omega
      rw [input.bytes_of_whole whole] at same
      exact ⟨whole, List.append_cancel_left same⟩
    · rintro ⟨whole, same⟩
      rw [input.bytes_of_whole whole, same]

variable (next) in
theorem takenBytes_append (data : SensorData layout)
    (first second : List (NodeInput Draw layout)) :
    ∃ later, takenBytes next data (first ++ second) =
      takenBytes next data first ++ takenBytes next later second := by
  induction first generalizing data with
  | nil => exact ⟨data, rfl⟩
  | cons input rest inductionHypothesis =>
    obtain ⟨later, same⟩ := inductionHypothesis (input.sample next data)
    refine ⟨later, ?_⟩
    rw [List.cons_append, takenBytes, takenBytes, same, List.append_assoc]

/-! ### The whole program -/

/-- An open that succeeds has bound a socket that owns its descriptor and its address string. -/
theorem Opens.bound {kernel : Kernel} {before : Host} {obtains completes : Prop}
    {outcome : SocketOutcome} (opens : Opens kernel before obtains completes outcome)
    (succeeded : outcome.status = .noError) :
    ∃ s cell, outcome.assigned = some (some s) ∧ outcome.host.sockets.read s = some cell ∧
      cell.cookie = magicCookie ∧ 0 ≤ cell.sd ∧
      ∀ ip, cell.ipAddr = some ip → ∃ text, outcome.host.addresses.read ip = some text := by
  cases opens with
  | refused nothing failed kept same descriptors =>
    rw [succeeded] at failed
    exact absurd failed (by decide)
  | lost obtained stopped failed kept same descriptors =>
    rw [succeeded] at failed
    exact absurd failed (by decide)
  | opened obtained completed status s cell assigned fresh sockets bound sd descriptors address =>
    refine ⟨s, cell, assigned, ?_, bound, ?_, fun ip given => ?_⟩
    · rw [sockets, Function.update_self]
    · rw [sd]
      exact kernel.nonneg before.descriptors
    · rcases address with ⟨none, -⟩ | ⟨text, copied, addresses⟩
      · rw [none] at given
        cases given
      · obtain rfl := Option.some.inj (copied.symm.trans given)
        exact ⟨text, by rw [addresses, Heap.read_malloc_self]⟩

/-- A `main` that reaches its loop was called with four arguments, has connected to the gateway, and
has sent nothing yet. -/
theorem nodeMain_looping {kernel : Kernel} {host : Host} {fopen : Bool}
    {uninitialised : SensorData layout} {initialTemperature : Field layout.sizeofValue}
    {argv : List (List Char)} {opening : ActiveInput}
    (started : nodeMain kernel loops host fopen uninitialised initialTemperature argv opening =
      some node) (running : node.exited = none) :
    node.Looping loops ∧ node.wire = [] ∧ node.logged = [] ∧
      ∃ name id sleepTime ip port, argv = [name, id, sleepTime, ip, port] ∧
        node.data.id = Field.ofWord (BitVec.ofInt 16 (Text.atoi id)) := by
  unfold nodeMain at started
  by_cases opened : fopen
  case neg =>
    rw [if_pos opened] at started
    rw [← Option.some.inj started] at running
    cases running
  rw [if_neg (not_not.mpr opened)] at started
  split at started
  case h_1 name id sleepTime ip port =>
    obtain ⟨outcome, ran, opens⟩ := tcpActiveOpen_opens kernel host (Text.atoi port)
      (some (ip.take serverIpLength)) opening
    rw [ran, Option.bind_eq_bind, Option.bind_some] at started
    dsimp only at started
    by_cases failed : outcome.status ≠ .noError
    case pos =>
      rw [if_pos failed] at started
      rw [← Option.some.inj started] at running
      cases running
    rw [if_neg failed] at started
    obtain rfl := Option.some.inj started
    refine ⟨⟨?_, rfl, ?_⟩, rfl, rfl, name, id, sleepTime, ip, port, rfl, rfl⟩
    · obtain ⟨s, cell, assigned, socket⟩ := opens.bound (not_not.mp failed)
      exact ⟨s, cell, by rw [assigned]; rfl, socket⟩
    · dsimp only
      split_ifs with bounded
      · exact Nat.zero_add loops
      · rfl
  case h_2 =>
    rw [← Option.some.inj started] at running
    cases running

/-- What a node has done in a run: when it has ended and how, what it has logged, and what is on the
wire. -/
structure NodeAccount (next : Field layout.sizeofValue → Draw → Field layout.sizeofValue)
    (loops : Nat) (node last : NodeProcess layout) (inputs : List (NodeInput Draw layout)) :
    Prop where
  failure : last.exited = some .failure ↔ ∃ input ∈ inputs, ¬ input.Goes
  success : last.exited = some .success → 1 < loops ∧ last.logged.length = loops
  progress : last.exited = none →
    (last.i ≠ 0 → ∀ input : NodeInput Draw layout, (last.loop next loops input).isSome) ∧
      (last.i = 0 → ∀ shutdown, (last.close shutdown).isSome)
  logged : last.logged = samples next node.data (inputs.takeWhile fun input => input.Goes)
  wire : last.exited ≠ some .failure →
    (last.wire = sentStream last.logged ↔ ∀ input ∈ inputs, input.Whole)

theorem NodeRan.takeWhile {went stopped : List (NodeInput Draw layout)}
    (ran : NodeRan next loops node last went stopped) :
    (went ++ stopped).takeWhile (fun input => input.Goes) = went := by
  rw [List.takeWhile_append_of_pos fun input member => decide_eq_true (ran.goes input member)]
  cases stopped with
  | nil => rw [List.takeWhile_nil, List.append_nil]
  | cons bad rest =>
    have stops : decide bad.Goes = false := decide_eq_false (ran.stops bad List.mem_cons_self)
    rw [List.takeWhile_cons, stops, if_neg Bool.false_ne_true, List.append_nil]

theorem node_accounts {kernel : Kernel} {host : Host} {fopen : Bool}
    {uninitialised : SensorData layout} {initialTemperature : Field layout.sizeofValue}
    {argv : List (List Char)} {opening : ActiveInput} {events : List (NodeEvent Draw layout)}
    (started : nodeMain kernel loops host fopen uninitialised initialTemperature argv opening =
      some node) (running : node.exited = none)
    (ran : Runs.complete (NodeProcess.step next loops) node events = some last) :
    NodeAccount next loops node last (iterations events) := by
  obtain ⟨looping, wire, logged, -⟩ := nodeMain_looping started running
  obtain ⟨went, stopped, split, nodeRan⟩ := nodeRan_of_complete looping ran
  rw [split]
  refine ⟨?_, nodeRan.success, fun still => ⟨fun left input => ?_, fun done shutdown => ?_⟩,
    ?_, fun notFailed => ?_⟩
  · rw [nodeRan.failure]
    constructor
    · intro some
      obtain ⟨bad, rest, rfl⟩ := List.exists_cons_of_ne_nil some
      exact ⟨bad, by simp, nodeRan.stops bad List.mem_cons_self⟩
    · rintro ⟨input, member, stops⟩ none
      rw [none, List.append_nil] at member
      exact stops (nodeRan.goes input member)
  · have looping := nodeRan.running still
    rw [loop_eq looping.connected looping.running left, Option.isSome_some]
  · have looping := nodeRan.running still
    obtain ⟨host, closes⟩ := exists_close looping.connected looping.running done shutdown
    rw [closes, Option.isSome_some]
  · rw [nodeRan.takeWhile, nodeRan.logged, logged, List.nil_append]
  · have none : stopped = [] := not_not.mp (mt nodeRan.failure.mpr notFailed)
    have wireRan := nodeRan.wire
    rw [none, List.append_nil] at wireRan ⊢
    rw [wireRan, nodeRan.logged, wire, logged, List.nil_append, List.nil_append]
    exact takenBytes_eq_iff node.data went

end Runs

/-! ### A run -/

/-- A reading is sampled and sent whole; the draw is the next value. -/
def sentWhole : NodeInput (Field 8) gatewayConfig.layout where
  draw := .constant 8 1
  ts := .constant 8 2
  sentId := .sent 2
  sentValue := .sent 8
  sentTs := .sent 8

/-- The connection is lost behind the id. -/
def lostBehindId : NodeInput (Field 8) gatewayConfig.layout :=
  { sentWhole with sentValue := .failed true }

/-- The calls in `tcp_active_open` succeed. -/
def opensActively : ActiveInput where
  malloc := true
  socket := true
  inetAton := true
  connect := true
  getsockname := true
  localAddress := ⟨"127.0.0.1".toList, 40000⟩
  mallocAddress := true

/-- The node of sensor 5 connects to the gateway. -/
def startNode : Option (NodeProcess gatewayConfig.layout) :=
  nodeMain Kernel.lowest 3600 (Host.initially ∅) true zeroData zeroData.value
    ["sensor_node".toList, Text.printUnsigned 5, "1".toList, "127.0.0.1".toList, "5678".toList]
    opensActively

/-- A node sends one reading and loses its connection in the second one. -/
theorem node_accounts_lost :
    ∃ node last, startNode = some node ∧
      Runs.complete (NodeProcess.step (fun _ draw => draw) 3600) node
        [.loop sentWhole, .loop lostBehindId] = some last ∧
      NodeAccount (fun _ draw => draw) 3600 node last [sentWhole, lostBehindId] := by
  obtain ⟨node, last, started, running, ran⟩ :
      ∃ node last, startNode = some node ∧ node.exited = none ∧
        Runs.complete (NodeProcess.step (fun _ draw => draw) 3600) node
          [.loop sentWhole, .loop lostBehindId] = some last := ⟨_, _, rfl, rfl, rfl⟩
  exact ⟨node, last, started, ran, node_accounts started running ran⟩

end SensorGateway
