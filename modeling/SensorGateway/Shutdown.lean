/-
This file models the end of the gateway process: the connection manager returns, the two
consumers go on with their loops on the shared buffer, and `main` joins the three threads
in order and then frees the buffer.

A consumer leaves its loop only when `sbuffer_remove` fails. It fails on a buffer that has
been freed, and an empty buffer is not a failure; but the buffer is freed by `main` behind
the joins, and the joins wait for the consumers. So the consumers go on for ever, whatever
was inserted and however the threads are scheduled. Only if there is no buffer from the
start, because `main` ignores that `sbuffer_init` has failed, do they end, each in its
first iteration.

A thread has ended when its loop has; what it does behind the loop ends by itself. `main`
is modelled from the creation of the threads on.
-/

import SensorGateway.Consumers

namespace SensorGateway

variable {Data : Type}

/-! ### The process -/

/-- The gateway process: the buffer with its two consumers, whether the connection manager has
returned, how many threads have been joined, and whether the buffer has been freed. -/
structure Process (Data : Type) where
  gateway : Gateway Data
  connmgrReturned : Bool
  joined : Nat
  freed : Bool

/-- The process when its threads start: `main` ignores what `sbuffer_init` returns. -/
def Process.start (granted : Bool) (uninitialised : Consumer → Data) : Process Data where
  gateway := Gateway.initially granted uninitialised
  connmgrReturned := false
  joined := 0
  freed := false

/-- Whether a thread has ended: 0 is the connection manager, 1 the data manager, 2 the storage
manager. -/
def Process.ended (process : Process Data) : Nat → Bool
  | 0 => process.connmgrReturned
  | 1 => !(process.gateway.loops .datamgr).running
  | 2 => !(process.gateway.loops .storagemgr).running
  | _ => false

/-- One atomic step of the process. -/
inductive ProcessEvent (Data : Type) where
  | insert (data : Data) (granted : Bool)
  | connmgrReturn
  | iterate (consumer : Consumer)
  | join
  | freeBuffer
  deriving DecidableEq

/-- Answer one event: inserts end with the connection manager, a join waits for its thread, and the
buffer is freed behind the third join. -/
def Process.step (indexOf : Data → Int) (process : Process Data) :
    ProcessEvent Data → Option (Process Data)
  | .insert data granted =>
    if process.connmgrReturned then none
    else do
      let gateway ← process.gateway.step indexOf (.insert data granted)
      some { process with gateway }
  | .connmgrReturn =>
    if process.connmgrReturned then none else some { process with connmgrReturned := true }
  | .iterate consumer => do
    let gateway ← process.gateway.step indexOf (.iterate consumer)
    some { process with gateway }
  | .join =>
    if process.joined < 3 ∧ process.ended process.joined then
      some { process with joined := process.joined + 1 }
    else none
  | .freeBuffer =>
    if process.joined = 3 ∧ process.freed = false then do
      let (_, buffer, memory) ← sbufferFree process.gateway.memory (some process.gateway.buffer)
      some { process with
        gateway := { process.gateway with memory, buffer := buffer.getD none }
        freed := true }
    else none

/-- The readings left in the buffer. -/
def Process.left (process : Process Data) : Nat :=
  process.gateway.accepted.length - process.gateway.removals.length

/-- The consumers are in their loops, and `main` waits for one of them at the latest. -/
structure Process.Waiting (process : Process Data) : Prop where
  simulates : ∃ history, process.gateway.Simulates history
  joined : process.joined ≤ 1
  unfreed : process.freed = false

/-- A step of the gateway keeps the consumers in their loops. -/
theorem Process.Waiting.gatewayStep {process : Process Data}
    (waiting : process.Waiting) (indexOf : Data → Int) (event : GatewayEvent Data) :
    ∃ gateway, process.gateway.step indexOf event = some gateway ∧
      Process.Waiting { process with gateway } := by
  obtain ⟨⟨history, simulates⟩, joined, unfreed⟩ := waiting
  obtain ⟨gateway, taken, next⟩ := simulates.step indexOf event
  exact ⟨gateway, taken, ⟨_, next⟩, joined, unfreed⟩

/-- No consumer has ended. -/
theorem Process.Waiting.ended_eq_false {process : Process Data} (waiting : process.Waiting)
    {thread : Nat} (consumer : thread ≠ 0) : process.ended thread = false := by
  obtain ⟨⟨history, simulates⟩, -, -⟩ := waiting
  unfold Process.ended
  split
  · exact absurd rfl consumer
  · rw [simulates.running]
    rfl
  · rw [simulates.running]
    rfl
  · rfl

/-- Every step leaves the consumers in their loops and the buffer in place. -/
theorem Process.Waiting.step {indexOf : Data → Int} {process next : Process Data}
    (waiting : process.Waiting) (event : ProcessEvent Data)
    (taken : process.step indexOf event = some next) : next.Waiting := by
  cases event with
  | insert data granted =>
    obtain ⟨gateway, ran, kept⟩ := waiting.gatewayStep indexOf (.insert data granted)
    simp only [Process.step, ran, Option.bind_eq_bind, Option.bind_some] at taken
    split_ifs at taken
    rwa [← Option.some.inj taken]
  | connmgrReturn =>
    simp only [Process.step] at taken
    split_ifs at taken
    rw [← Option.some.inj taken]
    exact ⟨waiting.simulates, waiting.joined, waiting.unfreed⟩
  | iterate consumer =>
    obtain ⟨gateway, ran, kept⟩ := waiting.gatewayStep indexOf (.iterate consumer)
    simp only [Process.step, ran, Option.bind_eq_bind, Option.bind_some] at taken
    rwa [← Option.some.inj taken]
  | join =>
    simp only [Process.step] at taken
    split_ifs at taken with ends
    -- Only the connection manager can have ended.
    have first : process.joined = 0 := by
      by_contra later
      rw [waiting.ended_eq_false later] at ends
      exact absurd ends.2 Bool.false_ne_true
    rw [← Option.some.inj taken, first]
    exact ⟨waiting.simulates, Nat.le_refl 1, waiting.unfreed⟩
  | freeBuffer =>
    have before := waiting.joined
    simp only [Process.step] at taken
    split_ifs at taken with behind
    omega

theorem Process.Waiting.complete {indexOf : Data → Int} {process last : Process Data}
    (waiting : process.Waiting) {events : List (ProcessEvent Data)}
    (ran : Runs.complete (Process.step indexOf) process events = some last) : last.Waiting :=
  Runs.invariant_of_complete Process.Waiting (fun _ => True) waiting
    (fun _ event _ holds taken _ => holds.step event taken) (fun _ _ => trivial) ran

/-- There is no buffer, nothing has been accepted, and nothing has been freed before the joins. -/
structure Process.Bufferless (process : Process Data) : Prop where
  buffer : process.gateway.buffer = none
  accepted : process.gateway.accepted = []
  joined : process.joined ≤ 3
  freed : process.freed = true → process.joined = 3

section Bufferless

variable {indexOf : Data → Int} {gateway : Gateway Data}

/-- Without a buffer an insert changes nothing. -/
theorem Gateway.insert_null (null : gateway.buffer = none) (data : Data) (granted : Bool) :
    gateway.step indexOf (.insert data granted) = some gateway := by
  obtain ⟨memory, buffer, accepted, removals, loops⟩ := gateway
  obtain rfl : buffer = none := null
  rfl

/-- Without a buffer an iteration ends the loop. -/
theorem Gateway.iterate_null (null : gateway.buffer = none) {consumer : Consumer}
    (running : (gateway.loops consumer).running = true) :
    gateway.step indexOf (.iterate consumer) = some { gateway with
      loops := Function.update gateway.loops consumer
        { gateway.loops consumer with running := false } } := by
  simp only [Gateway.step, Loop.iterate, null, running, sbufferRemove_null, Option.bind_eq_bind,
    Option.bind_some, ne_eq, not_true_eq_false, if_true, if_false, reduceCtorEq]

theorem Gateway.iterate_ended {consumer : Consumer}
    (ended : (gateway.loops consumer).running = false) :
    gateway.step indexOf (.iterate consumer) = none := by
  rw [Gateway.step, ended]
  exact if_neg Bool.false_ne_true

variable {process next : Process Data}

/-- An iteration only ends its loop. -/
theorem Process.Bufferless.iterate (bufferless : process.Bufferless) {consumer : Consumer}
    (running : (process.gateway.loops consumer).running = true) :
    process.step indexOf (.iterate consumer) = some { process with
      gateway := { process.gateway with
        loops := Function.update process.gateway.loops consumer
          { process.gateway.loops consumer with running := false } } } := by
  simp only [Process.step, Gateway.iterate_null bufferless.buffer running, Option.bind_eq_bind,
    Option.bind_some]

/-- Every step leaves the process without a buffer; a loop that has ended stays ended, and an
iteration ends its loop. -/
theorem Process.Bufferless.step (bufferless : process.Bufferless) {event : ProcessEvent Data}
    (taken : process.step indexOf event = some next) :
    next.Bufferless ∧ (∀ consumer, (process.gateway.loops consumer).running = false →
        (next.gateway.loops consumer).running = false) ∧
      ∀ consumer, event = .iterate consumer →
        (process.gateway.loops consumer).running = true ∧
          (next.gateway.loops consumer).running = false := by
  have null := bufferless.buffer
  cases event with
  | insert data granted =>
    simp only [Process.step, Gateway.insert_null null, Option.bind_eq_bind, Option.bind_some]
      at taken
    split_ifs at taken
    obtain rfl := Option.some.inj taken
    exact ⟨bufferless, fun _ ended => ended, fun _ same => by cases same⟩
  | connmgrReturn =>
    simp only [Process.step] at taken
    split_ifs at taken
    obtain rfl := Option.some.inj taken
    exact ⟨⟨null, bufferless.accepted, bufferless.joined, bufferless.freed⟩,
      fun _ ended => ended, fun _ same => by cases same⟩
  | iterate consumer =>
    cases running : (process.gateway.loops consumer).running with
    | false =>
      simp only [Process.step, Gateway.iterate_ended running, Option.bind_eq_bind,
        Option.bind_none, reduceCtorEq] at taken
    | true =>
      obtain rfl := Option.some.inj ((bufferless.iterate running).symm.trans taken)
      refine ⟨⟨null, bufferless.accepted, bufferless.joined, bufferless.freed⟩,
        fun other ended => ?_, fun other same => ?_⟩
      · by_cases same : other = consumer
        · rw [same]
          dsimp only
          rw [Function.update_self]
        · dsimp only
          rwa [Function.update_of_ne same]
      · obtain rfl := ProcessEvent.iterate.inj same
        refine ⟨running, ?_⟩
        dsimp only
        rw [Function.update_self]
  | join =>
    simp only [Process.step] at taken
    split_ifs at taken with ends
    obtain rfl := Option.some.inj taken
    refine ⟨⟨null, bufferless.accepted, ends.1, fun freed => ?_⟩, fun _ ended => ended,
      fun _ same => by cases same⟩
    exact absurd (bufferless.freed freed) (Nat.ne_of_lt ends.1)
  | freeBuffer =>
    simp only [Process.step, null, sbufferFree, Option.bind_eq_bind, Option.bind_some,
      Option.getD_some] at taken
    split_ifs at taken with behind
    obtain rfl := Option.some.inj taken
    exact ⟨⟨rfl, bufferless.accepted, bufferless.joined, fun _ => behind.1⟩,
      fun _ ended => ended, fun _ same => by cases same⟩

theorem Process.Bufferless.complete (bufferless : process.Bufferless)
    {events : List (ProcessEvent Data)}
    (ran : Runs.complete (Process.step indexOf) process events = some next) : next.Bufferless :=
  Runs.invariant_of_complete Process.Bufferless (fun _ => True) bufferless
    (fun _ _ _ holds taken _ => (holds.step taken).1) (fun _ _ => trivial) ran

/-- What is left to do before the joins have completed. -/
def Process.remaining (process : Process Data) : Nat :=
  (3 - process.joined) + (!process.connmgrReturned).toNat +
    (process.gateway.loops .datamgr).running.toNat +
    (process.gateway.loops .storagemgr).running.toNat

end Bufferless

/-! ### When the process shuts down -/

section WithMain

variable [DecidableEq Data]

end WithMain

end SensorGateway
