/-
This file reads the log of the connection manager: which stop requests are outstanding,
what the last poll has reported, and what has happened on a connection since it was
registered. Each reading of the log comes with the fact that the actions that do not
concern it may be left out.

A connection has reported the ids that stand in front of the readings it has sent: they
are read off the bytes that its own receives have delivered, and not off the readings that
the program inserts for it.
-/

import SensorGateway.ConnmgrTables

namespace SensorGateway

variable {config : Config} {layout : Layout}

/-! ### Stop requests -/

/-- The stop slot, and the sensors whose stop requests have not been consumed. -/
structure Requests where
  slot : BitVec 16
  outstanding : List (BitVec 16)

/-- The data manager adds a request; the connection manager consumes the requests for the sensor
in the slot. -/
def Requests.observe (requests : Requests) : Action layout → Requests
  | .writeStopsig .datamgr id => { slot := id, outstanding := id :: requests.outstanding }
  | .writeStopsig .connmgr value => {
      slot := value
      outstanding := requests.outstanding.filter fun id => id ≠ requests.slot }
  | _ => requests

/-- The stop requests after a log. -/
def stopRequests (log : List (Action layout)) : Requests :=
  log.foldl Requests.observe { slot := 0, outstanding := [] }

theorem stopRequests_append (first second : List (Action layout)) :
    stopRequests (first ++ second) = second.foldl Requests.observe (stopRequests first) :=
  List.foldl_append

/-- Actions that do not write the slot change no request. -/
theorem stopRequests_append_of_quiet (first : List (Action layout))
    {second : List (Action layout)}
    (quiet : ∀ action ∈ second, ∀ thread value, action ≠ .writeStopsig thread value) :
    stopRequests (first ++ second) = stopRequests first := by
  rw [stopRequests_append]
  induction second generalizing first with
  | nil => rfl
  | cons action rest inductionHypothesis =>
    have ignored : (stopRequests first).observe action = stopRequests first := by
      cases action with
      | writeStopsig thread value => exact absurd rfl (quiet _ List.mem_cons_self thread value)
      | _ => rfl
    rw [List.foldl_cons, ignored]
    exact inductionHypothesis first fun other member => quiet other (List.mem_cons_of_mem _ member)

/-! ### What poll has reported -/

/-- The entries as the last poll has returned them. -/
def lastPolled (log : List (Action layout)) : List PollFd :=
  log.foldl (fun polled action =>
    match action with
    | .polled entries => entries
    | _ => polled) []

theorem lastPolled_append_of_quiet (first : List (Action layout)) {second : List (Action layout)}
    (quiet : ∀ action ∈ second, ∀ entries, action ≠ .polled entries) :
    lastPolled (first ++ second) = lastPolled first := by
  unfold lastPolled
  rw [List.foldl_append]
  generalize first.foldl _ [] = polled
  induction second generalizing polled with
  | nil => rfl
  | cons action rest inductionHypothesis =>
    rw [List.foldl_cons]
    cases action with
    | polled entries => exact absurd rfl (quiet _ List.mem_cons_self entries)
    | _ =>
      exact inductionHypothesis (fun other member => quiet other (List.mem_cons_of_mem _ member)) _

theorem lastPolled_polled (manager : Connmgr config) (revents : Nat → BitVec 16) :
    lastPolled (manager.polled revents).log = polledEntries manager.pollFd revents := by
  unfold lastPolled Connmgr.polled
  dsimp only
  rw [List.foldl_append]
  rfl

/-! ### What has happened on a connection -/

/-- The actions since the connection with a descriptor was registered. -/
def sinceRegistered (fd : Int) (log : List (Action layout)) : List (Action layout) :=
  log.foldl (fun recent action =>
    match action with
    | .registered client => if client.sd = fd then [] else recent ++ [action]
    | _ => recent ++ [action]) []

/-- Unless the descriptor is registered anew, the actions add up. -/
theorem sinceRegistered_append_of_other {fd : Int} (first : List (Action layout))
    {second : List (Action layout)}
    (other : ∀ action ∈ second, ∀ client, action = .registered client → client.sd ≠ fd) :
    sinceRegistered fd (first ++ second) = sinceRegistered fd first ++ second := by
  unfold sinceRegistered
  rw [List.foldl_append]
  generalize first.foldl _ [] = recent
  induction second generalizing recent with
  | nil => exact (List.append_nil _).symm
  | cons action rest inductionHypothesis =>
    have otherRest : ∀ next ∈ rest, ∀ client, next = .registered client → client.sd ≠ fd :=
      fun next member => other next (List.mem_cons_of_mem _ member)
    rw [List.foldl_cons, inductionHypothesis otherRest]
    cases action with
    | registered client =>
      have different := other _ List.mem_cons_self client rfl
      dsimp only
      rw [if_neg different, List.append_assoc, List.singleton_append]
    | _ => rw [List.append_assoc, List.singleton_append]

/-- The reading that an action inserts for a connection. -/
def Action.insertedFor (fd : Int) : Action layout → Option (SensorData layout)
  | .sbufferInsert sd data => if sd = fd then some data else none
  | _ => none

/-- The readings inserted for a connection since it was registered. -/
def insertedReadings (fd : Int) (log : List (Action layout)) : List (SensorData layout) :=
  (sinceRegistered fd log).filterMap (Action.insertedFor fd)

/-! ### What a connection has reported -/

/-- The call of `recv` that an action makes on a descriptor. -/
def Action.receivedOn (fd : Int) : Action layout → Option (Nat × Recv)
  | .recv sd size result => if sd = fd then some (size, result) else none
  | _ => none

/-- The calls of `recv` on a descriptor since it was registered. -/
def receivesOn (fd : Int) (log : List (Action layout)) : List (Nat × Recv) :=
  (sinceRegistered fd log).filterMap (Action.receivedOn fd)

/-- The bytes that calls of `recv` have delivered. -/
def deliveredBytes (calls : List (Nat × Recv)) : List UInt8 :=
  calls.flatMap fun call => call.2.chunk call.1

/-- The id in front of a reading of a stream, if the stream has got that far. -/
def Layout.sentId (layout : Layout) (stream : List UInt8) (number : Nat) : Option (BitVec 16) :=
  let bytes := (stream.drop (number * (2 + (layout.sizeofValue + layout.sizeofTs)))).take 2
  if sized : bytes.length = 2 then some (Field.word ⟨bytes, sized⟩) else none

/-- The sensor ids that a connection has reported: those in front of the readings in the bytes
that it has delivered itself, whatever the program has taken for its id. -/
def reportedIds (fd : Int) (log : List (Action layout)) : List (BitVec 16) :=
  let stream := deliveredBytes (receivesOn fd log)
  (List.range stream.length).filterMap (layout.sentId stream)

/-- Every receive on a connection has returned its whole field. -/
def ReceivedWhole (fd : Int) (log : List (Action layout)) : Prop :=
  ∀ call ∈ receivesOn fd log, (call.2.chunk call.1).length = call.1

instance (fd : Int) (log : List (Action layout)) : Decidable (ReceivedWhole fd log) :=
  inferInstanceAs (Decidable (∀ call ∈ receivesOn fd log, _))

/-- A connection has reported an id, unless a receive on it was cut short. -/
def Vouched (fd : Int) (id : BitVec 16) (log : List (Action layout)) : Prop :=
  ReceivedWhole fd log → id ∈ reportedIds fd log

theorem deliveredBytes_append (first second : List (Nat × Recv)) :
    deliveredBytes (first ++ second) = deliveredBytes first ++ deliveredBytes second :=
  List.flatMap_append

theorem receivesOn_append_of_other {fd : Int} (first : List (Action layout))
    {second : List (Action layout)}
    (other : ∀ action ∈ second, ∀ client, action = .registered client → client.sd ≠ fd) :
    receivesOn fd (first ++ second) =
      receivesOn fd first ++ second.filterMap (Action.receivedOn fd) := by
  rw [receivesOn, sinceRegistered_append_of_other first other, List.filterMap_append]
  rfl

/-- An id that the stream has got to stays where it is. -/
theorem Layout.sentId_append {stream : List UInt8} {number : Nat} {id : BitVec 16}
    (sent : layout.sentId stream number = some id) (rest : List UInt8) :
    layout.sentId (stream ++ rest) number = some id := by
  unfold Layout.sentId at sent ⊢
  dsimp only at sent ⊢
  split_ifs at sent with sized
  have reached : 2 ≤ (stream.drop
      (number * (2 + (layout.sizeofValue + layout.sizeofTs)))).length := by
    rw [List.length_take] at sized
    omega
  have before : number * (2 + (layout.sizeofValue + layout.sizeofTs)) ≤ stream.length := by
    rw [List.length_drop] at reached
    omega
  have same : ((stream ++ rest).drop
      (number * (2 + (layout.sizeofValue + layout.sizeofTs)))).take 2 =
        (stream.drop (number * (2 + (layout.sizeofValue + layout.sizeofTs)))).take 2 := by
    rw [List.drop_append_of_le_length before, List.take_append_of_le_length reached]
  rw [← sent]
  simp only [same, sized, dite_true]

/-- The ids of a connection are those that its stream has got to. -/
theorem mem_reportedIds_iff {fd : Int} {log : List (Action layout)} {id : BitVec 16} :
    id ∈ reportedIds fd log ↔
      ∃ number, layout.sentId (deliveredBytes (receivesOn fd log)) number = some id := by
  unfold reportedIds
  rw [List.mem_filterMap]
  refine exists_congr fun number => and_iff_right_of_imp fun sent => ?_
  unfold Layout.sentId at sent
  dsimp only at sent
  split_ifs at sent with sized
  rw [List.length_take, List.length_drop] at sized
  have spread : number ≤ number * (2 + (layout.sizeofValue + layout.sizeofTs)) :=
    Nat.le_mul_of_pos_right number (by omega)
  rw [List.mem_range]
  omega

/-- An id once vouched for stays so until the descriptor is registered anew. -/
theorem Vouched.append {fd : Int} {id : BitVec 16} {first second : List (Action layout)}
    (vouched : Vouched fd id first)
    (other : ∀ action ∈ second, ∀ client, action = .registered client → client.sd ≠ fd) :
    Vouched fd id (first ++ second) := by
  have longer := receivesOn_append_of_other first other
  intro whole
  have before : ReceivedWhole fd first := fun call member =>
    whole call (longer ▸ List.mem_append_left _ member)
  obtain ⟨number, sent⟩ := mem_reportedIds_iff.mp (vouched before)
  refine mem_reportedIds_iff.mpr ⟨number, ?_⟩
  rw [longer, deliveredBytes_append]
  exact Layout.sentId_append sent _

end SensorGateway
