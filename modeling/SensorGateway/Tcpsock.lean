/-
This file models the sensor data of the gateway as raw bytes and the part of the socket
library that moves them: `tcp_receive`, which makes a single call of `recv`, and
`tcp_get_sd`. What `recv` returns is an argument, so that a stream may be cut up in any
way; `recv` writes only the bytes it delivers, and the rest of the buffer keeps what it
held.

A `tcpsock_t` is kept without its address and port, which no modelled function reads,
and a pointer to one is the socket it points to.
-/

import Mathlib.Data.List.Basic

namespace SensorGateway

/-- The return codes of the socket functions. -/
inductive TcpStatus where
  | noError
  | socketError
  | addressError
  | sockopError
  | connectionClosed
  | memoryError
  deriving DecidableEq, Repr

/-- The value of a return code. -/
def TcpStatus.code : TcpStatus → Int
  | .noError => 0
  | .socketError => 1
  | .addressError => 2
  | .sockopError => 3
  | .connectionClosed => 4
  | .memoryError => 5

/-- The cookie of a bound socket. -/
def magicCookie : Int := 0xA2E1CF37D35

/-- The socket structure. -/
structure Tcpsock where
  cookie : Int
  sd : Int
  deriving DecidableEq, Repr

/-- A raw field of a given size in bytes. -/
structure Field (size : Nat) where
  bytes : List UInt8
  sized : bytes.length = size
  deriving DecidableEq

/-- The sizes of `sensor_value_t` and `sensor_ts_t`; a `sensor_id_t` has two bytes. -/
structure Layout where
  sizeofValue : Nat
  sizeofTs : Nat
  valuePositive : 0 < sizeofValue
  tsPositive : 0 < sizeofTs

/-- The structure that holds sensor data. -/
structure SensorData (layout : Layout) where
  id : Field 2
  value : Field layout.sizeofValue
  ts : Field layout.sizeofTs
  deriving DecidableEq

/-- The number in a two-byte field, low byte first. -/
def Field.word (field : Field 2) : BitVec 16 :=
  BitVec.ofNat 16 ((field.bytes.getD 0 0).toNat + 256 * (field.bytes.getD 1 0).toNat)

/-- A number as the two bytes of a `sensor_id_t`. -/
def Field.ofWord (word : BitVec 16) : Field 2 where
  bytes := [UInt8.ofNat word.toNat, UInt8.ofNat (word.toNat / 256)]
  sized := rfl

/-- What a call of `recv` returns: the number of bytes it delivers with the bytes, or -1 with
whether `errno` is ENOTCONN. -/
inductive Recv where
  | delivered (bytes : List UInt8)
  | failed (notConnected : Bool)
  deriving DecidableEq, Repr

variable {size : Nat}

/-- The bytes a call of `recv` writes into a buffer of a given size. -/
def Recv.chunk (size : Nat) : Recv → List UInt8
  | .delivered bytes => bytes.take size
  | .failed _ => []

/-- The return value of `recv`. -/
def Recv.count (size : Nat) : Recv → Int
  | .delivered bytes => (bytes.take size).length
  | .failed _ => -1

theorem Recv.length_chunk_le (recv : Recv) (size : Nat) : (recv.chunk size).length ≤ size := by
  cases recv with
  | delivered bytes => exact List.length_take_le size bytes
  | failed notConnected => exact Nat.zero_le size

/-- Overwrite the front of a field. -/
def Field.overwrite (field : Field size) (recv : Recv) : Field size where
  bytes := recv.chunk size ++ field.bytes.drop (recv.chunk size).length
  sized := by
    have short := recv.length_chunk_le size
    rw [List.length_append, List.length_drop, field.sized]
    omega

/-- Receive one field: the status, `*buf_size` afterwards, and the field afterwards. -/
def tcpReceive (socket : Tcpsock) (field : Field size) (recv : Recv) :
    TcpStatus × Int × Field size :=
  if socket.cookie ≠ magicCookie then (.socketError, size, field)
  else if recv.count size = 0 then (.connectionClosed, recv.count size, field.overwrite recv)
  else if recv.count size < 0 ∧ recv = .failed true then
    (.connectionClosed, recv.count size, field.overwrite recv)
  else if recv.count size < 0 then (.sockopError, recv.count size, field.overwrite recv)
  else (.noError, recv.count size, field.overwrite recv)

/-- The descriptor of a socket; the second argument is `*sd` before the call. -/
def tcpGetSd (socket : Tcpsock) (sd : Int) : Int :=
  if socket.cookie ≠ magicCookie then sd else socket.sd

/-! ### What a receive does -/

/-- A number that was stored in a `sensor_id_t` is read back. -/
@[simp]
theorem Field.word_ofWord (word : BitVec 16) : (Field.ofWord word).word = word := by
  refine BitVec.eq_of_toNat_eq ?_
  have bounded := word.isLt
  simp only [Field.ofWord, Field.word, List.getD_cons_zero, List.getD_cons_succ,
    UInt8.toNat_ofNat', BitVec.toNat_ofNat]
  omega

theorem Field.ext_bytes {first second : Field size} (same : first.bytes = second.bytes) :
    first = second := by
  cases first
  cases second
  simp only at same
  subst same
  rfl

theorem tcpReceive_of_unbound {socket : Tcpsock} (unbound : socket.cookie ≠ magicCookie)
    (field : Field size) (recv : Recv) :
    tcpReceive socket field recv = (TcpStatus.socketError, (size : Int), field) := by
  rw [tcpReceive, if_pos unbound]

/-- A receive that succeeds has delivered at least one byte. -/
theorem chunk_ne_nil_of_noError {socket : Tcpsock} {field : Field size} {recv : Recv}
    (succeeded : (tcpReceive socket field recv).1 = .noError) :
    socket.cookie = magicCookie ∧ recv.chunk size ≠ [] := by
  unfold tcpReceive at succeeded
  split_ifs at succeeded with unbound closed lost failed
  refine ⟨not_not.mp unbound, ?_⟩
  cases recv with
  | delivered bytes =>
    intro nothing
    rw [Recv.chunk] at nothing
    exact closed (by rw [Recv.count, nothing]; rfl)
  | failed notConnected => exact absurd (Int.negSucc_lt_zero 0) failed

/-- A receive that succeeds sets a nonzero size. -/
theorem sizeRet_ne_zero_of_noError {socket : Tcpsock} {field : Field size} {recv : Recv}
    (succeeded : (tcpReceive socket field recv).1 = .noError) :
    (tcpReceive socket field recv).2.1 ≠ 0 := by
  unfold tcpReceive at succeeded ⊢
  split_ifs at succeeded ⊢ with unbound closed lost failed
  exact closed

/-- On a bound socket, a receive that delivers at least one byte succeeds. -/
theorem tcpReceive_of_chunk {socket : Tcpsock} (bound : socket.cookie = magicCookie)
    (field : Field size) {recv : Recv} (some : recv.chunk size ≠ []) :
    tcpReceive socket field recv =
      (.noError, ((recv.chunk size).length : Int), field.overwrite recv) := by
  cases recv with
  | failed notConnected => exact absurd rfl some
  | delivered bytes =>
    have positive : 0 < (bytes.take size).length := List.length_pos_iff.mpr some
    have count : Recv.count size (.delivered bytes) = ((bytes.take size).length : Int) := rfl
    unfold tcpReceive
    rw [if_neg (not_not.mpr bound), if_neg (by rw [count]; omega), if_neg (by rw [count]; omega),
      if_neg (by rw [count]; omega), count]
    rfl

/-- A receive of the whole field replaces it. -/
theorem Field.overwrite_of_full (field : Field size) {recv : Recv}
    (full : (recv.chunk size).length = size) :
    (field.overwrite recv).bytes = recv.chunk size := by
  show recv.chunk size ++ field.bytes.drop (recv.chunk size).length = recv.chunk size
  rw [full, List.drop_of_length_le (Nat.le_of_eq field.sized), List.append_nil]

end SensorGateway
