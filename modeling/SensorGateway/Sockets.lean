/-
This file models the socket library of the gateway in memory: the structures that
`tcp_sock_create` allocates, with their cookie, descriptor, address and port, the
address strings behind them, and the descriptors that the process has open.

Whether a `malloc` or a system call succeeds is an argument. The kernel chooses the
descriptors of `socket` and `accept`; `close` gives a descriptor back whatever it
returns. A function has no result where it would follow NULL or a freed structure, or
free something twice. The pointers to `*sock`, to a buffer and to its size are taken
to be those of variables, as at every call in the repository.
-/

import SensorGateway.Library.Descriptors
import SensorGateway.Library.Heap
import SensorGateway.Tcpsock

namespace SensorGateway

/-- The structure that holds the socket information. -/
structure SocketStruct where
  cookie : Int
  sd : Int
  ipAddr : Pointer
  port : Int
  deriving DecidableEq

/-- The memory of the sockets, that of their address strings, and the open descriptors. -/
structure Host where
  sockets : Heap SocketStruct
  addresses : Heap (List Char)
  descriptors : Finset Int

/-- The smallest and the largest port. -/
def minPort : Int := 1024

/-- The largest port, as the source has it: there is no port 65536. -/
def maxPort : Int := 65536

/-- The size of an address string with its NUL, CHAR_IP_ADDR_LENGTH. -/
def charIpAddrLength : Nat := 16

/-- What a function leaves behind: its return code, the value it has assigned to the variable of
the caller, if it has, and the memory. -/
structure SocketOutcome where
  status : TcpStatus
  assigned : Option Pointer
  host : Host

/-- The part of a socket that a transfer reads. -/
def SocketStruct.value (socket : SocketStruct) : Tcpsock where
  cookie := socket.cookie
  sd := socket.sd

/-- A new structure with the default values: it is not bound. -/
def tcpSockCreate (host : Host) : Address × Host :=
  let (s, sockets) := host.sockets.malloc { cookie := 0, sd := -1, ipAddr := none, port := -1 }
  (s, { host with sockets })

/-- Assign to the structure at an address. -/
def Host.assign (host : Host) (s : Address) (change : SocketStruct → SocketStruct) :
    Option Host := do
  let socket ← host.sockets.read s
  let sockets ← host.sockets.write s (change socket)
  some { host with sockets }

/-- Free a structure and report an error: `free(s);return status`. -/
def Host.giveUp (host : Host) (s : Address) (status : TcpStatus) : Option SocketOutcome := do
  let sockets ← host.sockets.free s
  some { status, assigned := none, host := { host with sockets } }

/-- A new descriptor for a structure: the result of `socket` or `accept`. -/
def Host.obtain (kernel : Kernel) (host : Host) (s : Address) : Option Host := do
  let sd := kernel.allocate host.descriptors
  let host ← host.assign s fun socket => { socket with sd }
  some { host with descriptors := insert sd host.descriptors }

/-! ### Opening -/

/-- The results of the calls in `tcp_passive_open`. -/
structure PassiveInput where
  malloc : Bool
  socket : Bool
  bind : Bool
  listen : Bool
  deriving DecidableEq

/-- Open a socket that listens on a port. -/
def tcpPassiveOpen (kernel : Kernel) (host : Host) (port : Int) (input : PassiveInput) :
    Option SocketOutcome :=
  if port < minPort ∨ port > maxPort then
    some { status := .addressError, assigned := none, host }
  else if ¬ input.malloc then some { status := .memoryError, assigned := none, host }
  else do
    let (s, host) := tcpSockCreate host
    if ¬ input.socket then host.giveUp s .sockopError
    else do
      let host ← host.obtain kernel s
      if ¬ input.bind then host.giveUp s .sockopError
      else if ¬ input.listen then host.giveUp s .sockopError
      else do
        let host ← host.assign s fun socket =>
          { socket with ipAddr := none, port, cookie := magicCookie }
        some { status := .noError, assigned := some (some s), host }

/-- An address as `accept` and `getsockname` report it: the string of `inet_ntoa` and the port. -/
structure PeerAddress where
  text : List Char
  port : Int
  deriving DecidableEq

/-- The end of an open: copy the address string and bind the structure. -/
def Host.bindTo (host : Host) (s : Address) (peer : PeerAddress) (malloc : Bool) :
    Option SocketOutcome :=
  if ¬ malloc then host.giveUp s .memoryError
  else do
    let (ip, addresses) := host.addresses.malloc (peer.text.take charIpAddrLength)
    let host ← Host.assign { host with addresses } s fun socket =>
      { socket with ipAddr := some ip, port := peer.port, cookie := magicCookie }
    some { status := .noError, assigned := some (some s), host }

/-- The results of the calls in `tcp_active_open`. -/
structure ActiveInput where
  malloc : Bool
  socket : Bool
  inetAton : Bool
  connect : Bool
  getsockname : Bool
  localAddress : PeerAddress
  mallocAddress : Bool
  deriving DecidableEq

/-- Open a connection to a port of a remote system; the address may be NULL. -/
def tcpActiveOpen (kernel : Kernel) (host : Host) (remotePort : Int)
    (remoteIp : Option (List Char)) (input : ActiveInput) : Option SocketOutcome :=
  if remotePort < minPort ∨ remotePort > maxPort then
    some { status := .addressError, assigned := none, host }
  else if remoteIp = none then some { status := .addressError, assigned := none, host }
  else if ¬ input.malloc then some { status := .memoryError, assigned := none, host }
  else do
    let (client, host) := tcpSockCreate host
    if ¬ input.socket then host.giveUp client .sockopError
    else do
      let host ← host.obtain kernel client
      if ¬ input.inetAton then host.giveUp client .addressError
      else if ¬ input.connect then host.giveUp client .sockopError
      else if ¬ input.getsockname then host.giveUp client .sockopError
      else host.bindTo client input.localAddress input.mallocAddress

/-- The results of the calls in `tcp_wait_for_connection`. -/
structure WaitInput where
  malloc : Bool
  accept : Bool
  remoteAddress : PeerAddress
  mallocAddress : Bool
  deriving DecidableEq

/-- Wait for a connection on a listening socket. -/
def tcpWaitForConnection (kernel : Kernel) (host : Host) (socket : Pointer)
    (input : WaitInput) : Option SocketOutcome :=
  match socket with
  | none => some { status := .socketError, assigned := none, host }
  | some listener => do
    let listening ← host.sockets.read listener
    if listening.cookie ≠ magicCookie then
      some { status := .socketError, assigned := none, host }
    else if ¬ input.malloc then some { status := .memoryError, assigned := none, host }
    else do
      let (s, host) := tcpSockCreate host
      if ¬ input.accept then host.giveUp s .sockopError
      else do
        let host ← host.obtain kernel s
        host.bindTo s input.remoteAddress input.mallocAddress

/-! ### Closing -/

/-- Free the address string of a socket, if it has one. -/
def Host.freeAddress (host : Host) (ipAddr : Pointer) : Option Host :=
  match ipAddr with
  | none => some host
  | some ip => do
    let addresses ← host.addresses.free ip
    some { host with addresses }

/-- Close a socket; the argument is whether `shutdown` succeeds. A descriptor that could not be
shut down is not closed. -/
def tcpClose (host : Host) (socket : Pointer) (shutdown : Bool) : Option SocketOutcome :=
  match socket with
  | none => some { status := .socketError, assigned := none, host }
  | some s => do
    let closing ← host.sockets.read s
    let host ←
      if closing.cookie = magicCookie then do
        let host ← host.freeAddress closing.ipAddr
        if 0 ≤ closing.sd ∧ shutdown then
          some { host with descriptors := host.descriptors.erase closing.sd }
        else some host
      else some host
    let host ← host.assign s fun _ => { cookie := 0, port := -1, sd := -1, ipAddr := none }
    let sockets ← host.sockets.free s
    some { status := .noError, assigned := some none, host := { host with sockets } }

/-! ### Transfers and answers -/

/-- What `sendto` returns: the number of bytes it has taken, or -1 with whether `errno` is EPIPE or
ENOTCONN. -/
inductive Sendto where
  | sent (count : Nat)
  | failed (notConnected : Bool)
  deriving DecidableEq, Repr

/-- The return value of `sendto` for a buffer of a given size. -/
def Sendto.count (size : Nat) : Sendto → Int
  | .sent count => min count size
  | .failed _ => -1

/-- Send the bytes of a buffer: the status and `*buf_size` afterwards. -/
def tcpSend (socket : Tcpsock) (size : Nat) (result : Sendto) : TcpStatus × Int :=
  if socket.cookie ≠ magicCookie then (.socketError, size)
  else if result.count size = 0 then (.connectionClosed, result.count size)
  else if result.count size < 0 ∧ result = .failed true then
    (.connectionClosed, result.count size)
  else if result.count size < 0 then (.sockopError, result.count size)
  else (.noError, result.count size)

/-- The shape of the functions that take a socket: NULL and a socket that is not bound are errors,
and leave the answer as it was. -/
def Host.ask {Answer : Type} (host : Host) (socket : Pointer) (before : Answer)
    (answer : SocketStruct → TcpStatus × Answer) : Option (TcpStatus × Answer) :=
  match socket with
  | none => some (.socketError, before)
  | some s => do
    let asked ← host.sockets.read s
    if asked.cookie ≠ magicCookie then some (.socketError, before) else some (answer asked)

/-- The address of a socket; the last argument is `*ip_addr` before the call. -/
def tcpGetIpAddr (host : Host) (socket : Pointer) (ipAddr : Pointer) :
    Option (TcpStatus × Pointer) :=
  host.ask socket ipAddr fun asked => (.noError, asked.ipAddr)

/-- The port of a socket. -/
def tcpGetPort (host : Host) (socket : Pointer) (port : Int) : Option (TcpStatus × Int) :=
  host.ask socket port fun asked => (.noError, asked.port)

/-- The descriptor of a socket. -/
def tcpGetSdAt (host : Host) (socket : Pointer) (sd : Int) : Option (TcpStatus × Int) :=
  host.ask socket sd fun asked => (.noError, asked.sd)

/-- Send the bytes of a buffer through a pointer. -/
def tcpSendAt (host : Host) (socket : Pointer) (size : Nat) (result : Sendto) :
    Option (TcpStatus × Int) :=
  host.ask socket (size : Int) fun asked => tcpSend asked.value size result

/-- Receive one field through a pointer. -/
def tcpReceiveAt {size : Nat} (host : Host) (socket : Pointer) (field : Field size)
    (recv : Recv) : Option (TcpStatus × Int × Field size) :=
  host.ask socket ((size : Int), field) fun asked => tcpReceive asked.value field recv

end SensorGateway
