/-
This file says what the functions of the socket library that open and close a socket
do to memory and to the descriptors. An open that has no descriptor yet leaves nothing
behind when it fails; one that has leaves the descriptor. An open that succeeds adds a
bound socket with the new descriptor, and copies its address into a new string.
-/

import SensorGateway.Sockets

namespace SensorGateway

/-! ### What an open does -/

/-- Nothing has happened to the sockets and their addresses. -/
structure Host.Same (before after : Host) : Prop where
  sockets : after.sockets.read = before.sockets.read
  addresses : after.addresses = before.addresses

theorem Host.Same.refl (host : Host) : host.Same host := ⟨rfl, rfl⟩

/-- A new structure is being set up; nothing else has happened but to the descriptors. -/
structure Pending (before : Host) (s : Address) (cell : SocketStruct) (descriptors : Finset Int)
    (host : Host) : Prop where
  fresh : before.sockets.read s = none
  sockets : host.sockets.read = Function.update before.sockets.read s (some cell)
  addresses : host.addresses = before.addresses
  descriptors : host.descriptors = descriptors

theorem pending_tcpSockCreate (host : Host) :
    Pending host (tcpSockCreate host).1 { cookie := 0, sd := -1, ipAddr := none, port := -1 }
      host.descriptors (tcpSockCreate host).2 where
  fresh := host.sockets.read_eq_none_of_le (Nat.le_refl _)
  sockets := rfl
  addresses := rfl
  descriptors := rfl

section Pending

variable {before host : Host} {s : Address} {cell : SocketStruct} {descriptors : Finset Int}
  (pending : Pending before s cell descriptors host)

include pending

theorem Pending.live : host.sockets.read s = some cell := by
  rw [pending.sockets, Function.update_self]

theorem Pending.assign (change : SocketStruct → SocketStruct) :
    ∃ after, host.assign s change = some after ∧
      Pending before s (change cell) descriptors after := by
  obtain ⟨sockets, written, -, -, reads⟩ :=
    host.sockets.exists_write_update pending.live (change cell)
  refine ⟨{ host with sockets }, ?_, pending.fresh, ?_, pending.addresses, pending.descriptors⟩
  · simp only [Host.assign, pending.live, written, Option.bind_eq_bind, Option.bind_some]
  · rw [reads, pending.sockets, Function.update_idem]

theorem Pending.obtain (kernel : Kernel) :
    ∃ after, host.obtain kernel s = some after ∧
      Pending before s { cell with sd := kernel.allocate descriptors }
        (insert (kernel.allocate descriptors) descriptors) after := by
  obtain ⟨assigned, ran, next⟩ := pending.assign fun socket =>
    { socket with sd := kernel.allocate host.descriptors }
  rw [pending.descriptors] at ran next
  refine ⟨{ assigned with descriptors := insert (kernel.allocate descriptors) descriptors },
    ?_, next.fresh, next.sockets, next.addresses, rfl⟩
  simp only [Host.obtain, pending.descriptors, ran, Option.bind_eq_bind, Option.bind_some,
    next.descriptors]

/-- Giving up leaves nothing behind but the descriptors. -/
theorem Pending.giveUp (status : TcpStatus) :
    ∃ after, host.giveUp s status = some ⟨status, none, after⟩ ∧ before.Same after ∧
      after.descriptors = descriptors := by
  obtain ⟨sockets, freed, reads⟩ := host.sockets.exists_free_update pending.live
  refine ⟨{ host with sockets }, ?_, ⟨?_, pending.addresses⟩, pending.descriptors⟩
  · simp only [Host.giveUp, freed, Option.bind_eq_bind, Option.bind_some]
  · rw [reads, pending.sockets, Function.update_idem, ← pending.fresh, Function.update_eq_self]

end Pending

/-- The errors an open reports. -/
def openErrors : List TcpStatus := [.addressError, .memoryError, .sockopError]

/-- What an open does: without a descriptor it fails, and with one it either fails and leaves it
open, or binds a new socket to it. -/
inductive Opens (kernel : Kernel) (before : Host) (obtains completes : Prop)
    (outcome : SocketOutcome) : Prop
  | refused (nothing : ¬ obtains) (failed : outcome.status ∈ openErrors)
    (kept : outcome.assigned = none) (same : before.Same outcome.host)
    (descriptors : outcome.host.descriptors = before.descriptors)
  | lost (obtained : obtains) (stopped : ¬ completes) (failed : outcome.status ∈ openErrors)
    (kept : outcome.assigned = none) (same : before.Same outcome.host)
    (descriptors : outcome.host.descriptors =
      insert (kernel.allocate before.descriptors) before.descriptors)
  | opened (obtained : obtains) (completed : completes) (succeeded : outcome.status = .noError)
    (s : Address) (cell : SocketStruct) (assigned : outcome.assigned = some (some s))
    (fresh : before.sockets.read s = none)
    (sockets : outcome.host.sockets.read = Function.update before.sockets.read s (some cell))
    (bound : cell.cookie = magicCookie)
    (sd : cell.sd = kernel.allocate before.descriptors)
    (descriptors : outcome.host.descriptors =
      insert (kernel.allocate before.descriptors) before.descriptors)
    (address : cell.ipAddr = none ∧ outcome.host.addresses = before.addresses ∨
      ∃ text, cell.ipAddr = some before.addresses.bound ∧
        outcome.host.addresses = (before.addresses.malloc text).2)

section Opens

variable {kernel : Kernel} {before host : Host} {s : Address} {cell : SocketStruct}
  {obtains completes : Prop}

/-- Giving up before there is a descriptor. -/
theorem Pending.refused (pending : Pending before s cell before.descriptors host)
    (nothing : ¬ obtains) {status : TcpStatus} (failed : status ∈ openErrors) :
    ∃ outcome, host.giveUp s status = some outcome ∧
      Opens kernel before obtains completes outcome := by
  obtain ⟨after, ran, same, descriptors⟩ := pending.giveUp status
  exact ⟨_, ran, .refused nothing failed rfl same descriptors⟩

/-- Giving up when there is one. -/
theorem Pending.lost
    (pending : Pending before s cell
      (insert (kernel.allocate before.descriptors) before.descriptors) host)
    (obtained : obtains) (stopped : ¬ completes) {status : TcpStatus}
    (failed : status ∈ openErrors) :
    ∃ outcome, host.giveUp s status = some outcome ∧
      Opens kernel before obtains completes outcome := by
  obtain ⟨after, ran, same, descriptors⟩ := pending.giveUp status
  exact ⟨_, ran, .lost obtained stopped failed rfl same descriptors⟩

/-- The end of an open that copies an address. -/
theorem Pending.bindTo
    (pending : Pending before s cell
      (insert (kernel.allocate before.descriptors) before.descriptors) host)
    (sd : cell.sd = kernel.allocate before.descriptors) (obtained : obtains)
    {malloc : Bool} (copies : completes ↔ malloc) (peer : PeerAddress) :
    ∃ outcome, host.bindTo s peer malloc = some outcome ∧
      Opens kernel before obtains completes outcome := by
  unfold Host.bindTo
  cases malloc with
  | false =>
    rw [if_pos Bool.false_ne_true]
    exact pending.lost obtained (fun completed => Bool.false_ne_true (copies.mp completed))
      (by decide)
  | true =>
    have live := pending.live
    obtain ⟨bound, isBound⟩ : ∃ bound : SocketStruct, bound = { cell with
        ipAddr := some before.addresses.bound, port := peer.port, cookie := magicCookie } :=
      ⟨_, rfl⟩
    obtain ⟨sockets, written, -, -, reads⟩ := host.sockets.exists_write_update live bound
    refine ⟨{
        status := .noError
        assigned := some (some s)
        host := {
          sockets
          addresses := (host.addresses.malloc (peer.text.take charIpAddrLength)).2
          descriptors := host.descriptors } },
      ?_, .opened obtained (copies.mpr rfl) rfl s bound rfl pending.fresh ?_ ?_ ?_
      pending.descriptors (Or.inr ⟨peer.text.take charIpAddrLength, ?_, ?_⟩)⟩
    · simp only [not_true, if_false, Host.assign, live, Option.bind_eq_bind, Option.bind_some,
        Heap.malloc_fst, pending.addresses, ← isBound, written]
    · rw [reads, pending.sockets, Function.update_idem]
    · rw [isBound]
    · rw [isBound, sd]
    · rw [isBound]
    · rw [pending.addresses]

theorem tcpPassiveOpen_opens (kernel : Kernel) (host : Host) (port : Int)
    (input : PassiveInput) :
    ∃ outcome, tcpPassiveOpen kernel host port input = some outcome ∧
      Opens kernel host (minPort ≤ port ∧ port ≤ maxPort ∧ input.malloc ∧ input.socket)
        (input.bind ∧ input.listen) outcome := by
  have created := pending_tcpSockCreate host
  unfold tcpPassiveOpen
  by_cases range : port < minPort ∨ port > maxPort
  · rw [if_pos range]
    have failed : TcpStatus.addressError ∈ openErrors := by decide
    refine ⟨_, rfl, .refused (fun obtained => ?_) failed rfl (Host.Same.refl host) rfl⟩
    omega
  rw [if_neg range]
  by_cases memory : input.malloc
  case neg =>
    rw [if_pos memory]
    have failed : TcpStatus.memoryError ∈ openErrors := by decide
    exact ⟨_, rfl, .refused (fun obtained => memory obtained.2.2.1) failed rfl
      (Host.Same.refl host) rfl⟩
  rw [if_neg (not_not.mpr memory)]
  by_cases socket : input.socket
  case neg =>
    simp only [if_pos socket]
    exact created.refused (fun obtained => socket obtained.2.2.2) (by decide)
  have obtained : minPort ≤ port ∧ port ≤ maxPort ∧ input.malloc ∧ input.socket :=
    ⟨by omega, by omega, memory, socket⟩
  obtain ⟨holding, ran, held⟩ := created.obtain kernel
  simp only [if_neg (not_not.mpr socket), ran, Option.bind_eq_bind, Option.bind_some]
  by_cases binds : input.bind
  case neg =>
    rw [if_pos binds]
    exact held.lost obtained (fun completed => binds completed.1) (by decide)
  rw [if_neg (not_not.mpr binds)]
  by_cases listens : input.listen
  case neg =>
    rw [if_pos listens]
    exact held.lost obtained (fun completed => listens completed.2) (by decide)
  rw [if_neg (not_not.mpr listens)]
  obtain ⟨listening, assigned, ready⟩ := held.assign fun socket =>
    { socket with ipAddr := none, port, cookie := magicCookie }
  rw [assigned]
  exact ⟨_, rfl, .opened obtained ⟨binds, listens⟩ rfl _ _ rfl
    ready.fresh ready.sockets rfl rfl ready.descriptors (Or.inl ⟨rfl, ready.addresses⟩)⟩

theorem tcpActiveOpen_opens (kernel : Kernel) (host : Host) (remotePort : Int)
    (remoteIp : Option (List Char)) (input : ActiveInput) :
    ∃ outcome, tcpActiveOpen kernel host remotePort remoteIp input = some outcome ∧
      Opens kernel host
        (minPort ≤ remotePort ∧ remotePort ≤ maxPort ∧ remoteIp ≠ none ∧ input.malloc ∧
          input.socket)
        (input.inetAton ∧ input.connect ∧ input.getsockname ∧ input.mallocAddress) outcome := by
  have created := pending_tcpSockCreate host
  have wrong : TcpStatus.addressError ∈ openErrors := by decide
  unfold tcpActiveOpen
  by_cases range : remotePort < minPort ∨ remotePort > maxPort
  · rw [if_pos range]
    refine ⟨_, rfl, .refused (fun obtained => ?_) wrong rfl (Host.Same.refl host) rfl⟩
    omega
  rw [if_neg range]
  by_cases noIp : remoteIp = none
  · rw [if_pos noIp]
    exact ⟨_, rfl, .refused (fun obtained => obtained.2.2.1 noIp) wrong rfl
      (Host.Same.refl host) rfl⟩
  rw [if_neg noIp]
  by_cases memory : input.malloc
  case neg =>
    rw [if_pos memory]
    have failed : TcpStatus.memoryError ∈ openErrors := by decide
    exact ⟨_, rfl, .refused (fun obtained => memory obtained.2.2.2.1) failed rfl
      (Host.Same.refl host) rfl⟩
  rw [if_neg (not_not.mpr memory)]
  by_cases socket : input.socket
  case neg =>
    simp only [if_pos socket]
    exact created.refused (fun obtained => socket obtained.2.2.2.2) (by decide)
  obtain ⟨holding, ran, held⟩ := created.obtain kernel
  simp only [if_neg (not_not.mpr socket), ran, Option.bind_eq_bind, Option.bind_some]
  have obtained : minPort ≤ remotePort ∧ remotePort ≤ maxPort ∧ remoteIp ≠ none ∧
      input.malloc ∧ input.socket := ⟨by omega, by omega, noIp, memory, socket⟩
  by_cases address : input.inetAton
  case neg =>
    rw [if_pos address]
    exact held.lost obtained (fun completed => address completed.1) wrong
  rw [if_neg (not_not.mpr address)]
  by_cases connects : input.connect
  case neg =>
    rw [if_pos connects]
    exact held.lost obtained (fun completed => connects completed.2.1) (by decide)
  rw [if_neg (not_not.mpr connects)]
  by_cases named : input.getsockname
  case neg =>
    rw [if_pos named]
    exact held.lost obtained (fun completed => named completed.2.2.1) (by decide)
  rw [if_neg (not_not.mpr named)]
  refine held.bindTo rfl obtained ?_ input.localAddress
  simp only [address, connects, named, true_and]

theorem tcpWaitForConnection_opens (kernel : Kernel) {host : Host} {listener : Address}
    {listening : SocketStruct} (live : host.sockets.read listener = some listening)
    (bound : listening.cookie = magicCookie) (input : WaitInput) :
    ∃ outcome, tcpWaitForConnection kernel host (some listener) input = some outcome ∧
      Opens kernel host (input.malloc ∧ input.accept) input.mallocAddress outcome := by
  have created := pending_tcpSockCreate host
  simp only [tcpWaitForConnection, live, Option.bind_eq_bind, Option.bind_some]
  rw [if_neg (not_not.mpr bound)]
  by_cases memory : input.malloc
  case neg =>
    rw [if_pos memory]
    have failed : TcpStatus.memoryError ∈ openErrors := by decide
    exact ⟨_, rfl, .refused (fun obtained => memory obtained.1) failed rfl
      (Host.Same.refl host) rfl⟩
  rw [if_neg (not_not.mpr memory)]
  by_cases accepts : input.accept
  case neg =>
    rw [if_pos accepts]
    exact created.refused (fun obtained => accepts obtained.2) (by decide)
  obtain ⟨holding, ran, held⟩ := created.obtain kernel
  rw [if_neg (not_not.mpr accepts), ran, Option.bind_some]
  exact held.bindTo rfl ⟨memory, accepts⟩ Iff.rfl input.remoteAddress

end Opens

/-! ### What a close does -/

theorem tcpClose_of_live {host : Host} {s : Address} {cell : SocketStruct}
    (live : host.sockets.read s = some cell) (bound : cell.cookie = magicCookie)
    (nonneg : 0 ≤ cell.sd)
    (owned : ∀ ip, cell.ipAddr = some ip → ∃ text, host.addresses.read ip = some text)
    (shutdown : Bool) :
    ∃ after, tcpClose host (some s) shutdown = some ⟨.noError, some none, after⟩ ∧
      after.sockets.read = Function.update host.sockets.read s none ∧
      (∀ ip, after.addresses.read ip =
        if cell.ipAddr = some ip then none else host.addresses.read ip) ∧
      after.descriptors =
        if shutdown then host.descriptors.erase cell.sd else host.descriptors := by
  obtain ⟨addresses, frees, reads⟩ : ∃ addresses : Heap (List Char),
      host.freeAddress cell.ipAddr = some { host with addresses } ∧
        ∀ ip, addresses.read ip =
          if cell.ipAddr = some ip then none else host.addresses.read ip := by
    cases given : cell.ipAddr with
    | none => exact ⟨host.addresses, rfl, fun ip => by rw [if_neg (Option.some_ne_none ip).symm]⟩
    | some ip =>
      obtain ⟨text, isText⟩ := owned ip given
      obtain ⟨addresses, freed, reads⟩ := host.addresses.exists_free_update isText
      refine ⟨addresses, ?_, fun other => ?_⟩
      · simp only [Host.freeAddress, freed, Option.bind_eq_bind, Option.bind_some]
      · rw [reads, Function.update_apply]
        simp only [Option.some.injEq, eq_comm]
  obtain ⟨written, writes, -, -, writtenReads⟩ := host.sockets.exists_write_update live
    { cookie := 0, sd := -1, ipAddr := none, port := -1 }
  have stillLive : written.read s = some { cookie := 0, sd := -1, ipAddr := none, port := -1 } := by
    rw [writtenReads, Function.update_self]
  obtain ⟨sockets, freed, freedReads⟩ := written.exists_free_update stillLive
  refine ⟨{
      sockets, addresses
      descriptors := if shutdown then host.descriptors.erase cell.sd else host.descriptors },
    ?_, ?_, reads, rfl⟩
  · cases shutdown <;>
      simp [tcpClose, live, bound, frees, nonneg, Host.assign, writes, freed]
  · rw [freedReads, writtenReads, Function.update_idem]

end SensorGateway
