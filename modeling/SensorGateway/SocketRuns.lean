/-
This file is about programs that use the socket library: any sequence of its calls, on
any variables that hold socket pointers, with any results of the system calls.

No such program goes wrong: nothing is freed twice or used after it was freed. A
socket in memory is bound, its descriptor is open and its own, and so is its address
string. Descriptors are lost, though. An open that fails after `socket` or `accept`
frees the structure and leaves the descriptor open, and so does a close whose
`shutdown` fails. The open descriptors are those of the sockets in memory and those
lost in one of these ways.
-/

import SensorGateway.Library.Runs
import SensorGateway.SocketOpens

namespace SensorGateway

/-! ### What holds of the sockets -/

/-- Some socket in memory has this descriptor. -/
def Host.Holds (host : Host) (sd : Int) : Prop :=
  ∃ s cell, host.sockets.read s = some cell ∧ cell.sd = sd

/-- Every socket is bound and owns its descriptor and its address string; the descriptors that are
open are those from before, those of the sockets and the lost ones. -/
structure Host.Sound (initial : Finset Int) (lost : List Int) (host : Host) : Prop where
  bound : ∀ s cell, host.sockets.read s = some cell → cell.cookie = magicCookie
  nonneg : ∀ s cell, host.sockets.read s = some cell → 0 ≤ cell.sd
  own : ∀ s cell t other, host.sockets.read s = some cell → host.sockets.read t = some other →
    cell.sd = other.sd → s = t
  addressed : ∀ ip, (host.addresses.read ip).isSome ↔
    ∃ s cell, host.sockets.read s = some cell ∧ cell.ipAddr = some ip
  ownAddress : ∀ s cell t other ip, host.sockets.read s = some cell →
    host.sockets.read t = some other → cell.ipAddr = some ip → other.ipAddr = some ip → s = t
  open_iff : ∀ sd, sd ∈ host.descriptors ↔ sd ∈ initial ∨ host.Holds sd ∨ sd ∈ lost
  fromBefore : ∀ sd ∈ initial, ¬ host.Holds sd ∧ sd ∉ lost
  notHeld : ∀ sd ∈ lost, ¬ host.Holds sd
  lostOnce : lost.Nodup

/-- The memory of a process that has these descriptors open and no socket. -/
def Host.initially (descriptors : Finset Int) : Host where
  sockets := Heap.empty SocketStruct
  addresses := Heap.empty (List Char)
  descriptors

theorem sound_initially (descriptors : Finset Int) :
    (Host.initially descriptors).Sound descriptors [] := by
  have noSocket : ∀ s cell, (Host.initially descriptors).sockets.read s ≠ some cell :=
    fun s cell live => absurd live (by simp [Host.initially, Heap.read, Heap.empty])
  have notHolds : ∀ sd, ¬ (Host.initially descriptors).Holds sd :=
    fun sd ⟨s, cell, live, _⟩ => noSocket s cell live
  exact {
    bound := fun s cell live => absurd live (noSocket s cell)
    nonneg := fun s cell live => absurd live (noSocket s cell)
    own := fun s cell _ _ live => absurd live (noSocket s cell)
    addressed := fun ip => by
      simp only [noSocket, false_and, exists_false, iff_false]
      simp [Host.initially, Heap.read, Heap.empty]
    ownAddress := fun s cell _ _ _ live => absurd live (noSocket s cell)
    open_iff := fun sd => by
      simp only [notHolds, List.not_mem_nil, or_false]
      rfl
    fromBefore := fun sd _ => ⟨notHolds sd, List.not_mem_nil⟩
    notHeld := fun sd member => absurd member List.not_mem_nil
    lostOnce := List.nodup_nil }

section Sound

variable {kernel : Kernel} {initial : Finset Int} {lost : List Int} {before after : Host}

theorem Host.Same.holds_iff (same : before.Same after) (sd : Int) :
    after.Holds sd ↔ before.Holds sd := by
  simp only [Host.Holds, same.sockets]

theorem Host.Sound.allocate_new (sound : before.Sound initial lost) (kernel : Kernel) :
    kernel.allocate before.descriptors ∉ initial ∧
      ¬ before.Holds (kernel.allocate before.descriptors) ∧
        kernel.allocate before.descriptors ∉ lost := by
  have new := kernel.fresh before.descriptors
  rw [sound.open_iff, not_or, not_or] at new
  exact new

theorem Host.Sound.of_same (sound : before.Sound initial lost) (same : before.Same after)
    (descriptors : after.descriptors = before.descriptors) : after.Sound initial lost where
  bound := same.sockets ▸ sound.bound
  nonneg := same.sockets ▸ sound.nonneg
  own := same.sockets ▸ sound.own
  addressed := same.sockets ▸ same.addresses ▸ sound.addressed
  ownAddress := same.sockets ▸ sound.ownAddress
  open_iff sd := by rw [descriptors, sound.open_iff, same.holds_iff]
  fromBefore sd member := by
    rw [same.holds_iff]
    exact sound.fromBefore sd member
  notHeld sd member := by
    rw [same.holds_iff]
    exact sound.notHeld sd member
  lostOnce := sound.lostOnce

/-- An open that fails with a descriptor loses it. -/
theorem Host.Sound.lose (sound : before.Sound initial lost) (same : before.Same after)
    (descriptors : after.descriptors =
      insert (kernel.allocate before.descriptors) before.descriptors) :
    after.Sound initial (lost ++ [kernel.allocate before.descriptors]) := by
  obtain ⟨notInitial, notHolds, notLost⟩ := sound.allocate_new kernel
  exact {
    bound := same.sockets ▸ sound.bound
    nonneg := same.sockets ▸ sound.nonneg
    own := same.sockets ▸ sound.own
    addressed := same.sockets ▸ same.addresses ▸ sound.addressed
    ownAddress := same.sockets ▸ sound.ownAddress
    open_iff := fun sd => by
      rw [descriptors, Finset.mem_insert, sound.open_iff, same.holds_iff, List.mem_append,
        List.mem_singleton]
      tauto
    fromBefore := fun sd member => by
      refine ⟨(same.holds_iff sd).not.mpr (sound.fromBefore sd member).1, ?_⟩
      rw [List.mem_append, List.mem_singleton, not_or]
      exact ⟨(sound.fromBefore sd member).2, fun same => notInitial (same ▸ member)⟩
    notHeld := fun sd member => by
      rw [same.holds_iff]
      rcases List.mem_append.mp member with earlier | now
      · exact sound.notHeld sd earlier
      · rw [List.mem_singleton.mp now]
        exact notHolds
    lostOnce := by
      refine List.nodup_append.mpr ⟨sound.lostOnce, List.nodup_singleton _, ?_⟩
      intro sd earlier last now same
      rw [List.mem_singleton.mp now] at same
      exact notLost (same ▸ earlier) }

/-- A new socket has a descriptor and an address string of its own. -/
theorem Host.Sound.add (sound : before.Sound initial lost) {s : Address} {cell : SocketStruct}
    (fresh : before.sockets.read s = none)
    (sockets : after.sockets.read = Function.update before.sockets.read s (some cell))
    (bound : cell.cookie = magicCookie) (sd : cell.sd = kernel.allocate before.descriptors)
    (descriptors : after.descriptors =
      insert (kernel.allocate before.descriptors) before.descriptors)
    (address : cell.ipAddr = none ∧ after.addresses = before.addresses ∨
      ∃ text, cell.ipAddr = some before.addresses.bound ∧
        after.addresses = (before.addresses.malloc text).2) :
    after.Sound initial lost := by
  -- A socket of the new memory is the new one, or an old one at another address.
  have cases : ∀ t other, after.sockets.read t = some other ↔
      t = s ∧ other = cell ∨ t ≠ s ∧ before.sockets.read t = some other := by
    intro t other
    rw [sockets, Function.update_apply]
    split_ifs with same
    · simp only [Option.some.injEq, same, true_and, ne_eq, not_true, false_and, or_false]
      exact eq_comm
    · simp only [same, false_and, ne_eq, not_false_eq_true, true_and, false_or]
  have old : ∀ t other, before.sockets.read t = some other → t ≠ s :=
    fun t other live same =>
      absurd (fresh.symm.trans (same ▸ live)) (Option.some_ne_none other).symm
  obtain ⟨notInitial, notHolds, notLost⟩ := sound.allocate_new kernel
  rw [← sd] at notInitial notHolds notLost
  have holds : ∀ number, after.Holds number ↔ number = cell.sd ∨ before.Holds number := by
    intro number
    constructor
    · rintro ⟨t, other, live, isNumber⟩
      rcases (cases t other).mp live with ⟨-, rfl⟩ | ⟨-, earlier⟩
      · exact Or.inl isNumber.symm
      · exact Or.inr ⟨t, other, earlier, isNumber⟩
    · rintro (rfl | ⟨t, other, live, isNumber⟩)
      · exact ⟨s, cell, (cases s cell).mpr (Or.inl ⟨rfl, rfl⟩), rfl⟩
      · exact ⟨t, other, (cases t other).mpr (Or.inr ⟨old t other live, live⟩), isNumber⟩
  have unshared : ∀ t other, before.sockets.read t = some other → other.sd ≠ cell.sd :=
    fun t other live same => notHolds ⟨t, other, live, same⟩
  have newString : ∀ t other ip, before.sockets.read t = some other → other.ipAddr = some ip →
      cell.ipAddr ≠ some ip := by
    intro t other ip live owns same
    obtain ⟨text, isText⟩ :=
      Option.isSome_iff_exists.mp ((sound.addressed ip).mpr ⟨t, other, live, owns⟩)
    rcases address with ⟨noString, -⟩ | ⟨text, string, -⟩
    · exact absurd (noString.symm.trans same) (Option.some_ne_none ip).symm
    · have below := before.addresses.lt_bound_of_read isText
      rw [Option.some.inj (string.symm.trans same)] at below
      exact Nat.lt_irrefl ip below
  have strings : ∀ ip, (after.addresses.read ip).isSome ↔
      cell.ipAddr = some ip ∨ (before.addresses.read ip).isSome := by
    intro ip
    rcases address with ⟨noString, same⟩ | ⟨text, string, grown⟩
    · rw [noString, same]
      simp only [reduceCtorEq, false_or]
    · rw [string, grown, Heap.read_malloc, Function.update_apply]
      split_ifs with same
      · simp only [same, Option.isSome_some, true_or]
      · simp only [Option.some.injEq, Ne.symm same, false_or]
  exact {
    bound := fun t other live => by
      rcases (cases t other).mp live with ⟨-, rfl⟩ | ⟨-, earlier⟩
      · exact bound
      · exact sound.bound t other earlier
    nonneg := fun t other live => by
      rcases (cases t other).mp live with ⟨-, rfl⟩ | ⟨-, earlier⟩
      · exact sd ▸ kernel.nonneg before.descriptors
      · exact sound.nonneg t other earlier
    own := fun t other u third live alsoLive same => by
      rcases (cases t other).mp live with ⟨isNew, rfl⟩ | ⟨-, earlier⟩ <;>
        rcases (cases u third).mp alsoLive with ⟨alsoNew, rfl⟩ | ⟨-, alsoEarlier⟩
      · exact isNew.trans alsoNew.symm
      · exact absurd same.symm (unshared u third alsoEarlier)
      · exact absurd same (unshared t other earlier)
      · exact sound.own t other u third earlier alsoEarlier same
    addressed := fun ip => by
      rw [strings, sound.addressed]
      constructor
      · rintro (owns | ⟨t, other, live, owns⟩)
        · exact ⟨s, cell, (cases s cell).mpr (Or.inl ⟨rfl, rfl⟩), owns⟩
        · exact ⟨t, other, (cases t other).mpr (Or.inr ⟨old t other live, live⟩), owns⟩
      · rintro ⟨t, other, live, owns⟩
        rcases (cases t other).mp live with ⟨-, rfl⟩ | ⟨-, earlier⟩
        · exact Or.inl owns
        · exact Or.inr ⟨t, other, earlier, owns⟩
    ownAddress := fun t other u third ip live alsoLive owns alsoOwns => by
      rcases (cases t other).mp live with ⟨isNew, rfl⟩ | ⟨-, earlier⟩ <;>
        rcases (cases u third).mp alsoLive with ⟨alsoNew, rfl⟩ | ⟨-, alsoEarlier⟩
      · exact isNew.trans alsoNew.symm
      · exact absurd owns (newString u third ip alsoEarlier alsoOwns)
      · exact absurd alsoOwns (newString t other ip earlier owns)
      · exact sound.ownAddress t other u third ip earlier alsoEarlier owns alsoOwns
    open_iff := fun number => by
      rw [descriptors, Finset.mem_insert, sound.open_iff, holds, ← sd]
      tauto
    fromBefore := fun number member => by
      rw [holds, not_or]
      exact ⟨⟨fun same => notInitial (same ▸ member), (sound.fromBefore number member).1⟩,
        (sound.fromBefore number member).2⟩
    notHeld := fun number member => by
      rw [holds, not_or]
      exact ⟨fun same => notLost (same ▸ member), sound.notHeld number member⟩
    lostOnce := sound.lostOnce }

/-- A close takes the socket and its address string away, and the descriptor unless `shutdown`
fails. -/
theorem Host.Sound.remove (sound : before.Sound initial lost) {s : Address} {cell : SocketStruct}
    (live : before.sockets.read s = some cell) {shutdown : Bool}
    (sockets : after.sockets.read = Function.update before.sockets.read s none)
    (addresses : ∀ ip, after.addresses.read ip =
      if cell.ipAddr = some ip then none else before.addresses.read ip)
    (descriptors : after.descriptors =
      if shutdown then before.descriptors.erase cell.sd else before.descriptors) :
    after.Sound initial (if shutdown then lost else lost ++ [cell.sd]) := by
  have cases : ∀ t other, after.sockets.read t = some other ↔
      t ≠ s ∧ before.sockets.read t = some other := by
    intro t other
    rw [sockets, Function.update_apply]
    split_ifs with same
    · simp only [same, ne_eq, not_true, false_and]
    · simp only [same, ne_eq, not_false_eq_true, true_and]
  have held : before.Holds cell.sd := ⟨s, cell, live, rfl⟩
  have holds : ∀ number, after.Holds number ↔ number ≠ cell.sd ∧ before.Holds number := by
    intro number
    constructor
    · rintro ⟨t, other, isLive, isNumber⟩
      obtain ⟨different, earlier⟩ := (cases t other).mp isLive
      refine ⟨fun same => different ?_, t, other, earlier, isNumber⟩
      exact sound.own t other s cell earlier live (isNumber.trans same)
    · rintro ⟨different, t, other, isLive, isNumber⟩
      refine ⟨t, other, (cases t other).mpr ⟨fun same => different ?_, isLive⟩, isNumber⟩
      rw [same, live] at isLive
      rw [← isNumber, Option.some.inj isLive]
  have notInitial : cell.sd ∉ initial := fun member => (sound.fromBefore _ member).1 held
  have notLost : cell.sd ∉ lost := fun member => sound.notHeld _ member held
  have lostNow : ∀ number, number ∈ (if shutdown then lost else lost ++ [cell.sd]) ↔
      number ∈ lost ∨ shutdown = false ∧ number = cell.sd := by
    intro number
    cases shutdown <;> simp
  exact {
    bound := fun t other isLive => sound.bound t other ((cases t other).mp isLive).2
    nonneg := fun t other isLive => sound.nonneg t other ((cases t other).mp isLive).2
    own := fun t other u third isLive alsoLive same =>
      sound.own t other u third ((cases t other).mp isLive).2 ((cases u third).mp alsoLive).2 same
    addressed := fun ip => by
      rw [addresses]
      split_ifs with owns
      · simp only [Option.isSome_none, Bool.false_eq_true, false_iff]
        rintro ⟨t, other, isLive, alsoOwns⟩
        obtain ⟨different, earlier⟩ := (cases t other).mp isLive
        exact different (sound.ownAddress t other s cell ip earlier live alsoOwns owns)
      · rw [sound.addressed]
        constructor
        · rintro ⟨t, other, isLive, alsoOwns⟩
          refine ⟨t, other, (cases t other).mpr ⟨fun same => owns ?_, isLive⟩, alsoOwns⟩
          rw [same, live] at isLive
          exact Option.some.inj isLive ▸ alsoOwns
        · rintro ⟨t, other, isLive, alsoOwns⟩
          exact ⟨t, other, ((cases t other).mp isLive).2, alsoOwns⟩
    ownAddress := fun t other u third ip isLive alsoLive =>
      sound.ownAddress t other u third ip ((cases t other).mp isLive).2
        ((cases u third).mp alsoLive).2
    open_iff := fun number => by
      rw [descriptors, holds, lostNow]
      cases shutdown with
      | true =>
        rw [if_pos rfl, Finset.mem_erase, sound.open_iff]
        grind
      | false =>
        rw [if_neg Bool.false_ne_true, sound.open_iff]
        grind
    fromBefore := fun number member => by
      rw [holds, lostNow]
      obtain ⟨notHeld, notBefore⟩ := sound.fromBefore number member
      refine ⟨fun stillHeld => notHeld stillHeld.2, not_or.mpr ⟨notBefore, fun now => ?_⟩⟩
      exact notInitial (now.2 ▸ member)
    notHeld := fun number member => by
      rw [holds]
      rcases (lostNow number).mp member with earlier | now
      · exact fun stillHeld => sound.notHeld number earlier stillHeld.2
      · exact fun stillHeld => stillHeld.1 now.2
    lostOnce := by
      cases shutdown with
      | true => exact sound.lostOnce
      | false =>
        rw [if_neg Bool.false_ne_true]
        refine List.nodup_append.mpr ⟨sound.lostOnce, List.nodup_singleton _, ?_⟩
        intro sd earlier last now same
        rw [List.mem_singleton.mp now] at same
        exact notLost (same ▸ earlier) }

end Sound

/-! ### Programs -/

/-- A process that keeps its sockets in numbered variables. -/
structure SocketProgram where
  host : Host
  pointers : Nat → Pointer

/-- A call of the library. The variable that an open assigns, and the one whose socket a function
takes, are given by their numbers. -/
inductive SocketCall where
  | passiveOpen (sock : Nat) (port : Int) (input : PassiveInput)
  | activeOpen (sock : Nat) (remotePort : Int) (remoteIp : Option (List Char))
    (input : ActiveInput)
  | waitForConnection (socket newSocket : Nat) (input : WaitInput)
  | close (socket : Nat) (shutdown : Bool)
  | send (socket : Nat) (size : Nat) (result : Sendto)
  | receive (socket : Nat) {size : Nat} (field : Field size) (recv : Recv)
  | getIpAddr (socket : Nat) (ipAddr : Pointer)
  | getPort (socket : Nat) (port : Int)
  | getSd (socket : Nat) (sd : Int)

/-- The variable with the socket that a function takes. -/
def SocketCall.socket : SocketCall → Option Nat
  | .passiveOpen _ _ _ => none
  | .activeOpen _ _ _ _ => none
  | .waitForConnection socket _ _ => some socket
  | .close socket _ => some socket
  | .send socket _ _ => some socket
  | .receive socket _ _ => some socket
  | .getIpAddr socket _ => some socket
  | .getPort socket _ => some socket
  | .getSd socket _ => some socket

/-- What a call leaves behind when it was given a variable to assign. -/
def SocketProgram.keep (program : SocketProgram) (sock : Nat) (outcome : SocketOutcome) :
    TcpStatus × SocketProgram :=
  (outcome.status, {
    host := outcome.host
    pointers := (outcome.assigned.map (Function.update program.pointers sock)).getD
      program.pointers })

/-- The return code of a call, and the process after it. -/
def SocketProgram.call (kernel : Kernel) (program : SocketProgram) :
    SocketCall → Option (TcpStatus × SocketProgram)
  | .passiveOpen sock port input =>
    (tcpPassiveOpen kernel program.host port input).map (program.keep sock)
  | .activeOpen sock remotePort remoteIp input =>
    (tcpActiveOpen kernel program.host remotePort remoteIp input).map (program.keep sock)
  | .waitForConnection socket newSocket input =>
    (tcpWaitForConnection kernel program.host (program.pointers socket) input).map
      (program.keep newSocket)
  | .close socket shutdown =>
    (tcpClose program.host (program.pointers socket) shutdown).map (program.keep socket)
  | .send socket size result =>
    (tcpSendAt program.host (program.pointers socket) size result).map
      fun answer => (answer.1, program)
  | .receive socket field recv =>
    (tcpReceiveAt program.host (program.pointers socket) field recv).map
      fun answer => (answer.1, program)
  | .getIpAddr socket ipAddr =>
    (tcpGetIpAddr program.host (program.pointers socket) ipAddr).map
      fun answer => (answer.1, program)
  | .getPort socket port =>
    (tcpGetPort program.host (program.pointers socket) port).map
      fun answer => (answer.1, program)
  | .getSd socket sd =>
    (tcpGetSdAt program.host (program.pointers socket) sd).map
      fun answer => (answer.1, program)

/-- The process after a call. -/
def SocketProgram.step (kernel : Kernel) (program : SocketProgram) (call : SocketCall) :
    Option SocketProgram := (program.call kernel call).map Prod.snd

/-- A process that has these descriptors open, and no socket. -/
def SocketProgram.initially (descriptors : Finset Int) : SocketProgram where
  host := Host.initially descriptors
  pointers _ := none

/-- The descriptor that a call obtains or holds, and leaves open without a socket. -/
def SocketProgram.loses (kernel : Kernel) (program : SocketProgram) : SocketCall → Option Int
  | .passiveOpen _ port input =>
    if (minPort ≤ port ∧ port ≤ maxPort ∧ input.malloc ∧ input.socket) ∧
        ¬ (input.bind ∧ input.listen) then
      some (kernel.allocate program.host.descriptors)
    else none
  | .activeOpen _ remotePort remoteIp input =>
    if (minPort ≤ remotePort ∧ remotePort ≤ maxPort ∧ remoteIp ≠ none ∧ input.malloc ∧
          input.socket) ∧
        ¬ (input.inetAton ∧ input.connect ∧ input.getsockname ∧ input.mallocAddress) then
      some (kernel.allocate program.host.descriptors)
    else none
  | .waitForConnection socket _ input =>
    if program.pointers socket ≠ none ∧ (input.malloc ∧ input.accept) ∧ ¬ input.mallocAddress then
      some (kernel.allocate program.host.descriptors)
    else none
  | .close socket shutdown =>
    if shutdown then none
    else (program.pointers socket).bind fun s =>
      (program.host.sockets.read s).map SocketStruct.sd
  | .send _ _ _ => none
  | .receive _ _ _ => none
  | .getIpAddr _ _ => none
  | .getPort _ _ => none
  | .getSd _ _ => none

/-- The memory is sound, and the variables refer to different sockets in it. -/
structure SocketProgram.Sound (initial : Finset Int) (lost : List Int)
    (program : SocketProgram) : Prop where
  host : program.host.Sound initial lost
  live : ∀ sock s, program.pointers sock = some s → (program.host.sockets.read s).isSome
  distinct : ∀ first second s, program.pointers first = some s →
    program.pointers second = some s → first = second

theorem SocketProgram.sound_initially (descriptors : Finset Int) :
    (SocketProgram.initially descriptors).Sound descriptors [] where
  host := SensorGateway.sound_initially descriptors
  live _ s given := absurd given.symm (Option.some_ne_none s)
  distinct _ _ s given := absurd given.symm (Option.some_ne_none s)

section Programs

variable {kernel : Kernel} {initial : Finset Int} {lost : List Int} {program : SocketProgram}

/-- A function that assigns nothing and leaves the sockets alone. -/
theorem SocketProgram.Sound.keep_same (sound : program.Sound initial lost) {after : Host}
    {nowLost : List Int} (same : program.host.Same after) (kept : after.Sound initial nowLost)
    (status : TcpStatus) (sock : Nat) :
    (program.keep sock ⟨status, none, after⟩).2.Sound initial nowLost where
  host := kept
  live place s given := by
    show (after.sockets.read s).isSome
    rw [same.sockets]
    exact sound.live place s given
  distinct := sound.distinct

/-- An open keeps a process sound, and loses what it obtained without completing. -/
theorem SocketProgram.Sound.keep_opens (sound : program.Sound initial lost)
    {obtains completes : Prop} [Decidable (obtains ∧ ¬ completes)] {outcome : SocketOutcome}
    (opens : Opens kernel program.host obtains completes outcome) (sock : Nat) :
    outcome.status ≠ .socketError ∧
      (program.keep sock outcome).2.Sound initial
        (lost ++ (if obtains ∧ ¬ completes then
          some (kernel.allocate program.host.descriptors) else none).toList) := by
  have noError : ∀ status ∈ openErrors, status ≠ .socketError := by decide
  obtain ⟨status, assigned, after⟩ := outcome
  cases opens with
  | refused nothing failed kept same descriptors =>
    rw [if_neg fun both => nothing both.1, Option.toList_none, List.append_nil]
    obtain rfl := kept
    exact ⟨noError _ failed,
      sound.keep_same same (sound.host.of_same same descriptors) status sock⟩
  | lost obtained stopped failed kept same descriptors =>
    rw [if_pos ⟨obtained, stopped⟩, Option.toList_some]
    obtain rfl := kept
    exact ⟨noError _ failed,
      sound.keep_same same (sound.host.lose same descriptors) status sock⟩
  | opened obtained completed succeeded s cell assigned fresh sockets bound sd descriptors
      address =>
    rw [if_neg fun both => both.2 completed, Option.toList_none, List.append_nil]
    subst assigned succeeded
    have dead : ∀ place t, program.pointers place = some t → t ≠ s := by
      intro place t given same
      have live := sound.live place t given
      rw [same, fresh] at live
      exact Bool.false_ne_true live
    -- A variable that is set refers to the new socket, or to what it referred to before.
    have cases : ∀ place t, Function.update program.pointers sock (some s) place = some t →
        place = sock ∧ t = s ∨ program.pointers place = some t := by
      intro place t given
      rw [Function.update_apply] at given
      split_ifs at given with same
      · exact Or.inl ⟨same, (Option.some.inj given).symm⟩
      · exact Or.inr given
    have isNoError : TcpStatus.noError ≠ .socketError := by decide
    refine ⟨isNoError, ?_, ?_, ?_⟩
    · exact sound.host.add fresh sockets bound sd descriptors address
    · intro place t given
      show (after.sockets.read t).isSome
      rw [sockets]
      rcases cases place t given with ⟨-, rfl⟩ | earlier
      · rw [Function.update_self, Option.isSome_some]
      · rw [Function.update_of_ne (dead place t earlier)]
        exact sound.live place t earlier
    · intro first second t given alsoGiven
      rcases cases first t given with ⟨isSock, rfl⟩ | earlier <;>
        rcases cases second _ alsoGiven with ⟨alsoSock, same⟩ | alsoEarlier
      · exact isSock.trans alsoSock.symm
      · exact absurd rfl (dead second _ alsoEarlier)
      · exact absurd same (dead first t earlier)
      · exact sound.distinct first second t earlier alsoEarlier

/-- A close keeps a process sound, and loses the descriptor if `shutdown` fails. -/
theorem SocketProgram.Sound.close (sound : program.Sound initial lost) {socket : Nat}
    {s : Address} (given : program.pointers socket = some s) (shutdown : Bool) :
    ∃ next, program.call kernel (.close socket shutdown) = some (.noError, next) ∧
      next.Sound initial
        (lost ++ (program.loses kernel (.close socket shutdown)).toList) := by
  obtain ⟨cell, live⟩ := Option.isSome_iff_exists.mp (sound.live socket s given)
  have owned : ∀ ip, cell.ipAddr = some ip → ∃ text, program.host.addresses.read ip = some text :=
    fun ip owns => Option.isSome_iff_exists.mp
      ((sound.host.addressed ip).mpr ⟨s, cell, live, owns⟩)
  obtain ⟨after, closed, sockets, addresses, descriptors⟩ :=
    tcpClose_of_live live (sound.host.bound s cell live) (sound.host.nonneg s cell live) owned
      shutdown
  have kept := sound.host.remove live sockets addresses descriptors
  have nowLost : lost ++ (program.loses kernel (.close socket shutdown)).toList =
      if shutdown then lost else lost ++ [cell.sd] := by
    cases shutdown <;> simp [SocketProgram.loses, given, live]
  have cases : ∀ place t, Function.update program.pointers socket none place = some t →
      place ≠ socket ∧ program.pointers place = some t := by
    intro place t still
    rw [Function.update_apply] at still
    split_ifs at still with same
    exact ⟨same, still⟩
  refine ⟨{ host := after, pointers := Function.update program.pointers socket none }, ?_, ?_⟩
  · rw [SocketProgram.call, given, closed]
    rfl
  · rw [nowLost]
    refine ⟨kept, fun place t still => ?_, fun first second t still alsoStill => ?_⟩
    · obtain ⟨different, earlier⟩ := cases place t still
      show (after.sockets.read t).isSome
      have other : t ≠ s := fun same =>
        different (sound.distinct place socket s (same ▸ earlier) given)
      rw [sockets, Function.update_of_ne other]
      exact sound.live place t earlier
    · exact sound.distinct first second t (cases first t still).2 (cases second t alsoStill).2

/-- A function that takes a socket finds it bound, or NULL. -/
theorem SocketProgram.Sound.ask (sound : program.Sound initial lost) (socket : Nat)
    {Answer : Type} (before : Answer) (answer : SocketStruct → TcpStatus × Answer)
    (answers : ∀ cell, cell.cookie = magicCookie → (answer cell).1 ≠ .socketError) :
    ∃ result, program.host.ask (program.pointers socket) before answer = some result ∧
      (result.1 = .socketError ↔ program.pointers socket = none) := by
  cases given : program.pointers socket with
  | none => exact ⟨_, rfl, iff_of_true rfl rfl⟩
  | some s =>
    obtain ⟨cell, live⟩ := Option.isSome_iff_exists.mp (sound.live socket s given)
    have bound := sound.host.bound s cell live
    refine ⟨answer cell, ?_, iff_of_false (answers cell bound) (Option.some_ne_none s)⟩
    simp only [Host.ask, live, Option.bind_eq_bind, Option.bind_some, bound, ne_eq, not_true,
      if_false]

theorem tcpSend_ne_socketError {socket : Tcpsock} (bound : socket.cookie = magicCookie)
    (size : Nat) (result : Sendto) : (tcpSend socket size result).1 ≠ .socketError := by
  unfold tcpSend
  rw [if_neg (not_not.mpr bound)]
  split_ifs <;> simp only [ne_eq, reduceCtorEq, not_false_eq_true]

theorem tcpReceive_ne_socketError {socket : Tcpsock} (bound : socket.cookie = magicCookie)
    {size : Nat} (field : Field size) (recv : Recv) :
    (tcpReceive socket field recv).1 ≠ .socketError := by
  unfold tcpReceive
  rw [if_neg (not_not.mpr bound)]
  split_ifs <;> simp only [ne_eq, reduceCtorEq, not_false_eq_true]

/-- A call that leaves the process as it is. -/
theorem SocketProgram.Sound.unchanged (sound : program.Sound initial lost) {socket : Nat}
    {Answer : Type} {asked : Option (TcpStatus × Answer)}
    (answers : ∃ result, asked = some result ∧
      (result.1 = .socketError ↔ program.pointers socket = none)) :
    ∃ status next, asked.map (fun answer => (answer.1, program)) = some (status, next) ∧
      (status = .socketError ↔ ∃ place ∈ some socket, program.pointers place = none) ∧
      next.Sound initial (lost ++ (none : Option Int).toList) := by
  obtain ⟨result, isResult, error_iff⟩ := answers
  refine ⟨result.1, program, by rw [isResult, Option.map_some], ?_, ?_⟩
  · simp only [error_iff, Option.mem_some_iff, exists_eq_left']
  · rw [Option.toList_none, List.append_nil]
    exact sound

/-- A call of a sound process runs and leaves it sound. -/
theorem SocketProgram.Sound.call (kernel : Kernel) (sound : program.Sound initial lost)
    (call : SocketCall) :
    ∃ status next, program.call kernel call = some (status, next) ∧
      (status = .socketError ↔ ∃ socket ∈ call.socket, program.pointers socket = none) ∧
      next.Sound initial (lost ++ (program.loses kernel call).toList) := by
  have isNoError : TcpStatus.noError ≠ .socketError := by decide
  cases call with
  | passiveOpen sock port input =>
    obtain ⟨outcome, ran, opens⟩ := tcpPassiveOpen_opens kernel program.host port input
    obtain ⟨bound, kept⟩ := sound.keep_opens opens sock
    refine ⟨outcome.status, _, ?_, iff_of_false bound ?_, kept⟩
    · rw [SocketProgram.call, ran]
      rfl
    · exact fun ⟨socket, member, _⟩ => absurd member (Option.not_mem_none socket)
  | activeOpen sock remotePort remoteIp input =>
    obtain ⟨outcome, ran, opens⟩ :=
      tcpActiveOpen_opens kernel program.host remotePort remoteIp input
    obtain ⟨bound, kept⟩ := sound.keep_opens opens sock
    refine ⟨outcome.status, _, ?_, iff_of_false bound ?_, kept⟩
    · rw [SocketProgram.call, ran]
      rfl
    · exact fun ⟨socket, member, _⟩ => absurd member (Option.not_mem_none socket)
  | waitForConnection socket newSocket input =>
    simp only [SocketCall.socket, Option.mem_some_iff, exists_eq_left']
    cases given : program.pointers socket with
    | none =>
      refine ⟨.socketError, program, ?_, iff_of_true rfl rfl, ?_⟩
      · rw [SocketProgram.call, given]
        rfl
      · simp only [SocketProgram.loses, given, ne_eq, not_true, false_and, if_false,
          Option.toList_none, List.append_nil]
        exact sound
    | some s =>
      obtain ⟨cell, live⟩ := Option.isSome_iff_exists.mp (sound.live socket s given)
      obtain ⟨outcome, ran, opens⟩ := tcpWaitForConnection_opens kernel live
        (sound.host.bound s cell live) input
      obtain ⟨bound, kept⟩ := sound.keep_opens opens newSocket
      refine ⟨outcome.status, (program.keep newSocket outcome).2, ?_,
        iff_of_false bound (Option.some_ne_none s), ?_⟩
      · rw [SocketProgram.call, given, ran]
        rfl
      · simp only [SocketProgram.loses, given, ne_eq, reduceCtorEq, not_false_eq_true, true_and]
        exact kept
  | close socket shutdown =>
    simp only [SocketCall.socket, Option.mem_some_iff, exists_eq_left']
    cases given : program.pointers socket with
    | none =>
      refine ⟨.socketError, program, ?_, iff_of_true rfl rfl, ?_⟩
      · rw [SocketProgram.call, given]
        rfl
      · simp only [SocketProgram.loses, given, Option.bind_none, ite_self, Option.toList_none,
          List.append_nil]
        exact sound
    | some s =>
      obtain ⟨next, ran, kept⟩ := sound.close given shutdown
      exact ⟨.noError, next, ran, iff_of_false isNoError (Option.some_ne_none s), kept⟩
  | send socket size result =>
    exact sound.unchanged (sound.ask socket _ _ fun cell bound =>
      tcpSend_ne_socketError bound size result)
  | receive socket field recv =>
    exact sound.unchanged (sound.ask socket _ _ fun cell bound =>
      tcpReceive_ne_socketError bound field recv)
  | getIpAddr socket ipAddr =>
    exact sound.unchanged (sound.ask socket _ _ fun cell bound => isNoError)
  | getPort socket port =>
    exact sound.unchanged (sound.ask socket _ _ fun cell bound => isNoError)
  | getSd socket sd =>
    exact sound.unchanged (sound.ask socket _ _ fun cell bound => isNoError)

/-- The descriptors that a run of calls loses, in their order. -/
def SocketProgram.losses (kernel : Kernel) (program : SocketProgram) (calls : List SocketCall) :
    List Int :=
  (Runs.transitions (SocketProgram.step kernel) program calls).filterMap fun transition =>
    transition.before.loses kernel transition.event

theorem SocketProgram.Sound.run (sound : program.Sound initial lost) (calls : List SocketCall) :
    ∃ last, Runs.complete (SocketProgram.step kernel) program calls = some last ∧
      last.Sound initial (lost ++ program.losses kernel calls) ∧
      ∀ attempt ∈ Runs.attempts (SocketProgram.step kernel) program calls,
        ∃ earlier, attempt.1.Sound initial earlier := by
  induction calls generalizing program lost with
  | nil =>
    refine ⟨program, rfl, ?_, fun attempt member => absurd member List.not_mem_nil⟩
    rw [SocketProgram.losses, Runs.transitions, List.filterMap_nil, List.append_nil]
    exact sound
  | cons call rest inductionHypothesis =>
    obtain ⟨status, next, ran, -, kept⟩ := sound.call kernel call
    have taken : program.step kernel call = some next := by
      rw [SocketProgram.step, ran, Option.map_some]
    obtain ⟨last, ranRest, isSound, attempts⟩ := inductionHypothesis kept
    refine ⟨last, ?_, ?_, ?_⟩
    · rw [Runs.complete, taken, Option.bind_some, ranRest]
    · rw [SocketProgram.losses, Runs.transitions_cons_of_some taken]
      rw [SocketProgram.losses] at isSound
      cases loses : program.loses kernel call with
      | none =>
        rw [loses, Option.toList_none, List.append_nil] at isSound
        simp only [List.filterMap_cons, loses]
        exact isSound
      | some sd =>
        rw [loses, Option.toList_some, List.append_assoc, List.singleton_append] at isSound
        simp only [List.filterMap_cons, loses]
        exact isSound
    · rw [Runs.attempts, taken]
      exact List.forall_mem_cons.mpr ⟨⟨lost, sound⟩, attempts⟩

end Programs

/-! ### The results -/

/-- No program goes wrong in the socket library: every call runs, and it answers SOCKET_ERROR
exactly when the socket it takes is NULL. -/
theorem socket_calls_run (kernel : Kernel) (descriptors : Finset Int) (calls : List SocketCall) :
    (Runs.complete (SocketProgram.step kernel) (SocketProgram.initially descriptors)
      calls).isSome ∧
    ∀ attempt ∈ Runs.attempts (SocketProgram.step kernel) (SocketProgram.initially descriptors)
        calls,
      ∃ status next, attempt.1.call kernel attempt.2 = some (status, next) ∧
        (status = .socketError ↔
          ∃ socket ∈ attempt.2.socket, attempt.1.pointers socket = none) := by
  obtain ⟨last, ran, -, attempts⟩ :=
    (SocketProgram.sound_initially descriptors).run calls
  refine ⟨Option.isSome_iff_exists.mpr ⟨last, ran⟩, fun attempt member => ?_⟩
  obtain ⟨lost, sound⟩ := attempts attempt member
  obtain ⟨status, next, answered, error_iff, -⟩ := sound.call kernel attempt.2
  exact ⟨status, next, answered, error_iff⟩

/-- After any calls, the open descriptors are those from before, one for each socket in memory,
and those lost by opens that failed half way and by closes that could not shut down; the three
kinds are disjoint, and no two sockets share a descriptor or an address string. -/
theorem socket_descriptors_accounted (kernel : Kernel) (descriptors : Finset Int)
    (calls : List SocketCall) :
    ∃ last, Runs.complete (SocketProgram.step kernel) (SocketProgram.initially descriptors)
        calls = some last ∧
      last.host.Sound descriptors
        ((SocketProgram.initially descriptors).losses kernel calls) := by
  obtain ⟨last, ran, sound, -⟩ := (SocketProgram.sound_initially descriptors).run calls
  exact ⟨last, ran, sound.host⟩

end SensorGateway
