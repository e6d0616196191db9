/-
This file models the event log: `write_pipe`, through which the threads of the gateway
send their messages, and the loop of the log process, which reads the pipe into a
buffer of PIPE_SIZE bytes and prints the buffer as one C string for each read.

The writer frames messages by a terminating NUL, the reader takes each read for one
message. The pipe delivers the stream in chunks of any length up to PIPE_SIZE. The log
is faithful when every read delivers exactly one message with its NUL; for nonempty
messages, and every message of the gateway starts with a time stamp, it is faithful
only then.

The closing line uses the undeclared name `sequence`; it is read as `seq_num`.
-/

import SensorGateway.Library.Framing

namespace SensorGateway

/-- The number of bytes one `read` of the log process asks for. -/
def pipeSize : Nat := 100

/-- The C string at the start of a piece of memory: the bytes before the first NUL. -/
def cString (memory : List UInt8) : List UInt8 := memory.takeWhile (· ≠ 0)

/-- A NUL-free message. -/
structure Message where
  bytes : List UInt8
  nulFree : 0 ∉ bytes

/-- Append a C string and its NUL to the pipe. -/
def writePipe (pipe buff : List UInt8) : List UInt8 :=
  pipe ++ buff.take ((cString buff).length + 1)

/-- The stream in the pipe after the messages, each handed over as a NUL-terminated buffer. -/
def pipeOf (messages : List Message) : List UInt8 :=
  messages.foldl (fun pipe message => writePipe pipe (message.bytes ++ [0])) []

/-- The reads of a stream: nonempty chunks of at most PIPE_SIZE bytes. -/
structure Delivery (stream : List UInt8) where
  chunks : List (List UInt8)
  nonempty : ∀ chunk ∈ chunks, chunk ≠ []
  short : ∀ chunk ∈ chunks, chunk.length ≤ pipeSize
  whole : chunks.flatten = stream

/-- The bytes of a text. -/
def ascii (text : String) : List UInt8 := text.toList.map fun symbol => symbol.toNat.toUInt8

/-- A line of the log: `asprintf(&buf, "%d %s\n", seq_num, recv_buf)`. -/
def eventLine (seqNum : Nat) (text : List UInt8) : List UInt8 :=
  ascii (toString seqNum) ++ ascii " " ++ text ++ ascii "\n"

/-- How the reading of the pipe ended: `res` is 0 or -1. -/
inductive ReadEnd where
  | terminated
  | failed
  deriving DecidableEq, Repr

/-- The last line of the log. -/
def closingLine (seqNum : Nat) (time : Int) : ReadEnd → List UInt8
  | .terminated => ascii (toString seqNum ++ " " ++ toString time ++ " Pipe terminated normally\n")
  | .failed => ascii (toString seqNum ++ " " ++ toString time ++ " Read from pipe fail\n")

/-- One iteration of the log loop: what `read` delivered, the text printed, the line written. -/
structure LogEntry where
  received : List UInt8
  text : List UInt8
  line : List UInt8

/-- The log loop. A read overwrites the front of `recv_buf`; the text printed is the C string
that starts there, which runs on into the memory beyond the buffer when it finds no NUL. -/
def logLoop (beyond : List UInt8) : Nat → List UInt8 → List (List UInt8) → List LogEntry
  | _, _, [] => []
  | seqNum, recvBuf, chunk :: rest =>
    let recvBuf := chunk ++ recvBuf.drop chunk.length
    let text := cString (recvBuf ++ beyond)
    ⟨chunk, text, eventLine seqNum text⟩ :: logLoop beyond (seqNum + 1) recvBuf rest

/-- The lines the log process writes to its file. -/
def logFile (beyond recvBuf : List UInt8) (chunks : List (List UInt8)) (ending : ReadEnd)
    (time : Int) : List (List UInt8) :=
  let entries := logLoop beyond 0 recvBuf chunks
  entries.map LogEntry.line ++ [closingLine entries.length time ending]

/-- The lines that record the messages one by one, numbered from `seqNum` on. -/
def eventLines : Nat → List Message → List (List UInt8)
  | _, [] => []
  | seqNum, message :: rest => eventLine seqNum message.bytes :: eventLines (seqNum + 1) rest

/-- The log records every message under its number, then the closing line, and prints no byte
that the read of its line did not deliver. -/
structure Faithful (messages : List Message) (beyond recvBuf : List UInt8)
    (chunks : List (List UInt8)) (time : Int) : Prop where
  lines : logFile beyond recvBuf chunks .terminated time =
    eventLines 0 messages ++ [closingLine messages.length time .terminated]
  delivered : ∀ entry ∈ logLoop beyond 0 recvBuf chunks, entry.text <+: entry.received

/-- Every read delivers one message with its NUL. -/
def OneMessagePerRead (messages : List Message) (chunks : List (List UInt8)) : Prop :=
  chunks = messages.map fun message => message.bytes ++ [0]

/-! ### The framing of the writer -/

theorem cString_append_nul {text : List UInt8} (clean : 0 ∉ text) (rest : List UInt8) :
    cString (text ++ 0 :: rest) = text := by
  have nonzero : ∀ byte ∈ text, (decide (byte ≠ 0)) = true := fun byte member =>
    decide_eq_true fun zero => clean (zero ▸ member)
  rw [cString, List.takeWhile_append_of_pos nonzero, List.takeWhile_cons_of_neg (by simp),
    List.append_nil]

/-- `write_pipe` sends a message with its NUL. -/
theorem writePipe_message (pipe : List UInt8) (message : Message) :
    writePipe pipe (message.bytes ++ [0]) = pipe ++ (message.bytes ++ [0]) := by
  unfold writePipe
  rw [cString_append_nul message.nulFree, List.take_of_length_le (by simp)]

theorem pipeOf_eq_stream (messages : List Message) :
    pipeOf messages = Framing.stream 0 (messages.map Message.bytes) := by
  suffices general : ∀ pipe, messages.foldl
      (fun pipe message => writePipe pipe (message.bytes ++ [0])) pipe =
        pipe ++ Framing.stream 0 (messages.map Message.bytes) by
    exact (general []).trans (List.nil_append _)
  induction messages with
  | nil => simp [Framing.stream]
  | cons message rest inductionHypothesis =>
    intro pipe
    rw [List.foldl_cons, writePipe_message, inductionHypothesis, List.map_cons,
      Framing.stream_cons, List.append_assoc, List.append_assoc, List.singleton_append]

/-! ### The lines of the reader -/

theorem logLoop_length (beyond : List UInt8) (seqNum : Nat) (recvBuf : List UInt8)
    (chunks : List (List UInt8)) :
    (logLoop beyond seqNum recvBuf chunks).length = chunks.length := by
  induction chunks generalizing seqNum recvBuf with
  | nil => rfl
  | cons chunk rest inductionHypothesis =>
    rw [logLoop, List.length_cons, List.length_cons, inductionHypothesis]

/-- Two lines with one number are equal only if their texts are. -/
theorem eventLine_injective {seqNum : Nat} {first second : List UInt8}
    (same : eventLine seqNum first = eventLine seqNum second) : first = second :=
  List.append_cancel_left (List.append_cancel_right same)

/-- When each read delivers one message, each line records one message. -/
theorem logLoop_of_oneMessagePerRead (beyond : List UInt8) (messages : List Message)
    (seqNum : Nat) (recvBuf : List UInt8) :
    (logLoop beyond seqNum recvBuf
        (messages.map fun message => message.bytes ++ [0])).map LogEntry.line =
      eventLines seqNum messages ∧
    ∀ entry ∈ logLoop beyond seqNum recvBuf
      (messages.map fun message => message.bytes ++ [0]), entry.text <+: entry.received := by
  induction messages generalizing seqNum recvBuf with
  | nil => exact ⟨rfl, fun entry member => absurd member List.not_mem_nil⟩
  | cons message rest inductionHypothesis =>
    rw [List.map_cons, logLoop]
    have printed (stale : List UInt8) :
        cString (message.bytes ++ [0] ++ stale ++ beyond) = message.bytes := by
      rw [List.append_assoc, List.append_assoc, List.singleton_append]
      exact cString_append_nul message.nulFree _
    simp only [printed]
    obtain ⟨lines, delivered⟩ := inductionHypothesis (seqNum + 1)
      (message.bytes ++ [0] ++ recvBuf.drop (message.bytes ++ [0]).length)
    refine ⟨?_, fun entry member => ?_⟩
    · rw [List.map_cons, lines, eventLines]
    · rcases List.mem_cons.mp member with rfl | tail
      · exact List.prefix_append _ _
      · exact delivered entry tail

/-- When the lines record the messages and print only delivered bytes, each read begins with
its message. -/
theorem reads_begin_with_messages {beyond : List UInt8} {messages : List Message} {seqNum : Nat}
    {recvBuf : List UInt8} {chunks : List (List UInt8)}
    (lines : (logLoop beyond seqNum recvBuf chunks).map LogEntry.line =
      eventLines seqNum messages)
    (delivered : ∀ entry ∈ logLoop beyond seqNum recvBuf chunks, entry.text <+: entry.received) :
    List.Forall₂ (fun text chunk => text <+: chunk) (messages.map Message.bytes) chunks := by
  induction chunks generalizing seqNum recvBuf messages with
  | nil =>
    cases messages with
    | nil => exact List.Forall₂.nil
    | cons message rest => exact absurd lines (by simp [logLoop, eventLines])
  | cons chunk others inductionHypothesis =>
    cases messages with
    | nil => exact absurd lines (by simp [logLoop, eventLines])
    | cons message rest =>
      rw [logLoop, List.map_cons, eventLines, List.cons.injEq] at lines
      rw [logLoop] at delivered
      have printed := eventLine_injective lines.1
      have head := delivered _ List.mem_cons_self
      refine List.Forall₂.cons (printed ▸ head) (inductionHypothesis lines.2 ?_)
      exact fun entry member => delivered entry (List.mem_cons_of_mem _ member)

/-! ### When the log is faithful -/

/-- The log of a stream is faithful when every read delivers one message with its NUL; and if no
message is empty, as no message of the gateway is, only then. -/
theorem log_faithful_iff (messages : List Message) (beyond recvBuf : List UInt8) (time : Int)
    (delivery : Delivery (pipeOf messages)) :
    (OneMessagePerRead messages delivery.chunks →
      Faithful messages beyond recvBuf delivery.chunks time) ∧
    ((∀ message ∈ messages, message.bytes ≠ []) →
      (Faithful messages beyond recvBuf delivery.chunks time ↔
        OneMessagePerRead messages delivery.chunks)) := by
  have enough : OneMessagePerRead messages delivery.chunks →
      Faithful messages beyond recvBuf delivery.chunks time := by
    intro aligned
    obtain ⟨lines, delivered⟩ := logLoop_of_oneMessagePerRead beyond messages 0 recvBuf
    rw [aligned]
    refine ⟨?_, delivered⟩
    simp only [logFile]
    rw [lines, logLoop_length, List.length_map]
  refine ⟨enough, fun nonempty => ⟨fun faithful => ?_, enough⟩⟩
  obtain ⟨lines, delivered⟩ := faithful
  have recorded := (List.append_singleton_inj.mp lines).1
  have begins := reads_begin_with_messages recorded delivered
  have cut : [] ++ delivery.chunks.flatten = Framing.stream 0 (messages.map Message.bytes) := by
    rw [List.nil_append, delivery.whole, pipeOf_eq_stream]
  have frames := (Framing.chunks_eq_frames ?_ ?_ begins cut).2
  · rw [OneMessagePerRead, frames, List.map_map]
    rfl
  · intro text member
    obtain ⟨message, messageMember, rfl⟩ := List.mem_map.mp member
    exact nonempty message messageMember
  · intro text member
    obtain ⟨message, -, rfl⟩ := List.mem_map.mp member
    exact message.nulFree

/-- Two messages that arrive in one read share one line, and the second is lost. -/
theorem log_merges_messages :
    ¬ ∀ (messages : List Message) (beyond recvBuf : List UInt8) (time : Int)
      (delivery : Delivery (pipeOf messages)),
      Faithful messages beyond recvBuf delivery.chunks time := by
  intro holds
  have faithful := holds [⟨[49], by decide⟩, ⟨[50], by decide⟩] [] [] 0
    ⟨[[49, 0, 50, 0]], by decide, by decide, by decide⟩
  have lengths := congrArg List.length faithful.lines
  exact absurd lengths (by decide)

end SensorGateway
