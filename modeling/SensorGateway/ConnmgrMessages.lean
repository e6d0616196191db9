/-
This file reads the connections back from the file of the log process. The messages of the
connection manager share the pipe with those of the other threads. A reader that splits the
file into lines, skips the number and the time of each line, and looks at the messages of
the sender `Connmgr` finds every connection that was registered and every one that was
ended, with its sensor, in order. The number of polled clients follows from it.

Every message of the connection manager is a line of printable characters, so no line
can be mistaken for another. What the other threads send is arbitrary, up to its sender and
to a line break that ends it; the storage manager may also call `connmgr_free`, which sends
its message as the connection manager. All this holds as long as each read of the pipe
delivers one message.
-/

import SensorGateway.ConnmgrEnd
import SensorGateway.Datamgr
import SensorGateway.EventLog
import SensorGateway.Library.Text
import SensorGateway.SensorDb

namespace SensorGateway

open Text

variable {config : Config} {layout : Layout}

/-! ### The messages -/

/-- The messages of the connection manager. -/
inductive Notice where
  | invalidPort
  | openFailed
  | started
  | refused (tcpConnRet : Int)
  | received
  | lost
  | stopped (sensor : BitVec 16)
  | closed (sensor : BitVec 16)
  | pollError
  | failedToStop
  | stoppedSuccessfully

/-- What a message says. -/
def Notice.text : Notice → String
  | .invalidPort => "Invalid port "
  | .openFailed => "open tcp socket failed "
  | .started => "Start successfully "
  | .refused tcpConnRet => "can not accept new connection (" ++ toString tcpConnRet ++ ")"
  | .received => "received new connection"
  | .lost => "Lost connection"
  | .stopped sensor => "Stop connection to " ++ toString sensor.toNat ++ " by signal"
  | .closed sensor => "Close connection to " ++ toString sensor.toNat
  | .pollError => "Poll sockets error"
  | .failedToStop => "Failed to stop"
  | .stoppedSuccessfully => "Stopped successfully"

/-- The message as it is sent. -/
def Notice.sent (time : Int) (notice : Notice) : String :=
  toString time ++ " Connmgr: " ++ notice.text

/-- What happens to the connections: one is opened, the stop slot is emptied, and one is ended. -/
inductive ConnectionNote where
  | opened
  | stopServed
  | ended (sensor : BitVec 16)
  deriving DecidableEq

/-- What a message tells about the connections. -/
def Notice.notes : Notice → List ConnectionNote
  | .received => [.opened]
  | .stopped sensor => [.stopServed, .ended sensor]
  | .closed sensor => [.ended sensor]
  | _ => []

/-- The texts that the connection manager has sent. -/
def writtenTexts (log : List (Action layout)) : List String :=
  log.filterMap fun action =>
    match action with
    | .writePipe text => some text
    | _ => none

/-- What has happened to the connections. -/
def connectionNotes (log : List (Action layout)) : List ConnectionNote :=
  log.flatMap fun action =>
    match action with
    | .registered _ => [.opened]
    | .writeStopsig .connmgr _ => [.stopServed]
    | .dropped _ (some client) => [.ended client.sensor]
    | _ => []

/-! ### The reader -/

/-- The characters of a line. -/
def readCharacters (bytes : List UInt8) : List Char := bytes.map fun byte => Char.ofNat byte.toNat

/-- What stands behind the first space. -/
def afterSpace (text : List Char) : List Char := (text.dropWhile (· ≠ ' ')).drop 1

/-- The connection that a text names by its sensor. -/
def readEnded (text : List Char) : List ConnectionNote :=
  ((scanUnsigned text).map fun scanned => .ended scanned.1).toList

/-- Read what a message of the connection manager says. -/
def readNotice (text : List Char) : List ConnectionNote :=
  if text = "received new connection".toList then [.opened]
  else if "Stop connection to ".toList <+: text then
    .stopServed :: readEnded (text.drop "Stop connection to ".toList.length)
  else if "Close connection to ".toList <+: text then
    readEnded (text.drop "Close connection to ".toList.length)
  else []

/-- Read a line of the log: a number, a time, the sender, and what it says. -/
def readLogLine (line : List UInt8) : List ConnectionNote :=
  let message := afterSpace (afterSpace (readCharacters line))
  if "Connmgr: ".toList <+: message then readNotice (message.drop "Connmgr: ".toList.length)
  else []

/-- Read the log. -/
def readLog (file : List UInt8) : List ConnectionNote :=
  (file.splitOn 10).flatMap readLogLine

/-! ### Printable text -/

/-- A text of printable characters. -/
def Printable (text : String) : Prop :=
  ∀ character ∈ text.toList, 32 ≤ character.toNat ∧ character.toNat < 127

instance (text : String) : Decidable (Printable text) := List.decidableBAll _ _

theorem Printable.append {first second : String} (printable : Printable first)
    (also : Printable second) : Printable (first ++ second) := by
  intro character member
  rw [String.toList_append] at member
  rcases List.mem_append.mp member with inFirst | inSecond
  · exact printable character inFirst
  · exact also character inSecond

theorem toNat_of_isDigit {character : Char} (digit : character.isDigit) :
    48 ≤ character.toNat ∧ character.toNat ≤ 57 := by
  simpa [Char.isDigit, UInt32.le_iff_toNat_le] using digit

theorem isDigit_of_mem_toString {number : Nat} {character : Char}
    (member : character ∈ (toString number).toList) : character.isDigit := by
  rw [Nat.toString_eq_repr, Nat.toList_repr] at member
  exact Nat.isDigit_of_mem_toDigits (by decide) (by decide) member

/-- A number is printed with digits, and perhaps a sign. -/
theorem isDigit_or_of_mem_toString {number : Int} {character : Char}
    (member : character ∈ (toString number).toList) : character = '-' ∨ character.isDigit := by
  cases number with
  | ofNat number =>
    change character ∈ (toString number).toList at member
    exact Or.inr (isDigit_of_mem_toString member)
  | negSucc number =>
    have shown : (toString (Int.negSucc number)).toList =
        '-' :: (toString (number + 1)).toList := by
      show ("-" ++ toString (number + 1)).toList = _
      rw [String.toList_append]
      rfl
    rw [shown] at member
    exact (List.mem_cons.mp member).imp id isDigit_of_mem_toString

theorem printable_toString_nat (number : Nat) : Printable (toString number) := by
  intro character member
  have digit := toNat_of_isDigit (isDigit_of_mem_toString member)
  omega

theorem printable_toString_int (number : Int) : Printable (toString number) := by
  intro character member
  rcases isDigit_or_of_mem_toString member with rfl | digit
  · decide
  · have range := toNat_of_isDigit digit
    omega

theorem space_not_mem_toString_nat (number : Nat) : ' ' ∉ (toString number).toList := by
  intro member
  exact absurd (isDigit_of_mem_toString member) (by decide)

theorem space_not_mem_toString_int (number : Int) : ' ' ∉ (toString number).toList := by
  intro member
  rcases isDigit_or_of_mem_toString member with sign | digit
  · exact absurd sign (by decide)
  · exact absurd digit (by decide)

theorem Notice.printable_text (notice : Notice) : Printable notice.text := by
  cases notice with
  | refused tcpConnRet =>
    exact ((by decide : Printable "can not accept new connection (").append
      (printable_toString_int tcpConnRet)).append (by decide)
  | stopped sensor =>
    exact ((by decide : Printable "Stop connection to ").append
      (printable_toString_nat sensor.toNat)).append (by decide)
  | closed sensor =>
    exact (by decide : Printable "Close connection to ").append
      (printable_toString_nat sensor.toNat)
  | _ =>
    unfold Notice.text
    decide

theorem Notice.printable_sent (time : Int) (notice : Notice) : Printable (notice.sent time) :=
  ((printable_toString_int time).append (by decide)).append notice.printable_text

/-- A printable text is read as it was sent. -/
theorem readCharacters_ascii {text : String} (printable : Printable text) :
    readCharacters (ascii text) = text.toList := by
  unfold readCharacters ascii
  rw [List.map_map]
  refine (List.map_congr_left fun character member => ?_).trans (List.map_id _)
  have small := (printable character member).2
  have same : character.toNat.toUInt8.toNat = character.toNat := by
    rw [Nat.toUInt8, UInt8.toNat_ofNat']
    omega
  rw [Function.comp_apply, same, Char.ofNat_toNat]
  rfl

/-- A printable text has no control character. -/
theorem not_mem_ascii {text : String} (printable : Printable text) {byte : UInt8}
    (control : byte.toNat < 32) : byte ∉ ascii text := by
  intro member
  obtain ⟨character, present, same⟩ := List.mem_map.mp member
  have range := printable character present
  have value := congrArg UInt8.toNat same
  rw [Nat.toUInt8, UInt8.toNat_ofNat'] at value
  omega

theorem ascii_append (first second : String) :
    ascii (first ++ second) = ascii first ++ ascii second := by
  unfold ascii
  rw [String.toList_append, List.map_append]

/-! ### Reading a line -/

theorem afterSpace_append {front : List Char} (clean : ' ' ∉ front) (rest : List Char) :
    afterSpace (front ++ ' ' :: rest) = rest := by
  have other : ∀ character ∈ front, decide (character ≠ ' ') = true :=
    fun character member => decide_eq_true fun same => clean (same ▸ member)
  unfold afterSpace
  rw [List.dropWhile_append_of_pos other, List.dropWhile_cons_of_neg (by simp)]
  rfl

/-- A sensor is read back where it was printed. -/
theorem readEnded_toString (sensor : BitVec 16) {rest : List Char}
    (ends : ∀ character ∈ rest.head?, character.isDigit = false) :
    readEnded ((toString sensor.toNat).toList ++ rest) = [.ended sensor] := by
  have shown : (toString sensor.toNat).toList = printUnsigned sensor := by
    rw [Nat.toString_eq_repr, Nat.toList_repr]
    rfl
  unfold readEnded
  rw [shown, scanUnsigned_append ends]
  rfl

/-- What a message says is read back. -/
theorem readNotice_text (notice : Notice) : readNotice notice.text.toList = notice.notes := by
  cases notice with
  | refused tcpConnRet =>
    unfold Notice.text readNotice
    rw [String.toList_append, String.toList_append, if_neg (by simp), if_neg (by simp),
      if_neg (by simp)]
    rfl
  | stopped sensor =>
    unfold Notice.text readNotice
    rw [String.toList_append, String.toList_append, List.append_assoc, if_neg (by simp),
      if_pos (List.prefix_append _ _), List.drop_left,
      readEnded_toString sensor (by simp [Char.isDigit])]
    rfl
  | closed sensor =>
    unfold Notice.text readNotice
    rw [String.toList_append, if_neg (by simp), if_neg (by simp),
      if_pos (List.prefix_append _ _), List.drop_left,
      ← List.append_nil (toString sensor.toNat).toList,
      readEnded_toString sensor (by simp [Char.isDigit])]
    rfl
  | _ => rfl

/-- A line of the log, without its line break. -/
def numbered (seqNum : Nat) (text : List UInt8) : List UInt8 :=
  ascii (toString seqNum) ++ ascii " " ++ text

theorem eventLine_eq (seqNum : Nat) (text rest : List UInt8) :
    eventLine seqNum text ++ rest = numbered seqNum text ++ 10 :: rest := by
  unfold eventLine numbered
  rw [List.append_assoc]
  rfl

theorem afterSpace_numbered (seqNum : Nat) (text : List UInt8) :
    afterSpace (readCharacters (numbered seqNum text)) = readCharacters text := by
  have number := readCharacters_ascii (printable_toString_nat seqNum)
  unfold numbered readCharacters at number ⊢
  rw [List.map_append, List.map_append, number, List.append_assoc]
  exact afterSpace_append (space_not_mem_toString_nat seqNum) _

/-- The line of a message of the connection manager. -/
theorem readLogLine_sent (seqNum : Nat) (time : Int) (notice : Notice) :
    readLogLine (numbered seqNum (ascii (notice.sent time))) = notice.notes := by
  have characters : (notice.sent time).toList =
      (toString time).toList ++ ' ' :: ("Connmgr: ".toList ++ notice.text.toList) := by
    unfold Notice.sent
    rw [String.toList_append, String.toList_append, List.append_assoc]
    rfl
  unfold readLogLine
  rw [afterSpace_numbered, readCharacters_ascii (notice.printable_sent time), characters,
    afterSpace_append (space_not_mem_toString_int time)]
  dsimp only
  rw [if_pos (List.prefix_append _ _), List.drop_left, readNotice_text]

theorem numbered_clean (seqNum : Nat) {text : List UInt8} (clean : 10 ∉ text) :
    10 ∉ numbered seqNum text := by
  unfold numbered
  rw [List.mem_append, List.mem_append, not_or, not_or]
  exact ⟨⟨not_mem_ascii (printable_toString_nat seqNum) (by decide), by decide⟩, clean⟩

/-- A log is read line by line. -/
theorem readLog_cons {line : List UInt8} (clean : 10 ∉ line) (rest : List UInt8) :
    readLog (line ++ 10 :: rest) = readLogLine line ++ readLog rest := by
  unfold readLog
  rw [List.splitOn_append_cons_self, List.splitOn_eq_singleton clean, List.singleton_append,
    List.flatMap_cons]

/-! ### Messages of other threads -/

/-- The other senders. -/
def otherSenders : List String := ["Datamgr", "Storagemgr", "Storage Manager"]

/-- What `connmgr_free` says. -/
def freeNotice (sv : Option Tcpsock) : Notice :=
  if FailsToStop sv then .failedToStop else .stoppedSuccessfully

/-- A message of another thread: its time and its sender, and a text that has no line break but
perhaps one at its end. Without a database the storage manager calls `connmgr_free`. -/
inductive Message.FromOther (message : Message) : Prop
  | sent (time : Int) (sender : String) (text : List UInt8) (known : sender ∈ otherSenders)
    (clean : 10 ∉ text)
    (bytes : message.bytes = ascii (toString time ++ " " ++ sender ++ ": ") ++ text ∨
      message.bytes = ascii (toString time ++ " " ++ sender ++ ": ") ++ text ++ [10])
  | freed (time : Int) (sv : Option Tcpsock)
    (bytes : message.bytes = ascii ((freeNotice sv).sent time))

theorem fromOther_of_text {message : Message} {time : Int} {sender text : String}
    (known : sender ∈ otherSenders) (printable : Printable text)
    (bytes : message.bytes = ascii (eventMessage time sender text) ∨
      message.bytes = ascii (eventMessage time sender (text ++ "\n"))) : message.FromOther := by
  refine .sent time sender (ascii text) known (not_mem_ascii printable (by decide)) ?_
  refine bytes.imp (fun same => ?_) (fun same => ?_)
  · rw [same, eventMessage, ascii_append]
  · have newline : ascii "\n" = [10] := rfl
    rw [same, eventMessage, ascii_append _ (text ++ "\n"), ascii_append text, newline,
      List.append_assoc]

/-- The messages of the data manager about its readings. -/
theorem Report.fromOther (report : Report) (time : Int) {message : Message}
    (same : message.bytes = ascii (report.message time)) : message.FromOther := by
  have node (id : BitVec 16) : Printable ("The sensor node with " ++ printId id) :=
    (by decide : Printable "The sensor node with ").append (printable_toString_nat id.toNat)
  have sender : "Datamgr" ∈ otherSenders := by decide
  cases report with
  | unknownSensor id =>
    have text : Printable ("Sensor with ID " ++ printId id ++ "doesn't exist") :=
      ((by decide : Printable "Sensor with ID ").append
        (printable_toString_nat id.toNat)).append (by decide)
    exact fromOther_of_text sender text (Or.inl same)
  | tooHot roomId id value =>
    have text := (node id).append (by decide : Printable " report it's TOO HOT")
    have broken : (Report.tooHot roomId id value).message time = eventMessage time "Datamgr"
        ("The sensor node with " ++ printId id ++ " report it's TOO HOT" ++ "\n") := by
      rw [@String.append_assoc ("The sensor node with " ++ printId id)]
      rfl
    exact fromOther_of_text sender text (Or.inr (broken ▸ same))
  | tooCold roomId id value =>
    have text := (node id).append (by decide : Printable " report it's TOO COLD")
    have broken : (Report.tooCold roomId id value).message time = eventMessage time "Datamgr"
        ("The sensor node with " ++ printId id ++ " report it's TOO COLD" ++ "\n") := by
      rw [@String.append_assoc ("The sensor node with " ++ printId id)]
      rfl
    exact fromOther_of_text sender text (Or.inr (broken ▸ same))

/-- The messages of the storage manager about its inserts. -/
theorem insertSensor_fromOther {Conn : Type} {sqlite : Sqlite Conn} {conn : Conn}
    {id : BitVec 16} {value : ℚ} {ts : Int} {outcome : DbOutcome Conn} {message : Message}
    (inserted : insertSensor sqlite conn id value ts = some outcome)
    (same : message.bytes = ascii outcome.message) : message.FromOther := by
  unfold insertSensor at inserted
  dsimp only at inserted
  split_ifs at inserted
  rw [← Option.some.inj inserted] at same
  exact fromOther_of_text (by decide) (by decide) (Or.inl same)

/-- The line of a message of another thread tells nothing. -/
theorem readLogLine_other (seqNum : Nat) (time : Int) {sender : String}
    (known : sender ∈ otherSenders) (text : List UInt8) :
    readLogLine (numbered seqNum
      (ascii (toString time ++ " " ++ sender ++ ": ") ++ text)) = [] := by
  have printable : Printable sender ∧
      ∀ rest, ¬ "Connmgr: ".toList <+: sender.toList ++ (": ".toList ++ rest) := by
    simp only [otherSenders, List.mem_cons, List.not_mem_nil, or_false] at known
    rcases known with rfl | rfl | rfl
    · exact ⟨by decide, by simp⟩
    · exact ⟨by decide, by simp⟩
    · exact ⟨by decide, by simp⟩
  have front : Printable (toString time ++ " " ++ sender ++ ": ") :=
    (((printable_toString_int time).append (by decide)).append printable.1).append (by decide)
  have characters : readCharacters (ascii (toString time ++ " " ++ sender ++ ": ") ++ text) =
      (toString time).toList ++ ' ' ::
        (sender.toList ++ (": ".toList ++ readCharacters text)) := by
    have read := readCharacters_ascii front
    unfold readCharacters at read ⊢
    rw [List.map_append, read, String.toList_append, String.toList_append, String.toList_append]
    simp only [List.append_assoc]
    rfl
  unfold readLogLine
  rw [afterSpace_numbered, characters, afterSpace_append (space_not_mem_toString_int time)]
  exact if_neg (printable.2 _)

/-- The last line tells nothing. -/
theorem readLog_closingLine (seqNum : Nat) (time : Int) (ending : ReadEnd) :
    readLog (closingLine seqNum time ending) = [] := by
  obtain ⟨text, printable, other, same⟩ : ∃ text : String, Printable text ∧
      (¬ "Connmgr: ".toList <+: text.toList) ∧ closingLine seqNum time ending =
        numbered seqNum (ascii (toString time ++ " " ++ text)) ++ 10 :: [] := by
    unfold numbered
    cases ending with
    | terminated =>
      refine ⟨"Pipe terminated normally", by decide, by decide, ?_⟩
      unfold closingLine
      simp only [ascii_append, List.append_assoc]
      rfl
    | failed =>
      refine ⟨"Read from pipe fail", by decide, by decide, ?_⟩
      unfold closingLine
      simp only [ascii_append, List.append_assoc]
      rfl
  have whole : Printable (toString time ++ " " ++ text) :=
    ((printable_toString_int time).append (by decide)).append printable
  have characters : (toString time ++ " " ++ text).toList =
      (toString time).toList ++ ' ' :: text.toList := by
    rw [String.toList_append, String.toList_append, List.append_assoc]
    rfl
  have nothing : readLogLine (numbered seqNum (ascii (toString time ++ " " ++ text))) = [] := by
    unfold readLogLine
    rw [afterSpace_numbered, readCharacters_ascii whole, characters,
      afterSpace_append (space_not_mem_toString_int time)]
    exact if_neg other
  rw [same, readLog_cons (numbered_clean seqNum (not_mem_ascii whole (by decide))), nothing]
  rfl

/-! ### The pipe -/

/-- The texts of the connection manager are in the pipe, in order, among messages of the other
threads. -/
inductive Posted : List String → List Message → Prop
  | nil : Posted [] []
  | own {text : String} {texts : List String} {message : Message} {messages : List Message}
    (same : message.bytes = ascii text) (rest : Posted texts messages) :
    Posted (text :: texts) (message :: messages)
  | other {texts : List String} {message : Message} {messages : List Message}
    (foreign : message.FromOther) (rest : Posted texts messages) :
    Posted texts (message :: messages)

/-- The line of a message of the connection manager, in front of a file. -/
theorem readLog_sent {message : Message} {time : Int} {notice : Notice}
    (same : message.bytes = ascii (notice.sent time)) (seqNum : Nat) (file : List UInt8) :
    readLog (eventLine seqNum message.bytes ++ file) = notice.notes ++ readLog file := by
  have clean := numbered_clean seqNum (not_mem_ascii (notice.printable_sent time) (by decide))
  rw [eventLine_eq, same, readLog_cons clean, readLogLine_sent]

/-- The end of the thread says nothing of the connections. -/
theorem freeNotice_notes (sv : Option Tcpsock) : (freeNotice sv).notes = [] := by
  unfold freeNotice
  split_ifs <;> rfl

/-- The lines of the messages in the pipe tell what the connection manager has said. -/
theorem readLog_eventLines {texts : List String} {messages : List Message}
    (posted : Posted texts messages) (notices : List (Int × Notice))
    (sent : texts = notices.map fun entry => entry.2.sent entry.1) (seqNum : Nat)
    (file : List UInt8) :
    readLog ((eventLines seqNum messages).flatten ++ file) =
      (notices.flatMap fun entry => entry.2.notes) ++ readLog file := by
  induction posted generalizing notices seqNum with
  | nil =>
    obtain rfl := List.map_eq_nil_iff.mp sent.symm
    rfl
  | @own text texts message messages same rest inductionHypothesis =>
    obtain ⟨⟨time, notice⟩, others, rfl, rfl, tail⟩ := List.map_eq_cons_iff.mp sent.symm
    rw [eventLines, List.flatten_cons, List.append_assoc, readLog_sent same,
      inductionHypothesis others tail.symm, List.flatMap_cons, List.append_assoc]
  | @other texts message messages foreign rest inductionHypothesis =>
    rcases foreign with ⟨time, sender, text, known, clean, bytes⟩ | ⟨time, sv, bytes⟩
    case freed =>
      rw [eventLines, List.flatten_cons, List.append_assoc, readLog_sent bytes, freeNotice_notes]
      exact inductionHypothesis notices sent (seqNum + 1)
    have nothing := readLogLine_other seqNum time known text
    have front : 10 ∉ ascii (toString time ++ " " ++ sender ++ ": ") := by
      refine not_mem_ascii ?_ (by decide)
      have printable : ∀ sender ∈ otherSenders, Printable sender := by decide
      exact (((printable_toString_int time).append (by decide)).append
        (printable sender known)).append (by decide)
    have whole : 10 ∉ numbered seqNum
        (ascii (toString time ++ " " ++ sender ++ ": ") ++ text) := by
      refine numbered_clean seqNum ?_
      rw [List.mem_append, not_or]
      exact ⟨front, clean⟩
    rw [eventLines, List.flatten_cons, List.append_assoc]
    rcases bytes with bytes | bytes
    · rw [eventLine_eq, bytes, readLog_cons whole, nothing]
      exact inductionHypothesis notices sent (seqNum + 1)
    · -- The line break of the message leaves an empty line behind.
      have empty : readLogLine [] = [] := rfl
      have broken (file : List UInt8) : eventLine seqNum message.bytes ++ file =
          numbered seqNum (ascii (toString time ++ " " ++ sender ++ ": ") ++ text) ++
            10 :: ([] ++ 10 :: file) := by
        rw [eventLine_eq, bytes]
        unfold numbered
        simp only [List.append_assoc]
        rfl
      rw [broken, readLog_cons whole, readLog_cons List.not_mem_nil, nothing, empty]
      exact inductionHypothesis notices sent (seqNum + 1)

/-! ### What the log tells -/

/-- The messages among the actions are these, and they tell what happens to the connections. -/
structure Told (actions : List (Action layout)) (notices : List (Int × Notice)) : Prop where
  texts : writtenTexts actions = notices.map fun entry => entry.2.sent entry.1
  notes : connectionNotes actions = notices.flatMap fun entry => entry.2.notes

theorem Told.append {first second : List (Action layout)} {before after : List (Int × Notice)}
    (told : Told first before) (also : Told second after) :
    Told (first ++ second) (before ++ after) where
  texts := by
    have texts := told.texts
    have alsoTexts := also.texts
    unfold writtenTexts at texts alsoTexts ⊢
    rw [List.filterMap_append, List.map_append, texts, alsoTexts]
  notes := by
    have notes := told.notes
    have alsoNotes := also.notes
    unfold connectionNotes at notes alsoNotes ⊢
    rw [List.flatMap_append, List.flatMap_append, notes, alsoNotes]

/-- The note of a connection that has ended. -/
def ConnectionNote.Ends : ConnectionNote → Prop
  | .ended _ => True
  | _ => False

instance : DecidablePred ConnectionNote.Ends
  | .opened => inferInstanceAs (Decidable False)
  | .stopServed => inferInstanceAs (Decidable False)
  | .ended _ => inferInstanceAs (Decidable True)

/-- The entries of `poll_fd` that were dropped without a client. -/
def orphans (log : List (Action layout)) : Nat :=
  log.countP fun action =>
    match action with
    | .dropped _ none => true
    | _ => false

/-- The number of connections that were opened. -/
def openings (notes : List ConnectionNote) : Nat := notes.count .opened

/-- The number of connections that were ended. -/
def endings (notes : List ConnectionNote) : Nat := notes.countP ConnectionNote.Ends

theorem connectionNotes_append (first second : List (Action layout)) :
    connectionNotes (first ++ second) = connectionNotes first ++ connectionNotes second :=
  List.flatMap_append

/-- What a step adds to the log: messages that tell what happens to the connections, among them
every change of the number of polled clients but for the entries dropped without a client. There
are no such entries while the tables agree on the clients. -/
structure Adds (manager after : Connmgr config) (actions : List (Action config.layout))
    (notices : List (Int × Notice)) : Prop where
  log : after.log = manager.log ++ actions
  told : Told actions notices
  counted : after.counter + endings (connectionNotes actions) + orphans actions =
    manager.counter + openings (connectionNotes actions)
  found : manager.Tabled → orphans actions = 0

section Visit

variable {client : Option TcpsockDpl} {entry : PollFd} {data : SensorData config.layout}
  {input : ScanInput} {visit : Visit config}

/-- The first part of an iteration concerns no connection as a whole. -/
theorem Visited.quiet (visited : Visited client entry data input visit) :
    connectionNotes visit.actions = [] ∧ orphans visit.actions = 0 := by
  refine ⟨List.flatMap_eq_nil_iff.mpr fun action member => ?_,
    List.countP_eq_zero.mpr fun action member => ?_⟩
  · cases visited.ofVisit action member <;> rfl
  · cases visited.ofVisit action member <;> exact Bool.false_ne_true

theorem told_recvCalls (socket : Tcpsock) (input : ScanInput) :
    Told (recvCalls socket input : List (Action config.layout)) [] := by
  unfold recvCalls
  split_ifs
  · exact ⟨rfl, rfl⟩
  · exact ⟨rfl, rfl⟩

theorem Visited.told (visited : Visited client entry data input visit) :
    ∃ notices, Told visit.actions notices := by
  cases visited with
  | passed silent => exact ⟨[], rfl, rfl⟩
  | reading before found receives status =>
    exact ⟨[] ++ [], (told_recvCalls before.sockPt input).append ⟨rfl, rfl⟩⟩
  | lost before found receives status =>
    exact ⟨[] ++ [(input.lostTime, .lost)],
      (told_recvCalls before.sockPt input).append ⟨rfl, rfl⟩⟩
  | failed before found receives statusNoError statusClosed =>
    exact ⟨[], told_recvCalls before.sockPt input⟩

end Visit

section Steps

variable {manager after : Connmgr config}

/-- An iteration adds what its ending adds. -/
theorem Examined.adds {input : ScanInput} {examination : Examination config}
    (examined : Examined manager input examination) {ending : List (Action config.layout)}
    {notices : List (Int × Notice)}
    (log : after.log = manager.log ++ examination.visit.actions ++ [.mutexLock .connmgr] ++ ending)
    (told : Told ending notices)
    (counted : after.counter + endings (connectionNotes ending) + orphans ending =
      manager.counter + openings (connectionNotes ending))
    (found : manager.Tabled → orphans ending = 0) :
    ∃ actions notices, Adds manager after actions notices := by
  obtain ⟨visitNotices, visitTold⟩ := examined.visited.told
  obtain ⟨notes, none⟩ := examined.visited.quiet
  have locked : Told ([.mutexLock .connmgr] : List (Action config.layout)) [] := ⟨rfl, rfl⟩
  have sameNotes : connectionNotes (examination.visit.actions ++ [.mutexLock .connmgr] ++
      ending) = connectionNotes ending := by
    rw [connectionNotes_append, connectionNotes_append, notes]
    rfl
  have sameOrphans : orphans (examination.visit.actions ++ [.mutexLock .connmgr] ++ ending) =
      orphans ending := by
    unfold orphans at none ⊢
    rw [List.countP_append, List.countP_append, none, Nat.zero_add]
    exact Nat.zero_add _
  refine ⟨examination.visit.actions ++ [.mutexLock .connmgr] ++ ending,
    visitNotices ++ [] ++ notices, ?_, (visitTold.append locked).append told, ?_, ?_⟩
  · rw [log]
    simp only [List.append_assoc]
  · rw [sameNotes, sameOrphans, counted]
  · rw [sameOrphans]
    exact found

/-- An iteration of the scan. -/
theorem scan_adds (sized : manager.Sized) {input : ScanInput}
    (taken : manager.scan input = some after) :
    ∃ actions notices, Adds manager after actions notices := by
  obtain ⟨examination, answered, examined, scanned⟩ := scan_scanned sized taken
  have first := sized.index _ examined.position
  have bound := examined.bound
  have fewer : manager.counter - 1 + 1 = manager.counter := Nat.sub_add_cancel (by omega)
  cases scanned with
  | kept lives =>
    have told : Told ([.mutexUnlock .connmgr] : List (Action config.layout)) [] := ⟨rfl, rfl⟩
    refine examined.adds ?_ told rfl fun _ => rfl
    simp only [Connmgr.keep, Connmgr.examined]
  | stopped client found wanted =>
    have told : Told ([.writeStopsig .connmgr 0, .mutexUnlock .connmgr,
        message input.messageTime
          ("Stop connection to " ++ toString client.sensor.toNat ++ " by signal"),
        .dropped examination.visit.entry (some client)] : List (Action config.layout))
        [(input.messageTime, .stopped client.sensor)] := ⟨rfl, rfl⟩
    refine examined.adds ?_ told fewer fun _ => rfl
    simp only [Connmgr.drop, Connmgr.stop, Connmgr.examined, found, List.append_assoc,
      List.cons_append, List.nil_append]
  | closed client node found place other reason =>
    have told : Told ([message input.messageTime
          ("Close connection to " ++ toString client.sensor.toNat), .tcpClose client.sockPt,
        .dropped examination.visit.entry (some client)] : List (Action config.layout))
        [(input.messageTime, .closed client.sensor)] := ⟨rfl, rfl⟩
    refine examined.adds ?_ told fewer fun _ => rfl
    simp only [Connmgr.drop, Connmgr.close, Connmgr.examined, found, List.append_assoc,
      List.cons_append, List.nil_append]
  | orphaned missing reason =>
    have told : Told ([.mutexUnlock .connmgr, .dropped examination.visit.entry none] :
        List (Action config.layout)) [] := ⟨rfl, rfl⟩
    refine examined.adds ?_ told fewer fun tabled => ?_
    · simp only [Connmgr.drop, Connmgr.release, Connmgr.examined, missing, List.append_assoc,
        List.cons_append, List.nil_append]
    · obtain ⟨client, found⟩ := examined.exists_client tabled
      obtain ⟨left, present, -⟩ := examined.visited.client_some found
      exact absurd (missing.symm.trans present) (Option.some_ne_none left).symm

/-- Every step adds messages that tell what happens to the connections. -/
theorem step_adds (sized : manager.Sized) {event : ConnmgrEvent}
    (taken : manager.step event = some after) :
    ∃ actions notices, Adds manager after actions notices := by
  cases event with
  | scan input => exact scan_adds sized taken
  | store id =>
    obtain rfl := Option.some.inj taken
    exact ⟨_, [], rfl, ⟨rfl, rfl⟩, rfl, fun _ => rfl⟩
  | endScan messageTime =>
    obtain ⟨-, rfl | rfl⟩ := endScan_ended taken
    · exact ⟨[], [], (List.append_nil _).symm, ⟨rfl, rfl⟩, rfl, fun _ => rfl⟩
    · exact ⟨_, [(messageTime, .pollError)], rfl, ⟨rfl, rfl⟩, rfl, fun _ => rfl⟩
  | poll outcome input =>
    obtain ⟨-, polled⟩ := poll_polled taken
    cases polled with
    | failed result =>
      exact ⟨[], [], (List.append_nil _).symm, ⟨rfl, rfl⟩, rfl, fun _ => rfl⟩
    | finished revents result nothing unconnected =>
      exact ⟨_, [], rfl, ⟨rfl, rfl⟩, rfl, fun _ => rfl⟩
    | skipped revents result unready => exact ⟨_, [], rfl, ⟨rfl, rfl⟩, rfl, fun _ => rfl⟩
    | refused revents result ready =>
      exact ⟨_, [(input.messageTime, .refused manager.tcpConnRet)], List.append_assoc _ _ _,
        ⟨rfl, rfl⟩, rfl, fun _ => rfl⟩
    | registered revents result ready sockList inserted =>
      exact ⟨_, [(input.messageTime, .received)], List.append_assoc _ _ _, ⟨rfl, rfl⟩, rfl,
        fun _ => rfl⟩

/-- The log tells what happens to the connections, and how many clients are polled. -/
structure Connmgr.Tells (manager : Connmgr config) : Prop where
  sized : manager.Sized
  told : ∃ notices, Told manager.log notices
  counted : manager.counter + endings (connectionNotes manager.log) + orphans manager.log =
    openings (connectionNotes manager.log)

theorem start_tells (listener : Int) (revents : BitVec 16) (pollRet tcpConnRet : Int)
    (uninitialised : SensorData config.layout) :
    (Connmgr.start listener revents pollRet tcpConnRet uninitialised).Tells where
  sized := start_sized listener revents pollRet tcpConnRet uninitialised
  told := ⟨[], rfl, rfl⟩
  counted := rfl

theorem Connmgr.Tells.step (tells : manager.Tells) {event : ConnmgrEvent}
    (taken : manager.step event = some after) :
    after.Tells ∧ (manager.Tabled → orphans manager.log = 0 → orphans after.log = 0) := by
  obtain ⟨actions, notices, log, told, counted, found⟩ := step_adds tells.sized taken
  obtain ⟨earlier, toldEarlier⟩ := tells.told
  have before := tells.counted
  have sum : orphans after.log = orphans manager.log + orphans actions := by
    unfold orphans
    rw [log, List.countP_append]
  refine ⟨⟨tells.sized.step taken, ⟨earlier ++ notices, log ▸ toldEarlier.append told⟩, ?_⟩,
    fun tabled none => ?_⟩
  · rw [sum, log, connectionNotes_append]
    unfold endings openings at before counted ⊢
    rw [List.countP_append, List.count_append]
    omega
  · rw [sum, none, found tabled]

end Steps

theorem connmgrOpen_told (config : Config) (kernel : Kernel) (descriptors : Finset Int)
    (port : Int) (input : PassiveInput) (openTime : Int) :
    ∃ notice, Told (connmgrOpen kernel descriptors port input openTime : Opening config).log
      [(openTime, notice)] ∧ notice.notes = [] := by
  unfold connmgrOpen
  split_ifs
  · exact ⟨.invalidPort, ⟨rfl, rfl⟩, rfl⟩
  · exact ⟨.openFailed, ⟨rfl, rfl⟩, rfl⟩
  · exact ⟨.started, ⟨rfl, rfl⟩, rfl⟩

theorem told_freeMessage (config : Config) (sv : Option Tcpsock) (freed : Option Int) :
    ∃ notices, Told (freed.map (freeMessage sv : Int → Action config.layout)).toList notices ∧
      (notices.flatMap fun entry => entry.2.notes) = [] := by
  cases freed with
  | none => exact ⟨[], ⟨rfl, rfl⟩, rfl⟩
  | some time =>
    have text : (freeMessage sv time : Action config.layout) =
        .writePipe ((freeNotice sv).sent time) := by
      unfold freeMessage freeNotice
      split_ifs <;> rfl
    have silent : ([(time, freeNotice sv)].flatMap fun entry => entry.2.notes) = [] := by
      rw [List.flatMap_singleton, freeNotice_notes]
    refine ⟨[(time, freeNotice sv)], ⟨?_, ?_⟩, silent⟩
    · rw [Option.map_some, text]
      rfl
    · rw [Option.map_some, text, silent]
      rfl

/-- In every run, finished by `connmgr_free` or not, among any messages of the other threads: when
each read of the pipe delivers one message, the file of the log process tells which connections were
opened and ended. A client is polled for each one that was opened and not ended, unless entries were
dropped without their clients; and none is while `accept` keeps its promise. -/
theorem log_tells_connections {listener : Int} {revents : BitVec 16} {pollRet tcpConnRet : Int}
    {uninitialised : SensorData config.layout} {events : List ConnmgrEvent}
    {manager : Connmgr config}
    (ran : Runs.complete Connmgr.step
      (Connmgr.start listener revents pollRet tcpConnRet uninitialised) events = some manager)
    (kernel : Kernel) (descriptors : Finset Int) (port : Int) (input : PassiveInput)
    (openTime : Int) {opening : Opening config}
    (opens : opening = connmgrOpen kernel descriptors port input openTime) (freed : Option Int)
    {messages : List Message}
    (posted : Posted (writtenTexts (opening.log ++ manager.log ++
      (freed.map (freeMessage opening.sv)).toList)) messages)
    (delivery : Delivery (pipeOf messages))
    (aligned : OneMessagePerRead messages delivery.chunks) (beyond recvBuf : List UInt8)
    (ending : ReadEnd) (time : Int) :
    ∃ notes, readLog (logFile beyond recvBuf delivery.chunks ending time).flatten = notes ∧
      notes = connectionNotes manager.log ∧
      manager.counter + endings notes + orphans manager.log = openings notes ∧
      ((∀ transition ∈ Runs.transitions Connmgr.step
          (Connmgr.start listener revents pollRet tcpConnRet uninitialised) events,
        Lawful transition) → manager.counter + endings notes = openings notes) := by
  have starts := start_tells listener revents pollRet tcpConnRet uninitialised
  have tells : manager.Tells := Runs.invariant_of_complete Connmgr.Tells (fun _ => True) starts
    (fun _ _ _ before taken _ => (before.step taken).1) (fun _ _ => trivial) ran
  obtain ⟨notices, told⟩ := tells.told
  obtain ⟨notice, toldOpening, silent⟩ :=
    connmgrOpen_told config kernel descriptors port input openTime
  rw [← opens] at toldOpening
  obtain ⟨last, toldFree, silentFree⟩ := told_freeMessage config opening.sv freed
  have whole := (toldOpening.append told).append toldFree
  have lines := (logLoop_of_oneMessagePerRead beyond messages 0 recvBuf).1
  have file : (logFile beyond recvBuf delivery.chunks ending time).flatten =
      (eventLines 0 messages).flatten ++ closingLine messages.length time ending := by
    have chunks : delivery.chunks = messages.map fun message => message.bytes ++ [0] := aligned
    unfold logFile
    dsimp only
    rw [chunks, lines, logLoop_length, List.length_map, List.flatten_append, List.flatten_singleton]
  refine ⟨connectionNotes manager.log, ?_, rfl, tells.counted, fun lawful => ?_⟩
  · rw [file, readLog_eventLines posted _ whole.texts, readLog_closingLine, List.append_nil,
      List.flatMap_append, List.flatMap_append, ← told.notes, List.flatMap_singleton, silent,
      silentFree, List.nil_append, List.append_nil]
  · have invariant : (manager.Tells ∧ manager.Tabled) ∧ orphans manager.log = 0 :=
      Runs.invariant_of_complete
        (fun state => (state.Tells ∧ state.Tabled) ∧ orphans state.log = 0) Lawful
        ⟨⟨starts, start_tabled listener revents pollRet tcpConnRet uninitialised⟩, rfl⟩
        (fun _ _ _ before taken admitted =>
          ⟨⟨(before.1.1.step taken).1, before.1.2.step taken admitted⟩,
            (before.1.1.step taken).2 before.1.2 before.2⟩) lawful ran
    have counted := tells.counted
    rw [invariant.2] at counted
    exact counted

/-! ### A run -/

/-- The reads that deliver one message each, if every message fits. -/
def oneEach (messages : List Message)
    (fits : ∀ message ∈ messages, message.bytes.length < pipeSize) :
    Delivery (pipeOf messages) where
  chunks := messages.map fun message => message.bytes ++ [0]
  nonempty := List.forall_mem_map.mpr fun message _ => List.append_ne_nil_of_right_ne_nil _
    (List.cons_ne_nil _ _)
  short := List.forall_mem_map.mpr fun message member => by
    rw [List.length_append]
    exact fits message member
  whole := by
    rw [pipeOf_eq_stream, Framing.stream, List.map_map]
    rfl

/-- A message of the connection manager in the pipe. -/
def Notice.message (time : Int) (notice : Notice) : Message where
  bytes := ascii (notice.sent time)
  nulFree := not_mem_ascii (notice.printable_sent time) (by decide)

/-- What the data manager says of the first reading. -/
def unknownSensor : Message where
  bytes := ascii ((Report.unknownSensor 5).message 1)
  nulFree := by decide

/-- Sensor 5 is stopped, and the poll loop ends without a client. -/
def stoppedThenFreed : List ConnmgrEvent :=
  stoppedReading ++ [.endScan 2, .poll (.returns [0]) (accepted 5 0 0)]

/-- The pipe while sensor 5 is stopped and the thread ends. -/
def stoppedMessages : List Message :=
  [Notice.started.message 0, Notice.received.message 0, unknownSensor,
    (Notice.stopped 5).message 2, Notice.stoppedSuccessfully.message 3]

/-- A connection is opened, and ended by the stop test; then the thread ends. -/
theorem log_tells_connections_stopped :
    ∃ manager, Runs.complete Connmgr.step gatewayStart stoppedThenFreed = some manager ∧
      manager.position = .returned ∧
      readLog (logFile [] [] (stoppedMessages.map fun message => message.bytes ++ [0])
        .terminated 3).flatten = [.opened, .stopServed, .ended 5] ∧ manager.counter = 0 := by
  obtain ⟨manager, ran, returned, same⟩ : ∃ manager : Connmgr gatewayConfig,
      Runs.complete Connmgr.step gatewayStart stoppedThenFreed = some manager ∧
        manager.position = .returned ∧
        writtenTexts (threadOpening.log ++ manager.log ++
            ((some 3).map (freeMessage threadOpening.sv)).toList) =
          [Notice.started.sent 0, Notice.received.sent 0, (Notice.stopped 5).sent 2,
            Notice.stoppedSuccessfully.sent 3] ∧
        connectionNotes manager.log = [.opened, .stopServed, .ended 5] :=
    ⟨_, rfl, rfl, rfl, rfl⟩
  have foreign : unknownSensor.FromOther := (Report.unknownSensor 5).fromOther 1 rfl
  have posted : Posted (writtenTexts (threadOpening.log ++ manager.log ++
      ((some 3).map (freeMessage threadOpening.sv)).toList)) stoppedMessages := by
    rw [same.1]
    exact .own rfl (.own rfl (.other foreign (.own rfl (.own rfl .nil))))
  obtain ⟨notes, read, told, -, counted⟩ := log_tells_connections ran .lowest {0, 1, 2} 5678
    listens 0 rfl (some 3) posted (oneEach stoppedMessages (by decide)) rfl [] [] .terminated 3
  have lawful : ∀ transition ∈ Runs.transitions Connmgr.step
      (Connmgr.start 3 0 0 (-1) zeroData) stoppedThenFreed, Lawful transition := by
    decide
  have polled := counted lawful
  rw [told, same.2] at read polled
  exact ⟨manager, ran, returned, read, Nat.succ.inj polled⟩

end SensorGateway
