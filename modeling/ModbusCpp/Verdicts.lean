import ModbusCpp.Rearrangement
import ModbusCpp.ReplyFrames

/-!
# Verdicts

Whether a request is answered or refused, with which exception, and how long
its reply is, does not depend on what the cells hold.  No run of packets changes
any of it.  Nor does the header of a request but for what the reply repeats of
it: packets for any unit, with any protocol and length, are served alike.
-/

namespace ModbusCpp

open Block RequestHandler StructFormat

/-- Replies with one header and function, as long as each other, and the same if
they are exceptions. -/
structure SameVerdict (reply other : Packet) : Prop where
  header : reply.take 8 = other.take 8
  length : reply.length = other.length
  refusal : ∀ function, reply[7]? = some function → 0x80 ≤ function → reply = other

theorem SameVerdict.refl (reply : Packet) : SameVerdict reply reply :=
  ⟨rfl, rfl, fun _ _ _ => rfl⟩

theorem Frame.take_bytes (frame : Frame) : frame.bytes.take 8 = frame.headerBytes :=
  List.take_left' frame.length_headerBytes

section Shapes

variable {first second : Table} (shape : first.SameShape second)

include shape

/-- What a command needs of a table is a matter of its shape. -/
theorem Command.admissible_iff_of_sameShape (command : Command) :
    command.Admissible first ↔ command.Admissible second := by
  have bits (block : BitBlock) (address : UInt16) (count : Nat) :
      (first.bits block).Contains address count ↔ (second.bits block).Contains address count :=
    (shape.bits block).contains_iff address count
  have registers (block : RegisterBlock) (address : UInt16) (count : Nat) :
      (first.registers block).Contains address count ↔
        (second.registers block).Contains address count :=
    (shape.registers block).contains_iff address count
  cases command with
  | readBits block address count => exact and_congr_right fun _ => bits block address _
  | readRegisters block address count => exact and_congr_right fun _ => registers block address _
  | writeSingleCoil address value => exact bits .coils address 1
  | writeSingleRegister address value => exact registers .holdingRegisters address 1
  | writeMultipleCoils address count values => exact and_congr_right fun _ => bits .coils address _
  | writeMultipleRegisters address count values =>
      exact and_congr_right fun _ => registers .holdingRegisters address _
  | maskWriteRegister address andMask orMask => exact registers .holdingRegisters address 1
  | readWriteMultipleRegisters readAddress readCount writeAddress writeCount values =>
      exact and_congr (and_congr_right fun _ => registers .holdingRegisters readAddress _)
        (and_congr_right fun _ => registers .holdingRegisters writeAddress _)

omit shape in
/-- The size of a reply is a matter of the command. -/
theorem Command.length_reply_eq {command : Command} (admissible : command.Admissible first)
    (alike : command.Admissible second) :
    (command.reply first).length = (command.reply second).length := by
  cases command with
  | readBits block address count =>
      simp [reply, Sequential.length_read admissible.2, Sequential.length_read alike.2]
  | readRegisters block address count =>
      simp [reply, Sequential.length_read admissible.2, Sequential.length_read alike.2]
  | writeSingleCoil address value =>
      have inside : first.coils.Contains address 1 := admissible
      have likewise : second.coils.Contains address 1 := alike
      simp [reply, Sequential.length_read inside, Sequential.length_read likewise]
  | readWriteMultipleRegisters readAddress readCount writeAddress writeCount values =>
      have reads : ((first.holdingRegisters.write writeAddress values).read readAddress
          readCount.toNat).length = readCount.toNat := Sequential.length_read admissible.1.2
      have readsAlike : ((second.holdingRegisters.write writeAddress values).read readAddress
          readCount.toNat).length = readCount.toNat := Sequential.length_read alike.1.2
      simp [reply, reads, readsAlike]
  | _ => rfl

theorem respond_sameVerdict {packet : ByteBuffer} {function : FunctionCode}
    {parsed : Except ExceptionCode Command} (parsing : parse packet function = some parsed)
    (header : Header) :
    SameVerdict (respond header function parsed first).1.bytes
      (respond header function parsed second).1.bytes := by
  cases parsed with
  | error code => exact .refl _
  | ok command =>
      by_cases admissible : command.Admissible first
      · have alike := (command.admissible_iff_of_sameShape shape).mp admissible
        have length := command.length_reply_eq admissible alike
        simp only [respond, if_pos admissible, if_pos alike]
        refine ⟨?_, ?_, fun byte carried marked => ?_⟩
        · rw [Frame.take_bytes, Frame.take_bytes, Frame.headerBytes, Frame.headerBytes, length]
        · rw [Frame.length_bytes, Frame.length_bytes, length]
        · rw [Frame.getElem?_bytes_function] at carried
          obtain rfl := Option.some.inj carried
          have unmarked : ∀ own ∈ FunctionCode.supported, ¬ 0x80 ≤ own.toUnderlying := by decide
          exact absurd marked (unmarked function (supported_of_parse parsing))
      · have alike := mt (command.admissible_iff_of_sameShape shape).mpr admissible
        rw [respond_inadmissible admissible, respond_inadmissible alike]
        exact .refl _

end Shapes

section Lasting

variable [Struc] {packet : ByteBuffer} {table middle stored : Table} {reply : Packet}

/-- The step lemma: a packet gets the same verdict on any table of one shape. -/
theorem handle_sameVerdict (shape : table.SameShape middle)
    (handled : (handle packet).run table = some (.ok reply, stored)) :
    ∃ later last, (handle packet).run middle = some (.ok later, last) ∧
      SameVerdict reply later := by
  by_cases short : packet.size ≤ Adu.headerLength
  · rw [handle_run_short short] at handled
    obtain ⟨rfl, -⟩ := Method.returned_inj.mp handled
    exact ⟨[], middle, handle_run_short short, .refl []⟩
  · obtain ⟨header, function, received⟩ := exists_received (Nat.lt_of_not_le short)
    rw [handle_run received] at handled
    obtain ⟨parsed, parsing, same⟩ := Option.map_eq_some_iff.mp handled
    obtain ⟨rfl, -⟩ := Method.returned_inj.mp (congrArg some same)
    exact ⟨_, _, handle_run_of_parse received parsing, respond_sameVerdict shape parsing header⟩

/-- The run lemma: no run of packets changes the shape of the table. -/
theorem sameShape_handleAll {packets : List ByteBuffer} {replies : List Packet}
    (ran : (handleAll packets).run table = some (.ok replies, middle)) :
    middle.SameShape table := by
  induction packets generalizing table replies with
  | nil =>
      obtain ⟨-, rfl⟩ := Method.returned_inj.mp ran
      exact .refl table
  | cons packet packets ih =>
      obtain ⟨reply, stored, rest, handled, followed, -⟩ := exists_of_handleAll_cons ran
      exact (ih followed).trans (sameShape_handle handled)

/-- Whatever a server has handled before, it decides on a packet as it would
have at first. -/
theorem verdict_lasting {before : List ByteBuffer} {replies : List Packet}
    (ran : (handleAll before).run table = some (.ok replies, middle))
    (handled : (handle packet).run table = some (.ok reply, stored)) :
    ∃ later last, (handle packet).run middle = some (.ok later, last) ∧
      SameVerdict reply later :=
  handle_sameVerdict (sameShape_handleAll ran).symm handled

end Lasting

/-- Reading register 1 is granted before it is written and afterwards. -/
theorem verdict_lasting_read :
    ∃ replies middle later last,
      (@handleAll Struc.documented [writingRegister]).run (Table.cleared 2) =
        some (.ok replies, middle) ∧
      (@handle Struc.documented (ByteBuffer.guarded [0, 1, 0, 0, 0, 6, 1, 3, 0, 1, 0, 1])).run
        middle = some (.ok later, last) ∧
      SameVerdict [0, 1, 0, 0, 0, 5, 1, 3, 2, 0, 0] later := by
  let _ : Struc := Struc.documented
  obtain ⟨_, _, wrote⟩ := exists_handle_of_commandOf commandOf_writingRegister (Table.cleared 2)
  have ran := @handleAll_cons_run _ _ [] _ _ _ _ [] wrote rfl
  have read : (handle (ByteBuffer.guarded [0, 1, 0, 0, 0, 6, 1, 3, 0, 1, 0, 1])).run
      (Table.cleared 2) = some (.ok [0, 1, 0, 0, 0, 5, 1, 3, 2, 0, 0], Table.cleared 2) := rfl
  obtain ⟨later, last, reread, same⟩ := verdict_lasting ran read
  exact ⟨_, _, later, last, ran, reread, same⟩

/-- Packets that differ before their function alone. -/
structure Relabelled (packet other : ByteBuffer) : Prop where
  size : packet.size = other.size
  body : packet.bytes.drop 7 = other.bytes.drop 7
  beyond : packet.beyond = other.beyond

/-- Replies that differ before their function alone. -/
structure SameAnswer (reply other : Packet) : Prop where
  length : reply.length = other.length
  body : reply.drop 7 = other.drop 7

namespace Relabelled

variable {packet other : ByteBuffer} (relabelled : Relabelled packet other)

include relabelled

theorem getElem?_bytes {index : Nat} (behind : 7 ≤ index) :
    packet.bytes[index]? = other.bytes[index]? := by
  have same := congrArg (·[index - 7]?) relabelled.body
  simpa only [List.getElem?_drop, Nat.add_sub_cancel' behind] using same

theorem read {index : Nat} (behind : 7 ≤ index) : packet.read index = other.read index := by
  simp only [ByteBuffer.read, relabelled.size, relabelled.getElem?_bytes behind,
    relabelled.beyond]

theorem drop {first : Nat} (behind : 7 ≤ first) :
    packet.bytes.drop first = other.bytes.drop first := by
  have same := congrArg (List.drop (first - 7)) relabelled.body
  simpa only [List.drop_drop, Nat.add_sub_cancel' behind] using same

/-- A packet asks for what it asks for under any header. -/
theorem parse (function : FunctionCode) :
    ModbusCpp.parse packet function = ModbusCpp.parse other function := by
  have fields (codes : List Code) :
      decode packet.read 8 codes = decode other.read 8 codes :=
    decode_congr fun index _ => relabelled.read (by omega)
  have words (offset count : Nat) (behind : 7 ≤ offset) :
      decodeWords packet.read offset count = decodeWords other.read offset count :=
    decodeWords_congr fun index _ => relabelled.read (by omega)
  unfold ModbusCpp.parse
  simp only [fields, words 13 _ (by omega), words 17 _ (by omega),
    relabelled.drop (show 7 ≤ 13 by omega)]

end Relabelled

theorem Frame.drop_bytes_function (frame : Frame) :
    frame.bytes.drop 7 = frame.function :: frame.payload :=
  rfl

/-- Under any two headers the answers and the effects are the same. -/
theorem respond_sameAnswer (header other : Header) (function : FunctionCode)
    (parsed : Except ExceptionCode Command) (table : Table) :
    SameAnswer (respond header function parsed table).1.bytes
        (respond other function parsed table).1.bytes ∧
      (respond header function parsed table).2 = (respond other function parsed table).2 := by
  have alike {frame likewise : Frame} (function : frame.function = likewise.function)
      (payload : frame.payload = likewise.payload) : SameAnswer frame.bytes likewise.bytes := by
    refine ⟨?_, ?_⟩
    · rw [Frame.length_bytes, Frame.length_bytes, payload]
    · rw [Frame.drop_bytes_function, Frame.drop_bytes_function, function, payload]
  cases parsed with
  | error code => exact ⟨alike rfl rfl, rfl⟩
  | ok command =>
      by_cases admissible : command.Admissible table
      · simp only [respond, if_pos admissible, and_true]
        exact alike rfl rfl
      · rw [respond_inadmissible admissible, respond_inadmissible admissible]
        exact ⟨alike rfl rfl, rfl⟩

section Blindness

variable [Struc]

theorem handle_relabelled {packet other : ByteBuffer} (relabelled : Relabelled packet other)
    {table stored : Table} {reply : Packet}
    (handled : (handle packet).run table = some (.ok reply, stored)) :
    ∃ answer, (handle other).run table = some (.ok answer, stored) ∧ SameAnswer reply answer := by
  by_cases short : packet.size ≤ Adu.headerLength
  · have alike : other.size ≤ Adu.headerLength := relabelled.size ▸ short
    rw [handle_run_short short] at handled
    obtain ⟨rfl, rfl⟩ := Method.returned_inj.mp handled
    exact ⟨[], handle_run_short alike, rfl, rfl⟩
  · obtain ⟨header, function, received⟩ := exists_received (Nat.lt_of_not_le short)
    obtain ⟨label, receivedToo⟩ := @exists_received_function other function
      (by rw [← relabelled.getElem?_bytes (Nat.le_refl 7)]; exact received.functionByte)
    rw [handle_run received] at handled
    obtain ⟨parsed, parsing, same⟩ := Option.map_eq_some_iff.mp handled
    obtain ⟨rfl, rfl⟩ := Method.returned_inj.mp (congrArg some same)
    rw [relabelled.parse] at parsing
    obtain ⟨answer, effect⟩ := respond_sameAnswer header label function parsed table
    rw [effect]
    exact ⟨_, handle_run_of_parse receivedToo parsing, answer⟩

/-- Packets under other headers, in the same order, leave the same table and are
answered alike. -/
theorem handleAll_relabelled {packets others : List ByteBuffer}
    (relabelled : List.Forall₂ Relabelled packets others) {table last : Table}
    {replies : List Packet} (ran : (handleAll packets).run table = some (.ok replies, last)) :
    ∃ answers, (handleAll others).run table = some (.ok answers, last) ∧
      List.Forall₂ SameAnswer replies answers := by
  induction relabelled generalizing table replies with
  | nil =>
      obtain ⟨rfl, rfl⟩ := Method.returned_inj.mp ran
      exact ⟨[], rfl, .nil⟩
  | cons first rest ih =>
      obtain ⟨reply, stored, others, handled, followed, rfl⟩ := exists_of_handleAll_cons ran
      obtain ⟨answer, handledToo, alike⟩ := handle_relabelled first handled
      obtain ⟨answers, followedToo, restAlike⟩ := ih followed
      exact ⟨answer :: answers, handleAll_cons_run handledToo followedToo, .cons alike restAlike⟩

end Blindness

/-- Register 1 is written for another unit, too. -/
theorem handleAll_relabelled_unit :
    ∃ replies answers last,
      (@handleAll Struc.documented [writingRegister]).run (Table.cleared 2) =
        some (.ok replies, last) ∧
      (@handleAll Struc.documented
        [ByteBuffer.guarded [0, 9, 0, 7, 0, 0, 5, 0x06, 0, 1, 0, 7]]).run (Table.cleared 2) =
        some (.ok answers, last) ∧
      List.Forall₂ SameAnswer replies answers := by
  let _ : Struc := Struc.documented
  obtain ⟨_, _, wrote⟩ := exists_handle_of_commandOf commandOf_writingRegister (Table.cleared 2)
  have ran := @handleAll_cons_run _ _ [] _ _ _ _ [] wrote rfl
  have relabelled : List.Forall₂ Relabelled [writingRegister]
      [ByteBuffer.guarded [0, 9, 0, 7, 0, 0, 5, 0x06, 0, 1, 0, 7]] :=
    .cons ⟨rfl, rfl, rfl⟩ .nil
  obtain ⟨answers, otherRan, alike⟩ := handleAll_relabelled relabelled ran
  exact ⟨_, answers, _, ran, otherRan, alike⟩

end ModbusCpp
