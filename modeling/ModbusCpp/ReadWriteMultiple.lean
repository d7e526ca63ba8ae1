import ModbusCpp.MultipleWrites

/-!
# Reading and writing with one request

A request to read and write several registers does what a request to write
them and then one to read them do, also where the two runs overlap.  Its byte
count is compared in eight bits; a quantity that agrees with it only there is
stopped by the limit on quantities.
-/

namespace ModbusCpp

open Method RequestHandler StructFormat

/-- A request to read and write several registers, with all the bytes that its
byte count declares. -/
structure AsksReadWrite (packet : ByteBuffer)
    (readAddress readCount writeAddress writeCount : UInt16) (byteCount : UInt8)
    (payload : Packet) : Prop where
  asks : Asks packet .readWriteMultipleRegisters
    (wordBytes [readAddress, readCount, writeAddress, writeCount] ++ byteCount :: payload)
  complete : byteCount.toNat ≤ payload.length

section Parsing

variable {packet : ByteBuffer} {readAddress readCount writeAddress writeCount : UInt16}
  {byteCount : UInt8} {payload : Packet} {command : Command}

/-- The words that a byte count declares are there. -/
theorem exists_words {length : Nat} (complete : byteCount.toNat ≤ payload.length)
    (counted : byteCount.toNat = 2 * length) :
    ∃ words rest, words.length = length ∧ payload = wordBytes words ++ rest ∧
      payload.take byteCount.toNat = wordBytes words := by
  obtain ⟨words, rest, lengthEq, rfl⟩ := exists_wordBytes (counted ▸ complete)
  refine ⟨words, rest, lengthEq, rfl, ?_⟩
  rw [counted, ← lengthEq, ← length_wordBytes, List.take_left]

/-- The values of the command are the words that the byte count declares. -/
theorem AsksReadWrite.parse_iff
    (asks : AsksReadWrite packet readAddress readCount writeAddress writeCount byteCount payload) :
    parse packet .readWriteMultipleRegisters = some (.ok command) ↔
      byteCount.toNat = 2 * (writeCount.toNat % 128) ∧
        ∃ words, words.length = writeCount.toNat % 128 ∧
          payload.take byteCount.toNat = wordBytes words ∧
          command = .readWriteMultipleRegisters readAddress readCount writeAddress writeCount
            ⟨resize words writeCount.toNat 0, length_resize _ _ _⟩ := by
  have decoded := asks.asks.decode_counted_four
  by_cases counted : byteCount.toNat = 2 * (writeCount.toNat % 128)
  · obtain ⟨words, rest, lengthEq, rfl, taken⟩ := exists_words asks.complete counted
    have read : decodeWords packet.read 17 words.length = some words :=
      asks.asks.decodeWords_counted
    rw [lengthEq] at read
    rw [and_iff_right counted, taken]
    constructor
    · intro parsed
      refine ⟨words, lengthEq, rfl, ?_⟩
      simp only [parse, decoded, Option.bind_eq_bind, Option.bind_some, counted, if_true, read,
        Option.some.injEq, Except.ok.injEq] at parsed
      exact parsed.symm
    · rintro ⟨others, -, same, rfl⟩
      obtain rfl := wordBytes_injective same
      simp [parse, decoded, counted, read]
  · simp [parse, decoded, counted]

end Parsing

section Parts

variable [Struc] {packet : ByteBuffer}
  {readAddress readCount writeAddress writeCount : UInt16} {byteCount : UInt8}
  {payload : Packet} {table stored : Table} {reply : Packet}

/-- A quantity that agrees with the byte count in eight bits alone is refused
for its size. -/
theorem AsksReadWrite.served_iff
    (asks : AsksReadWrite packet readAddress readCount writeAddress writeCount byteCount
      payload) :
    (∃ reply stored, Served packet .readWriteMultipleRegisters table reply stored) ↔
      byteCount.toNat = 2 * writeCount.toNat % 256 ∧
        (1 ≤ readCount.toNat ∧ readCount.toNat ≤ 125) ∧
        (1 ≤ writeCount.toNat ∧ writeCount.toNat ≤ 123) ∧
        table.holdingRegisters.Contains readAddress readCount.toNat ∧
        table.holdingRegisters.Contains writeAddress writeCount.toNat := by
  obtain ⟨header, received⟩ := exists_received_function asks.asks.functionByte
  have sized : byteCount.toNat = 2 * writeCount.toNat % 256 ↔
      byteCount.toNat = 2 * (writeCount.toNat % 128) := by omega
  rw [received.served_iff, sized]
  constructor
  · rintro ⟨command, parsed, admissible⟩
    obtain ⟨counted, words, -, -, rfl⟩ := asks.parse_iff.mp parsed
    rcases admissible with ⟨⟨reads, readInside⟩, writes, writeInside⟩
    exact ⟨counted, (NumRegs.validate_read_iff _).mp reads,
      (NumRegs.validate_write_iff _).mp writes, readInside, writeInside⟩
  · rintro ⟨counted, reads, writes, readInside, writeInside⟩
    obtain ⟨words, rest, lengthEq, -, taken⟩ := exists_words asks.complete counted
    exact ⟨_, asks.parse_iff.mpr ⟨counted, words, lengthEq, taken, rfl⟩,
      ⟨(NumRegs.validate_read_iff _).mpr reads, readInside⟩,
      (NumRegs.validate_write_iff _).mpr writes, writeInside⟩

/-- What is served is the effect of the write, and the reply of the read on
what it leaves. -/
theorem AsksReadWrite.exists_values
    (asks : AsksReadWrite packet readAddress readCount writeAddress writeCount byteCount payload)
    (served : Served packet .readWriteMultipleRegisters table reply stored) :
    ∃ values : Values UInt16 writeCount, byteCount.toNat = 2 * writeCount.toNat ∧
      payload.take byteCount.toNat = wordBytes values ∧
      (Command.writeMultipleRegisters writeAddress writeCount values).Admissible table ∧
      stored = (Command.writeMultipleRegisters writeAddress writeCount values).effect table ∧
      (Command.readRegisters .holdingRegisters readAddress readCount).Admissible stored ∧
      reply.drop 8 =
        ((Command.readRegisters .holdingRegisters readAddress readCount).reply stored) := by
  obtain ⟨header, command, received, parsed, admissible, rfl, rfl⟩ := served.exists_command
  obtain ⟨counted, words, lengthEq, taken, rfl⟩ := asks.parse_iff.mp parsed
  rcases admissible with ⟨⟨reads, readInside⟩, writes, writeInside⟩
  have limits := (NumRegs.validate_write_iff _).mp writes
  rw [Nat.mod_eq_of_lt (show writeCount.toNat < 128 by omega)] at counted lengthEq
  rw [Values.resize_eq 0 lengthEq]
  exact ⟨⟨words, lengthEq⟩, counted, taken, ⟨writes, writeInside⟩, rfl,
    ⟨reads, readInside⟩, rfl⟩

end Parts

/-- A request to read and write is a request to write and then one to read. -/
theorem readWrite_eq_write_read [Struc] {packet : ByteBuffer}
    {readAddress readCount writeAddress writeCount : UInt16} {byteCount : UInt8}
    {payload : Packet}
    (asks : AsksReadWrite packet readAddress readCount writeAddress writeCount byteCount payload)
    (table : Table) :
    ((∃ reply stored, Served packet .readWriteMultipleRegisters table reply stored) ↔
      byteCount.toNat = 2 * writeCount.toNat % 256 ∧
        (1 ≤ readCount.toNat ∧ readCount.toNat ≤ 125) ∧
        (1 ≤ writeCount.toNat ∧ writeCount.toNat ≤ 123) ∧
        table.holdingRegisters.Contains readAddress readCount.toNat ∧
        table.holdingRegisters.Contains writeAddress writeCount.toNat) ∧
    ∀ reply stored, Served packet .readWriteMultipleRegisters table reply stored →
      (∀ writer, Asks writer .writeMultipleRegisters
          (wordBytes [writeAddress, writeCount] ++
            byteCount :: payload.take byteCount.toNat) →
        ∃ answer, Served writer .writeMultipleRegisters table answer stored) ∧
      ∀ reader, Asks reader .readHoldingRegisters (wordBytes [readAddress, readCount]) →
        ∃ answer, Served reader .readHoldingRegisters stored answer stored ∧
          reply.drop 8 = answer.drop 8 := by
  refine ⟨asks.served_iff, ?_⟩
  intro reply stored served
  obtain ⟨values, counted, taken, writes, rfl, reads, shown⟩ := asks.exists_values served
  constructor
  · intro writer writerAsks
    rw [taken] at writerAsks
    have several : AsksRegisters writer writeAddress writeCount values :=
      ⟨byteCount, counted, writerAsks⟩
    exact several.exists_served writes
  · intro reader readerAsks
    obtain ⟨_, readerReceived⟩ := exists_received_function readerAsks.functionByte
    have readerParsed := parse_readRegisters .holdingRegisters readerAsks.decode_words
    exact ⟨_, readerReceived.served readerParsed reads, shown⟩

/-- The run that is read overlaps the one that is written. -/
theorem readWrite_eq_write_read_overlapping :
    ∃ reply stored,
      @Served Struc.documented (ByteBuffer.guarded
          [0, 1, 0, 0, 0, 15, 1, 0x17, 0, 0, 0, 3, 0, 1, 0, 2, 4, 0x12, 0x34, 0xAB, 0xCD])
        .readWriteMultipleRegisters (Table.cleared 4) reply stored ∧
      (∃ answer, @Served Struc.documented (ByteBuffer.guarded
          [0, 2, 0, 0, 0, 11, 1, 0x10, 0, 1, 0, 2, 4, 0x12, 0x34, 0xAB, 0xCD])
        .writeMultipleRegisters (Table.cleared 4) answer stored) ∧
      ∃ answer, @Served Struc.documented (ByteBuffer.guarded
          [0, 3, 0, 0, 0, 6, 1, 0x03, 0, 0, 0, 3])
        .readHoldingRegisters stored answer stored ∧ reply.drop 8 = answer.drop 8 := by
  have combined := @readWrite_eq_write_read Struc.documented (ByteBuffer.guarded
    [0, 1, 0, 0, 0, 15, 1, 0x17, 0, 0, 0, 3, 0, 1, 0, 2, 4, 0x12, 0x34, 0xAB, 0xCD])
    0 3 1 2 4 [0x12, 0x34, 0xAB, 0xCD] ⟨⟨rfl, rfl⟩, by decide⟩ (Table.cleared 4)
  obtain ⟨reply, stored, served⟩ := combined.1.mpr (by decide)
  obtain ⟨writes, reads⟩ := combined.2 reply stored served
  exact ⟨reply, stored, served, writes _ ⟨rfl, rfl⟩, reads _ ⟨rfl, rfl⟩⟩

end ModbusCpp
