import ModbusCpp.ReadWriteMultiple
import ModbusCpp.ReadYourWrites

/-!
# Payloads of multiple writes

The quantity, the byte count and the bytes behind it.  For registers the byte
count is compared with the quantity in eight bits, and the limit on quantities
does the rest; for coils it is stored and never compared, so bits that are not
in the packet are stored as well.
-/

namespace ModbusCpp

open Method RequestHandler StructFormat

/-- A request for several coils that has as many data bytes as its quantity
needs and as its byte count says. -/
def WellCounted (packet : ByteBuffer) : Prop :=
  ∃ (address count : UInt16) (byteCount : UInt8) (data : Packet),
    packet.bytes.drop 8 = wordBytes [address, count] ++ byteCount :: data ∧
      byteCount.toNat = (count.toNat + 7) / 8 ∧ data.length = byteCount.toNat

/-- A packet has a bit with this value for a coil. -/
def HasBit (packet : ByteBuffer) (place : Nat) (value : Bool) : Prop :=
  ∃ (address : UInt16) (index : Nat),
    decode packet.read 8 [.H] = some (address, ()) ∧ place = address.toNat + index ∧
      packet.bytes[13 + index / 8]?.map (fun byte => byte.toBitVec.getLsbD (index % 8)) =
        some value

/-- Packets whose payload is not well counted get an exception and change
nothing, and coils are only changed to values that are in the packet. -/
def ChecksPayload [Struc] (table : Table) (packet : ByteBuffer) : Prop :=
  ∃ reply stored, (handle packet).run table = some (.ok reply, stored) ∧
    (¬ WellCounted packet → ExceptionReply reply ∧ stored = table) ∧
    ∀ place value, stored.coils.cell place = some value →
      table.coils.cell place ≠ some value → HasBit packet place value

section Coils

variable {packet : ByteBuffer}

theorem WellCounted.exists_decode (counted : WellCounted packet)
    (requested : packet.bytes[7]? = some 0x0F) :
    ∃ (address count : UInt16) (byteCount : UInt8),
      decode packet.read 8 [.H, .H, .B] = some (address, count, byteCount, ()) ∧
        13 + (count.toNat + 7) / 8 = packet.bytes.length := by
  rcases counted with ⟨address, count, byteCount, data, body, sized, complete⟩
  have asks : Asks packet .writeMultipleCoils
      (wordBytes [address, count] ++ byteCount :: data) := ⟨requested, body⟩
  refine ⟨address, count, byteCount, asks.decode_counted, ?_⟩
  have behind := congrArg List.length body
  simp only [List.length_drop, List.length_append, length_wordBytes, List.length_cons,
    List.length_nil] at behind
  omega

/-- What a complete request stores, its packet has. -/
theorem Served.hasBit [Struc] {table stored : Table} {reply : Packet} {address count : UInt16}
    {byteCount : UInt8} (served : Served packet .writeMultipleCoils table reply stored)
    (decoded : decode packet.read 8 [.H, .H, .B] = some (address, count, byteCount, ()))
    (complete : 13 + (count.toNat + 7) / 8 = packet.bytes.length) {place : Nat} {value : Bool}
    (held : stored.coils.cell place = some value)
    (changed : table.coils.cell place ≠ some value) : HasBit packet place value := by
  obtain ⟨header, command, received, parsed, admissible, -, stores⟩ := served.exists_command
  have differs : (command.effect table).coils.cell place ≠ table.coils.cell place := by
    rw [← stores, held]
    exact changed.symm
  obtain ⟨-, first, length, target, above, below⟩ := Command.changed_coil admissible differs
  obtain ⟨range, -⟩ := decode_words_cons decoded
  have named : writeRange packet .writeMultipleCoils = some (address.toNat, count.toNat) := by
    simp [writeRange, range]
  rw [← (parse_command parsed).2, named] at target
  obtain ⟨rfl, rfl⟩ := Prod.mk.inj (Option.some.inj target)
  have inside : 13 + (place - address.toNat) / 8 < packet.bytes.length := by omega
  have carried : writtenCoil packet .writeMultipleCoils place =
      some (packet.bytes[13 + (place - address.toNat) / 8].toBitVec.getLsbD
        ((place - address.toNat) % 8)) := by
    simp [writtenCoil, range, above, below, List.getElem?_eq_getElem inside]
  rw [served.stores_coil carried] at held
  refine ⟨address, place - address.toNat, ?_, by omega, ?_⟩
  · obtain ⟨word, -⟩ := decode_cons_eq_some_iff.mp decoded
    simp [decode, word]
  · rw [List.getElem?_eq_getElem inside]
    exact held

/-- A request that asks for no admissible command is refused. -/
theorem Received.checksPayload_of_refused [Struc] {header : Header} {function : FunctionCode}
    (received : Received packet header function) {command : Command} {table : Table}
    (parsed : parse packet function = some (.ok command))
    (inadmissible : ¬ command.Admissible table) : ChecksPayload table packet := by
  refine ⟨_, _, handle_run_of_parse received parsed, ?_⟩
  rw [respond_inadmissible inadmissible]
  exact ⟨fun _ => ⟨Frame.exception_exceptionReply _ _ function _, rfl⟩,
    fun _ _ held changed => absurd held changed⟩

end Coils

/-- The payload is checked for what is refused for its fixed part, and for no
other request. -/
theorem checksPayload_iff [Struc] (table : Table) {packet : ByteBuffer}
    (requested : packet.bytes[7]? = some 0x0F) :
    ChecksPayload table packet ↔
      WellCounted packet ∨ RefusedEarly table packet .writeMultipleCoils := by
  obtain ⟨header, received⟩ :=
    @exists_received_function packet .writeMultipleCoils requested
  constructor
  · rintro ⟨reply, stored, ran, refused, -⟩
    by_contra unsound
    rw [not_or] at unsound
    rcases unsound with ⟨uncounted, notEarly⟩
    rw [handle_run received] at ran
    obtain ⟨parsed, parsing, answer⟩ := Option.map_eq_some_iff.mp ran
    obtain ⟨exceptional, -⟩ := refused uncounted
    obtain ⟨same, -⟩ := Prod.mk.inj answer
    rw [← Except.ok.inj same, respond_exceptionReply_iff parsing] at exceptional
    obtain ⟨⟨address, count, byteCount, ⟨⟩⟩, decoded, built⟩ :=
      Option.bind_eq_some_iff.mp parsing
    refine exceptional _ (Option.some.inj built).symm ?_
    by_contra inadmissible
    exact notEarly ⟨address, count, byteCount, decoded, inadmissible⟩
  · intro sound
    have parsed {address count : UInt16} {byteCount : UInt8}
        (decoded : decode packet.read 8 [.H, .H, .B] = some (address, count, byteCount, ())) :=
      parse_writeMultipleCoils_of_resize ⟨_, length_resize _ _ _⟩ decoded rfl
    rcases sound with counted | ⟨address, count, byteCount, decoded, invalid⟩
    · obtain ⟨address, count, byteCount, decoded, complete⟩ := counted.exists_decode requested
      by_cases admissible : NumBits.validate true count = true ∧
        table.coils.Contains address count.toNat
      · have served := received.served (parsed decoded) admissible
        exact ⟨_, _, served.ran, absurd counted, fun _ _ => served.hasBit decoded complete⟩
      · exact received.checksPayload_of_refused (parsed decoded) admissible
    · exact received.checksPayload_of_refused (parsed decoded) invalid

/-- Three coils of a block whose other bits stay as they are. -/
theorem checksPayload_three :
    @ChecksPayload Struc.documented (Table.cleared 8)
        (ByteBuffer.guarded [0, 1, 0, 0, 0, 8, 1, 0x0F, 0, 2, 0, 3, 1, 5]) ↔
      WellCounted (ByteBuffer.guarded [0, 1, 0, 0, 0, 8, 1, 0x0F, 0, 2, 0, 3, 1, 5]) ∨
        RefusedEarly (Table.cleared 8)
          (ByteBuffer.guarded [0, 1, 0, 0, 0, 8, 1, 0x0F, 0, 2, 0, 3, 1, 5])
          .writeMultipleCoils :=
  @checksPayload_iff Struc.documented _ _ rfl

/-- A request for eight coils without a data byte switches them off. -/
theorem not_checksPayload_empty :
    ¬ @ChecksPayload Struc.documented ((Table.cleared 1).setBits .coils (.new 0 8 true))
      (ByteBuffer.guarded [0, 1, 0, 0, 0, 7, 1, 0x0F, 0, 0, 0, 8, 1]) := by
  rintro ⟨reply, stored, ran, refused, -⟩
  have answered : (@handle Struc.documented
      (ByteBuffer.guarded [0, 1, 0, 0, 0, 7, 1, 0x0F, 0, 0, 0, 8, 1])).run
        ((Table.cleared 1).setBits .coils (.new 0 8 true)) =
          some (.ok [0, 1, 0, 0, 0, 6, 1, 0x0F, 0, 0, 0, 8],
            (Table.cleared 1).setBits .coils
              (Block.Sequential.write (.new 0 8 true) 0 (List.replicate 8 false))) := rfl
  rw [answered] at ran
  obtain ⟨rfl, -⟩ := returned_inj.mp ran
  have uncounted : ¬ WellCounted
      (ByteBuffer.guarded [0, 1, 0, 0, 0, 7, 1, 0x0F, 0, 0, 0, 8, 1]) := by
    intro counted
    obtain ⟨address, count, byteCount, decoded, complete⟩ := counted.exists_decode rfl
    have carried : decode (ByteBuffer.guarded
        [0, 1, 0, 0, 0, 7, 1, 0x0F, 0, 0, 0, 8, 1]).read 8 [.H, .H, .B] =
          some (0, 8, 1, ()) := rfl
    rw [carried] at decoded
    simp only [Option.some.injEq, Prod.mk.injEq] at decoded
    rcases decoded with ⟨-, rfl, -⟩
    revert complete
    decide
  obtain ⟨⟨byte, found, marked⟩, -⟩ := refused uncounted
  obtain rfl : 0x0F = byte := Option.some.inj found
  exact absurd marked (by decide)

/-- The registers of a run hold the words of a payload: the byte count is twice
the quantity, which is in its limits, as many registers are decoded as `resize`
asks for, and each of them is stored. -/
structure PayloadStored [Struc] (packet : ByteBuffer) (valuesIdx : Nat) (address count : UInt16)
    (byteCount : UInt8) (payload : Packet) (stored : Table) : Prop where
  counted : byteCount.toNat = 2 * count.toNat
  limits : 1 ≤ count.toNat ∧ count.toNat ≤ 123
  buffer : ∃ buffer, unpackRegisters packet valuesIdx byteCount.toNat = some buffer ∧
    buffer.length = count.toNat ∧ resize buffer count.toNat 0 = buffer
  shown : ShowsRegisters stored.holdingRegisters address count (payload.take byteCount.toNat)

section Registers

variable {packet : ByteBuffer} {address count : UInt16} {byteCount : UInt8} {payload : Packet}

/-- A run that was written shows what was written. -/
theorem showsRegisters_write {block : Block.Registers} (values : Values UInt16 count)
    (inside : block.Contains address count.toNat) :
    ShowsRegisters (block.write address values) address count (wordBytes values) where
  length := by rw [length_wordBytes, values.property]
  held := by
    intro index indexLt
    have held : index < values.val.length := by rwa [values.property]
    have cell := Block.Sequential.cell_write_inside inside values.property
      (show address.toNat ≤ address.toNat + index ∧
        address.toNat + index < address.toNat + count.toNat by omega)
    obtain ⟨upper, lower⟩ := getElem?_wordBytes values.val index
    rw [Nat.add_sub_cancel_left, List.getElem?_eq_getElem held] at cell
    rw [List.getElem?_eq_getElem held] at upper lower
    exact ⟨_, cell, upper, lower⟩

/-- An admissible write of the words that a byte count declares. -/
theorem payloadStored_write [Struc] {function : FunctionCode} {words : List UInt16}
    {table stored : Table}
    (asks : Asks packet function (wordBytes words ++ byteCount :: payload))
    (values : Values UInt16 count) (counted : byteCount.toNat = 2 * count.toNat)
    (taken : payload.take byteCount.toNat = wordBytes values)
    (admissible : (Command.writeMultipleRegisters address count values).Admissible table)
    (effect : stored = (Command.writeMultipleRegisters address count values).effect table) :
    PayloadStored packet (9 + 2 * words.length) address count byteCount payload stored where
  counted := counted
  limits := (NumRegs.validate_write_iff count).mp admissible.1
  buffer := by
    rw [← List.take_append_drop byteCount.toNat payload, taken] at asks
    have read := asks.decodeWords_counted
    rw [values.property] at read
    refine ⟨values.val, ?_, values.property, resize_of_length 0 values.property⟩
    rw [counted, unpackRegisters_eq, read]
  shown := by
    subst effect
    rw [taken]
    exact showsRegisters_write values admissible.2

/-- What is served is the write of the words that the byte count declares. -/
theorem Asks.exists_values [Struc] {table stored : Table} {reply : Packet}
    (asks : Asks packet .writeMultipleRegisters
      (wordBytes [address, count] ++ byteCount :: payload))
    (complete : byteCount.toNat ≤ payload.length)
    (served : Served packet .writeMultipleRegisters table reply stored) :
    ∃ values : Values UInt16 count, byteCount.toNat = 2 * count.toNat ∧
      payload.take byteCount.toNat = wordBytes values ∧
      (Command.writeMultipleRegisters address count values).Admissible table ∧
      stored = (Command.writeMultipleRegisters address count values).effect table := by
  obtain ⟨header, command, received, parsed, admissible, -, rfl⟩ := served.exists_command
  obtain ⟨first, length, byteCount, words, decoded, counted, read, rfl⟩ :=
    exists_of_parse_writeMultipleRegisters parsed
  rw [asks.decode_counted] at decoded
  simp only [Option.some.injEq, Prod.mk.injEq, and_true] at decoded
  rcases decoded with ⟨rfl, rfl, rfl⟩
  have limits := (NumRegs.validate_write_iff _).mp admissible.1
  rw [Nat.mod_eq_of_lt (show count.toNat < 128 by omega)] at counted read
  obtain ⟨values, rest, lengthEq, rfl, taken⟩ := exists_words complete counted
  have again : StructFormat.decodeWords packet.read 13 values.length = some values :=
    asks.decodeWords_counted
  rw [lengthEq, read] at again
  obtain rfl := Option.some.inj again
  rw [Values.resize_eq 0 lengthEq] at admissible ⊢
  exact ⟨⟨words, lengthEq⟩, counted, taken, admissible, rfl⟩

end Registers

/-- No register is stored that is not in the payload. -/
theorem served_payloadStored [Struc] {packet : ByteBuffer} {table stored : Table}
    {reply payload : Packet} {address count : UInt16} {byteCount : UInt8}
    (complete : byteCount.toNat ≤ payload.length) :
    (Asks packet .writeMultipleRegisters
        (wordBytes [address, count] ++ byteCount :: payload) →
      Served packet .writeMultipleRegisters table reply stored →
      PayloadStored packet 13 address count byteCount payload stored) ∧
    ∀ readAddress readCount,
      Asks packet .readWriteMultipleRegisters
        (wordBytes [readAddress, readCount, address, count] ++ byteCount :: payload) →
      Served packet .readWriteMultipleRegisters table reply stored →
      PayloadStored packet 17 address count byteCount payload stored := by
  constructor
  · intro asks served
    obtain ⟨values, counted, taken, admissible, effect⟩ := asks.exists_values complete served
    exact payloadStored_write asks values counted taken admissible effect
  · intro readAddress readCount asks served
    have whole : AsksReadWrite packet readAddress readCount address count byteCount payload :=
      ⟨asks, complete⟩
    obtain ⟨values, counted, taken, admissible, effect, -, -⟩ := whole.exists_values served
    exact payloadStored_write asks values counted taken admissible effect

/-- A payload that is longer than its byte count, and one of a request that reads
as well. -/
theorem served_payloadStored_longer :
    @PayloadStored Struc.documented (ByteBuffer.guarded [0, 1, 0, 0, 0, 11, 1, 0x10, 0, 1, 0, 2,
        4, 0x12, 0x34, 0xAB, 0xCD, 9]) 13 1 2 4 [0x12, 0x34, 0xAB, 0xCD, 9]
      ((Table.cleared 4).setRegisters .holdingRegisters
        ((Table.cleared 4).holdingRegisters.write 1 [0x1234, 0xABCD])) ∧
    @PayloadStored Struc.documented (ByteBuffer.guarded [0, 2, 0, 0, 0, 13, 1, 0x17, 0, 0, 0, 2,
        0, 1, 0, 1, 2, 0x12, 0x34]) 17 1 1 2 [0x12, 0x34]
      ((Table.cleared 4).setRegisters .holdingRegisters
        ((Table.cleared 4).holdingRegisters.write 1 [0x1234])) :=
  ⟨(@served_payloadStored Struc.documented _ (Table.cleared 4) _
      [0, 1, 0, 0, 0, 6, 1, 0x10, 0, 1, 0, 2] _ _ _ _ (by decide)).1 ⟨rfl, rfl⟩
      (@Served.mk Struc.documented _ _ _ _ _ rfl rfl
        (@Frame.normal ⟨1, 1, 0x10, [0, 1, 0, 2]⟩ (by decide))),
    (@served_payloadStored Struc.documented _ (Table.cleared 4) _
      [0, 2, 0, 0, 0, 7, 1, 0x17, 4, 0, 0, 0x12, 0x34] _ _ _ _ (by decide)).2 0 2 ⟨rfl, rfl⟩
      (@Served.mk Struc.documented _ _ _ _ _ rfl rfl
        (@Frame.normal ⟨2, 1, 0x17, [4, 0, 0, 0x12, 0x34]⟩ (by decide)))⟩

end ModbusCpp
