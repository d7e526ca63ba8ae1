import ModbusCpp.Serving

/-!
# Reads on the server

What the replies to the four read functions show: the cells of the addressed
block in the order of their addresses, registers with their upper byte first
and bits from the least significant one of a byte on.  The table stays as it
is.
-/

namespace ModbusCpp

open RequestHandler StructFormat

/-- A normal reply with a byte count and as many bytes of data. -/
structure DataReply (packet : Packet) (function : FunctionCode) (reply data : Packet) :
    Prop where
  wellFormed : WellFormedReply packet reply
  body : ∃ byteCount : UInt8, reply.drop 7 = function.toUnderlying :: byteCount :: data ∧
    byteCount.toNat = data.length

/-- The data show the registers of a run. -/
structure ShowsRegisters (block : Block.Registers) (address count : UInt16) (data : Packet) :
    Prop where
  length : data.length = 2 * count.toNat
  held : ∀ index < count.toNat, ∃ value, block.cell (address.toNat + index) = some value ∧
    data[2 * index]? = some (UInt8.ofNat (value.toNat / 256)) ∧
      data[2 * index + 1]? = some (UInt8.ofNat value.toNat)

/-- The data show the bits of a run and nothing else. -/
structure ShowsBits (block : Block.Bits) (address count : UInt16) (data : Packet) : Prop where
  length : data.length = (count.toNat + 7) / 8
  held : ∀ index < count.toNat,
    data[index / 8]?.map (fun byte => byte.toBitVec.getLsbD (index % 8)) =
      block.cell (address.toNat + index)
  unused : ∀ index, count.toNat ≤ index → index < 8 * data.length →
    data[index / 8]?.map (fun byte => byte.toBitVec.getLsbD (index % 8)) = some false

section Showing

variable {address count : UInt16}

/-- Words of consecutive registers show them. -/
theorem showsRegisters_wordBytes {block : Block.Registers}
    (inside : block.Contains address count.toNat) :
    ShowsRegisters block address count (wordBytes (block.read address count.toNat)) where
  length := by rw [length_wordBytes, Block.Sequential.length_read inside]
  held := by
    intro index indexLt
    have cell := Block.Sequential.cell_eq_getElem?_read inside indexLt
    have held : index < (block.read address count.toNat).length := by
      rwa [Block.Sequential.length_read inside]
    obtain ⟨upper, lower⟩ := getElem?_wordBytes (block.read address count.toNat) index
    rw [List.getElem?_eq_getElem held] at cell upper lower
    exact ⟨_, cell, upper, lower⟩

/-- Packed bits of consecutive cells show them. -/
theorem showsBits_packBits {block : Block.Bits}
    (inside : block.Contains address count.toNat) :
    ShowsBits block address count (packBits (block.read address count.toNat)) := by
  have reads := Block.Sequential.length_read inside
  constructor
  · rw [length_packBits, reads]
  · intro index indexLt
    rw [getElem?_packBits _ (by rwa [reads]),
      Block.Sequential.cell_eq_getElem?_read inside indexLt]
  · intro index unused indexLt
    exact getElem?_packBits_unused _ (by rwa [reads]) indexLt

end Showing

/-- The reply to a served read is a data reply. -/
theorem dataReply_of_reply {packet : ByteBuffer} {header : Header} {function : FunctionCode}
    (received : Received packet header function) {command : Command} {table : Table}
    (admissible : command.Admissible table) {byteCount : UInt8} {data : Packet}
    (replied : command.reply table = byteCount :: data)
    (counted : byteCount.toNat = data.length) :
    DataReply packet.bytes function (header.frame function (command.reply table)).bytes data where
  wellFormed := by
    obtain ⟨nonempty, fits⟩ := Command.length_reply admissible
    exact Frame.wellFormedReply received rfl rfl nonempty fits
  body := by
    refine ⟨byteCount, ?_, counted⟩
    rw [replied]
    rfl

/-- A read of registers is served with the registers of its run. -/
theorem handle_readRegisters [Struc] {packet : ByteBuffer} {table : Table}
    {block : RegisterBlock} {address count : UInt16}
    (asks : Asks packet block.function (wordBytes [address, count]))
    (counted : 1 ≤ count.toNat ∧ count.toNat ≤ 125)
    (inside : (table.registers block).Contains address count.toNat) :
    ∃ reply data, (handle packet).run table = some (.ok reply, table) ∧
      DataReply packet.bytes block.function reply data ∧
      ShowsRegisters (table.registers block) address count data := by
  obtain ⟨header, received⟩ := exists_received_function asks.functionByte
  have admissible : (Command.readRegisters block address count).Admissible table :=
    ⟨(NumRegs.validate_read_iff count).mpr counted, inside⟩
  have served := received.served (parse_readRegisters block asks.decode_words) admissible
  refine ⟨_, _, served.ran, dataReply_of_reply received admissible rfl ?_,
    showsRegisters_wordBytes inside⟩
  rw [toNat_registerBytes, length_wordBytes, Block.Sequential.length_read inside]
  omega

/-- A read of bits is served with the bits of its run. -/
theorem handle_readBits [Struc] {packet : ByteBuffer} {table : Table}
    {block : BitBlock} {address count : UInt16}
    (asks : Asks packet block.function (wordBytes [address, count]))
    (counted : 1 ≤ count.toNat ∧ count.toNat ≤ 2000)
    (inside : (table.bits block).Contains address count.toNat) :
    ∃ reply data, (handle packet).run table = some (.ok reply, table) ∧
      DataReply packet.bytes block.function reply data ∧
      ShowsBits (table.bits block) address count data := by
  obtain ⟨header, received⟩ := exists_received_function asks.functionByte
  have admissible : (Command.readBits block address count).Admissible table :=
    ⟨(NumBits.validate_read_iff count).mpr counted, inside⟩
  have served := received.served (parse_readBits block asks.decode_words) admissible
  refine ⟨_, _, served.ran, dataReply_of_reply received admissible rfl ?_,
    showsBits_packBits inside⟩
  rw [length_packBits, Block.Sequential.length_read inside, UInt8.toNat_ofNat']
  omega

/-- The four read functions, on any table. -/
theorem handle_reads [Struc] (packet : ByteBuffer) (table : Table) (address count : UInt16) :
    (∀ block : RegisterBlock, Asks packet block.function (wordBytes [address, count]) →
      1 ≤ count.toNat ∧ count.toNat ≤ 125 →
      (table.registers block).Contains address count.toNat →
      ∃ reply data, (handle packet).run table = some (.ok reply, table) ∧
        DataReply packet.bytes block.function reply data ∧
        ShowsRegisters (table.registers block) address count data) ∧
    (∀ block : BitBlock, Asks packet block.function (wordBytes [address, count]) →
      1 ≤ count.toNat ∧ count.toNat ≤ 2000 →
      (table.bits block).Contains address count.toNat →
      ∃ reply data, (handle packet).run table = some (.ok reply, table) ∧
        DataReply packet.bytes block.function reply data ∧
        ShowsBits (table.bits block) address count data) :=
  ⟨fun _ => handle_readRegisters, fun _ => handle_readBits⟩

/-- Ten coils of a block that starts at 3. -/
theorem handle_reads_coils :
    ∃ reply data, (@handle Struc.documented (ByteBuffer.guarded
          [0, 1, 0, 0, 0, 6, 1, 0x01, 0, 5, 0, 10])).run
        ((Table.cleared 1).setBits .coils (.new 3 12 true)) =
          some (.ok reply, (Table.cleared 1).setBits .coils (.new 3 12 true)) ∧
      DataReply [0, 1, 0, 0, 0, 6, 1, 0x01, 0, 5, 0, 10] BitBlock.coils.function reply data ∧
      ShowsBits (.new 3 12 true) 5 10 data :=
  (@handle_reads Struc.documented (ByteBuffer.guarded
    [0, 1, 0, 0, 0, 6, 1, 0x01, 0, 5, 0, 10])
    ((Table.cleared 1).setBits .coils (.new 3 12 true)) 5 10).2 .coils ⟨rfl, rfl⟩
      (by decide) (by decide)

end ModbusCpp
