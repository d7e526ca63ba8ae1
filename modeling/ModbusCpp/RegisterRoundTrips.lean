import ModbusCpp.Exchange
import ModbusCpp.RequestPackets

/-!
# Register round trips

What becomes of the holding registers that a client writes.  Single and several
registers arrive as they were sent, also where a request reads them back.  The
mask of a mask write is not the one of the Modbus specification: the bits of
the or-mask are set whether the and-mask keeps the old ones or not.
-/

namespace ModbusCpp

open Method StructFormat

/-- The holding registers from `address` on hold the values, and all else is as
before. -/
def Table.RegistersSet (before after : Table) (address : UInt16) (values : List UInt16) :
    Prop :=
  after.holdingRegisters.cell =
      AddressMap.write before.holdingRegisters.cell address.toNat values ∧
    after = { before with holdingRegisters := after.holdingRegisters }

theorem Table.registersSet_write {table : Table} {address : UInt16} {values : List UInt16}
    (inside : table.holdingRegisters.Contains address values.length) :
    table.RegistersSet
      { table with holdingRegisters := table.holdingRegisters.write address values }
      address values :=
  ⟨Block.Sequential.cell_write inside, rfl⟩

theorem maskBit_eq_iff : ∀ value andBit orBit : Bool,
    (value && andBit || orBit) = (value && andBit || (orBit && !andBit)) ↔
      (andBit && orBit && !value) = false := by
  decide

/-- The mask of the code agrees with that of the specification exactly if the
bits that both masks have are set already. -/
theorem mask_eq_iff (value andMask orMask : UInt16) :
    value &&& andMask ||| orMask = value &&& andMask ||| (orMask &&& ~~~andMask) ↔
      andMask &&& orMask &&& ~~~value = 0 := by
  rw [← UInt16.toBitVec_inj, ← UInt16.toBitVec_inj, BitVec.eq_of_getLsbD_eq_iff,
    BitVec.eq_of_getLsbD_eq_iff]
  refine forall₂_congr fun position inside => ?_
  simp only [UInt16.toBitVec_or, UInt16.toBitVec_and, UInt16.toBitVec_not, UInt16.toBitVec_zero,
    BitVec.getLsbD_or, BitVec.getLsbD_and, BitVec.getLsbD_not, inside, decide_true,
    Bool.true_and, BitVec.getLsbD_zero]
  exact maskBit_eq_iff _ _ _

section Responses

variable [Struc] {packet : ByteBuffer}

theorem Response.WriteSingleRegister.run_decodePassed {address value : UInt16}
    (sized : packet.size = 12)
    (decoded : StructFormat.decode packet.read 8 [.H, .H] = some (address, value, ()))
    (base : Response) (adu : Adu) :
    (decodePassed packet).run ⟨base, ⟨adu, address, value⟩, 0, 0⟩ =
      some (.ok (), ⟨base, ⟨adu, address, value⟩, address, value⟩) := by
  have expected : Request.WriteSingleRegister.responseSize ⟨adu, address, value⟩ = 12 := rfl
  simp [decodePassed, decodingPassed, Adu.headerLength, format, sized, expected, decoded]

theorem Response.MaskWriteRegister.run_decodePassed {address andMask orMask : UInt16}
    (sized : packet.size = 14)
    (decoded : StructFormat.decode packet.read 8 [.H, .H, .H] =
      some (address, andMask, orMask, ())) (base : Response) (adu : Adu) :
    (decodePassed packet).run ⟨base, ⟨adu, address, andMask, orMask⟩, 0, 0, 0⟩ =
      some (.ok (), ⟨base, ⟨adu, address, andMask, orMask⟩, address, andMask, orMask⟩) := by
  have expected : Request.MaskWriteRegister.responseSize ⟨adu, address, andMask, orMask⟩ =
    14 := rfl
  simp [decodePassed, decodingPassed, Adu.headerLength, format, sized, expected, decoded]

theorem Response.WriteMultipleRegisters.run_decodePassed {address count : UInt16}
    (sized : packet.size = 12)
    (decoded : StructFormat.decode packet.read 8 [.H, .H] = some (address, count, ()))
    (base : Response) (adu : Adu) (values : List UInt16) :
    (decodePassed packet).run ⟨base, ⟨adu, address, count, values⟩, 0, 1⟩ =
      some (.ok (), ⟨base, ⟨adu, address, count, values⟩, address, count⟩) := by
  have expected : Request.WriteMultipleRegisters.responseSize ⟨adu, address, count, values⟩ =
    12 := rfl
  simp [decodePassed, decodingPassed, Adu.headerLength, format, sized, expected, decoded]

/-- The byte count of the registers that are read back is an unsigned byte. -/
theorem Response.ReadWriteMultipleRegisters.run_decodePassed
    (request : Request.ReadWriteMultipleRegisters) (small : request.readCount.toNat < 128)
    {registers : List UInt16} (lengthEq : registers.length = request.readCount.toNat)
    (sized : packet.size = 9 + 2 * registers.length)
    (byte : packet.read 8 = some (registerBytes request.readCount))
    (words : decodeWords packet.read 9 registers.length = some registers) (base : Response) :
    (decodePassed packet).run ⟨base, request, registerBytes request.readCount, []⟩ =
      some (.ok (), ⟨base, request, registerBytes request.readCount, registers⟩) := by
  have expected : request.responseSize = 9 + 2 * request.readCount.toNat := by
    simp [Request.ReadWriteMultipleRegisters.responseSize, Adu.calcAduLength, Adu.headerLength]
    omega
  rw [lengthEq] at sized words
  simp [decodePassed, decodingPassed, Adu.headerLength, sized, expected, byte,
    unpackRegisters_eq, Nat.mod_eq_of_lt small, words, lengthEq]

end Responses

namespace Request.WriteSingleRegister

/-- A request object that a client has initialized. -/
def forClient (client : Adu.Initializer) (address value : UInt16) : WriteSingleRegister :=
  { new address value with toAdu := (Adu.new .writeSingleRegister).initializeWith client }

theorem run_encode [Struc] (client : Adu.Initializer) (address value : UInt16) :
    encode.run (forClient client address value) =
      some (.ok (client.frame .writeSingleRegister (wordBytes [address, value])).bytes,
        ⟨(client.header (wordBytes [address, value])).adu .writeSingleRegister, address,
          value⟩) := by
  simp [encode, forClient, new, Adu.initializeWith, Adu.new, dataLength, StructFormat.encode,
    client.headerPacket_words]
  rfl

end Request.WriteSingleRegister

namespace Request.MaskWriteRegister

/-- A request object that a client has initialized. -/
def forClient (client : Adu.Initializer) (address andMask orMask : UInt16) :
    MaskWriteRegister :=
  { new address andMask orMask with
    toAdu := (Adu.new .maskWriteRegister).initializeWith client }

theorem run_encode [Struc] (client : Adu.Initializer) (address andMask orMask : UInt16) :
    encode.run (forClient client address andMask orMask) =
      some (.ok (client.frame .maskWriteRegister (wordBytes [address, andMask, orMask])).bytes,
        ⟨(client.header (wordBytes [address, andMask, orMask])).adu .maskWriteRegister, address,
          andMask, orMask⟩) := by
  have framed : Adu.headerPacket ⟨.maskWriteRegister,
        FunctionCode.maskWriteRegister.toUnderlying, client.transaction,
        Adu.calcLength dataLength, client.unit⟩ ++ wordBytes [address, andMask, orMask] =
      (client.frame .maskWriteRegister (wordBytes [address, andMask, orMask])).bytes :=
    Adu.Initializer.headerPacket_append rfl
  simp only [wordBytes_cons, wordBytes_nil, List.append_nil] at framed
  simp [encode, forClient, new, Adu.initializeWith, Adu.new, StructFormat.encode, framed]
  rfl

end Request.MaskWriteRegister

namespace Request.WriteMultipleRegisters

/-- A request object that a client has initialized. -/
def forClient (client : Adu.Initializer) (address count : UInt16) (values : List UInt16) :
    WriteMultipleRegisters :=
  { new address count values with
    toAdu := (Adu.new .writeMultipleRegisters).initializeWith client }

/-- The bytes of the request behind its function. -/
def payload (address count : UInt16) (values : List UInt16) : Packet :=
  StructFormat.encode format (address, count, registerBytes count, ()) ++ wordBytes values

theorem run_encode [Struc] (client : Adu.Initializer) (address : UInt16) {count : UInt16}
    {values : List UInt16} (lengthEq : values.length = count.toNat)
    (small : count.toNat < 128) :
    encode.run (forClient client address count values) =
      some (.ok (client.frame .writeMultipleRegisters (payload address count values)).bytes,
        ⟨(client.header (payload address count values)).adu .writeMultipleRegisters, address,
          count, values⟩) := by
  have counted : Adu.calcLength (5 + (registerBytes count).toUInt16) =
      UInt16.ofNat ((payload address count values).length + 2) := by
    apply UInt16.toNat_inj.mp
    simp [Adu.calcLength, payload, width, Code.width, lengthEq]
    omega
  have framed : Adu.headerPacket ⟨.writeMultipleRegisters,
        FunctionCode.writeMultipleRegisters.toUnderlying, client.transaction,
        Adu.calcLength (5 + (registerBytes count).toUInt16), client.unit⟩ ++
        payload address count values =
      (client.frame .writeMultipleRegisters (payload address count values)).bytes :=
    Adu.Initializer.headerPacket_append counted
  have sized : 8 + (2 + (2 + (2 * count.toNat + 1))) =
      (5 + 2 * (count.toNat % 128)) % 65536 + 7 + 1 := by
    omega
  simp only [payload, StructFormat.encode, Code.encode_byte, List.append_assoc, List.cons_append,
    List.nil_append] at framed counted ⊢
  simp [encode, forClient, new, Adu.initializeWith, Adu.new, StructFormat.encode, dataLength,
    byteCount, Adu.headerLength, Code.width, packRegisters_eq, lengthEq, framed, sized]
  rw [counted]
  rfl

end Request.WriteMultipleRegisters

namespace Request.ReadWriteMultipleRegisters

/-- A request object that a client has initialized. -/
def forClient (client : Adu.Initializer)
    (readAddress readCount writeAddress writeCount : UInt16) (values : List UInt16) :
    ReadWriteMultipleRegisters :=
  { new readAddress readCount writeAddress writeCount values with
    toAdu := (Adu.new .readWriteMultipleRegisters).initializeWith client }

/-- The bytes of the request behind its function. -/
def payload (readAddress readCount writeAddress writeCount : UInt16)
    (values : List UInt16) : Packet :=
  StructFormat.encode format
    (readAddress, readCount, writeAddress, writeCount, registerBytes writeCount, ()) ++
      wordBytes values

theorem run_encode [Struc] (client : Adu.Initializer)
    (readAddress readCount writeAddress : UInt16) {writeCount : UInt16} {values : List UInt16}
    (lengthEq : values.length = writeCount.toNat) (small : writeCount.toNat < 128) :
    encode.run (forClient client readAddress readCount writeAddress writeCount values) =
      some (.ok (client.frame .readWriteMultipleRegisters
          (payload readAddress readCount writeAddress writeCount values)).bytes,
        ⟨(client.header (payload readAddress readCount writeAddress writeCount values)).adu
          .readWriteMultipleRegisters, readAddress, readCount, writeAddress, writeCount,
          values⟩) := by
  have counted : Adu.calcLength (9 + (registerBytes writeCount).toUInt16) = UInt16.ofNat
      ((payload readAddress readCount writeAddress writeCount values).length + 2) := by
    apply UInt16.toNat_inj.mp
    simp [Adu.calcLength, payload, width, Code.width, lengthEq]
    omega
  have framed : Adu.headerPacket ⟨.readWriteMultipleRegisters,
        FunctionCode.readWriteMultipleRegisters.toUnderlying, client.transaction,
        Adu.calcLength (9 + (registerBytes writeCount).toUInt16), client.unit⟩ ++
        payload readAddress readCount writeAddress writeCount values =
      (client.frame .readWriteMultipleRegisters
        (payload readAddress readCount writeAddress writeCount values)).bytes :=
    Adu.Initializer.headerPacket_append counted
  have sized : 8 + (2 + (2 + (2 + (2 + (2 * writeCount.toNat + 1))))) =
      (9 + 2 * (writeCount.toNat % 128)) % 65536 + 7 + 1 := by
    omega
  simp only [payload, StructFormat.encode, Code.encode_byte, List.append_assoc, List.cons_append,
    List.nil_append] at framed counted ⊢
  simp [encode, forClient, new, Adu.initializeWith, Adu.new, StructFormat.encode, dataLength,
    byteCount, Adu.headerLength, Code.width, packRegisters_eq, lengthEq, framed, sized]
  rw [counted]
  rfl

end Request.ReadWriteMultipleRegisters

variable {address count : UInt16} {values : List UInt16} {table : Table}
  {behindRequest behindReply : Nat → Option UInt8}

/-- Masking the register does what the Modbus specification says, is answered
with the echo of the request and accepted by the client. -/
def MasksRegister [Struc] (client : Adu.Initializer) (address andMask orMask : UInt16)
    (behindRequest behindReply : Nat → Option UInt8) (table : Table) : Prop :=
  ∃ seen, exchange Request.MaskWriteRegister.encode Response.MaskWriteRegister.new
      Response.MaskWriteRegister.decode behindRequest behindReply
      (Request.MaskWriteRegister.forClient client address andMask orMask) table =
        some (.ok seen) ∧
    (∃ value, table.holdingRegisters.cell address.toNat = some value ∧
      table.RegistersSet seen.stored address
        [value &&& andMask ||| (orMask &&& ~~~andMask)]) ∧
    seen.reply = seen.sent ∧
    seen.decoded = .ok ()

/-- What the code does instead: it sets all the bits of the or-mask. -/
theorem Request.MaskWriteRegister.run_exchange [Struc] {value : UInt16}
    (client : Adu.Initializer) (andMask orMask : UInt16)
    (held : table.holdingRegisters.cell address.toNat = some value) :
    ∃ seen, exchange encode Response.MaskWriteRegister.new Response.MaskWriteRegister.decode
        behindRequest behindReply (forClient client address andMask orMask) table =
          some (.ok seen) ∧
      table.RegistersSet seen.stored address [value &&& andMask ||| orMask] ∧
      seen.reply = seen.sent ∧
      seen.decoded = .ok () := by
  have inside := Block.Sequential.contains_of_cell held
  have effect : (Command.maskWriteRegister address andMask orMask).effect table =
      { table with holdingRegisters :=
          table.holdingRegisters.write address [value &&& andMask ||| orMask] } := by
    rw [Command.effect, Block.Sequential.read_of_cell held]
    rfl
  have sized : ByteBuffer.size ⟨(client.frame .maskWriteRegister
      (wordBytes [address, andMask, orMask])).bytes, behindReply⟩ = 14 := by
    simp [ByteBuffer.size, Code.width]
  have passed := Response.MaskWriteRegister.run_decodePassed sized
    (Frame.decode_threeWords rfl behindReply)
  refine ⟨_, exchange_run (run_encode client address andMask orMask)
    (parse_maskWriteRegister (Frame.decode_threeWords rfl behindRequest)) inside rfl
    (Response.run_decode (by decide) (by simp [Code.width, Command.reply]) behindReply rfl
      (passed _ _) (by simp)), ?_, rfl, rfl⟩
  rw [effect]
  exact Table.registersSet_write inside

/-- The mask of the specification is the result exactly if the bits that both
masks have are set in the register already. -/
theorem masksRegister_iff [Struc] {value : UInt16} (client : Adu.Initializer)
    (andMask orMask : UInt16)
    (held : table.holdingRegisters.cell address.toNat = some value) :
    MasksRegister client address andMask orMask behindRequest behindReply table ↔
      andMask &&& orMask &&& ~~~value = 0 := by
  obtain ⟨seen, ran, set, echoed, decoded⟩ :=
    Request.MaskWriteRegister.run_exchange client andMask orMask held
  rw [← mask_eq_iff]
  constructor
  · rintro ⟨other, otherRan, ⟨old, oldHeld, otherSet⟩, -, -⟩
    obtain rfl := Exchange.unique ran otherRan
    rw [held] at oldHeld
    obtain rfl := Option.some.inj oldHeld
    have same := congrFun (set.1.symm.trans otherSet.1) address.toNat
    simpa [AddressMap.write] using same
  · intro agrees
    rw [agrees] at set
    exact ⟨seen, ran, ⟨value, held, set⟩, echoed, decoded⟩

theorem masksRegister_disjoint :
    @MasksRegister Struc.documented ⟨1, 1⟩ 3 0x00F2 0x000D (fun _ => none) (fun _ => none)
      (Table.cleared 8) :=
  (@masksRegister_iff _ _ _ _ Struc.documented _ _ _ _ rfl).mpr (by decide)

/-- Both masks have the lowest bit, and a cleared register gets it. -/
theorem not_masksRegister :
    (Table.cleared 8).holdingRegisters.Contains 3 1 ∧
      ¬ @MasksRegister Struc.documented ⟨1, 1⟩ 3 0x0001 0x0001 (fun _ => none)
        (fun _ => none) (Table.cleared 8) := by
  refine ⟨by decide, ?_⟩
  rintro ⟨seen, ran, ⟨value, held, set⟩, -, -⟩
  have old : value = 0 := (Option.some.inj held).symm
  have left : seen.stored.holdingRegisters.cell 3 = some 1 :=
    Exchange.observed (fun seen => seen.stored.holdingRegisters.cell 3) ran rfl
  have asked := congrFun set.1 3
  rw [left, old] at asked
  revert asked
  decide

/-- Writing the register is accepted by the client and sets it. -/
def WritesRegister [Struc] (client : Adu.Initializer) (address value : UInt16)
    (behindRequest behindReply : Nat → Option UInt8) (table : Table) : Prop :=
  ∃ seen, exchange Request.WriteSingleRegister.encode Response.WriteSingleRegister.new
      Response.WriteSingleRegister.decode behindRequest behindReply
      (Request.WriteSingleRegister.forClient client address value) table = some (.ok seen) ∧
    table.RegistersSet seen.stored address [value] ∧
    seen.decoded = .ok ()

theorem Request.WriteSingleRegister.run_exchange [Struc] (client : Adu.Initializer)
    (value : UInt16) (inside : table.holdingRegisters.Contains address 1) :
    WritesRegister client address value behindRequest behindReply table := by
  have sized : ByteBuffer.size ⟨(client.frame .writeSingleRegister
      (wordBytes [address, value])).bytes, behindReply⟩ = 12 := by
    simp [ByteBuffer.size, Code.width]
  have passed := Response.WriteSingleRegister.run_decodePassed sized
    (Frame.decode_words rfl behindReply)
  exact ⟨_, exchange_run (run_encode client address value)
    (parse_writeSingleRegister (Frame.decode_words rfl behindRequest)) inside rfl
    (Response.run_decode (by decide) (by simp [Code.width, Command.reply]) behindReply rfl
      (passed _ _) (by simp)), Table.registersSet_write inside, rfl⟩

/-- The same for several registers. -/
def WritesRegisters [Struc] (client : Adu.Initializer) (address count : UInt16)
    (values : List UInt16) (behindRequest behindReply : Nat → Option UInt8)
    (table : Table) : Prop :=
  ∃ seen, exchange Request.WriteMultipleRegisters.encode Response.WriteMultipleRegisters.new
      Response.WriteMultipleRegisters.decode behindRequest behindReply
      (Request.WriteMultipleRegisters.forClient client address count values) table =
        some (.ok seen) ∧
    table.RegistersSet seen.stored address values ∧
    seen.decoded = .ok ()

theorem Request.WriteMultipleRegisters.run_exchange [Struc] (client : Adu.Initializer)
    (counted : NumRegs.validate true count = true) (lengthEq : values.length = count.toNat)
    (inside : table.holdingRegisters.Contains address count.toNat) :
    WritesRegisters client address count values behindRequest behindReply table := by
  have bound := (NumRegs.validate_write_iff count).mp counted
  have small : count.toNat < 128 := by omega
  have layout : (client.frame .writeMultipleRegisters (payload address count values)).payload =
      StructFormat.encode format (address, count, registerBytes count, ()) ++
        (wordBytes values ++ []) := by
    simp [payload]
  have sized : ByteBuffer.size ⟨(client.frame .writeMultipleRegisters
      (wordBytes [address, count])).bytes, behindReply⟩ = 12 := by
    simp [ByteBuffer.size, Code.width]
  have passed := Response.WriteMultipleRegisters.run_decodePassed sized
    (Frame.decode_words rfl behindReply)
  refine ⟨_, exchange_run (run_encode client address lengthEq small)
    (parse_writeMultipleRegisters ⟨values, lengthEq⟩ small
      (Frame.decode_payload layout behindRequest)
      (Frame.decodeWords_payload layout behindRequest))
    ⟨counted, inside⟩ rfl
    (Response.run_decode (by decide) (by simp [Code.width, Command.reply]) behindReply rfl
      (passed _ _ _) (by simp)), ?_, rfl⟩
  rw [← lengthEq] at inside
  exact Table.registersSet_write inside

/-- Writing and reading registers in one request is accepted by the client,
which gets to see the registers as they are after the write. -/
def ReadsAndWritesRegisters [Struc] (client : Adu.Initializer)
    (readAddress readCount writeAddress writeCount : UInt16) (values : List UInt16)
    (behindRequest behindReply : Nat → Option UInt8) (table : Table) : Prop :=
  ∃ seen, exchange Request.ReadWriteMultipleRegisters.encode
      Response.ReadWriteMultipleRegisters.new Response.ReadWriteMultipleRegisters.decode
      behindRequest behindReply
      (Request.ReadWriteMultipleRegisters.forClient client readAddress readCount writeAddress
        writeCount values) table = some (.ok seen) ∧
    table.RegistersSet seen.stored writeAddress values ∧
    seen.decoded = .ok () ∧
    seen.response.registers = seen.stored.holdingRegisters.read readAddress readCount.toNat

theorem Request.ReadWriteMultipleRegisters.run_exchange [Struc] (client : Adu.Initializer)
    {readAddress readCount writeAddress writeCount : UInt16}
    (readCounted : NumRegs.validate false readCount = true)
    (writeCounted : NumRegs.validate true writeCount = true)
    (lengthEq : values.length = writeCount.toNat)
    (readable : table.holdingRegisters.Contains readAddress readCount.toNat)
    (writable : table.holdingRegisters.Contains writeAddress writeCount.toNat) :
    ReadsAndWritesRegisters client readAddress readCount writeAddress writeCount values
      behindRequest behindReply table := by
  have readBound := (NumRegs.validate_read_iff readCount).mp readCounted
  have writeBound := (NumRegs.validate_write_iff writeCount).mp writeCounted
  have layout : (client.frame .readWriteMultipleRegisters
      (payload readAddress readCount writeAddress writeCount values)).payload =
        StructFormat.encode format (readAddress, readCount, writeAddress, writeCount,
          registerBytes writeCount, ()) ++ (wordBytes values ++ []) := by
    simp [payload]
  generalize after :
    (table.holdingRegisters.write writeAddress values).read readAddress readCount.toNat =
      registers
  have reads : registers.length = readCount.toNat := by
    rw [← after]
    exact Block.Sequential.length_read readable
  have replied : (Command.readWriteMultipleRegisters readAddress readCount writeAddress
      writeCount ⟨values, lengthEq⟩).reply table =
        registerBytes readCount :: wordBytes registers := by
    rw [Command.reply, after]
  have answer : (client.frame .readWriteMultipleRegisters
      (registerBytes readCount :: wordBytes registers)).payload =
        [registerBytes readCount] ++ (wordBytes registers ++ []) := by
    simp
  have sized : ByteBuffer.size ⟨(client.frame .readWriteMultipleRegisters
      (registerBytes readCount :: wordBytes registers)).bytes, behindReply⟩ =
        9 + 2 * registers.length := by
    simp [ByteBuffer.size]
    omega
  have passed := Response.ReadWriteMultipleRegisters.run_decodePassed
    ⟨(client.header (payload readAddress readCount writeAddress writeCount values)).adu
      .readWriteMultipleRegisters, readAddress, readCount, writeAddress, writeCount, values⟩
    (show readCount.toNat < 128 by omega) reads sized (Frame.read_head rfl behindReply)
    (Frame.decodeWords_payload answer behindReply)
  refine ⟨_, exchange_run
    (run_encode client readAddress readCount writeAddress lengthEq (by omega))
    (parse_readWriteMultipleRegisters ⟨values, lengthEq⟩ (by omega)
      (Frame.decode_payload layout behindRequest)
      (Frame.decodeWords_payload layout behindRequest))
    ⟨⟨readCounted, readable⟩, writeCounted, writable⟩ replied
    (Response.run_decode (by decide) (by simp [reads]; omega) behindReply rfl (passed _)
      (by simp)), ?_, rfl, after.symm⟩
  rw [← lengthEq] at writable
  exact Table.registersSet_write writable

/-- Register writes arrive and are accepted by the client: single ones, several
ones, and those that read registers back, wherever the two runs lie. -/
theorem registersRoundTrip [Struc] (client : Adu.Initializer)
    (behindRequest behindReply : Nat → Option UInt8) (table : Table) :
    (∀ address value, table.holdingRegisters.Contains address 1 →
      WritesRegister client address value behindRequest behindReply table) ∧
    (∀ address count values, 1 ≤ count.toNat → count.toNat ≤ 123 →
      values.length = count.toNat → table.holdingRegisters.Contains address count.toNat →
        WritesRegisters client address count values behindRequest behindReply table) ∧
    ∀ readAddress readCount writeAddress writeCount values,
      1 ≤ readCount.toNat → readCount.toNat ≤ 125 →
      1 ≤ writeCount.toNat → writeCount.toNat ≤ 123 → values.length = writeCount.toNat →
      table.holdingRegisters.Contains readAddress readCount.toNat →
      table.holdingRegisters.Contains writeAddress writeCount.toNat →
        ReadsAndWritesRegisters client readAddress readCount writeAddress writeCount values
          behindRequest behindReply table := by
  refine ⟨?_, ?_, ?_⟩
  · intro address value inside
    exact Request.WriteSingleRegister.run_exchange client value inside
  · intro address count values atLeast atMost lengthEq inside
    exact Request.WriteMultipleRegisters.run_exchange client
      ((NumRegs.validate_write_iff count).mpr ⟨atLeast, atMost⟩) lengthEq inside
  · intro readAddress readCount writeAddress writeCount values readAtLeast readAtMost
      writeAtLeast writeAtMost lengthEq readable writable
    exact Request.ReadWriteMultipleRegisters.run_exchange client
      ((NumRegs.validate_read_iff readCount).mpr ⟨readAtLeast, readAtMost⟩)
      ((NumRegs.validate_write_iff writeCount).mpr ⟨writeAtLeast, writeAtMost⟩) lengthEq
      readable writable

theorem registersRoundTrip_overlap :
    @WritesRegister Struc.documented ⟨1, 1⟩ 3 0xABCD (fun _ => none) (fun _ => none)
        (Table.cleared 8) ∧
      @WritesRegisters Struc.documented ⟨1, 1⟩ 2 3 [7, 8, 9] (fun _ => none)
        (fun _ => none) (Table.cleared 8) ∧
      @ReadsAndWritesRegisters Struc.documented ⟨1, 1⟩ 1 4 3 3 [7, 8, 9] (fun _ => none)
        (fun _ => none) (Table.cleared 8) := by
  obtain ⟨single, several, both⟩ := @registersRoundTrip Struc.documented ⟨1, 1⟩
    (fun _ => none) (fun _ => none) (Table.cleared 8)
  exact ⟨single 3 0xABCD (by decide),
    several 2 3 [7, 8, 9] (by decide) (by decide) rfl (by decide),
    both 1 4 3 3 [7, 8, 9] (by decide) (by decide) (by decide) (by decide) rfl (by decide)
      (by decide)⟩

end ModbusCpp
