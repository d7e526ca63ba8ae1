import ModbusCpp.Command
import ModbusCpp.RequestDecoding

/-!
# Processing requests

Executing a request object and encoding the response it gives comes to the
command the object stands for: the reply and the effect of an admissible
command, and an illegal data address for any other.
-/

namespace ModbusCpp

open Method StructFormat TableMethod

/-- The frame that answers a request in the header. -/
def Header.frame (header : Header) (function : FunctionCode) (payload : Packet) : Frame where
  transaction := header.transaction
  unit := header.unit
  function := function.toUnderlying
  payload := payload

@[simp]
theorem Header.frame_transaction (header : Header) (function : FunctionCode)
    (payload : Packet) :
    (header.frame function payload).transaction = header.transaction :=
  rfl

@[simp]
theorem Header.frame_unit (header : Header) (function : FunctionCode) (payload : Packet) :
    (header.frame function payload).unit = header.unit :=
  rfl

@[simp]
theorem Header.frame_function (header : Header) (function : FunctionCode)
    (payload : Packet) :
    (header.frame function payload).function = function.toUnderlying :=
  rfl

@[simp]
theorem Header.frame_payload (header : Header) (function : FunctionCode) (payload : Packet) :
    (header.frame function payload).payload = payload :=
  rfl

/-- What processing a command for a request comes to. -/
def Command.outcome (command : Command) (header : Header) (function : FunctionCode)
    (table : Table) : Except Exn Packet × Table :=
  if command.Admissible table then
    (.ok (header.frame function (command.reply table)).bytes, command.effect table)
  else (.error (Exn.illegalDataAddress function header), table)

theorem Response.forRequest_adu (header : Header) (function : FunctionCode) :
    Response.forRequest function (header.adu function) =
      { header.adu function with length := 0, reqHeader := header } :=
  rfl

/-- Whole bytes for the bits: the quotient, and one more for a remainder. -/
theorem Request.BaseReadBits.byteCount_eq {code : FunctionCode} (request : BaseReadBits code) :
    request.byteCount = UInt16.ofNat ((request.count.toNat + 7) / 8) := by
  have countLt := request.count.toNat_lt
  apply UInt16.toNat_inj.mp
  rw [UInt16.toNat_ofNat']
  simp only [byteCount]
  by_cases whole : request.count % 8 = 0
  · have remainder : request.count.toNat % 8 = 0 := congrArg UInt16.toNat whole
    rw [if_neg (not_not.mpr whole), UInt16.toNat_div]
    simp only [UInt16.reduceToNat]
    omega
  · have remainder : request.count.toNat % 8 ≠ 0 := by
      intro zero
      exact whole (UInt16.toNat_inj.mp (by simpa using zero))
    rw [if_pos whole, UInt16.toNat_add, UInt16.toNat_div]
    simp only [UInt16.reduceToNat]
    omega

theorem Request.BaseReadBits.responseSize_eq {code : FunctionCode}
    (request : BaseReadBits code) :
    request.responseSize = 9 + (request.count.toNat + 7) / 8 := by
  have countLt := request.count.toNat_lt
  simp only [responseSize, Adu.calcAduLength, Adu.headerLength, byteCount_eq]
  simp
  omega

/-- Execute a request and encode the response it gives. -/
def process {ρ θ : Type} (execute : ρ → Table → Except Exn θ) (encode : TableMethod θ Packet)
    (request : ρ) (table : Table) : Except Exn Packet × Table :=
  match execute request table with
  | .ok response => (encode.eval response table).map Prod.fst id
  | .error failure => (.error failure, table)

variable {header : Header} {function : FunctionCode} {table : Table}

/-- A request class processes a command if it executes just the admissible
ones and its response encodes their reply and does their effect. -/
theorem process_eq {ρ θ : Type} {execute : ρ → Table → Except Exn θ}
    {encode : TableMethod θ Packet} {request : ρ} {response : θ} {command : Command}
    (executed : execute request table =
      if command.Admissible table then .ok response
      else .error (Exn.illegalDataAddress function header))
    (encoded : command.Admissible table →
      (encode.eval response table).map Prod.fst id =
        (.ok (header.frame function (command.reply table)).bytes, command.effect table)) :
    process execute encode request table = command.outcome header function table := by
  rw [process, executed, Command.outcome]
  by_cases admissible : command.Admissible table
  · rw [if_pos admissible, if_pos admissible]
    exact encoded admissible
  · rw [if_neg admissible, if_neg admissible]

theorem Request.BaseReadRegisters.byteCount_toUInt8 {code : FunctionCode}
    (request : BaseReadRegisters code) :
    request.byteCount.toUInt8 = registerBytes request.count := by
  apply UInt8.toNat_inj.mp
  rw [toNat_registerBytes]
  simp only [byteCount, UInt16.toNat_toUInt8, UInt16.toNat_mul, UInt16.reduceToNat]
  omega

section Executing

theorem Request.BaseReadBits.executeOn_eq (block : BitBlock) (address count : UInt16) :
    (⟨header.adu function, address, count⟩ : BaseReadBits function).executeOn block table =
      if (Command.readBits block address count).Admissible table then
        .ok (Response.BaseReadBits.new ⟨header.adu function, address, count⟩)
      else .error (Exn.illegalDataAddress function header) := by
  have valid : (table.bits block).validateRead address count =
      .ok (decide ((Command.readBits block address count).Admissible table)) :=
    Block.Sequential.validateRead_eq _ _ NumBits.pos_of_validate
  by_cases admissible : (Command.readBits block address count).Admissible table <;>
    simp [executeOn, valid, admissible]

theorem Request.BaseReadRegisters.executeOn_eq (block : RegisterBlock)
    (address count : UInt16) :
    (⟨header.adu function, address, count⟩ : BaseReadRegisters function).executeOn block table =
      if (Command.readRegisters block address count).Admissible table then
        .ok (Response.BaseReadRegisters.new ⟨header.adu function, address, count⟩)
      else .error (Exn.illegalDataAddress function header) := by
  have valid : (table.registers block).validateRead address count =
      .ok (decide ((Command.readRegisters block address count).Admissible table)) :=
    Block.Sequential.validateRead_eq _ _ NumRegs.pos_of_validate
  by_cases admissible : (Command.readRegisters block address count).Admissible table <;>
    simp [executeOn, valid, admissible]

theorem Request.WriteSingleCoil.execute_eq {address word : UInt16}
    (checked : checkBitsValue word = true) :
    (⟨header.adu .writeSingleCoil, address, ⟨word⟩⟩ : WriteSingleCoil).execute table =
      if (Command.writeSingleCoil address (⟨word⟩ == Bits.on)).Admissible table then
        .ok (Response.WriteSingleCoil.new ⟨header.adu .writeSingleCoil, address, ⟨word⟩⟩)
      else .error (Exn.illegalDataAddress .writeSingleCoil header) := by
  simp only [Command.Admissible]
  by_cases inside : table.coils.Contains address 1 <;>
    simp [execute, Block.Sequential.validate_eq, checked, inside]

theorem Request.WriteSingleRegister.execute_eq (address value : UInt16) :
    (⟨header.adu .writeSingleRegister, address, value⟩ : WriteSingleRegister).execute table =
      if (Command.writeSingleRegister address value).Admissible table then
        .ok (Response.WriteSingleRegister.new
          ⟨header.adu .writeSingleRegister, address, value⟩)
      else .error (Exn.illegalDataAddress .writeSingleRegister header) := by
  simp only [Command.Admissible]
  by_cases inside : table.holdingRegisters.Contains address 1 <;>
    simp [execute, Block.Sequential.validate_eq, inside]

theorem Request.MaskWriteRegister.execute_eq (address andMask orMask : UInt16) :
    (⟨header.adu .maskWriteRegister, address, andMask, orMask⟩ : MaskWriteRegister).execute
        table =
      if (Command.maskWriteRegister address andMask orMask).Admissible table then
        .ok (Response.MaskWriteRegister.new
          ⟨header.adu .maskWriteRegister, address, andMask, orMask⟩)
      else .error (Exn.illegalDataAddress .maskWriteRegister header) := by
  simp only [Command.Admissible]
  by_cases inside : table.holdingRegisters.Contains address 1 <;>
    simp [execute, Block.Sequential.validate_eq, inside]

theorem Request.WriteMultipleCoils.execute_eq (address count : UInt16)
    (values : Values Bool count) (byteCount : UInt8) :
    (⟨header.adu .writeMultipleCoils, address, count, values, byteCount⟩ :
        WriteMultipleCoils).execute table =
      if (Command.writeMultipleCoils address count values).Admissible table then
        .ok (Response.WriteMultipleCoils.new
          ⟨header.adu .writeMultipleCoils, address, count, values, byteCount⟩)
      else .error (Exn.illegalDataAddress .writeMultipleCoils header) := by
  have valid : table.coils.validateWrite address count =
      .ok (decide ((Command.writeMultipleCoils address count values).Admissible table)) :=
    Block.Sequential.validateWrite_eq _ _ NumBits.pos_of_validate
  by_cases admissible : (Command.writeMultipleCoils address count values).Admissible table <;>
    simp [execute, valid, admissible]

theorem Request.WriteMultipleRegisters.execute_eq (address count : UInt16)
    (values : Values UInt16 count) :
    (⟨header.adu .writeMultipleRegisters, address, count, values⟩ :
        WriteMultipleRegisters).execute table =
      if (Command.writeMultipleRegisters address count values).Admissible table then
        .ok (Response.WriteMultipleRegisters.new
          ⟨header.adu .writeMultipleRegisters, address, count, values⟩)
      else .error (Exn.illegalDataAddress .writeMultipleRegisters header) := by
  have valid : table.holdingRegisters.validateWrite address count =
      .ok (decide ((Command.writeMultipleRegisters address count values).Admissible table)) :=
    Block.Sequential.validateWrite_eq _ _ NumRegs.pos_of_validate
  by_cases admissible :
      (Command.writeMultipleRegisters address count values).Admissible table <;>
    simp [execute, valid, admissible]

theorem Request.ReadWriteMultipleRegisters.execute_eq
    (readAddress readCount writeAddress writeCount : UInt16)
    (values : Values UInt16 writeCount) :
    (⟨header.adu .readWriteMultipleRegisters, readAddress, readCount, writeAddress, writeCount,
        values⟩ : ReadWriteMultipleRegisters).execute table =
      if (Command.readWriteMultipleRegisters readAddress readCount writeAddress writeCount
          values).Admissible table then
        .ok (Response.ReadWriteMultipleRegisters.new
          ⟨header.adu .readWriteMultipleRegisters, readAddress, readCount, writeAddress,
            writeCount, values⟩)
      else .error (Exn.illegalDataAddress .readWriteMultipleRegisters header) := by
  have validRead := Block.Sequential.validateRead_eq table.holdingRegisters readAddress
    (fun counted : NumRegs.validate false readCount = true => NumRegs.pos_of_validate counted)
  have validWrite := Block.Sequential.validateWrite_eq table.holdingRegisters writeAddress
    (fun counted : NumRegs.validate true writeCount = true => NumRegs.pos_of_validate counted)
  simp only [Command.Admissible]
  by_cases readable : NumRegs.validate false readCount = true ∧
    table.holdingRegisters.Contains readAddress readCount.toNat
  · by_cases writable : NumRegs.validate true writeCount = true ∧
      table.holdingRegisters.Contains writeAddress writeCount.toNat
    · simp [execute, validRead, validWrite, readable, writable]
    · rw [decide_eq_false writable] at validWrite
      simp [execute, validRead, validWrite, readable, writable]
  · rw [decide_eq_false readable] at validRead
    simp [execute, validRead, readable]

end Executing

variable [Struc]

/-- A reply whose header was packed with the right length is a frame. -/
theorem Header.headerPacket_append {length : UInt16} {payload : Packet}
    (lengthEq : length = UInt16.ofNat (payload.length + 2)) :
    Adu.headerPacket ⟨function, function.toUnderlying, header.transaction, length,
        header.unit⟩ ++ payload =
      (header.frame function payload).bytes :=
  Adu.headerPacket_append lengthEq

theorem Response.BaseReadBits.eval_encode {block : BitBlock} {address count : UInt16}
    (admissible : (Command.readBits block address count).Admissible table) :
    ((encodeFrom block).eval
        (new (⟨header.adu function, address, count⟩ : Request.BaseReadBits function))
        table).map Prod.fst id =
      (.ok (header.frame function ((Command.readBits block address count).reply table)).bytes,
        table) := by
  rcases admissible with ⟨counted, inside⟩
  have bound := (NumBits.validate_read_iff count).mp counted
  have reads := Block.Sequential.length_read inside
  have bytes := Request.BaseReadBits.byteCount_eq
    (⟨header.adu function, address, count⟩ : Request.BaseReadBits function)
  have framed : Adu.headerPacket ⟨function, function.toUnderlying, header.transaction,
        Adu.calcLength (UInt16.ofNat ((count.toNat + 7) / 8) + 1), header.unit⟩ ++
        (Command.readBits block address count).reply table =
      (header.frame function ((Command.readBits block address count).reply table)).bytes := by
    apply Header.headerPacket_append
    apply UInt16.toNat_inj.mp
    simp [Adu.calcLength, Command.reply, reads]
    omega
  have sized : Request.checkResponsePacket
      (⟨header.adu function, address, count⟩ : Request.BaseReadBits function).responseSize
      (header.frame function ((Command.readBits block address count).reply table)).bytes =
        true := by
    simp [Request.checkResponsePacket, Request.BaseReadBits.responseSize_eq, Header.frame,
      Command.reply, reads]
    omega
  simp only [Command.reply] at framed sized ⊢
  simp [encodeFrom, encoding, new, format, StructFormat.encode, Response.forRequest_adu,
    eval_getSlice_bits _ counted inside, bytes, framed, sized]

theorem Response.BaseReadRegisters.eval_encode {block : RegisterBlock}
    {address count : UInt16}
    (admissible : (Command.readRegisters block address count).Admissible table) :
    ((encodeFrom block).eval
        (new (⟨header.adu function, address, count⟩ : Request.BaseReadRegisters function))
        table).map Prod.fst id =
      (.ok (header.frame function
          ((Command.readRegisters block address count).reply table)).bytes, table) := by
  rcases admissible with ⟨counted, inside⟩
  have bound := (NumRegs.validate_read_iff count).mp counted
  have reads := Block.Sequential.length_read inside
  have framed : Adu.headerPacket ⟨function, function.toUnderlying, header.transaction,
        Adu.calcLength ((⟨header.adu function, address, count⟩ :
          Request.BaseReadRegisters function).byteCount + 1), header.unit⟩ ++
        (Command.readRegisters block address count).reply table =
      (header.frame function
        ((Command.readRegisters block address count).reply table)).bytes := by
    apply Header.headerPacket_append
    apply UInt16.toNat_inj.mp
    simp [Adu.calcLength, Request.BaseReadRegisters.byteCount, Command.reply, reads]
    omega
  have sized : Request.checkResponsePacket
      (⟨header.adu function, address, count⟩ : Request.BaseReadRegisters function).responseSize
      (header.frame function ((Command.readRegisters block address count).reply table)).bytes =
        true := by
    simp [Request.checkResponsePacket, Request.BaseReadRegisters.responseSize,
      Request.BaseReadRegisters.byteCount, Adu.calcAduLength, Adu.headerLength, Header.frame,
      Command.reply, reads]
    omega
  simp only [Command.reply] at framed sized ⊢
  simp [encodeFrom, encoding, new, format, StructFormat.encode, Response.forRequest_adu,
    eval_getSlice_registers _ counted inside, packRegisters_eq, framed, sized,
    Request.BaseReadRegisters.byteCount_toUInt8]

theorem Response.WriteSingleCoil.eval_encode {address word : UInt16}
    (admissible :
      (Command.writeSingleCoil address (⟨word⟩ == Bits.on)).Admissible table) :
    (encode.eval (new ⟨header.adu .writeSingleCoil, address, ⟨word⟩⟩) table).map Prod.fst id =
      (.ok (header.frame .writeSingleCoil
          ((Command.writeSingleCoil address (⟨word⟩ == Bits.on)).reply table)).bytes,
        (Command.writeSingleCoil address (⟨word⟩ == Bits.on)).effect table) := by
  have inside : (table.bits .coils).Contains address 1 := admissible
  obtain ⟨old, reads, got⟩ := eval_get_bits Response.WriteSingleCoil inside
  have framed : Adu.headerPacket ⟨.writeSingleCoil, FunctionCode.writeSingleCoil.toUnderlying,
        header.transaction, Adu.calcLength dataLength, header.unit⟩ ++
        wordBytes [address, Command.coilWord old] =
      (header.frame .writeSingleCoil (wordBytes [address, Command.coilWord old])).bytes :=
    Header.headerPacket_append rfl
  have sized : Request.checkResponsePacket
      (⟨header.adu .writeSingleCoil, address, ⟨word⟩⟩ : Request.WriteSingleCoil).responseSize
      (header.frame .writeSingleCoil (wordBytes [address, Command.coilWord old])).bytes =
        true := rfl
  simp only [Table.bits] at reads
  simp only [wordBytes_cons, wordBytes_nil, List.append_nil, Command.coilWord] at framed sized
  simp [encode, encoding, new, format, StructFormat.encode, Response.forRequest_adu, framed,
    sized, got, reads, eval_set_bits _ _ inside, Command.reply, Command.effect,
    Command.coilWord, Table.bits, Table.setBits]

theorem Response.WriteSingleRegister.eval_encode {address value : UInt16}
    (admissible : (Command.writeSingleRegister address value).Admissible table) :
    (encode.eval (new ⟨header.adu .writeSingleRegister, address, value⟩) table).map
        Prod.fst id =
      (.ok (header.frame .writeSingleRegister
          ((Command.writeSingleRegister address value).reply table)).bytes,
        (Command.writeSingleRegister address value).effect table) := by
  have inside : (table.registers .holdingRegisters).Contains address 1 := admissible
  have framed : Adu.headerPacket ⟨.writeSingleRegister,
        FunctionCode.writeSingleRegister.toUnderlying,
        header.transaction, Adu.calcLength dataLength, header.unit⟩ ++
        wordBytes [address, value] =
      (header.frame .writeSingleRegister (wordBytes [address, value])).bytes :=
    Header.headerPacket_append rfl
  have sized : Request.checkResponsePacket
      (⟨header.adu .writeSingleRegister, address, value⟩ :
        Request.WriteSingleRegister).responseSize
      (header.frame .writeSingleRegister (wordBytes [address, value])).bytes = true := rfl
  simp only [wordBytes_cons, wordBytes_nil, List.append_nil] at framed sized
  simp [encode, encoding, new, format, StructFormat.encode, Response.forRequest_adu, framed,
    sized, eval_set_registers _ value inside, Command.reply, Command.effect,
    Table.registers, Table.setRegisters]

theorem Response.MaskWriteRegister.eval_encode {address andMask orMask : UInt16}
    (admissible : (Command.maskWriteRegister address andMask orMask).Admissible table) :
    (encode.eval (new ⟨header.adu .maskWriteRegister, address, andMask, orMask⟩) table).map
        Prod.fst id =
      (.ok (header.frame .maskWriteRegister
          ((Command.maskWriteRegister address andMask orMask).reply table)).bytes,
        (Command.maskWriteRegister address andMask orMask).effect table) := by
  have inside : (table.registers .holdingRegisters).Contains address 1 := admissible
  obtain ⟨old, reads, got⟩ := eval_get_registers Response.MaskWriteRegister inside
  have framed : Adu.headerPacket ⟨.maskWriteRegister,
        FunctionCode.maskWriteRegister.toUnderlying,
        header.transaction, Adu.calcLength dataLength, header.unit⟩ ++
        wordBytes [address, andMask, orMask] =
      (header.frame .maskWriteRegister (wordBytes [address, andMask, orMask])).bytes :=
    Header.headerPacket_append rfl
  have sized : Request.checkResponsePacket
      (⟨header.adu .maskWriteRegister, address, andMask, orMask⟩ :
        Request.MaskWriteRegister).responseSize
      (header.frame .maskWriteRegister (wordBytes [address, andMask, orMask])).bytes =
        true := rfl
  simp only [Table.registers] at reads
  simp only [wordBytes_cons, wordBytes_nil, List.append_nil] at framed sized
  simp [encode, encoding, new, format, StructFormat.encode, Response.forRequest_adu, framed,
    sized, got, reads, eval_set_registers _ _ inside, Command.reply, Command.effect,
    Table.registers, Table.setRegisters]

theorem Response.WriteMultipleCoils.eval_encode {address count : UInt16}
    {values : Values Bool count} (byteCount : UInt8)
    (admissible : (Command.writeMultipleCoils address count values).Admissible table) :
    (encode.eval (new ⟨header.adu .writeMultipleCoils, address, count, values, byteCount⟩)
        table).map Prod.fst id =
      (.ok (header.frame .writeMultipleCoils
          ((Command.writeMultipleCoils address count values).reply table)).bytes,
        (Command.writeMultipleCoils address count values).effect table) := by
  rcases admissible with ⟨counted, inside⟩
  rcases values with ⟨values, lengthEq⟩
  have positive := NumBits.pos_of_validate counted
  rw [← lengthEq] at positive inside
  have inside : (table.bits .coils).Contains address values.length := inside
  have framed : Adu.headerPacket ⟨.writeMultipleCoils,
        FunctionCode.writeMultipleCoils.toUnderlying,
        header.transaction, Adu.calcLength dataLength, header.unit⟩ ++
        wordBytes [address, count] =
      (header.frame .writeMultipleCoils (wordBytes [address, count])).bytes :=
    Header.headerPacket_append rfl
  simp only [wordBytes_cons, wordBytes_nil, List.append_nil] at framed
  simp [encode, encoding, new, format, StructFormat.encode, Response.forRequest_adu, framed,
    eval_setSlice_bits _ positive inside, Command.reply, Command.effect, Table.bits,
    Table.setBits]

theorem Response.WriteMultipleRegisters.eval_encode {address count : UInt16}
    {values : Values UInt16 count}
    (admissible : (Command.writeMultipleRegisters address count values).Admissible table) :
    (encode.eval (new ⟨header.adu .writeMultipleRegisters, address, count, values⟩)
        table).map Prod.fst id =
      (.ok (header.frame .writeMultipleRegisters
          ((Command.writeMultipleRegisters address count values).reply table)).bytes,
        (Command.writeMultipleRegisters address count values).effect table) := by
  rcases admissible with ⟨counted, inside⟩
  rcases values with ⟨values, lengthEq⟩
  have positive := NumRegs.pos_of_validate counted
  rw [← lengthEq] at positive inside
  have inside : (table.registers .holdingRegisters).Contains address values.length := inside
  have framed : Adu.headerPacket ⟨.writeMultipleRegisters,
        FunctionCode.writeMultipleRegisters.toUnderlying,
        header.transaction, Adu.calcLength dataLength, header.unit⟩ ++
        wordBytes [address, count] =
      (header.frame .writeMultipleRegisters (wordBytes [address, count])).bytes :=
    Header.headerPacket_append rfl
  simp only [wordBytes_cons, wordBytes_nil, List.append_nil] at framed
  simp [encode, encoding, new, format, StructFormat.encode, Response.forRequest_adu, framed,
    eval_setSlice_registers _ positive inside, Command.reply, Command.effect, Table.registers,
    Table.setRegisters]

theorem Response.ReadWriteMultipleRegisters.eval_encode
    {readAddress readCount writeAddress writeCount : UInt16}
    {values : Values UInt16 writeCount}
    (admissible : (Command.readWriteMultipleRegisters readAddress readCount writeAddress
      writeCount values).Admissible table) :
    (encode.eval (new ⟨header.adu .readWriteMultipleRegisters, readAddress, readCount,
        writeAddress, writeCount, values⟩) table).map Prod.fst id =
      (.ok (header.frame .readWriteMultipleRegisters
          ((Command.readWriteMultipleRegisters readAddress readCount writeAddress writeCount
            values).reply table)).bytes,
        (Command.readWriteMultipleRegisters readAddress readCount writeAddress writeCount
          values).effect table) := by
  rcases admissible with ⟨⟨readable, readInside⟩, writable, writeInside⟩
  rcases values with ⟨values, lengthEq⟩
  have bound := (NumRegs.validate_read_iff readCount).mp readable
  have positive := NumRegs.pos_of_validate writable
  rw [← lengthEq] at positive writeInside
  have writeInside : (table.registers .holdingRegisters).Contains writeAddress values.length :=
    writeInside
  -- The slice is read from the table that the first call has written already.
  have readInside : ((table.setRegisters .holdingRegisters
      (table.holdingRegisters.write writeAddress values)).registers
        .holdingRegisters).Contains readAddress readCount.toNat := readInside
  have reads : ((table.holdingRegisters.write writeAddress values).read readAddress
      readCount.toNat).length = readCount.toNat := Block.Sequential.length_read readInside
  have framed : Adu.headerPacket ⟨.readWriteMultipleRegisters,
        FunctionCode.readWriteMultipleRegisters.toUnderlying, header.transaction,
        Adu.calcLength (1 + (registerBytes readCount).toUInt16), header.unit⟩ ++
        registerBytes readCount ::
          wordBytes ((table.holdingRegisters.write writeAddress values).read readAddress
            readCount.toNat) =
      (header.frame .readWriteMultipleRegisters (registerBytes readCount ::
        wordBytes ((table.holdingRegisters.write writeAddress values).read readAddress
          readCount.toNat))).bytes := by
    apply Header.headerPacket_append
    apply UInt16.toNat_inj.mp
    simp [Adu.calcLength, reads]
    omega
  have sized : Request.checkResponsePacket
      (⟨header.adu .readWriteMultipleRegisters, readAddress, readCount, writeAddress,
        writeCount, values⟩ : Request.ReadWriteMultipleRegisters).responseSize
      (header.frame .readWriteMultipleRegisters (registerBytes readCount ::
        wordBytes ((table.holdingRegisters.write writeAddress values).read readAddress
          readCount.toNat))).bytes = true := by
    simp [Request.checkResponsePacket, Request.ReadWriteMultipleRegisters.responseSize,
      Adu.calcAduLength, Adu.headerLength, Header.frame, reads]
    omega
  have sliced := fun object : ReadWriteMultipleRegisters =>
    eval_getSlice_registers object readable readInside
  simp only [Table.registers, Table.setRegisters] at sliced
  simp [encode, encoding, new, format, StructFormat.encode, Response.forRequest_adu,
    eval_setSlice_registers _ positive writeInside, sliced, packRegisters_eq, framed, sized,
    Command.reply, Command.effect, Table.registers, Table.setRegisters]

end ModbusCpp
