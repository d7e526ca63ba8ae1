import ModbusCpp.Interference
import ModbusCpp.Serialisation

/-!
# Responses under interference

What the `encode` functions do with a table that other sessions use as well:
the members they call, and the payload they make from the tables on which these
calls work.
-/

namespace ModbusCpp

open Block Method StructFormat TableMethod

/-- The operations of an admissible command, each with the table it found, and
the payload of the reply. -/
def Command.Performs (command : Command) (steps : List (TableOp × Table)) (payload : Packet) :
    Prop :=
  match command with
  | readBits block address count =>
      ∃ found, steps = [(.bits block (.getSlice address count), found)] ∧
        payload = (readBits block address count).reply found
  | readRegisters block address count =>
      ∃ found, steps = [(.registers block (.getSlice address count), found)] ∧
        payload = (readRegisters block address count).reply found
  | writeSingleCoil address value =>
      ∃ before found, steps =
          [(.bits .coils (.get address), before), (.bits .coils (.set address value), found)] ∧
        payload = (writeSingleCoil address value).reply before
  | writeSingleRegister address value =>
      ∃ found, steps = [(.registers .holdingRegisters (.set address value), found)] ∧
        payload = wordBytes [address, value]
  | writeMultipleCoils address count values =>
      ∃ found, steps = [(.bits .coils (.setSlice address values), found)] ∧
        payload = wordBytes [address, count]
  | writeMultipleRegisters address count values =>
      ∃ found, steps = [(.registers .holdingRegisters (.setSlice address values), found)] ∧
        payload = wordBytes [address, count]
  | maskWriteRegister address andMask orMask =>
      ∃ before value found, before.holdingRegisters.read address 1 = [value] ∧
        steps =
          [(.registers .holdingRegisters (.get address), before),
            (.registers .holdingRegisters (.set address (value &&& andMask ||| orMask)),
              found)] ∧
        payload = wordBytes [address, andMask, orMask]
  | readWriteMultipleRegisters readAddress readCount writeAddress _ values =>
      ∃ before found, steps =
          [(.registers .holdingRegisters (.setSlice writeAddress values), before),
            (.registers .holdingRegisters (.getSlice readAddress readCount), found)] ∧
        payload = (readRegisters .holdingRegisters readAddress readCount).reply found

namespace TableMethod

variable {σ α β : Type} {Inv : Table → Prop}

/-- What a member function comes to when the table may change between its
steps. -/
def Ensures (Inv : Table → Prop) (method : TableMethod σ α) (object : σ)
    (post : List (TableOp × Table) → Except Exn α × σ → Prop) : Prop :=
  (method.run object).Ensures TableOp.apply Inv post

@[simp]
theorem ensures_pure (value : α) (object : σ)
    (post : List (TableOp × Table) → Except Exn α × σ → Prop) :
    (pure value : TableMethod σ α).Ensures Inv object post ↔ post [] (.ok value, object) :=
  Iff.rfl

@[simp]
theorem ensures_bind (method : TableMethod σ α) (next : α → TableMethod σ β) (object : σ)
    (post : List (TableOp × Table) → Except Exn β × σ → Prop) :
    (method >>= next).Ensures Inv object post ↔
      method.Ensures Inv object fun steps outcome =>
        match outcome with
        | (.ok value, left) => (next value).Ensures Inv left fun later => post (steps ++ later)
        | (.error failure, left) => post steps (.error failure, left) := by
  simp only [Ensures, Method.run_bind, Resumption.ensures_bind]
  refine Resumption.ensures_congr _ fun steps outcome => ?_
  rcases outcome with ⟨failure | value, left⟩
  · simp
  · rfl

@[simp]
theorem ensures_throw (failure : Exn) (object : σ)
    (post : List (TableOp × Table) → Except Exn α × σ → Prop) :
    (throw failure : TableMethod σ α).Ensures Inv object post ↔
      post [] (.error failure, object) :=
  Iff.rfl

@[simp]
theorem ensures_tryCatch (method : TableMethod σ α) (handler : Exn → TableMethod σ α)
    (object : σ) (post : List (TableOp × Table) → Except Exn α × σ → Prop) :
    (tryCatch method handler).Ensures Inv object post ↔
      method.Ensures Inv object fun steps outcome =>
        match outcome with
        | (.ok value, left) => post steps (.ok value, left)
        | (.error failure, left) =>
            (handler failure).Ensures Inv left fun later => post (steps ++ later) := by
  simp only [Ensures, Method.run_tryCatch, Resumption.ensures_bind]
  refine Resumption.ensures_congr _ fun steps outcome => ?_
  rcases outcome with ⟨failure | value, left⟩
  · rfl
  · simp

@[simp]
theorem ensures_get (object : σ) (post : List (TableOp × Table) → Except Exn σ × σ → Prop) :
    (get : TableMethod σ σ).Ensures Inv object post ↔ post [] (.ok object, object) :=
  Iff.rfl

@[simp]
theorem ensures_modify (update : σ → σ) (object : σ)
    (post : List (TableOp × Table) → Except Exn PUnit × σ → Prop) :
    (modify update : TableMethod σ PUnit).Ensures Inv object post ↔
      post [] (.ok (), update object) :=
  Iff.rfl

@[simp]
theorem ensures_call (op : TableOp) (object : σ)
    (post : List (TableOp × Table) → Except Exn op.Value × σ → Prop) :
    (call op : TableMethod σ op.Value).Ensures Inv object post ↔
      ∀ found, Inv found → post [(op, found)] ((op.apply found).1, object) :=
  Iff.rfl

end TableMethod

theorem Table.SameShape.contains_bits {table initial : Table} (shape : table.SameShape initial)
    {which : BitBlock} {address : UInt16} {count : Nat}
    (inside : (initial.bits which).Contains address count) :
    (table.bits which).Contains address count :=
  ((shape.bits which).contains_iff address count).mpr inside

theorem Table.SameShape.contains_registers {table initial : Table}
    (shape : table.SameShape initial) {which : RegisterBlock} {address : UInt16} {count : Nat}
    (inside : (initial.registers which).Contains address count) :
    (table.registers which).Contains address count :=
  ((shape.registers which).contains_iff address count).mpr inside

variable {initial : Table}

section Single

variable {address : UInt16} {found : Table} (shape : found.SameShape initial)

include shape

/-- Inside the block, the locked members for one cell do what they are for. -/
theorem TableOp.apply_get_bits {which : BitBlock}
    (inside : (initial.bits which).Contains address 1) :
    ∃ value, (found.bits which).read address 1 = [value] ∧
      ((TableOp.bits which (.get address)).apply found).1 = .ok value := by
  obtain ⟨value, got, reads⟩ := Sequential.get_of_contains (shape.contains_bits inside)
  exact ⟨value, reads, got⟩

theorem TableOp.apply_get_registers {which : RegisterBlock}
    (inside : (initial.registers which).Contains address 1) :
    ∃ value, (found.registers which).read address 1 = [value] ∧
      ((TableOp.registers which (.get address)).apply found).1 = .ok value := by
  obtain ⟨value, got, reads⟩ := Sequential.get_of_contains (shape.contains_registers inside)
  exact ⟨value, reads, got⟩

theorem TableOp.apply_set_bits {which : BitBlock} (value : Bool)
    (inside : (initial.bits which).Contains address 1) :
    ((TableOp.bits which (.set address value)).apply found).1 = .ok () := by
  simp [TableOp.apply, BlockOp.apply, BlockOp.commit,
    Sequential.set_of_contains value (shape.contains_bits inside)]

theorem TableOp.apply_set_registers {which : RegisterBlock} (value : UInt16)
    (inside : (initial.registers which).Contains address 1) :
    ((TableOp.registers which (.set address value)).apply found).1 = .ok () := by
  simp [TableOp.apply, BlockOp.apply, BlockOp.commit,
    Sequential.set_of_contains value (shape.contains_registers inside)]

theorem TableOp.apply_setSlice_bits {which : BitBlock} {values : List Bool}
    (positive : 0 < values.length)
    (inside : (initial.bits which).Contains address values.length) :
    ((TableOp.bits which (.setSlice address values)).apply found).1 = .ok () := by
  simp [TableOp.apply, BlockOp.apply, BlockOp.commit,
    Sequential.setSlice_of_contains positive (shape.contains_bits inside)]

theorem TableOp.apply_setSlice_registers {which : RegisterBlock} {values : List UInt16}
    (positive : 0 < values.length)
    (inside : (initial.registers which).Contains address values.length) :
    ((TableOp.registers which (.setSlice address values)).apply found).1 = .ok () := by
  simp [TableOp.apply, BlockOp.apply, BlockOp.commit,
    Sequential.setSlice_of_contains positive (shape.contains_registers inside)]

end Single

variable [Struc] {header : Header} {function : FunctionCode}

/-- The result that a response class has to ensure for a command. -/
def Command.Encodes (command : Command) (header : Header) (function : FunctionCode)
    {θ : Type} (steps : List (TableOp × Table)) (outcome : Except Exn Packet × θ) : Prop :=
  ∃ payload, command.Performs steps payload ∧
    outcome.1 = .ok (header.frame function payload).bytes

theorem Response.BaseReadBits.ensures_encode {block : BitBlock} {address count : UInt16}
    (admissible : (Command.readBits block address count).Admissible initial) :
    (encodeFrom block).Ensures (·.SameShape initial)
      (new (⟨header.adu function, address, count⟩ : Request.BaseReadBits function))
      ((Command.readBits block address count).Encodes header function) := by
  rcases admissible with ⟨counted, inside⟩
  have bound := (NumBits.validate_read_iff count).mp counted
  have bytes := Request.BaseReadBits.byteCount_eq
    (⟨header.adu function, address, count⟩ : Request.BaseReadBits function)
  simp only [encodeFrom, encoding, ensures_tryCatch, ensures_bind, ensures_get]
  intro found shape
  have here := shape.contains_bits inside
  have reads := Block.Sequential.length_read here
  have framed : Adu.headerPacket ⟨function, function.toUnderlying, header.transaction,
        Adu.calcLength (UInt16.ofNat ((count.toNat + 7) / 8) + 1), header.unit⟩ ++
        (Command.readBits block address count).reply found =
      (header.frame function ((Command.readBits block address count).reply found)).bytes := by
    apply Header.headerPacket_append
    apply UInt16.toNat_inj.mp
    simp [Adu.calcLength, Command.reply, reads]
    omega
  have sized : Request.checkResponsePacket
      (⟨header.adu function, address, count⟩ : Request.BaseReadBits function).responseSize
      (header.frame function ((Command.readBits block address count).reply found)).bytes =
        true := by
    simp [Request.checkResponsePacket, Request.BaseReadBits.responseSize_eq, Header.frame,
      Command.reply, reads]
    omega
  have got : ((TableOp.bits block (.getSlice address count)).apply found).1 =
      .ok ((found.bits block).read address count.toNat) :=
    Sequential.getSlice_of_contains counted (NumBits.pos_of_validate counted) here
  simp only [Command.reply] at framed sized
  simp [new, Response.forRequest_adu, format, StructFormat.encode, got, bytes, framed, sized,
    Command.Encodes, Command.Performs, Command.reply]

theorem Response.BaseReadRegisters.ensures_encode {block : RegisterBlock}
    {address count : UInt16}
    (admissible : (Command.readRegisters block address count).Admissible initial) :
    (encodeFrom block).Ensures (·.SameShape initial)
      (new (⟨header.adu function, address, count⟩ : Request.BaseReadRegisters function))
      ((Command.readRegisters block address count).Encodes header function) := by
  rcases admissible with ⟨counted, inside⟩
  have bound := (NumRegs.validate_read_iff count).mp counted
  simp only [encodeFrom, encoding, ensures_tryCatch, ensures_bind, ensures_get]
  intro found shape
  have here := shape.contains_registers inside
  have reads := Block.Sequential.length_read here
  have framed : Adu.headerPacket ⟨function, function.toUnderlying, header.transaction,
        Adu.calcLength ((⟨header.adu function, address, count⟩ :
          Request.BaseReadRegisters function).byteCount + 1), header.unit⟩ ++
        (Command.readRegisters block address count).reply found =
      (header.frame function
        ((Command.readRegisters block address count).reply found)).bytes := by
    apply Header.headerPacket_append
    apply UInt16.toNat_inj.mp
    simp [Adu.calcLength, Request.BaseReadRegisters.byteCount, Command.reply, reads]
    omega
  have sized : Request.checkResponsePacket
      (⟨header.adu function, address, count⟩ : Request.BaseReadRegisters function).responseSize
      (header.frame function ((Command.readRegisters block address count).reply found)).bytes =
        true := by
    simp [Request.checkResponsePacket, Request.BaseReadRegisters.responseSize,
      Request.BaseReadRegisters.byteCount, Adu.calcAduLength, Adu.headerLength, Header.frame,
      Command.reply, reads]
    omega
  have got : ((TableOp.registers block (.getSlice address count)).apply found).1 =
      .ok ((found.registers block).read address count.toNat) :=
    Sequential.getSlice_of_contains counted (NumRegs.pos_of_validate counted) here
  simp only [Command.reply] at framed sized
  simp [new, Response.forRequest_adu, format, StructFormat.encode, got, packRegisters_eq, framed,
    sized, Request.BaseReadRegisters.byteCount_toUInt8, Command.Encodes, Command.Performs,
    Command.reply]

theorem Response.WriteSingleCoil.ensures_encode {address word : UInt16}
    (admissible :
      (Command.writeSingleCoil address (⟨word⟩ == Bits.on)).Admissible initial) :
    encode.Ensures (·.SameShape initial) (new ⟨header.adu .writeSingleCoil, address, ⟨word⟩⟩)
      ((Command.writeSingleCoil address (⟨word⟩ == Bits.on)).Encodes header
        .writeSingleCoil) := by
  have inside : (initial.bits .coils).Contains address 1 := admissible
  simp only [encode, encoding, ensures_tryCatch, ensures_bind, ensures_get]
  intro before shape
  obtain ⟨old, reads, got⟩ := TableOp.apply_get_bits shape inside
  have framed : Adu.headerPacket ⟨.writeSingleCoil, FunctionCode.writeSingleCoil.toUnderlying,
        header.transaction, Adu.calcLength dataLength, header.unit⟩ ++
        wordBytes [address, Command.coilWord old] =
      (header.frame .writeSingleCoil (wordBytes [address, Command.coilWord old])).bytes :=
    Header.headerPacket_append rfl
  have sized : Request.checkResponsePacket
      (⟨header.adu .writeSingleCoil, address, ⟨word⟩⟩ : Request.WriteSingleCoil).responseSize
      (header.frame .writeSingleCoil (wordBytes [address, Command.coilWord old])).bytes =
        true := rfl
  simp only [Table.bits] at reads
  simp only [wordBytes_cons, wordBytes_nil, List.append_nil, Command.coilWord] at framed sized
  simp [new, Response.forRequest_adu, format, StructFormat.encode, got, framed, sized]
  intro found shape
  simp [TableOp.apply_set_bits shape _ inside, Command.Encodes, Command.Performs, Command.reply,
    Command.coilWord, reads]

theorem Response.WriteSingleRegister.ensures_encode {address value : UInt16}
    (admissible : (Command.writeSingleRegister address value).Admissible initial) :
    encode.Ensures (·.SameShape initial) (new ⟨header.adu .writeSingleRegister, address, value⟩)
      ((Command.writeSingleRegister address value).Encodes header .writeSingleRegister) := by
  have inside : (initial.registers .holdingRegisters).Contains address 1 := admissible
  have framed : Adu.headerPacket ⟨.writeSingleRegister,
        FunctionCode.writeSingleRegister.toUnderlying,
        header.transaction, Adu.calcLength dataLength, header.unit⟩ ++
        wordBytes [address, value] =
      (header.frame .writeSingleRegister (wordBytes [address, value])).bytes :=
    Header.headerPacket_append rfl
  have sized : Request.checkResponsePacket
      (⟨header.adu .writeSingleRegister, address, value⟩ :
        Request.WriteSingleRegister).responseSize
      (header.frame .writeSingleRegister (wordBytes [address, value])).bytes = true := rfl
  simp only [wordBytes_cons, wordBytes_nil, List.append_nil] at framed sized
  simp [encode, encoding, new, Response.forRequest_adu, format, StructFormat.encode, framed,
    sized]
  intro found shape
  simp [TableOp.apply_set_registers shape _ inside, Command.Encodes, Command.Performs]

theorem Response.MaskWriteRegister.ensures_encode {address andMask orMask : UInt16}
    (admissible : (Command.maskWriteRegister address andMask orMask).Admissible initial) :
    encode.Ensures (·.SameShape initial)
      (new ⟨header.adu .maskWriteRegister, address, andMask, orMask⟩)
      ((Command.maskWriteRegister address andMask orMask).Encodes header
        .maskWriteRegister) := by
  have inside : (initial.registers .holdingRegisters).Contains address 1 := admissible
  have framed : Adu.headerPacket ⟨.maskWriteRegister,
        FunctionCode.maskWriteRegister.toUnderlying,
        header.transaction, Adu.calcLength dataLength, header.unit⟩ ++
        wordBytes [address, andMask, orMask] =
      (header.frame .maskWriteRegister (wordBytes [address, andMask, orMask])).bytes :=
    Header.headerPacket_append rfl
  have sized : Request.checkResponsePacket
      (⟨header.adu .maskWriteRegister, address, andMask, orMask⟩ :
        Request.MaskWriteRegister).responseSize
      (header.frame .maskWriteRegister (wordBytes [address, andMask, orMask])).bytes =
        true := rfl
  simp only [wordBytes_cons, wordBytes_nil, List.append_nil] at framed sized
  simp [encode, encoding, new, Response.forRequest_adu, format, StructFormat.encode, framed,
    sized]
  intro before shape
  obtain ⟨old, reads, got⟩ := TableOp.apply_get_registers shape inside
  simp only [Table.registers] at reads
  simp [got]
  intro found shape
  simp only [TableOp.apply_set_registers shape _ inside, Command.Encodes]
  exact ⟨_, ⟨before, old, found, reads, rfl, rfl⟩, by simp⟩

theorem Response.WriteMultipleCoils.ensures_encode {address count : UInt16}
    {values : Values Bool count} (byteCount : UInt8)
    (admissible : (Command.writeMultipleCoils address count values).Admissible initial) :
    encode.Ensures (·.SameShape initial)
      (new ⟨header.adu .writeMultipleCoils, address, count, values, byteCount⟩)
      ((Command.writeMultipleCoils address count values).Encodes header
        .writeMultipleCoils) := by
  rcases admissible with ⟨counted, inside⟩
  rcases values with ⟨values, lengthEq⟩
  have positive := NumBits.pos_of_validate counted
  rw [← lengthEq] at positive inside
  have inside : (initial.bits .coils).Contains address values.length := inside
  have framed : Adu.headerPacket ⟨.writeMultipleCoils,
        FunctionCode.writeMultipleCoils.toUnderlying,
        header.transaction, Adu.calcLength dataLength, header.unit⟩ ++
        wordBytes [address, count] =
      (header.frame .writeMultipleCoils (wordBytes [address, count])).bytes :=
    Header.headerPacket_append rfl
  simp only [wordBytes_cons, wordBytes_nil, List.append_nil] at framed
  simp [encode, encoding, new, Response.forRequest_adu, format, StructFormat.encode, framed]
  intro found shape
  simp [TableOp.apply_setSlice_bits shape positive inside, Command.Encodes, Command.Performs]

theorem Response.WriteMultipleRegisters.ensures_encode {address count : UInt16}
    {values : Values UInt16 count}
    (admissible : (Command.writeMultipleRegisters address count values).Admissible initial) :
    encode.Ensures (·.SameShape initial)
      (new ⟨header.adu .writeMultipleRegisters, address, count, values⟩)
      ((Command.writeMultipleRegisters address count values).Encodes header
        .writeMultipleRegisters) := by
  rcases admissible with ⟨counted, inside⟩
  rcases values with ⟨values, lengthEq⟩
  have positive := NumRegs.pos_of_validate counted
  rw [← lengthEq] at positive inside
  have inside : (initial.registers .holdingRegisters).Contains address values.length := inside
  have framed : Adu.headerPacket ⟨.writeMultipleRegisters,
        FunctionCode.writeMultipleRegisters.toUnderlying,
        header.transaction, Adu.calcLength dataLength, header.unit⟩ ++
        wordBytes [address, count] =
      (header.frame .writeMultipleRegisters (wordBytes [address, count])).bytes :=
    Header.headerPacket_append rfl
  simp only [wordBytes_cons, wordBytes_nil, List.append_nil] at framed
  simp [encode, encoding, new, Response.forRequest_adu, format, StructFormat.encode, framed]
  intro found shape
  simp [TableOp.apply_setSlice_registers shape positive inside, Command.Encodes,
    Command.Performs]

theorem Response.ReadWriteMultipleRegisters.ensures_encode
    {readAddress readCount writeAddress writeCount : UInt16}
    {values : Values UInt16 writeCount}
    (admissible : (Command.readWriteMultipleRegisters readAddress readCount writeAddress
      writeCount values).Admissible initial) :
    encode.Ensures (·.SameShape initial)
      (new ⟨header.adu .readWriteMultipleRegisters, readAddress, readCount, writeAddress,
        writeCount, values⟩)
      ((Command.readWriteMultipleRegisters readAddress readCount writeAddress writeCount
        values).Encodes header .readWriteMultipleRegisters) := by
  rcases admissible with ⟨⟨readable, readInside⟩, writable, writeInside⟩
  rcases values with ⟨values, lengthEq⟩
  have bound := (NumRegs.validate_read_iff readCount).mp readable
  have positive := NumRegs.pos_of_validate writable
  rw [← lengthEq] at positive writeInside
  have readInside : (initial.registers .holdingRegisters).Contains readAddress
    readCount.toNat := readInside
  have writeInside : (initial.registers .holdingRegisters).Contains writeAddress
    values.length := writeInside
  simp only [encode, encoding, new, ensures_tryCatch, ensures_bind, ensures_get]
  intro before shape
  simp [TableOp.apply_setSlice_registers shape positive writeInside]
  intro found shape
  have here := shape.contains_registers readInside
  have reads := Block.Sequential.length_read here
  have framed : Adu.headerPacket ⟨.readWriteMultipleRegisters,
        FunctionCode.readWriteMultipleRegisters.toUnderlying, header.transaction,
        Adu.calcLength (1 + (registerBytes readCount).toUInt16), header.unit⟩ ++
        (Command.readRegisters .holdingRegisters readAddress readCount).reply found =
      (header.frame .readWriteMultipleRegisters
        ((Command.readRegisters .holdingRegisters readAddress readCount).reply
          found)).bytes := by
    apply Header.headerPacket_append
    apply UInt16.toNat_inj.mp
    simp [Adu.calcLength, Command.reply, reads]
    omega
  have sized : Request.checkResponsePacket
      (⟨header.adu .readWriteMultipleRegisters, readAddress, readCount, writeAddress,
        writeCount, values⟩ : Request.ReadWriteMultipleRegisters).responseSize
      (header.frame .readWriteMultipleRegisters
        ((Command.readRegisters .holdingRegisters readAddress readCount).reply
          found)).bytes = true := by
    simp [Request.checkResponsePacket, Request.ReadWriteMultipleRegisters.responseSize,
      Adu.calcAduLength, Adu.headerLength, Header.frame, Command.reply, reads]
    omega
  have got : ((TableOp.registers .holdingRegisters (.getSlice readAddress readCount)).apply
      found).1 = .ok ((found.registers .holdingRegisters).read readAddress readCount.toNat) :=
    Sequential.getSlice_of_contains readable (NumRegs.pos_of_validate readable) here
  simp only [Command.reply] at framed sized
  simp [Response.forRequest_adu, StructFormat.encode, got, packRegisters_eq, framed,
    sized, Command.Encodes, Command.Performs, Command.reply]

end ModbusCpp
