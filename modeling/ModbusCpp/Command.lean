import ModbusCpp.BlockMap
import ModbusCpp.Frame
import ModbusCpp.Operation
import ModbusCpp.TableOperations

/-!
# Commands

What the server is for, without its objects: the bytes behind the header of a
request ask for a command; a command is admissible for a table or not, and an
admissible one has a reply and an effect on the table.  The values of a
command that writes a run are as many as its quantity.
-/

namespace ModbusCpp

open StructFormat

/-- The values for a run of `count` cells. -/
abbrev Values (data : Type) (count : UInt16) : Type :=
  {values : List data // values.length = count.toNat}

/-- As many values as `resize` asks for stay as they are. -/
theorem Values.resize_eq {data : Type} {count : UInt16} {values : List data} (fill : data)
    (lengthEq : values.length = count.toNat) :
    (⟨resize values count.toNat fill, length_resize _ _ _⟩ : Values data count) =
      ⟨values, lengthEq⟩ :=
  Subtype.ext (resize_of_length fill lengthEq)

inductive Command
  | readBits (block : BitBlock) (address count : UInt16)
  | readRegisters (block : RegisterBlock) (address count : UInt16)
  | writeSingleCoil (address : UInt16) (value : Bool)
  | writeSingleRegister (address value : UInt16)
  | writeMultipleCoils (address count : UInt16) (values : Values Bool count)
  | writeMultipleRegisters (address count : UInt16) (values : Values UInt16 count)
  | maskWriteRegister (address andMask orMask : UInt16)
  | readWriteMultipleRegisters (readAddress readCount writeAddress writeCount : UInt16)
      (values : Values UInt16 writeCount)

namespace Command

/-- The quantities are within their limits and the runs within their blocks. -/
def Admissible (table : Table) : Command → Prop
  | readBits block address count =>
      NumBits.validate false count = true ∧ (table.bits block).Contains address count.toNat
  | readRegisters block address count =>
      NumRegs.validate false count = true ∧
        (table.registers block).Contains address count.toNat
  | writeSingleCoil address _ => table.coils.Contains address 1
  | writeSingleRegister address _ => table.holdingRegisters.Contains address 1
  | writeMultipleCoils address count _ =>
      NumBits.validate true count = true ∧ table.coils.Contains address count.toNat
  | writeMultipleRegisters address count _ =>
      NumRegs.validate true count = true ∧
        table.holdingRegisters.Contains address count.toNat
  | maskWriteRegister address _ _ => table.holdingRegisters.Contains address 1
  | readWriteMultipleRegisters readAddress readCount writeAddress writeCount _ =>
      (NumRegs.validate false readCount = true ∧
        table.holdingRegisters.Contains readAddress readCount.toNat) ∧
      NumRegs.validate true writeCount = true ∧
        table.holdingRegisters.Contains writeAddress writeCount.toNat

instance (table : Table) : DecidablePred (Admissible table)
  | readBits _ _ _ => inferInstanceAs (Decidable (_ ∧ _))
  | readRegisters _ _ _ => inferInstanceAs (Decidable (_ ∧ _))
  | writeSingleCoil address _ => inferInstanceAs (Decidable (table.coils.Contains address 1))
  | writeSingleRegister address _ =>
      inferInstanceAs (Decidable (table.holdingRegisters.Contains address 1))
  | writeMultipleCoils _ _ _ => inferInstanceAs (Decidable (_ ∧ _))
  | writeMultipleRegisters _ _ _ => inferInstanceAs (Decidable (_ ∧ _))
  | maskWriteRegister address _ _ =>
      inferInstanceAs (Decidable (table.holdingRegisters.Contains address 1))
  | readWriteMultipleRegisters _ _ _ _ _ => inferInstanceAs (Decidable ((_ ∧ _) ∧ _ ∧ _))

/-- The table an admissible command leaves. -/
def effect (table : Table) : Command → Table
  | readBits _ _ _ | readRegisters _ _ _ => table
  | writeSingleCoil address value =>
      { table with coils := table.coils.write address [value] }
  | writeSingleRegister address value =>
      { table with holdingRegisters := table.holdingRegisters.write address [value] }
  | writeMultipleCoils address _ values =>
      { table with coils := table.coils.write address values }
  | writeMultipleRegisters address _ values =>
      { table with holdingRegisters := table.holdingRegisters.write address values }
  | maskWriteRegister address andMask orMask =>
      { table with
        holdingRegisters := table.holdingRegisters.write address
          ((table.holdingRegisters.read address 1).map fun value =>
            value &&& andMask ||| orMask) }
  | readWriteMultipleRegisters _ _ writeAddress _ values =>
      { table with holdingRegisters := table.holdingRegisters.write writeAddress values }

/-- A coil on the wire. -/
def coilWord (value : Bool) : UInt16 :=
  (if value then Bits.on else Bits.off).toUnderlying

/-- The payload of the reply to an admissible command.  The one for a single
coil shows the coil as it was before. -/
def reply (table : Table) : Command → Packet
  | readBits block address count =>
      UInt8.ofNat ((count.toNat + 7) / 8) ::
        packBits ((table.bits block).read address count.toNat)
  | readRegisters block address count =>
      registerBytes count ::
        wordBytes ((table.registers block).read address count.toNat)
  | writeSingleCoil address _ =>
      wordBytes (address :: (table.coils.read address 1).map coilWord)
  | writeSingleRegister address value => wordBytes [address, value]
  | writeMultipleCoils address count _ => wordBytes [address, count]
  | writeMultipleRegisters address count _ => wordBytes [address, count]
  | maskWriteRegister address andMask orMask => wordBytes [address, andMask, orMask]
  | readWriteMultipleRegisters readAddress readCount writeAddress _ values =>
      registerBytes readCount ::
        wordBytes
          ((table.holdingRegisters.write writeAddress values).read readAddress readCount.toNat)

end Command

/-- The command that the bytes behind the header ask for, or the exception that
answers them at once. -/
def parse (packet : ByteBuffer) (function : FunctionCode) :
    Option (Except ExceptionCode Command) :=
  match function with
  | .readCoils => do
      let (address, count, ()) ← decode packet.read 8 [.H, .H]
      some (.ok (.readBits .coils address count))
  | .readDiscreteInputs => do
      let (address, count, ()) ← decode packet.read 8 [.H, .H]
      some (.ok (.readBits .discreteInputs address count))
  | .readHoldingRegisters => do
      let (address, count, ()) ← decode packet.read 8 [.H, .H]
      some (.ok (.readRegisters .holdingRegisters address count))
  | .readInputRegisters => do
      let (address, count, ()) ← decode packet.read 8 [.H, .H]
      some (.ok (.readRegisters .inputRegisters address count))
  | .writeSingleCoil => do
      let (address, value, ()) ← decode packet.read 8 [.H, .H]
      if checkBitsValue value then
        some (.ok (.writeSingleCoil address (⟨value⟩ == Bits.on)))
      else some (.error .serverDeviceFailure)
  | .writeSingleRegister => do
      let (address, value, ()) ← decode packet.read 8 [.H, .H]
      some (.ok (.writeSingleRegister address value))
  | .writeMultipleCoils => do
      let (address, count, _, ()) ← decode packet.read 8 [.H, .H, .B]
      some (.ok (.writeMultipleCoils address count
        ⟨resize (unpackBits (packet.bytes.drop 13)) count.toNat false, length_resize _ _ _⟩))
  | .writeMultipleRegisters => do
      let (address, count, byteCount, ()) ← decode packet.read 8 [.H, .H, .B]
      if byteCount.toNat = 2 * (count.toNat % 128) then do
        let values ← decodeWords packet.read 13 (count.toNat % 128)
        some (.ok (.writeMultipleRegisters address count
          ⟨resize values count.toNat 0, length_resize _ _ _⟩))
      else some (.error .serverDeviceFailure)
  | .maskWriteRegister => do
      let (address, andMask, orMask, ()) ← decode packet.read 8 [.H, .H, .H]
      some (.ok (.maskWriteRegister address andMask orMask))
  | .readWriteMultipleRegisters => do
      let (readAddress, readCount, writeAddress, writeCount, byteCount, ()) ←
        decode packet.read 8 [.H, .H, .H, .H, .B]
      if byteCount.toNat = 2 * (writeCount.toNat % 128) then do
        let values ← decodeWords packet.read 17 (writeCount.toNat % 128)
        some (.ok (.readWriteMultipleRegisters readAddress readCount writeAddress writeCount
          ⟨resize values writeCount.toNat 0, length_resize _ _ _⟩))
      else some (.error .serverDeviceFailure)
  | _ => some (.error .illegalFunction)

/-- Every other function is answered with an illegal function. -/
theorem parse_unsupported {function : FunctionCode} (packet : ByteBuffer)
    (unsupported : function ∉ FunctionCode.supported) :
    parse packet function = some (.error .illegalFunction) := by
  unfold parse
  split
  all_goals first
    | rfl
    | exact absurd (by decide) unsupported

/-- The fixed part of a request behind its header. -/
def FunctionCode.fixedPart : FunctionCode → List Code
  | .readCoils | .readDiscreteInputs | .readHoldingRegisters | .readInputRegisters
  | .writeSingleCoil | .writeSingleRegister => [.H, .H]
  | .writeMultipleCoils | .writeMultipleRegisters => [.H, .H, .B]
  | .maskWriteRegister => [.H, .H, .H]
  | .readWriteMultipleRegisters => [.H, .H, .H, .H, .B]
  | _ => []

/-- The number of registers that are read behind the fixed part: none before
the byte count has passed its check. -/
def valueCount (packet : ByteBuffer) (function : FunctionCode) : Nat :=
  match function with
  | .writeMultipleRegisters =>
      match decode packet.read 8 [.H, .H, .B] with
      | some (_, count, byteCount, ()) =>
          if byteCount.toNat = 2 * (count.toNat % 128) then count.toNat % 128 else 0
      | none => 0
  | .readWriteMultipleRegisters =>
      match decode packet.read 8 [.H, .H, .H, .H, .B] with
      | some (_, _, _, writeCount, byteCount, ()) =>
          if byteCount.toNat = 2 * (writeCount.toNat % 128) then writeCount.toNat % 128 else 0
      | none => 0
  | _ => 0

theorem FunctionCode.fixedPart_unsupported {function : FunctionCode}
    (unsupported : function ∉ FunctionCode.supported) : function.fixedPart = [] := by
  unfold fixedPart
  split
  all_goals first
    | rfl
    | exact absurd (by decide) unsupported

theorem valueCount_unsupported {function : FunctionCode} (packet : ByteBuffer)
    (unsupported : function ∉ FunctionCode.supported) : valueCount packet function = 0 := by
  unfold valueCount
  split
  all_goals first
    | rfl
    | exact absurd (by decide) unsupported

theorem isSome_bind_fixedPart {read : Nat → Option UInt8} {codes : List Code} {α : Type}
    {next : Record codes → Option α} (total : ∀ record, (next record).isSome = true)
    (offset : Nat) :
    (decode read 8 codes >>= next).isSome = true ↔
      (decode read 8 codes).isSome = true ∧ (decodeWords read offset 0).isSome = true := by
  cases decode read 8 codes <;> simp [decodeWords, total]

/-- Parsing comes to a result exactly when the fixed part and the registers
behind it can be read. -/
theorem parse_isSome_iff (packet : ByteBuffer) (function : FunctionCode) :
    (parse packet function).isSome = true ↔
      (decode packet.read 8 function.fixedPart).isSome = true ∧
        (decodeWords packet.read (8 + width function.fixedPart)
          (valueCount packet function)).isSome = true := by
  induction function using FunctionCode.cases_supported with
  | readCoils => exact isSome_bind_fixedPart (fun _ => rfl) _
  | readDiscreteInputs => exact isSome_bind_fixedPart (fun _ => rfl) _
  | readHoldingRegisters => exact isSome_bind_fixedPart (fun _ => rfl) _
  | readInputRegisters => exact isSome_bind_fixedPart (fun _ => rfl) _
  | writeSingleCoil =>
      refine isSome_bind_fixedPart (fun record => ?_) _
      dsimp only
      split <;> rfl
  | writeSingleRegister => exact isSome_bind_fixedPart (fun _ => rfl) _
  | writeMultipleCoils => exact isSome_bind_fixedPart (fun _ => rfl) _
  | maskWriteRegister => exact isSome_bind_fixedPart (fun _ => rfl) _
  | writeMultipleRegisters =>
      have part : FunctionCode.writeMultipleRegisters.fixedPart = [.H, .H, .B] := rfl
      rw [part]
      simp only [parse, valueCount]
      cases decode packet.read 8 [.H, .H, .B] with
      | none => simp
      | some record =>
          rcases record with ⟨address, count, byteCount, ⟨⟩⟩
          by_cases sized : byteCount.toNat = 2 * (count.toNat % 128)
          · cases words : decodeWords packet.read 13 (count.toNat % 128) <;>
              simp [sized, width, Code.width, words]
          · simp [sized, decodeWords]
  | readWriteMultipleRegisters =>
      have part : FunctionCode.readWriteMultipleRegisters.fixedPart =
        [.H, .H, .H, .H, .B] := rfl
      rw [part]
      simp only [parse, valueCount]
      cases decode packet.read 8 [.H, .H, .H, .H, .B] with
      | none => simp
      | some record =>
          rcases record with ⟨readAddress, readCount, writeAddress, writeCount, byteCount, ⟨⟩⟩
          by_cases sized : byteCount.toNat = 2 * (writeCount.toNat % 128)
          · cases words : decodeWords packet.read 17 (writeCount.toNat % 128) <;>
              simp [sized, width, Code.width, words]
          · simp [sized, decodeWords]
  | unsupported function unsupported =>
      rw [parse_unsupported packet unsupported, FunctionCode.fixedPart_unsupported unsupported,
        valueCount_unsupported packet unsupported]
      simp [decode, decodeWords]

/-- What is left of the function in an exception. -/
def FunctionCode.known (function : FunctionCode) : FunctionCode :=
  if checkFunctionByte function.toUnderlying then function else FunctionCode.min

/-- The frame that answers a request of `function` in `header`, and the table
afterwards. -/
def respond (header : Header) (function : FunctionCode)
    (parsed : Except ExceptionCode Command) (table : Table) : Frame × Table :=
  let refuse (code : ExceptionCode) : Frame × Table :=
    (Frame.exception header.transaction header.unit function.known.toUnderlying code, table)
  match parsed with
  | .error code => refuse code
  | .ok command =>
      if command.Admissible table then
        (⟨header.transaction, header.unit, function.toUnderlying, command.reply table⟩,
          command.effect table)
      else refuse .illegalDataAddress

theorem respond_inadmissible {header : Header} {function : FunctionCode} {command : Command}
    {table : Table} (inadmissible : ¬ command.Admissible table) :
    respond header function (.ok command) table =
      (Frame.exception header.transaction header.unit function.known.toUnderlying
        .illegalDataAddress, table) := by
  simp [respond, inadmissible]

end ModbusCpp
