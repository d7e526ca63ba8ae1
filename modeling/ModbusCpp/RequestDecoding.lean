import ModbusCpp.BitRead
import ModbusCpp.BitWrite
import ModbusCpp.Frame
import ModbusCpp.RegisterWrite

/-!
# Decoding requests

What the `decode` functions of the request classes make of a packet whose
header has been received: the object they fill in, when every read they make
finds its byte.
-/

namespace ModbusCpp

open Method StructFormat

/-- The base part of an object whose header was decoded from a packet. -/
def Header.adu (header : Header) (function : FunctionCode) : Adu where
  function := function
  functionCode := function.toUnderlying
  transaction := header.transaction
  length := header.length
  unit := header.unit

@[simp]
theorem Header.adu_function (header : Header) (function : FunctionCode) :
    (header.adu function).function = function :=
  rfl

@[simp]
theorem Header.adu_functionCode (header : Header) (function : FunctionCode) :
    (header.adu function).functionCode = function.toUnderlying :=
  rfl

@[simp]
theorem Header.adu_transaction (header : Header) (function : FunctionCode) :
    (header.adu function).transaction = header.transaction :=
  rfl

@[simp]
theorem Header.adu_unit (header : Header) (function : FunctionCode) :
    (header.adu function).unit = header.unit :=
  rfl

@[simp]
theorem Header.adu_header (header : Header) (function : FunctionCode) :
    (header.adu function).header = header :=
  rfl

/-- A packet has the eight bytes of a header and a function. -/
structure Received (packet : ByteBuffer) (header : Header) (function : FunctionCode) :
    Prop where
  functionByte : packet.bytes[Adu.headerLength]? = some function.toUnderlying
  fields : ∃ protocol, StructFormat.decode packet.read 0 Adu.headerFuncFormat =
    some (header.transaction, protocol, header.length, header.unit, function.toUnderlying, ())

variable [Struc] {packet : ByteBuffer} {header : Header}

namespace Request

variable {σ : Type}

/-- The prologue that the `decode` functions share passes for the function
that the handler dispatched on, and leaves the header in the base part. -/
theorem run_decoding {function : FunctionCode} (received : Received packet header function)
    (supported : function ∈ FunctionCode.supported) (toAdu : σ → Adu)
    (replace : Adu → σ → σ) (rest : Member σ Unit) (self : σ) :
    (decoding toAdu (do
      expectFunction packet function
      onPart toAdu replace (Adu.decodeHeader packet)
      rest)).run self =
      (decoding toAdu rest).run (replace (header.adu function) self) := by
  obtain ⟨protocol, fields⟩ := received.fields
  obtain ⟨widened, known, -⟩ := FunctionCode.supported_spec function supported
  simp [decoding, expectFunction, packetAt, received.functionByte, widened, known,
    Adu.run_decodeHeader fields, Header.adu]

/-- The same prologue, where it takes the function from the object. -/
theorem run_decoding_own {function : FunctionCode} (received : Received packet header function)
    (supported : function ∈ FunctionCode.supported) {toAdu : σ → Adu} {self : σ}
    (own : (toAdu self).function = function) (replace : Adu → σ → σ) (rest : Member σ Unit) :
    (decoding toAdu (do
      expectFunction packet (toAdu (← get)).function
      onPart toAdu replace (Adu.decodeHeader packet)
      rest)).run self =
      (decoding toAdu rest).run (replace (header.adu function) self) := by
  rw [← run_decoding received supported toAdu replace rest self]
  simp [decoding, own]

theorem BaseReadBits.run_decode {code : FunctionCode} (received : Received packet header code)
    (supported : code ∈ FunctionCode.supported) (request : BaseReadBits code) :
    (BaseReadBits.decode packet).run request =
      (StructFormat.decode packet.read 8 [.H, .H]).map fun (address, count, ()) =>
        (.ok (), ⟨header.adu code, address, count⟩) := by
  rw [BaseReadBits.decode, run_decoding received supported]
  cases decoded : StructFormat.decode packet.read 8 [.H, .H] <;>
    simp [decoding, Adu.headerLength, BaseReadBits.format, decoded]

theorem BaseReadRegisters.run_decode {code : FunctionCode}
    (received : Received packet header code) (supported : code ∈ FunctionCode.supported)
    (request : BaseReadRegisters code) :
    (BaseReadRegisters.decode packet).run request =
      (StructFormat.decode packet.read 8 [.H, .H]).map fun (address, count, ()) =>
        (.ok (), ⟨header.adu code, address, count⟩) := by
  rw [BaseReadRegisters.decode, run_decoding received supported]
  cases decoded : StructFormat.decode packet.read 8 [.H, .H] <;>
    simp [decoding, Adu.headerLength, BaseReadRegisters.format, decoded]

theorem WriteSingleCoil.run_decode (received : Received packet header .writeSingleCoil)
    (self : WriteSingleCoil) (own : self.function = .writeSingleCoil) :
    (WriteSingleCoil.decode packet).run self =
      (StructFormat.decode packet.read 8 [.H, .H]).map fun (address, word, ()) =>
        if checkBitsValue word then
          (.ok (), ⟨header.adu .writeSingleCoil, address, ⟨word⟩⟩)
        else
          (.error (Exn.serverDeviceFailure .writeSingleCoil header),
            ⟨header.adu .writeSingleCoil, address, self.value⟩) := by
  rw [WriteSingleCoil.decode, run_decoding_own received (by decide) own]
  cases decoded : StructFormat.decode packet.read 8 [.H, .H] with
  | none => simp [decoding, Adu.headerLength, WriteSingleCoil.format, decoded]
  | some record =>
      rcases record with ⟨address, word, ⟨⟩⟩
      cases checked : checkBitsValue word <;>
        simp [decoding, Adu.headerLength, WriteSingleCoil.format, decoded, checked]

theorem WriteSingleRegister.run_decode
    (received : Received packet header .writeSingleRegister) (self : WriteSingleRegister)
    (own : self.function = .writeSingleRegister) :
    (WriteSingleRegister.decode packet).run self =
      (StructFormat.decode packet.read 8 [.H, .H]).map fun (address, value, ()) =>
        (.ok (), ⟨header.adu .writeSingleRegister, address, value⟩) := by
  rw [WriteSingleRegister.decode, run_decoding_own received (by decide) own]
  cases decoded : StructFormat.decode packet.read 8 [.H, .H] <;>
    simp [decoding, Adu.headerLength, WriteSingleRegister.format, decoded]

theorem MaskWriteRegister.run_decode
    (received : Received packet header .maskWriteRegister) (self : MaskWriteRegister)
    (own : self.function = .maskWriteRegister) :
    (MaskWriteRegister.decode packet).run self =
      (StructFormat.decode packet.read 8 [.H, .H, .H]).map
        fun (address, andMask, orMask, ()) =>
          (.ok (), ⟨header.adu .maskWriteRegister, address, andMask, orMask⟩) := by
  rw [MaskWriteRegister.decode, run_decoding_own received (by decide) own]
  cases decoded : StructFormat.decode packet.read 8 [.H, .H, .H] <;>
    simp [decoding, Adu.headerLength, MaskWriteRegister.format, decoded]

theorem WriteMultipleCoils.run_decode (received : Received packet header .writeMultipleCoils)
    (self : WriteMultipleCoils) (own : self.function = .writeMultipleCoils) :
    (WriteMultipleCoils.decode packet).run self =
      (StructFormat.decode packet.read 8 [.H, .H, .B]).map
        fun (address, count, byteCount, ()) =>
          (.ok (), ⟨header.adu .writeMultipleCoils, address, count,
            resize (unpackBits (packet.bytes.drop 13)) count.toNat false, byteCount⟩) := by
  rw [WriteMultipleCoils.decode, run_decoding_own received (by decide) own]
  cases decoded : StructFormat.decode packet.read 8 [.H, .H, .B] <;>
    simp [decoding, Adu.headerLength, WriteMultipleCoils.format, decoded,
      ByteBuffer.slice_read_drop]

theorem WriteMultipleRegisters.run_decode
    (received : Received packet header .writeMultipleRegisters)
    (self : WriteMultipleRegisters) (own : self.function = .writeMultipleRegisters) :
    (WriteMultipleRegisters.decode packet).run self =
      (StructFormat.decode packet.read 8 [.H, .H, .B]).bind
        fun (address, count, byteCount, ()) =>
          if byteCount.toNat = 2 * (count.toNat % 128) then
            (decodeWords packet.read 13 (count.toNat % 128)).map fun words =>
              (.ok (), ⟨header.adu .writeMultipleRegisters, address, count,
                resize words count.toNat 0⟩)
          else
            some (.error (Exn.serverDeviceFailure .writeMultipleRegisters header),
              ⟨header.adu .writeMultipleRegisters, address, count, self.values⟩) := by
  rw [WriteMultipleRegisters.decode, run_decoding_own received (by decide) own]
  cases decoded : StructFormat.decode packet.read 8 [.H, .H, .B] with
  | none => simp [decoding, Adu.headerLength, WriteMultipleRegisters.format, decoded]
  | some record =>
      rcases record with ⟨address, count, byteCount, ⟨⟩⟩
      by_cases agrees : registerBytes count = byteCount
      · have sized : byteCount.toNat = 2 * (count.toNat % 128) := by simp [← agrees]
        cases words : decodeWords packet.read 13 (count.toNat % 128) <;>
          simp [decoding, Adu.headerLength, WriteMultipleRegisters.format, decoded, agrees,
            WriteMultipleRegisters.byteCount, unpackRegisters_eq, sized, words]
      · have sized : ¬ byteCount.toNat = 2 * (count.toNat % 128) := by
          rwa [← toNat_registerBytes, eq_comm, UInt8.toNat_inj]
        simp [decoding, Adu.headerLength, WriteMultipleRegisters.format, decoded, agrees,
          WriteMultipleRegisters.byteCount, sized]

theorem ReadWriteMultipleRegisters.run_decode
    (received : Received packet header .readWriteMultipleRegisters)
    (self : ReadWriteMultipleRegisters) (own : self.function = .readWriteMultipleRegisters) :
    (ReadWriteMultipleRegisters.decode packet).run self =
      (StructFormat.decode packet.read 8 [.H, .H, .H, .H, .B]).bind
        fun (readAddress, readCount, writeAddress, writeCount, byteCount, ()) =>
          if byteCount.toNat = 2 * (writeCount.toNat % 128) then
            (decodeWords packet.read 17 (writeCount.toNat % 128)).map fun words =>
              (.ok (), ⟨header.adu .readWriteMultipleRegisters, readAddress, readCount,
                writeAddress, writeCount, resize words writeCount.toNat 0⟩)
          else
            some (.error (Exn.serverDeviceFailure .readWriteMultipleRegisters header),
              ⟨header.adu .readWriteMultipleRegisters, readAddress, readCount, writeAddress,
                writeCount, self.values⟩) := by
  rw [ReadWriteMultipleRegisters.decode, run_decoding_own received (by decide) own]
  cases decoded : StructFormat.decode packet.read 8 [.H, .H, .H, .H, .B] with
  | none => simp [decoding, Adu.headerLength, ReadWriteMultipleRegisters.format, decoded]
  | some record =>
      rcases record with ⟨readAddress, readCount, writeAddress, writeCount, byteCount, ⟨⟩⟩
      by_cases agrees : registerBytes writeCount = byteCount
      · have sized : byteCount.toNat = 2 * (writeCount.toNat % 128) := by simp [← agrees]
        cases words : decodeWords packet.read 17 (writeCount.toNat % 128) <;>
          simp [decoding, Adu.headerLength, ReadWriteMultipleRegisters.format, decoded, agrees,
            ReadWriteMultipleRegisters.byteCount, unpackRegisters_eq, sized, words]
      · have sized : ¬ byteCount.toNat = 2 * (writeCount.toNat % 128) := by
          rwa [← toNat_registerBytes, eq_comm, UInt8.toNat_inj]
        simp [decoding, Adu.headerLength, ReadWriteMultipleRegisters.format, decoded, agrees,
          ReadWriteMultipleRegisters.byteCount, sized]

/-- The request for an unsupported function throws at once; its object knows
the function only if the enumeration might have a name for it. -/
theorem Illegal.run_decode {function : FunctionCode}
    (received : Received packet header function) :
    (Illegal.decode packet).run Illegal.new =
      some (.error (Exn.illegalFunction
          (if checkFunctionByte function.toUnderlying then function else FunctionCode.min) header),
        { header.adu function with
          function :=
            if checkFunctionByte function.toUnderlying then function else FunctionCode.min }) := by
  obtain ⟨protocol, fields⟩ := received.fields
  simp [Illegal.decode, Adu.run_decodeHeader fields, Header.adu, Illegal.new, Adu.new, Adu.header]

end Request

end ModbusCpp
