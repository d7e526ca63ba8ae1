import ModbusCpp.RegisterRead

/-!
# Writing registers

`register-write.hpp` and `register-write.cpp`: the requests and the responses
of `write_single_register`, `write_multiple_registers`, `mask_write_register`
and `read_write_multiple_registers`.
-/

namespace ModbusCpp

open Method StructFormat TableMethod

variable [Struc]

/-- `request::write_single_register` -/
structure Request.WriteSingleRegister extends Adu where
  address : UInt16
  value : UInt16

namespace Request.WriteSingleRegister

def dataLength : UInt16 := 4

abbrev format : List Code := [.H, .H]

/-- `write_single_register(address, value)` -/
def new (address value : UInt16) : WriteSingleRegister where
  toAdu := Adu.new .writeSingleRegister
  address := address
  value := value

def responseSize (_ : WriteSingleRegister) : Nat :=
  (Adu.calcAduLength dataLength).toNat

def encode : Member WriteSingleRegister Packet := do
  let self ← get
  throwIf (!BaseMetadata.validate self.address) Exn.badData
  modify ({ · with length := Adu.calcLength dataLength })
  let packet := (← get).headerPacket
  let pdu := Struc.pack format (self.address, self.value, ())
  pure (packet ++ pdu)

def decode (packet : ByteBuffer) : Member WriteSingleRegister Unit :=
  Request.decoding toAdu do
    expectFunction packet (← get).function
    onPart toAdu (fun adu self => { self with toAdu := adu }) (Adu.decodeHeader packet)
    let (address, value, ()) ← Struc.unpack format packet.read (Adu.headerLength + 1)
    modify ({ · with address, value })

end Request.WriteSingleRegister

/-- `response::write_single_register` -/
structure Response.WriteSingleRegister extends Response where
  request : Request.WriteSingleRegister
  address : UInt16 := 0
  value : UInt16 := 0

namespace Response.WriteSingleRegister

def dataLength : UInt16 := 4

abbrev format : List Code := [.H, .H]

def new (request : Request.WriteSingleRegister) : WriteSingleRegister where
  toResponse := Response.forRequest request.function request.toAdu
  request := request

def encode : TableMethod WriteSingleRegister Packet :=
  Response.encoding (·.toAdu) do
    modify ({ · with length := Adu.calcLength dataLength })
    let self ← get
    let packet := self.headerPacket
    let pdu := Struc.pack format (self.request.address, self.request.value, ())
    let packet := packet ++ pdu
    throwIf (!Request.checkResponsePacket self.request.responseSize packet)
      (Exn.serverDeviceFailure self.function self.header)
    call (.registers .holdingRegisters (.set self.request.address self.request.value))
    modify fun self => { self with
      address := self.request.address
      value := self.request.value }
    pure packet

def decodePassed (packet : ByteBuffer) : Member WriteSingleRegister Unit :=
  Response.decodingPassed do
    let request := (← get).request
    throwIf (packet.size ≠ request.responseSize) Exn.badData
    let addressIdx := Adu.headerLength + 1
    let (address, value, ()) ← Struc.unpack format packet.read addressIdx
    throwIf (request.address ≠ address) Exn.badData
    throwIf (request.value ≠ value) Exn.badData
    modify ({ · with address := request.address, value := request.value })

def decode : ByteBuffer → Member WriteSingleRegister Unit :=
  Response.decode toResponse (fun base self => { self with toResponse := base }) decodePassed

end Response.WriteSingleRegister

/-- `execute(data_table)` -/
def Request.WriteSingleRegister.execute (request : Request.WriteSingleRegister)
    (table : Table) : Except Exn Response.WriteSingleRegister := do
  throwIf (!BaseMetadata.validate request.value)
    (Exn.illegalDataValue request.function request.header)
  throwIf (!(← table.holdingRegisters.validate request.address))
    (Exn.illegalDataAddress request.function request.header)
  pure (Response.WriteSingleRegister.new request)

/-- `request::write_multiple_registers` -/
structure Request.WriteMultipleRegisters extends Adu where
  address : UInt16
  count : UInt16
  values : List UInt16

namespace Request.WriteMultipleRegisters

abbrev format : List Code := [.H, .H, .B]

/-- `write_multiple_registers(address, count, values)` -/
def new (address count : UInt16) (values : List UInt16) : WriteMultipleRegisters where
  toAdu := Adu.new .writeMultipleRegisters
  address := address
  count := count
  values := values

/-- `byte_count()`, the low eight bits of twice the quantity. -/
def byteCount (request : WriteMultipleRegisters) : UInt8 :=
  registerBytes request.count

def dataLength (request : WriteMultipleRegisters) : UInt16 :=
  4 + 1 + request.byteCount.toUInt16

def responseSize (_ : WriteMultipleRegisters) : Nat :=
  (Adu.calcAduLength 4).toNat

def encode : Member WriteMultipleRegisters Packet := do
  let self ← get
  throwIf (!BaseMetadata.validate self.address || !BaseMetadata.validate self.count)
    Exn.badData
  modify ({ · with length := Adu.calcLength self.dataLength })
  let packet := (← get).headerPacket
  let pdu := Struc.pack format (self.address, self.count, self.byteCount, ())
  let packet := packet ++ pdu ++ packRegisters self.values
  throwIf (packet.length ≠ self.dataLength.toNat + Adu.headerLength + 1) Exn.badData
  pure packet

def decode (packet : ByteBuffer) : Member WriteMultipleRegisters Unit :=
  Request.decoding toAdu do
    expectFunction packet (← get).function
    onPart toAdu (fun adu self => { self with toAdu := adu }) (Adu.decodeHeader packet)
    let valuesIdx := Adu.headerLength + 1 + 5
    let (address, count, byteCountRecv, ()) ←
      Struc.unpack format packet.read (Adu.headerLength + 1)
    modify ({ · with address, count })
    let self ← get
    throwIf (self.byteCount ≠ byteCountRecv) Exn.badData
    let buffer ← unpackRegisters packet valuesIdx self.byteCount.toNat
    modify ({ · with values := resize buffer self.count.toNat 0 })

end Request.WriteMultipleRegisters

/-- `response::write_multiple_registers`; the default count of an object is 1. -/
structure Response.WriteMultipleRegisters extends Response where
  request : Request.WriteMultipleRegisters
  address : UInt16 := 0
  count : UInt16 := 1

namespace Response.WriteMultipleRegisters

def dataLength : UInt16 := 4

abbrev format : List Code := [.H, .H]

def new (request : Request.WriteMultipleRegisters) : WriteMultipleRegisters where
  toResponse := Response.forRequest request.function request.toAdu
  request := request

def encode : TableMethod WriteMultipleRegisters Packet :=
  Response.encoding (·.toAdu) do
    modify ({ · with length := Adu.calcLength dataLength })
    let self ← get
    let packet := self.headerPacket
    let pdu := Struc.pack format (self.request.address, self.request.count, ())
    let packet := packet ++ pdu
    call (.registers .holdingRegisters (.setSlice self.request.address self.request.values))
    pure packet

def decodePassed (packet : ByteBuffer) : Member WriteMultipleRegisters Unit :=
  Response.decodingPassed do
    let request := (← get).request
    throwIf (packet.size ≠ request.responseSize) Exn.badData
    let addressIdx := Adu.headerLength + 1
    let (address, count, ()) ← Struc.unpack format packet.read addressIdx
    modify ({ · with address, count })
    throwIf (request.address ≠ (← get).address) Exn.badData
    throwIf (request.count ≠ (← get).count) Exn.badData

def decode : ByteBuffer → Member WriteMultipleRegisters Unit :=
  Response.decode toResponse (fun base self => { self with toResponse := base }) decodePassed

end Response.WriteMultipleRegisters

/-- `execute(data_table)` -/
def Request.WriteMultipleRegisters.execute (request : Request.WriteMultipleRegisters)
    (table : Table) : Except Exn Response.WriteMultipleRegisters := do
  throwIf (!BaseMetadata.validate request.count)
    (Exn.illegalDataValue request.function request.header)
  throwIf (!(← table.holdingRegisters.validateWrite request.address request.count))
    (Exn.illegalDataAddress request.function request.header)
  pure (Response.WriteMultipleRegisters.new request)

/-- `request::mask_write_register` -/
structure Request.MaskWriteRegister extends Adu where
  address : UInt16
  andMask : UInt16
  orMask : UInt16

namespace Request.MaskWriteRegister

def dataLength : UInt16 := 6

abbrev format : List Code := [.H, .H, .H]

/-- `mask_write_register(address, and_mask, or_mask)` -/
def new (address andMask orMask : UInt16) : MaskWriteRegister where
  toAdu := Adu.new .maskWriteRegister
  address := address
  andMask := andMask
  orMask := orMask

def responseSize (_ : MaskWriteRegister) : Nat :=
  (Adu.calcAduLength dataLength).toNat

def encode : Member MaskWriteRegister Packet := do
  let self ← get
  throwIf (!BaseMetadata.validate self.address) Exn.badData
  modify ({ · with length := Adu.calcLength dataLength })
  let packet := (← get).headerPacket
  let pdu := Struc.pack format (self.address, self.andMask, self.orMask, ())
  pure (packet ++ pdu)

def decode (packet : ByteBuffer) : Member MaskWriteRegister Unit :=
  Request.decoding toAdu do
    expectFunction packet (← get).function
    onPart toAdu (fun adu self => { self with toAdu := adu }) (Adu.decodeHeader packet)
    let (address, andMask, orMask, ()) ←
      Struc.unpack format packet.read (Adu.headerLength + 1)
    modify ({ · with address, andMask, orMask })

end Request.MaskWriteRegister

/-- `response::mask_write_register` -/
structure Response.MaskWriteRegister extends Response where
  request : Request.MaskWriteRegister
  address : UInt16 := 0
  andMask : UInt16 := 0
  orMask : UInt16 := 0

namespace Response.MaskWriteRegister

def dataLength : UInt16 := 6

abbrev format : List Code := [.H, .H, .H]

def new (request : Request.MaskWriteRegister) : MaskWriteRegister where
  toResponse := Response.forRequest request.function request.toAdu
  request := request

def encode : TableMethod MaskWriteRegister Packet :=
  Response.encoding (·.toAdu) do
    modify ({ · with length := Adu.calcLength dataLength })
    let self ← get
    let packet := self.headerPacket
    let pdu := Struc.pack format
      (self.request.address, self.request.andMask, self.request.orMask, ())
    let packet := packet ++ pdu
    throwIf (!Request.checkResponsePacket self.request.responseSize packet)
      (Exn.serverDeviceFailure self.function self.header)
    let currentValue ← call (.registers .holdingRegisters (.get self.request.address))
    let newValue := (currentValue &&& self.request.andMask) ||| self.request.orMask
    call (.registers .holdingRegisters (.set self.request.address newValue))
    modify fun self => { self with
      address := self.request.address
      andMask := self.request.andMask
      orMask := self.request.orMask }
    pure packet

def decodePassed (packet : ByteBuffer) : Member MaskWriteRegister Unit :=
  Response.decodingPassed do
    let request := (← get).request
    throwIf (packet.size ≠ request.responseSize) Exn.badData
    let addressIdx := Adu.headerLength + 1
    let (address, andMask, orMask, ()) ← Struc.unpack format packet.read addressIdx
    throwIf (request.address ≠ address) Exn.badData
    throwIf (request.andMask ≠ andMask) Exn.badData
    throwIf (request.orMask ≠ orMask) Exn.badData
    modify ({ · with
      address := request.address
      andMask := request.andMask
      orMask := request.orMask })

def decode : ByteBuffer → Member MaskWriteRegister Unit :=
  Response.decode toResponse (fun base self => { self with toResponse := base }) decodePassed

end Response.MaskWriteRegister

/-- `execute(data_table)` -/
def Request.MaskWriteRegister.execute (request : Request.MaskWriteRegister)
    (table : Table) : Except Exn Response.MaskWriteRegister := do
  throwIf (!BaseMetadata.validate request.andMask || !BaseMetadata.validate request.orMask)
    (Exn.illegalDataValue request.function request.header)
  throwIf (!(← table.holdingRegisters.validate request.address))
    (Exn.illegalDataAddress request.function request.header)
  pure (Response.MaskWriteRegister.new request)

/-- `request::read_write_multiple_registers` -/
structure Request.ReadWriteMultipleRegisters extends Adu where
  readAddress : UInt16
  readCount : UInt16
  writeAddress : UInt16
  writeCount : UInt16
  values : List UInt16

namespace Request.ReadWriteMultipleRegisters

abbrev format : List Code := [.H, .H, .H, .H, .B]

/-- `read_write_multiple_registers(read_address, read_count, write_address,
write_count, values)` -/
def new (readAddress readCount writeAddress writeCount : UInt16)
    (values : List UInt16) : ReadWriteMultipleRegisters where
  toAdu := Adu.new .readWriteMultipleRegisters
  readAddress := readAddress
  readCount := readCount
  writeAddress := writeAddress
  writeCount := writeCount
  values := values

/-- `byte_count()`, the low eight bits of twice the write quantity. -/
def byteCount (request : ReadWriteMultipleRegisters) : UInt8 :=
  registerBytes request.writeCount

def dataLength (request : ReadWriteMultipleRegisters) : UInt16 :=
  2 + 2 + 2 + 2 + 1 + request.byteCount.toUInt16

def responseSize (request : ReadWriteMultipleRegisters) : Nat :=
  (Adu.calcAduLength (1 + (registerBytes request.readCount).toUInt16)).toNat

def encode : Member ReadWriteMultipleRegisters Packet := do
  let self ← get
  throwIf (!BaseMetadata.validate self.readAddress || !BaseMetadata.validate self.readCount ||
    !BaseMetadata.validate self.writeAddress || !BaseMetadata.validate self.writeCount)
    Exn.badData
  modify ({ · with length := Adu.calcLength self.dataLength })
  let packet := (← get).headerPacket
  let pdu := Struc.pack format
    (self.readAddress, self.readCount, self.writeAddress, self.writeCount, self.byteCount, ())
  let packet := packet ++ pdu ++ packRegisters self.values
  throwIf (packet.length ≠ self.dataLength.toNat + Adu.headerLength + 1) Exn.badData
  pure packet

def decode (packet : ByteBuffer) : Member ReadWriteMultipleRegisters Unit :=
  Request.decoding toAdu do
    expectFunction packet (← get).function
    onPart toAdu (fun adu self => { self with toAdu := adu }) (Adu.decodeHeader packet)
    let valuesIdx := Adu.headerLength + 1 + 9
    let (readAddress, readCount, writeAddress, writeCount, byteCountRecv, ()) ←
      Struc.unpack format packet.read (Adu.headerLength + 1)
    modify ({ · with readAddress, readCount, writeAddress, writeCount })
    let self ← get
    throwIf (self.byteCount ≠ byteCountRecv) Exn.badData
    let buffer ← unpackRegisters packet valuesIdx self.byteCount.toNat
    modify ({ · with values := resize buffer self.writeCount.toNat 0 })

end Request.ReadWriteMultipleRegisters

/-- `response::read_write_multiple_registers` -/
structure Response.ReadWriteMultipleRegisters extends Response where
  request : Request.ReadWriteMultipleRegisters
  count : UInt8
  registers : List UInt16 := []

namespace Response.ReadWriteMultipleRegisters

abbrev format : List Code := [.B]

def new (request : Request.ReadWriteMultipleRegisters) : ReadWriteMultipleRegisters where
  toResponse := Response.forRequest request.function request.toAdu
  request := request
  count := registerBytes request.readCount

def encode : TableMethod ReadWriteMultipleRegisters Packet :=
  Response.encoding (·.toAdu) do
    let self ← get
    call (.registers .holdingRegisters
      (.setSlice self.request.writeAddress self.request.values))
    let slice ← call (.registers .holdingRegisters
      (.getSlice self.request.readAddress self.request.readCount))
    modify ({ · with
      registers := slice
      length := Adu.calcLength (1 + self.count.toUInt16) })
    let packet := (← get).headerPacket
    let pdu := Struc.pack format (self.count, ())
    let packet := packet ++ pdu ++ packRegisters slice
    throwIf (!Request.checkResponsePacket self.request.responseSize packet)
      (Exn.serverDeviceFailure self.function self.header)
    pure packet

def decodePassed (packet : ByteBuffer) : Member ReadWriteMultipleRegisters Unit :=
  Response.decodingPassed do
    let request := (← get).request
    throwIf (packet.size ≠ request.responseSize) Exn.badData
    let byteCountRecv := registerBytes request.readCount
    let byteIdx := Adu.headerLength + 1
    let byte ← packet.read byteIdx
    modify ({ · with count := byte })
    throwIf ((← get).count ≠ byteCountRecv) Exn.badData
    let buffer ← unpackRegisters packet (byteIdx + 1) (← get).count.toNat
    throwIf (buffer.length ≠ request.readCount.toNat) Exn.badData
    modify ({ · with registers := buffer })

def decode : ByteBuffer → Member ReadWriteMultipleRegisters Unit :=
  Response.decode toResponse (fun base self => { self with toResponse := base }) decodePassed

end Response.ReadWriteMultipleRegisters

/-- `execute(data_table)` -/
def Request.ReadWriteMultipleRegisters.execute
    (request : Request.ReadWriteMultipleRegisters) (table : Table) :
    Except Exn Response.ReadWriteMultipleRegisters := do
  throwIf (!BaseMetadata.validate request.readCount ||
    !BaseMetadata.validate request.writeCount)
    (Exn.illegalDataValue request.function request.header)
  let valid ←
    if !BaseMetadata.validate request.readAddress ||
        !BaseMetadata.validate request.writeAddress then pure false
    else if !(← table.holdingRegisters.validateRead request.readAddress request.readCount)
      then pure false
    else table.holdingRegisters.validateWrite request.writeAddress request.writeCount
  throwIf (!valid) (Exn.illegalDataAddress request.function request.header)
  pure (Response.ReadWriteMultipleRegisters.new request)

end ModbusCpp
