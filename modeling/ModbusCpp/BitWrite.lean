import ModbusCpp.Operation
import ModbusCpp.Response

/-!
# Writing bits

`bit-write.hpp` and `bit-write.cpp`: the requests and the responses of
`write_single_coil` and `write_multiple_coils`.
-/

namespace ModbusCpp

open Method StructFormat TableMethod

variable [Struc]

/-- `request::write_single_coil` -/
structure Request.WriteSingleCoil extends Adu where
  address : UInt16
  value : Bits

namespace Request.WriteSingleCoil

def dataLength : UInt16 := 4

abbrev format : List Code := [.H, .H]

/-- `write_single_coil(address, value)` -/
def new (address : UInt16) (value : Bits) : WriteSingleCoil where
  toAdu := Adu.new .writeSingleCoil
  address := address
  value := value

def responseSize (_ : WriteSingleCoil) : Nat :=
  (Adu.calcAduLength dataLength).toNat

def encode : Member WriteSingleCoil Packet := do
  let self ← get
  throwIf (!BaseMetadata.validate self.address) Exn.badData
  modify ({ · with length := Adu.calcLength dataLength })
  let packet := (← get).headerPacket
  let pdu := Struc.pack format (self.address, self.value.toUnderlying, ())
  pure (packet ++ pdu)

def decode (packet : ByteBuffer) : Member WriteSingleCoil Unit :=
  Request.decoding toAdu do
    expectFunction packet (← get).function
    onPart toAdu (fun adu self => { self with toAdu := adu }) (Adu.decodeHeader packet)
    let (address, temp, ()) ← Struc.unpack format packet.read (Adu.headerLength + 1)
    modify ({ · with address })
    if checkBitsValue temp then modify ({ · with value := ⟨temp⟩ })
    else throw Exn.badData

end Request.WriteSingleCoil

/-- `response::write_single_coil` -/
structure Response.WriteSingleCoil extends Response where
  request : Request.WriteSingleCoil
  value : Bits := .off

namespace Response.WriteSingleCoil

def dataLength : UInt16 := 4

abbrev format : List Code := [.H, .H]

def new (request : Request.WriteSingleCoil) : WriteSingleCoil where
  toResponse := Response.forRequest request.function request.toAdu
  request := request

/-- The reply is packed from the value the coil had before. -/
def encode : TableMethod WriteSingleCoil Packet :=
  Response.encoding (·.toAdu) do
    let self ← get
    let value ← call (.bits .coils (.get self.request.address))
    modify ({ · with
      value := if value then Bits.on else Bits.off
      length := Adu.calcLength dataLength })
    let packet := (← get).headerPacket
    let pdu := Struc.pack format
      (self.request.address, (← get).value.toUnderlying, ())
    let packet := packet ++ pdu
    throwIf (!Request.checkResponsePacket self.request.responseSize packet)
      (Exn.serverDeviceFailure self.function self.header)
    call (.bits .coils (.set self.request.address (self.request.value == Bits.on)))
    pure packet

def decodePassed (packet : ByteBuffer) : Member WriteSingleCoil Unit :=
  Response.decodingPassed do
    let request := (← get).request
    throwIf (packet.size ≠ request.responseSize) Exn.badData
    let addressIdx := Adu.headerLength + 1
    let (address, value, ()) ← Struc.unpack format packet.read addressIdx
    throwIf (request.address ≠ address) Exn.badData
    throwIf (request.value.toUnderlying ≠ value ∧ checkBitsValue value) Exn.badData
    modify ({ · with value := ⟨value⟩ })

def decode : ByteBuffer → Member WriteSingleCoil Unit :=
  Response.decode toResponse (fun base self => { self with toResponse := base }) decodePassed

end Response.WriteSingleCoil

/-- `execute(data_table)` -/
def Request.WriteSingleCoil.execute (request : Request.WriteSingleCoil) (table : Table) :
    Except Exn Response.WriteSingleCoil := do
  throwIf (!checkBitsValue request.value.toUnderlying)
    (Exn.illegalDataValue request.function request.header)
  throwIf (!(← table.coils.validate request.address))
    (Exn.illegalDataAddress request.function request.header)
  pure (Response.WriteSingleCoil.new request)

/-- `request::write_multiple_coils`; `storedByteCount` is the member
`byte_count_`, beside the member function `byte_count()`. -/
structure Request.WriteMultipleCoils extends Adu where
  address : UInt16
  count : UInt16
  values : List Bool
  storedByteCount : UInt8

namespace Request.WriteMultipleCoils

abbrev format : List Code := [.H, .H, .B]

/-- `byte_count()` of a quantity: both the quotient and the remainder are taken
of its low eight bits. -/
def byteCountOf (count : UInt16) : UInt8 :=
  let byteCount := count.toUInt8 / 8
  let remainder := count.toUInt8 % 8
  if remainder ≠ 0 then byteCount + 1 else byteCount

/-- `write_multiple_coils(address, count, values)` -/
def new (address count : UInt16) (values : List Bool) : WriteMultipleCoils where
  toAdu := Adu.new .writeMultipleCoils
  address := address
  count := count
  values := values
  storedByteCount := byteCountOf count

def byteCount (request : WriteMultipleCoils) : UInt8 :=
  byteCountOf request.count

def dataLength (request : WriteMultipleCoils) : UInt16 :=
  4 + 1 + request.storedByteCount.toUInt16

def responseSize (_ : WriteMultipleCoils) : Nat :=
  (Adu.calcAduLength 4).toNat

def encode : Member WriteMultipleCoils Packet := do
  let self ← get
  throwIf (!BaseMetadata.validate self.address || !BaseMetadata.validate self.count)
    Exn.badData
  modify ({ · with length := Adu.calcLength self.dataLength })
  let packet := (← get).headerPacket
  let pdu := Struc.pack format (self.address, self.count, self.byteCount, ())
  let packet := packet ++ pdu ++ packBits self.values
  throwIf (packet.length ≠ self.dataLength.toNat + Adu.headerLength + 1) Exn.badData
  pure packet

def decode (packet : ByteBuffer) : Member WriteMultipleCoils Unit :=
  Request.decoding toAdu do
    expectFunction packet (← get).function
    onPart toAdu (fun adu self => { self with toAdu := adu }) (Adu.decodeHeader packet)
    let valuesIdx := Adu.headerLength + 1 + 5
    let (address, count, byteCountRecv, ()) ←
      Struc.unpack format packet.read (Adu.headerLength + 1)
    modify ({ · with address, count, storedByteCount := byteCountRecv })
    let bytes ← AddressMap.slice packet.read valuesIdx (packet.size - valuesIdx)
    modify fun self => { self with values := resize (unpackBits bytes) self.count.toNat false }

end Request.WriteMultipleCoils

/-- `response::write_multiple_coils`; the default count of an object is 1. -/
structure Response.WriteMultipleCoils extends Response where
  request : Request.WriteMultipleCoils
  address : UInt16 := 0
  count : UInt16 := 1

namespace Response.WriteMultipleCoils

def dataLength : UInt16 := 4

abbrev format : List Code := [.H, .H]

def new (request : Request.WriteMultipleCoils) : WriteMultipleCoils where
  toResponse := Response.forRequest request.function request.toAdu
  request := request

def encode : TableMethod WriteMultipleCoils Packet :=
  Response.encoding (·.toAdu) do
    modify ({ · with length := Adu.calcLength dataLength })
    let self ← get
    let packet := self.headerPacket
    let pdu := Struc.pack format (self.request.address, self.request.count, ())
    let packet := packet ++ pdu
    call (.bits .coils (.setSlice self.request.address self.request.values))
    pure packet

def decodePassed (packet : ByteBuffer) : Member WriteMultipleCoils Unit :=
  Response.decodingPassed do
    let request := (← get).request
    throwIf (packet.size ≠ request.responseSize) Exn.badData
    let addressIdx := Adu.headerLength + 1
    let (address, count, ()) ← Struc.unpack format packet.read addressIdx
    modify ({ · with address, count })
    throwIf (request.address ≠ (← get).address) Exn.badData
    throwIf (request.count ≠ (← get).count) Exn.badData

def decode : ByteBuffer → Member WriteMultipleCoils Unit :=
  Response.decode toResponse (fun base self => { self with toResponse := base }) decodePassed

end Response.WriteMultipleCoils

/-- `execute(data_table)` -/
def Request.WriteMultipleCoils.execute (request : Request.WriteMultipleCoils)
    (table : Table) : Except Exn Response.WriteMultipleCoils := do
  throwIf (!BaseMetadata.validate request.count)
    (Exn.illegalDataValue request.function request.header)
  throwIf (!(← table.coils.validateWrite request.address request.count))
    (Exn.illegalDataAddress request.function request.header)
  pure (Response.WriteMultipleCoils.new request)

end ModbusCpp
