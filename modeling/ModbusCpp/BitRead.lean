import ModbusCpp.Operation
import ModbusCpp.Response

/-!
# Reading bits

`bit-read.hpp`, `bit-read.inline.hpp` and `bit-read.cpp`: the requests and the
responses of `read_coils` and `read_discrete_inputs`, which are one template
each, instantiated with the function code.
-/

namespace ModbusCpp

open Method StructFormat TableMethod

variable [Struc]

/-- `request::base_read_bits<function_code>` -/
structure Request.BaseReadBits (code : FunctionCode) extends Adu where
  address : UInt16
  count : UInt16

namespace Request.BaseReadBits

variable {code : FunctionCode}

def dataLength : UInt16 := 4

abbrev format : List Code := [.H, .H]

/-- `base_read_bits(address, count)`; a default object reads one bit at 0. -/
def new (address : UInt16) (count : UInt16) : BaseReadBits code where
  toAdu := Adu.new code
  address := address
  count := count

def byteCount (request : BaseReadBits code) : UInt16 :=
  let byteCount := request.count / 8
  let remainder := request.count % 8
  if remainder ≠ 0 then byteCount + 1 else byteCount

def responseSize (request : BaseReadBits code) : Nat :=
  (Adu.calcAduLength (1 + request.byteCount)).toNat

def encode : Member (BaseReadBits code) Packet := do
  let self ← get
  throwIf (!BaseMetadata.validate self.address || !BaseMetadata.validate self.count)
    Exn.badData
  modify ({ · with length := Adu.calcLength dataLength })
  let packet := (← get).headerPacket
  let pdu := Struc.pack format (self.address, self.count, ())
  pure (packet ++ pdu)

def decode (packet : ByteBuffer) : Member (BaseReadBits code) Unit :=
  Request.decoding toAdu do
    expectFunction packet code
    onPart toAdu (fun adu self => { self with toAdu := adu }) (Adu.decodeHeader packet)
    let (address, count, ()) ←
      Struc.unpack format packet.read (Adu.headerLength + 1)
    modify ({ · with address, count })

end Request.BaseReadBits

/-- `response::base_read_bits<function_code>` -/
structure Response.BaseReadBits (code : FunctionCode) extends Response where
  request : Request.BaseReadBits code
  count : UInt16 := 0
  bits : List Bool := []

namespace Response.BaseReadBits

variable {code : FunctionCode}

abbrev format : List Code := [.B]

def new (request : Request.BaseReadBits code) : BaseReadBits code where
  toResponse := Response.forRequest code request.toAdu
  request := request

/-- The two specialisations of `encode()`, on the block they read. -/
def encodeFrom (block : BitBlock) : TableMethod (BaseReadBits code) Packet :=
  Response.encoding (·.toAdu) do
    let self ← get
    let slice ← call (.bits block (.getSlice self.request.address self.request.count))
    modify ({ · with
      bits := slice
      length := Adu.calcLength (self.request.byteCount + 1) })
    let packet := (← get).headerPacket
    let pdu := Struc.pack format (self.request.byteCount.toUInt8, ())
    let packet := packet ++ pdu ++ packBits slice
    throwIf (!Request.checkResponsePacket self.request.responseSize packet)
      (Exn.serverDeviceFailure self.function self.header)
    pure packet

/-- The byte count is read as a plain `char`, which is signed, and widened to
16 bits. -/
def decodePassed (packet : ByteBuffer) : Member (BaseReadBits code) Unit :=
  Response.decodingPassed do
    let request := (← get).request
    throwIf (packet.size ≠ request.responseSize) Exn.badData
    let byteIdx := Adu.headerLength + 1
    let byte ← packet.read byteIdx
    modify ({ · with count := byte.toInt8.toInt16.toUInt16 })
    throwIf ((← get).count ≠ request.count) Exn.badData
    let bytes ← AddressMap.slice packet.read (byteIdx + 1) (packet.size - (byteIdx + 1))
    let buffer := unpackBits bytes
    throwIf (buffer.length ≠ request.count.toNat) Exn.badData
    modify ({ · with bits := buffer })

def decode : ByteBuffer → Member (BaseReadBits code) Unit :=
  Response.decode toResponse (fun base self => { self with toResponse := base }) decodePassed

end Response.BaseReadBits

namespace Request.BaseReadBits

/-- The two specialisations of `execute(data_table)`, on the block they read. -/
def executeOn {code : FunctionCode} (block : BitBlock) (request : BaseReadBits code)
    (table : Table) : Except Exn (Response.BaseReadBits code) := do
  throwIf (!BaseMetadata.validate request.count)
    (Exn.illegalDataValue request.function request.header)
  throwIf (!(← (table.bits block).validateRead request.address request.count))
    (Exn.illegalDataAddress request.function request.header)
  pure (Response.BaseReadBits.new request)

end Request.BaseReadBits

abbrev Request.ReadCoils := Request.BaseReadBits .readCoils

def Request.ReadCoils.execute (request : Request.ReadCoils) (table : Table) :
    Except Exn (Response.BaseReadBits .readCoils) :=
  request.executeOn .coils table

def Response.ReadCoils.encode : TableMethod (Response.BaseReadBits .readCoils) Packet :=
  Response.BaseReadBits.encodeFrom .coils

abbrev Request.ReadDiscreteInputs := Request.BaseReadBits .readDiscreteInputs

def Request.ReadDiscreteInputs.execute (request : Request.ReadDiscreteInputs)
    (table : Table) : Except Exn (Response.BaseReadBits .readDiscreteInputs) :=
  request.executeOn .discreteInputs table

def Response.ReadDiscreteInputs.encode :
    TableMethod (Response.BaseReadBits .readDiscreteInputs) Packet :=
  Response.BaseReadBits.encodeFrom .discreteInputs

end ModbusCpp
