import ModbusCpp.Response

/-!
# Reading registers

`register-read.hpp`, `register-read.inline.hpp` and `register-read.cpp`: the
requests and the responses of `read_holding_registers` and
`read_input_registers`, which are one template each, instantiated with the
function code.
-/

namespace ModbusCpp

open Method StructFormat TableMethod

variable [Struc]

/-- The loop of every encoder that packs registers one by one. -/
def packRegisters : List UInt16 → Packet
  | [] => []
  | register :: registers => Struc.pack [.H] (register, ()) ++ packRegisters registers

/-- The loop of every decoder that unpacks registers one by one: `idx` runs in
steps of two while it is below the byte count.  `offset` is the position of
the next register and `remaining` what the byte count exceeds `idx` by. -/
def unpackRegisters (packet : ByteBuffer) : (offset remaining : Nat) → Option (List UInt16)
  | _, 0 => some []
  | offset, 1 => do
      let (value, ()) ← Struc.unpack [.H] packet.read offset
      pure [value]
  | offset, remaining + 2 => do
      let (value, ()) ← Struc.unpack [.H] packet.read offset
      let buffer ← unpackRegisters packet (offset + 2) remaining
      pure (value :: buffer)

/-- The encoders pack registers as words. -/
theorem packRegisters_eq (registers : List UInt16) :
    packRegisters registers = wordBytes registers := by
  induction registers with
  | nil => rfl
  | cons register registers ih => simp [packRegisters, encode, ih]

/-- The decoders unpack as many words as the byte count covers. -/
theorem unpackRegisters_eq (packet : ByteBuffer) (offset count : Nat) :
    unpackRegisters packet offset (2 * count) = decodeWords packet.read offset count := by
  induction count generalizing offset with
  | zero => rfl
  | succ count ih =>
      rw [Nat.mul_succ, unpackRegisters, decodeWords, ih]
      cases word : Code.decode packet.read offset .H <;> simp [decode, word]

/-- `request::base_read_registers<function_code>` -/
structure Request.BaseReadRegisters (code : FunctionCode) extends Adu where
  address : UInt16
  count : UInt16

namespace Request.BaseReadRegisters

variable {code : FunctionCode}

def dataLength : UInt16 := 4

abbrev format : List Code := [.H, .H]

/-- `base_read_registers(address, count)` -/
def new (address : UInt16) (count : UInt16) : BaseReadRegisters code where
  toAdu := Adu.new code
  address := address
  count := count

def byteCount (request : BaseReadRegisters code) : UInt16 :=
  request.count * 2

def responseSize (request : BaseReadRegisters code) : Nat :=
  (Adu.calcAduLength (1 + request.byteCount)).toNat

def encode : Member (BaseReadRegisters code) Packet := do
  let self ← get
  throwIf (!BaseMetadata.validate self.address || !BaseMetadata.validate self.count)
    Exn.badData
  modify ({ · with length := Adu.calcLength dataLength })
  let packet := (← get).headerPacket
  let pdu := Struc.pack format (self.address, self.count, ())
  pure (packet ++ pdu)

def decode (packet : ByteBuffer) : Member (BaseReadRegisters code) Unit :=
  Request.decoding toAdu do
    expectFunction packet code
    onPart toAdu (fun adu self => { self with toAdu := adu }) (Adu.decodeHeader packet)
    let (address, count, ()) ←
      Struc.unpack format packet.read (Adu.headerLength + 1)
    modify ({ · with address, count })

end Request.BaseReadRegisters

/-- `response::base_read_registers<function_code>` -/
structure Response.BaseReadRegisters (code : FunctionCode) extends Response where
  request : Request.BaseReadRegisters code
  count : UInt16 := 0
  registers : List UInt16 := []

namespace Response.BaseReadRegisters

variable {code : FunctionCode}

abbrev format : List Code := [.B]

def new (request : Request.BaseReadRegisters code) : BaseReadRegisters code where
  toResponse := Response.forRequest code request.toAdu
  request := request

/-- The two specialisations of `encode()`, on the block they read. -/
def encodeFrom (block : RegisterBlock) : TableMethod (BaseReadRegisters code) Packet :=
  Response.encoding (·.toAdu) do
    let self ← get
    let slice ← call (.registers block (.getSlice self.request.address self.request.count))
    modify ({ · with
      registers := slice
      length := Adu.calcLength (self.request.byteCount + 1) })
    let packet := (← get).headerPacket
    let pdu := Struc.pack format (self.request.byteCount.toUInt8, ())
    let packet := packet ++ pdu ++ packRegisters slice
    throwIf (!Request.checkResponsePacket self.request.responseSize packet)
      (Exn.serverDeviceFailure self.function self.header)
    pure packet

/-- The byte count is read as a plain `char`, which is signed, and widened to
16 bits. -/
def decodePassed (packet : ByteBuffer) : Member (BaseReadRegisters code) Unit :=
  Response.decodingPassed do
    let request := (← get).request
    throwIf (packet.size ≠ request.responseSize) Exn.badData
    let byteIdx := Adu.headerLength + 1
    let byte ← packet.read byteIdx
    modify ({ · with count := byte.toInt8.toInt16.toUInt16 })
    throwIf ((← get).count ≠ request.byteCount) Exn.badData
    let buffer ← unpackRegisters packet (byteIdx + 1) request.byteCount.toNat
    throwIf (buffer.length ≠ request.count.toNat) Exn.badData
    modify ({ · with registers := buffer })

def decode : ByteBuffer → Member (BaseReadRegisters code) Unit :=
  Response.decode toResponse (fun base self => { self with toResponse := base }) decodePassed

end Response.BaseReadRegisters

namespace Request.BaseReadRegisters

/-- The two specialisations of `execute(data_table)`, on the block they read. -/
def executeOn {code : FunctionCode} (block : RegisterBlock)
    (request : BaseReadRegisters code) (table : Table) :
    Except Exn (Response.BaseReadRegisters code) := do
  throwIf (!BaseMetadata.validate request.count)
    (Exn.illegalDataValue request.function request.header)
  throwIf (!(← (table.registers block).validateRead request.address request.count))
    (Exn.illegalDataAddress request.function request.header)
  pure (Response.BaseReadRegisters.new request)

end Request.BaseReadRegisters

abbrev Request.ReadHoldingRegisters := Request.BaseReadRegisters .readHoldingRegisters

def Request.ReadHoldingRegisters.execute (request : Request.ReadHoldingRegisters)
    (table : Table) : Except Exn (Response.BaseReadRegisters .readHoldingRegisters) :=
  request.executeOn .holdingRegisters table

def Response.ReadHoldingRegisters.encode :
    TableMethod (Response.BaseReadRegisters .readHoldingRegisters) Packet :=
  Response.BaseReadRegisters.encodeFrom .holdingRegisters

abbrev Request.ReadInputRegisters := Request.BaseReadRegisters .readInputRegisters

def Request.ReadInputRegisters.execute (request : Request.ReadInputRegisters)
    (table : Table) : Except Exn (Response.BaseReadRegisters .readInputRegisters) :=
  request.executeOn .inputRegisters table

def Response.ReadInputRegisters.encode :
    TableMethod (Response.BaseReadRegisters .readInputRegisters) Packet :=
  Response.BaseReadRegisters.encodeFrom .inputRegisters

end ModbusCpp
