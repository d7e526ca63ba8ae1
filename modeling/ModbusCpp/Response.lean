import ModbusCpp.Request

/-!
# Responses

`response.hpp` and `response.cpp`: the base class of the ten response classes,
with the classification of a received packet, and the exception response.
-/

namespace ModbusCpp

open Method

variable [Struc] {σ : Type}

/-- `internal::response`; the pointer to the table is the table its member
functions run on. -/
structure Response extends Adu where
  reqHeader : Header

inductive Stage
  | bad
  | error
  | passed
  deriving DecidableEq

namespace Response

/-- `response(function, req_header)` -/
def new (function : FunctionCode) (reqHeader : Header) : Response where
  toAdu := Adu.new function
  reqHeader := reqHeader

/-- The constructor of a response class for one of its requests. -/
def forRequest (function : FunctionCode) (request : Adu) : Response where
  toAdu := (Adu.new function).initializeWith ⟨request.transaction, request.unit⟩
  reqHeader := request.header

def initialCheck (packet : ByteBuffer) : Bool :=
  packet.size > Adu.headerLength

/-- `check_stage(packet)` -/
def checkStage (packet : ByteBuffer) : Member Response Stage := do
  if !initialCheck packet then pure .bad
  else do
    let (transaction, protocol, length, unit, _, ()) ←
      Struc.unpack Adu.headerFuncFormat packet.read 0
    let self ← get
    if self.reqHeader.transaction ≠ transaction ∨ Adu.protocol ≠ protocol ∨
        self.reqHeader.unit ≠ unit ∨
        length.toNat ≠ packet.size - (Adu.headerLength - 1) then pure .bad
    else do
      onPart Response.toAdu (fun adu self => { self with toAdu := adu })
        (Adu.decodeHeader packet)
      let self ← get
      if !checkFunction self.function then pure .bad
      else if self.function.toUnderlying ≠ self.functionCode ∧
          !checkFunctionByte self.functionCode then
        if self.function.toUnderlying = self.functionCode - 0x80 then pure .error
        else pure .bad
      else pure .passed

/-- `decode(packet)`, for the class whose base part and virtual `decode_passed`
are given. -/
def decode (base : σ → Response) (replace : Response → σ → σ)
    (decodePassed : ByteBuffer → Member σ Unit) (packet : ByteBuffer) : Member σ Unit :=
  tryCatch (do
      match ← onPart base replace (checkStage packet) with
      | .bad => throw Exn.badData
      | .error =>
          let code ← packetAt packet (Adu.headerLength + 1)
          let self := base (← get)
          throw (generateException ⟨code⟩ self.function self.header)
      | .passed => decodePassed packet)
    fun failure =>
      match failure with
      | .outOfRange => throw Exn.badData
      | _ => throw failure

/-- The try block around the body of every `decode_passed`. -/
def decodingPassed (body : Member σ Unit) : Member σ Unit :=
  tryCatch body fun _ => throw Exn.badData

/-- The try block around the body of every `encode`. -/
def encoding (toAdu : σ → Adu) (body : TableMethod σ Packet) : TableMethod σ Packet :=
  tryCatch body fun failure => do
    let self := toAdu (← get)
    match failure with
    | .outOfRange => throw (Exn.illegalDataAddress self.function self.header)
    | _ => throw (Exn.serverDeviceFailure self.function self.header)

end Response

/-- `response::error` -/
structure Response.Error extends Response where
  ec : ExceptionCode

namespace Response.Error

/-- `error(exc)` for a specification error. -/
def new (code : ExceptionCode) (function : FunctionCode) (header : Header) : Error where
  toResponse :=
    { Response.new function header with
      toAdu := (Adu.new function).initializeWith ⟨header.transaction, header.unit⟩ }
  ec := code

/-- `encode()`.  The functions that reach it are below `0x80`, so the `int` sum
that it packs is a byte. -/
def encode : Member Error Packet := do
  modify ({ · with length := Adu.calcLength 1 })
  let self ← get
  let packet := self.headerPacket.dropLast
  let pdu := Struc.pack [.B, .B]
    (self.function.toUnderlying + 0x80, self.ec.toUnderlying, ())
  let packet := packet ++ pdu
  throwIf (packet.length ≠ (Adu.calcAduLength 1).toNat) Exn.badData
  pure packet

end Response.Error

end ModbusCpp
