import ModbusCpp.BitRead
import ModbusCpp.BitWrite
import ModbusCpp.Frame
import ModbusCpp.RegisterWrite

/-!
# Requests of a client

A client holds a request object of one of ten classes and makes a response
object for it, which decodes what comes back.  The constructors give a request
the function of its class, and nothing that a client calls changes it.
-/

namespace ModbusCpp

open Method StructFormat

/-- An object of one of the ten request classes. -/
inductive RequestObject
  | readCoils (request : Request.ReadCoils)
  | readDiscreteInputs (request : Request.ReadDiscreteInputs)
  | readHoldingRegisters (request : Request.ReadHoldingRegisters)
  | readInputRegisters (request : Request.ReadInputRegisters)
  | writeSingleCoil (request : Request.WriteSingleCoil)
  | writeSingleRegister (request : Request.WriteSingleRegister)
  | writeMultipleCoils (request : Request.WriteMultipleCoils)
  | writeMultipleRegisters (request : Request.WriteMultipleRegisters)
  | maskWriteRegister (request : Request.MaskWriteRegister)
  | readWriteMultipleRegisters (request : Request.ReadWriteMultipleRegisters)

namespace RequestObject

/-- The function of the class. -/
def classFunction : RequestObject → FunctionCode
  | readCoils _ => .readCoils
  | readDiscreteInputs _ => .readDiscreteInputs
  | readHoldingRegisters _ => .readHoldingRegisters
  | readInputRegisters _ => .readInputRegisters
  | writeSingleCoil _ => .writeSingleCoil
  | writeSingleRegister _ => .writeSingleRegister
  | writeMultipleCoils _ => .writeMultipleCoils
  | writeMultipleRegisters _ => .writeMultipleRegisters
  | maskWriteRegister _ => .maskWriteRegister
  | readWriteMultipleRegisters _ => .readWriteMultipleRegisters

/-- The base part of the object. -/
def adu : RequestObject → Adu
  | readCoils request => request.toAdu
  | readDiscreteInputs request => request.toAdu
  | readHoldingRegisters request => request.toAdu
  | readInputRegisters request => request.toAdu
  | writeSingleCoil request => request.toAdu
  | writeSingleRegister request => request.toAdu
  | writeMultipleCoils request => request.toAdu
  | writeMultipleRegisters request => request.toAdu
  | maskWriteRegister request => request.toAdu
  | readWriteMultipleRegisters request => request.toAdu

theorem classFunction_supported (request : RequestObject) :
    request.classFunction ∈ FunctionCode.supported := by
  cases request <;> simp [classFunction, FunctionCode.supported]

end RequestObject

/-- A request object with the function of its class. -/
abbrev ClientRequest : Type :=
  {request : RequestObject // request.adu.function = request.classFunction}

namespace ClientRequest

def function (request : ClientRequest) : FunctionCode :=
  request.val.classFunction

def adu (request : ClientRequest) : Adu :=
  request.val.adu

theorem function_supported (request : ClientRequest) :
    request.function ∈ FunctionCode.supported :=
  request.val.classFunction_supported

/-- The base part of a response object newly constructed for the request. -/
def response : ClientRequest → Response
  | ⟨.readCoils request, _⟩ => (Response.BaseReadBits.new request).toResponse
  | ⟨.readDiscreteInputs request, _⟩ => (Response.BaseReadBits.new request).toResponse
  | ⟨.readHoldingRegisters request, _⟩ => (Response.BaseReadRegisters.new request).toResponse
  | ⟨.readInputRegisters request, _⟩ => (Response.BaseReadRegisters.new request).toResponse
  | ⟨.writeSingleCoil request, _⟩ => (Response.WriteSingleCoil.new request).toResponse
  | ⟨.writeSingleRegister request, _⟩ => (Response.WriteSingleRegister.new request).toResponse
  | ⟨.writeMultipleCoils request, _⟩ => (Response.WriteMultipleCoils.new request).toResponse
  | ⟨.writeMultipleRegisters request, _⟩ =>
      (Response.WriteMultipleRegisters.new request).toResponse
  | ⟨.maskWriteRegister request, _⟩ => (Response.MaskWriteRegister.new request).toResponse
  | ⟨.readWriteMultipleRegisters request, _⟩ =>
      (Response.ReadWriteMultipleRegisters.new request).toResponse

theorem response_eq (request : ClientRequest) :
    request.response = Response.forRequest request.function request.adu := by
  rcases request with ⟨object, own⟩
  cases object with
  | readCoils | readDiscreteInputs | readHoldingRegisters | readInputRegisters => rfl
  | writeSingleCoil | writeSingleRegister | writeMultipleCoils | writeMultipleRegisters
  | maskWriteRegister | readWriteMultipleRegisters =>
      exact congrArg (Response.forRequest · _) own

variable [Struc]

/-- What `decode` does on a response object newly constructed for the request. -/
def decodeReply (packet : ByteBuffer) : ClientRequest → Option (Except Exn Unit)
  | ⟨.readCoils request, _⟩ =>
      ((Response.BaseReadBits.decode packet).run (.new request)).map Prod.fst
  | ⟨.readDiscreteInputs request, _⟩ =>
      ((Response.BaseReadBits.decode packet).run (.new request)).map Prod.fst
  | ⟨.readHoldingRegisters request, _⟩ =>
      ((Response.BaseReadRegisters.decode packet).run (.new request)).map Prod.fst
  | ⟨.readInputRegisters request, _⟩ =>
      ((Response.BaseReadRegisters.decode packet).run (.new request)).map Prod.fst
  | ⟨.writeSingleCoil request, _⟩ =>
      ((Response.WriteSingleCoil.decode packet).run (.new request)).map Prod.fst
  | ⟨.writeSingleRegister request, _⟩ =>
      ((Response.WriteSingleRegister.decode packet).run (.new request)).map Prod.fst
  | ⟨.writeMultipleCoils request, _⟩ =>
      ((Response.WriteMultipleCoils.decode packet).run (.new request)).map Prod.fst
  | ⟨.writeMultipleRegisters request, _⟩ =>
      ((Response.WriteMultipleRegisters.decode packet).run (.new request)).map Prod.fst
  | ⟨.maskWriteRegister request, _⟩ =>
      ((Response.MaskWriteRegister.decode packet).run (.new request)).map Prod.fst
  | ⟨.readWriteMultipleRegisters request, _⟩ =>
      ((Response.ReadWriteMultipleRegisters.decode packet).run (.new request)).map Prod.fst

end ClientRequest

end ModbusCpp
