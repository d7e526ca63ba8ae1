import ModbusCpp.ClientRequest

/-!
# Virtual members

The members that `internal::request` and `internal::response` declare virtual,
called on objects of any of the ten classes.
-/

namespace ModbusCpp

open Method TableMethod

variable [Struc]

/-- An object of one of the ten response classes. -/
inductive ResponseObject
  | readCoils (response : Response.BaseReadBits .readCoils)
  | readDiscreteInputs (response : Response.BaseReadBits .readDiscreteInputs)
  | readHoldingRegisters (response : Response.BaseReadRegisters .readHoldingRegisters)
  | readInputRegisters (response : Response.BaseReadRegisters .readInputRegisters)
  | writeSingleCoil (response : Response.WriteSingleCoil)
  | writeSingleRegister (response : Response.WriteSingleRegister)
  | writeMultipleCoils (response : Response.WriteMultipleCoils)
  | writeMultipleRegisters (response : Response.WriteMultipleRegisters)
  | maskWriteRegister (response : Response.MaskWriteRegister)
  | readWriteMultipleRegisters (response : Response.ReadWriteMultipleRegisters)

/-- Call the member function of a class on an object of the class. -/
def override {ε α σ τ : Type} {m : Type → Type} [Monad m] (wrap : τ → σ)
    (method : Method ε m τ α) (object : τ) : m (Except ε α × σ) := do
  let outcome ← method.run object
  pure (outcome.1, wrap outcome.2)

namespace RequestObject

def encode : Member RequestObject Packet
  | readCoils request => override readCoils Request.BaseReadBits.encode request
  | readDiscreteInputs request =>
      override readDiscreteInputs Request.BaseReadBits.encode request
  | readHoldingRegisters request =>
      override readHoldingRegisters Request.BaseReadRegisters.encode request
  | readInputRegisters request =>
      override readInputRegisters Request.BaseReadRegisters.encode request
  | writeSingleCoil request => override writeSingleCoil Request.WriteSingleCoil.encode request
  | writeSingleRegister request =>
      override writeSingleRegister Request.WriteSingleRegister.encode request
  | writeMultipleCoils request =>
      override writeMultipleCoils Request.WriteMultipleCoils.encode request
  | writeMultipleRegisters request =>
      override writeMultipleRegisters Request.WriteMultipleRegisters.encode request
  | maskWriteRegister request =>
      override maskWriteRegister Request.MaskWriteRegister.encode request
  | readWriteMultipleRegisters request =>
      override readWriteMultipleRegisters Request.ReadWriteMultipleRegisters.encode request

def decode (packet : ByteBuffer) : Member RequestObject Unit
  | readCoils request => override readCoils (Request.BaseReadBits.decode packet) request
  | readDiscreteInputs request =>
      override readDiscreteInputs (Request.BaseReadBits.decode packet) request
  | readHoldingRegisters request =>
      override readHoldingRegisters (Request.BaseReadRegisters.decode packet) request
  | readInputRegisters request =>
      override readInputRegisters (Request.BaseReadRegisters.decode packet) request
  | writeSingleCoil request =>
      override writeSingleCoil (Request.WriteSingleCoil.decode packet) request
  | writeSingleRegister request =>
      override writeSingleRegister (Request.WriteSingleRegister.decode packet) request
  | writeMultipleCoils request =>
      override writeMultipleCoils (Request.WriteMultipleCoils.decode packet) request
  | writeMultipleRegisters request =>
      override writeMultipleRegisters (Request.WriteMultipleRegisters.decode packet) request
  | maskWriteRegister request =>
      override maskWriteRegister (Request.MaskWriteRegister.decode packet) request
  | readWriteMultipleRegisters request =>
      override readWriteMultipleRegisters (Request.ReadWriteMultipleRegisters.decode packet)
        request

/-- `execute(data_table)` -/
def execute (table : Table) : RequestObject → Except Exn ResponseObject
  | readCoils request => (Request.ReadCoils.execute request table).map .readCoils
  | readDiscreteInputs request =>
      (Request.ReadDiscreteInputs.execute request table).map .readDiscreteInputs
  | readHoldingRegisters request =>
      (Request.ReadHoldingRegisters.execute request table).map .readHoldingRegisters
  | readInputRegisters request =>
      (Request.ReadInputRegisters.execute request table).map .readInputRegisters
  | writeSingleCoil request => (request.execute table).map .writeSingleCoil
  | writeSingleRegister request => (request.execute table).map .writeSingleRegister
  | writeMultipleCoils request => (request.execute table).map .writeMultipleCoils
  | writeMultipleRegisters request => (request.execute table).map .writeMultipleRegisters
  | maskWriteRegister request => (request.execute table).map .maskWriteRegister
  | readWriteMultipleRegisters request =>
      (request.execute table).map .readWriteMultipleRegisters

def responseSize : RequestObject → Nat
  | readCoils request => request.responseSize
  | readDiscreteInputs request => request.responseSize
  | readHoldingRegisters request => request.responseSize
  | readInputRegisters request => request.responseSize
  | writeSingleCoil request => request.responseSize
  | writeSingleRegister request => request.responseSize
  | writeMultipleCoils request => request.responseSize
  | writeMultipleRegisters request => request.responseSize
  | maskWriteRegister request => request.responseSize
  | readWriteMultipleRegisters request => request.responseSize

/-- A response object newly constructed for the request. -/
def newResponse : RequestObject → ResponseObject
  | readCoils request => .readCoils (.new request)
  | readDiscreteInputs request => .readDiscreteInputs (.new request)
  | readHoldingRegisters request => .readHoldingRegisters (.new request)
  | readInputRegisters request => .readInputRegisters (.new request)
  | writeSingleCoil request => .writeSingleCoil (.new request)
  | writeSingleRegister request => .writeSingleRegister (.new request)
  | writeMultipleCoils request => .writeMultipleCoils (.new request)
  | writeMultipleRegisters request => .writeMultipleRegisters (.new request)
  | maskWriteRegister request => .maskWriteRegister (.new request)
  | readWriteMultipleRegisters request => .readWriteMultipleRegisters (.new request)

end RequestObject

namespace ResponseObject

/-- The request object that the response object points to. -/
def request : ResponseObject → RequestObject
  | readCoils response => .readCoils response.request
  | readDiscreteInputs response => .readDiscreteInputs response.request
  | readHoldingRegisters response => .readHoldingRegisters response.request
  | readInputRegisters response => .readInputRegisters response.request
  | writeSingleCoil response => .writeSingleCoil response.request
  | writeSingleRegister response => .writeSingleRegister response.request
  | writeMultipleCoils response => .writeMultipleCoils response.request
  | writeMultipleRegisters response => .writeMultipleRegisters response.request
  | maskWriteRegister response => .maskWriteRegister response.request
  | readWriteMultipleRegisters response => .readWriteMultipleRegisters response.request

def encode : TableMethod ResponseObject Packet
  | readCoils response => override readCoils Response.ReadCoils.encode response
  | readDiscreteInputs response =>
      override readDiscreteInputs Response.ReadDiscreteInputs.encode response
  | readHoldingRegisters response =>
      override readHoldingRegisters Response.ReadHoldingRegisters.encode response
  | readInputRegisters response =>
      override readInputRegisters Response.ReadInputRegisters.encode response
  | writeSingleCoil response =>
      override writeSingleCoil Response.WriteSingleCoil.encode response
  | writeSingleRegister response =>
      override writeSingleRegister Response.WriteSingleRegister.encode response
  | writeMultipleCoils response =>
      override writeMultipleCoils Response.WriteMultipleCoils.encode response
  | writeMultipleRegisters response =>
      override writeMultipleRegisters Response.WriteMultipleRegisters.encode response
  | maskWriteRegister response =>
      override maskWriteRegister Response.MaskWriteRegister.encode response
  | readWriteMultipleRegisters response =>
      override readWriteMultipleRegisters Response.ReadWriteMultipleRegisters.encode response

def decodePassed (packet : ByteBuffer) : Member ResponseObject Unit
  | readCoils response =>
      override readCoils (Response.BaseReadBits.decodePassed packet) response
  | readDiscreteInputs response =>
      override readDiscreteInputs (Response.BaseReadBits.decodePassed packet) response
  | readHoldingRegisters response =>
      override readHoldingRegisters (Response.BaseReadRegisters.decodePassed packet) response
  | readInputRegisters response =>
      override readInputRegisters (Response.BaseReadRegisters.decodePassed packet) response
  | writeSingleCoil response =>
      override writeSingleCoil (Response.WriteSingleCoil.decodePassed packet) response
  | writeSingleRegister response =>
      override writeSingleRegister (Response.WriteSingleRegister.decodePassed packet) response
  | writeMultipleCoils response =>
      override writeMultipleCoils (Response.WriteMultipleCoils.decodePassed packet) response
  | writeMultipleRegisters response =>
      override writeMultipleRegisters (Response.WriteMultipleRegisters.decodePassed packet)
        response
  | maskWriteRegister response =>
      override maskWriteRegister (Response.MaskWriteRegister.decodePassed packet) response
  | readWriteMultipleRegisters response =>
      override readWriteMultipleRegisters
        (Response.ReadWriteMultipleRegisters.decodePassed packet) response

def decode (packet : ByteBuffer) : Member ResponseObject Unit
  | readCoils response => override readCoils (Response.BaseReadBits.decode packet) response
  | readDiscreteInputs response =>
      override readDiscreteInputs (Response.BaseReadBits.decode packet) response
  | readHoldingRegisters response =>
      override readHoldingRegisters (Response.BaseReadRegisters.decode packet) response
  | readInputRegisters response =>
      override readInputRegisters (Response.BaseReadRegisters.decode packet) response
  | writeSingleCoil response =>
      override writeSingleCoil (Response.WriteSingleCoil.decode packet) response
  | writeSingleRegister response =>
      override writeSingleRegister (Response.WriteSingleRegister.decode packet) response
  | writeMultipleCoils response =>
      override writeMultipleCoils (Response.WriteMultipleCoils.decode packet) response
  | writeMultipleRegisters response =>
      override writeMultipleRegisters (Response.WriteMultipleRegisters.decode packet) response
  | maskWriteRegister response =>
      override maskWriteRegister (Response.MaskWriteRegister.decode packet) response
  | readWriteMultipleRegisters response =>
      override readWriteMultipleRegisters (Response.ReadWriteMultipleRegisters.decode packet)
        response

end ResponseObject

end ModbusCpp
