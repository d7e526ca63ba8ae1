import ModbusCpp.BitRead
import ModbusCpp.BitWrite
import ModbusCpp.RegisterWrite

/-!
# The request handler

`request-handler.cpp`: the dispatch on the function byte, the processing that
all ten cases of the switch spell out, and the handlers of the try block.  The
logger has no effect on the result.
-/

namespace ModbusCpp.RequestHandler

open Method

variable [Struc]

/-- One case of the switch: decode a default request, execute it and encode
the response it gave. -/
def serve {ρ θ : Type} (request : ρ) (decode : ByteBuffer → Member ρ Unit)
    (execute : ρ → Table → Except Exn θ) (encode : TableMethod θ Packet)
    (packet : ByteBuffer) : Member Table Packet := do
  let ((), req) ← onLocal (decode packet) request
  let res ← fromExcept (execute req (← get))
  fun table =>
    let ((reply, _), stored) := encode.eval res table
    some (reply, stored)

/-- The switch of `handle` on the function byte: the default request of each
case, and the members of it and of its response that the case calls. -/
def switch {α : Type} (function : FunctionCode)
    (case : {ρ θ : Type} → ρ → (ByteBuffer → Member ρ Unit) → (ρ → Table → Except Exn θ) →
      TableMethod θ Packet → α) (default : α) : α :=
  match function with
  | .readCoils =>
      case (Request.BaseReadBits.new 0 1) Request.BaseReadBits.decode
        Request.ReadCoils.execute Response.ReadCoils.encode
  | .readDiscreteInputs =>
      case (Request.BaseReadBits.new 0 1) Request.BaseReadBits.decode
        Request.ReadDiscreteInputs.execute Response.ReadDiscreteInputs.encode
  | .readHoldingRegisters =>
      case (Request.BaseReadRegisters.new 0 1) Request.BaseReadRegisters.decode
        Request.ReadHoldingRegisters.execute Response.ReadHoldingRegisters.encode
  | .readInputRegisters =>
      case (Request.BaseReadRegisters.new 0 1) Request.BaseReadRegisters.decode
        Request.ReadInputRegisters.execute Response.ReadInputRegisters.encode
  | .writeSingleCoil =>
      case (Request.WriteSingleCoil.new 0 Bits.on) Request.WriteSingleCoil.decode
        Request.WriteSingleCoil.execute Response.WriteSingleCoil.encode
  | .writeSingleRegister =>
      case (Request.WriteSingleRegister.new 0 0) Request.WriteSingleRegister.decode
        Request.WriteSingleRegister.execute Response.WriteSingleRegister.encode
  | .writeMultipleCoils =>
      case (Request.WriteMultipleCoils.new 0 1 []) Request.WriteMultipleCoils.decode
        Request.WriteMultipleCoils.execute Response.WriteMultipleCoils.encode
  | .writeMultipleRegisters =>
      case (Request.WriteMultipleRegisters.new 0 1 []) Request.WriteMultipleRegisters.decode
        Request.WriteMultipleRegisters.execute Response.WriteMultipleRegisters.encode
  | .maskWriteRegister =>
      case (Request.MaskWriteRegister.new 0 0 0) Request.MaskWriteRegister.decode
        Request.MaskWriteRegister.execute Response.MaskWriteRegister.encode
  | .readWriteMultipleRegisters =>
      case (Request.ReadWriteMultipleRegisters.new 0 1 0 1 [])
        Request.ReadWriteMultipleRegisters.decode Request.ReadWriteMultipleRegisters.execute
        Response.ReadWriteMultipleRegisters.encode
  | _ => default

def dispatch (packet : ByteBuffer) (function : FunctionCode) : Member Table Packet :=
  switch function
    (fun request decode execute encode => serve request decode execute encode packet)
    (do
      let ((), _) ← onLocal (Request.Illegal.decode packet) Request.Illegal.new
      -- `decode` has thrown before the switch is left here.
      pure [])

/-- `request_handler::handle(data_table, packet)` -/
def handle (packet : ByteBuffer) : Member Table Packet :=
  tryCatch (do
      throwIf (packet.size ≤ Adu.headerLength) Exn.badDataSize
      let byte ← packetAt packet Adu.headerLength
      dispatch packet ⟨byte⟩)
    fun failure =>
      match failure with
      | .specification code function header => do
          let (reply, _) ←
            onLocal Response.Error.encode (Response.Error.new code function header)
          pure reply
      | .internal _ | .outOfRange | .stdException => pure []

end ModbusCpp.RequestHandler
