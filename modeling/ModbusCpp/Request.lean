import ModbusCpp.Adu
import ModbusCpp.TableOperations

/-!
# Requests

`request.hpp` and `request.cpp`: what the ten request classes share, and the
request that stands for every unsupported function.  A request object is its
ADU base with the fields of its class.
-/

namespace ModbusCpp.Request

open Method

variable [Struc] {σ : Type}

/-- The try block around the body of every `decode`. -/
def decoding (toAdu : σ → Adu) (body : Member σ Unit) : Member σ Unit :=
  tryCatch body fun _ => do
    let self := toAdu (← get)
    throw (Exn.serverDeviceFailure self.function self.header)

/-- `if (packet.at(header_length) != to_underlying(function)) throw bad_data`;
the comparison is between a `char` and a `std::uint8_t`, both widened to `int`. -/
def expectFunction (packet : ByteBuffer) (function : FunctionCode) : Member σ Unit := do
  let byte ← packetAt packet Adu.headerLength
  throwIf (byte.toInt8.toInt ≠ function.toUnderlying.toNat) Exn.badData

/-- `check_response_packet(packet)`, for the size that the class expects. -/
def checkResponsePacket (responseSize : Nat) (packet : Packet) : Bool :=
  packet.length == responseSize

/-- `request::illegal`, which has no fields of its own. -/
abbrev Illegal := Adu

namespace Illegal

def new : Illegal :=
  Adu.new FunctionCode.min

def decode (packet : ByteBuffer) : Member Illegal Unit := do
  Adu.decodeHeader packet
  let self ← get
  throw (Exn.illegalFunction self.function self.header)

end Illegal

end ModbusCpp.Request
