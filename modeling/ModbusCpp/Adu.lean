import ModbusCpp.Exceptions
import ModbusCpp.Method
import ModbusCpp.Struc

/-!
# Application data units

`adu.hpp`: the base class of requests and responses, with the seven header
bytes and the function code.  The object keeps the function twice, as an
enumerator and as the raw byte, and the two may come to differ.
-/

namespace ModbusCpp

open StructFormat

variable [Struc]

/-- The members of `internal::adu`. -/
structure Adu where
  function : FunctionCode
  functionCode : UInt8
  transaction : UInt16 := 0
  length : UInt16 := 0
  unit : UInt8 := 0
  deriving DecidableEq

/-- A member function that reads packets through bare pointers; it has no
outcome when such a read finds nothing. -/
abbrev Member (σ α : Type) : Type :=
  Method Exn Option σ α

namespace Adu

def headerLength : Nat := 7

def protocol : UInt16 := tcpProtocol

abbrev headerFuncFormat : List Code := [.H, .H, .H, .B, .B]

/-- `adu(function)` -/
def new (function : FunctionCode) : Adu where
  function := function
  functionCode := function.toUnderlying

/-- `adu::initializer_t` -/
structure Initializer where
  transaction : UInt16
  unit : UInt8

/-- `initialize(initializer)` -/
def initializeWith (adu : Adu) (initializer : Initializer) : Adu :=
  { adu with transaction := initializer.transaction, length := 0, unit := initializer.unit }

def header (adu : Adu) : Header :=
  ⟨adu.transaction, adu.length, adu.unit⟩

/-- The length that `calc_length(pdu_length)` stores. -/
def calcLength (pduLength : UInt16) : UInt16 :=
  1 + 1 + pduLength

/-- `calc_adu_length(data_length)`, a 16-bit sum. -/
def calcAduLength (dataLength : UInt16) : UInt16 :=
  UInt16.ofNat headerLength + 1 + dataLength

def headerPacket (adu : Adu) : Packet :=
  Struc.pack headerFuncFormat
    (adu.transaction, protocol, adu.length, adu.unit, adu.functionCode, ())

/-- `decode_header(packet)`; the protocol identifier is read and dropped. -/
def decodeHeader (packet : ByteBuffer) : Member Adu Unit := do
  let (transaction, _, length, unit, functionCode, ()) ←
    Struc.unpack headerFuncFormat packet.read 0
  modify ({ · with transaction, length, unit, functionCode })
  modify fun adu =>
    if checkFunctionByte adu.functionCode then { adu with function := ⟨adu.functionCode⟩ }
    else adu

end Adu

/-- `packet.at(index)` -/
def packetAt {σ : Type} (packet : ByteBuffer) (index : Nat) : Member σ UInt8 :=
  match packet.bytes[index]? with
  | some byte => pure byte
  | none => throw .outOfRange

end ModbusCpp
