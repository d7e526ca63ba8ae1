import Mathlib.Tactic.Common

/-!
# Protocol constants

The enumerations and limits of `constants.hpp`.  The scoped enumerations have
a fixed underlying type, so `static_cast` turns every value of that type into
one of theirs, named or not; they are wrapped integers here.
-/

namespace ModbusCpp

/-- `enum class function_code : std::uint8_t` -/
structure FunctionCode where
  toUnderlying : UInt8
  deriving DecidableEq

namespace FunctionCode

@[match_pattern] abbrev min : FunctionCode := ⟨0x00⟩
@[match_pattern] abbrev readCoils : FunctionCode := ⟨0x01⟩
@[match_pattern] abbrev readDiscreteInputs : FunctionCode := ⟨0x02⟩
@[match_pattern] abbrev readHoldingRegisters : FunctionCode := ⟨0x03⟩
@[match_pattern] abbrev readInputRegisters : FunctionCode := ⟨0x04⟩
@[match_pattern] abbrev writeSingleCoil : FunctionCode := ⟨0x05⟩
@[match_pattern] abbrev writeSingleRegister : FunctionCode := ⟨0x06⟩
@[match_pattern] abbrev writeMultipleCoils : FunctionCode := ⟨0x0F⟩
@[match_pattern] abbrev writeMultipleRegisters : FunctionCode := ⟨0x10⟩
@[match_pattern] abbrev maskWriteRegister : FunctionCode := ⟨0x16⟩
@[match_pattern] abbrev readWriteMultipleRegisters : FunctionCode := ⟨0x17⟩
@[match_pattern] abbrev max : FunctionCode := ⟨0x2C⟩

end FunctionCode

/-- `enum class exception_code : std::uint8_t` -/
structure ExceptionCode where
  toUnderlying : UInt8
  deriving DecidableEq

namespace ExceptionCode

@[match_pattern] abbrev illegalFunction : ExceptionCode := ⟨0x01⟩
@[match_pattern] abbrev illegalDataAddress : ExceptionCode := ⟨0x02⟩
@[match_pattern] abbrev illegalDataValue : ExceptionCode := ⟨0x03⟩
@[match_pattern] abbrev serverDeviceFailure : ExceptionCode := ⟨0x04⟩
@[match_pattern] abbrev acknowledge : ExceptionCode := ⟨0x05⟩
@[match_pattern] abbrev serverDeviceBusy : ExceptionCode := ⟨0x06⟩
@[match_pattern] abbrev negativeAcknowledge : ExceptionCode := ⟨0x07⟩
@[match_pattern] abbrev memoryParityError : ExceptionCode := ⟨0x08⟩
@[match_pattern] abbrev gatewayPathUnavailable : ExceptionCode := ⟨0x0A⟩
@[match_pattern] abbrev gatewayTargetDeviceFailedToRespond : ExceptionCode := ⟨0x0B⟩
@[match_pattern] abbrev badData : ExceptionCode := ⟨0x0C⟩
@[match_pattern] abbrev badDataSize : ExceptionCode := ⟨0x0D⟩
@[match_pattern] abbrev badException : ExceptionCode := ⟨0x0F⟩

end ExceptionCode

def maxAduLength : Nat := 260
def tcpProtocol : UInt16 := 0x00
def maxNumBitsRead : UInt16 := 0x07D0
def maxNumRegsRead : UInt16 := 0x007D
def maxNumBitsWrite : UInt16 := 0x07B0
def maxNumRegsWrite : UInt16 := 0x007B
def maxAddress : UInt16 := 0xFFFF

/-- `enum class bits : std::uint16_t`, the two values of a coil on the wire. -/
structure Bits where
  toUnderlying : UInt16
  deriving DecidableEq

namespace Bits

abbrev off : Bits := ⟨0x0000⟩
abbrev on : Bits := ⟨0xFF00⟩

end Bits

/-- `check_function(std::uint8_t)` -/
def checkFunctionByte (function : UInt8) : Bool :=
  FunctionCode.min.toUnderlying < function && function < FunctionCode.max.toUnderlying

/-- `check_function(constants::function_code)` -/
def checkFunction (function : FunctionCode) : Bool :=
  function != FunctionCode.min && function != FunctionCode.max

def checkBitsValue (value : UInt16) : Bool :=
  value == Bits.off.toUnderlying || value == Bits.on.toUnderlying

/-- The functions that the handler has a class for. -/
def FunctionCode.supported : List FunctionCode :=
  [readCoils, readDiscreteInputs, readHoldingRegisters, readInputRegisters, writeSingleCoil,
    writeSingleRegister, writeMultipleCoils, writeMultipleRegisters, maskWriteRegister,
    readWriteMultipleRegisters]

/-- These functions pass both checks, and no `char` takes them for negative. -/
theorem FunctionCode.supported_spec :
    ∀ function ∈ FunctionCode.supported,
      function.toUnderlying.toInt8.toInt = function.toUnderlying.toNat ∧
        checkFunctionByte function.toUnderlying = true ∧ checkFunction function = true := by
  decide

/-- A case for each function that has a class, and one for all others. -/
theorem FunctionCode.cases_supported {motive : FunctionCode → Prop}
    (readCoils : motive readCoils) (readDiscreteInputs : motive readDiscreteInputs)
    (readHoldingRegisters : motive readHoldingRegisters)
    (readInputRegisters : motive readInputRegisters)
    (writeSingleCoil : motive writeSingleCoil)
    (writeSingleRegister : motive writeSingleRegister)
    (writeMultipleCoils : motive writeMultipleCoils)
    (writeMultipleRegisters : motive writeMultipleRegisters)
    (maskWriteRegister : motive maskWriteRegister)
    (readWriteMultipleRegisters : motive readWriteMultipleRegisters)
    (unsupported : ∀ function, function ∉ supported → motive function)
    (function : FunctionCode) : motive function := by
  by_cases known : function ∈ supported
  · simp only [supported, List.mem_cons, List.not_mem_nil, or_false] at known
    rcases known with rfl | rfl | rfl | rfl | rfl | rfl | rfl | rfl | rfl | rfl <;> assumption
  · exact unsupported function known

end ModbusCpp
