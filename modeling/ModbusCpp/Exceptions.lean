import ModbusCpp.Types

/-!
# Exceptions

`exception.hpp`: the errors of the Modbus specification, which carry the
function and the header of the request they answer, the internal errors, and
the two standard exceptions the code meets.  The messages only reach the log.
-/

namespace ModbusCpp

inductive Exn
  | specification (code : ExceptionCode) (function : FunctionCode) (header : Header)
  | internal (code : ExceptionCode)
  | outOfRange
  | stdException
  deriving DecidableEq

namespace Exn

abbrev illegalFunction := specification .illegalFunction
abbrev illegalDataAddress := specification .illegalDataAddress
abbrev illegalDataValue := specification .illegalDataValue
abbrev serverDeviceFailure := specification .serverDeviceFailure
abbrev badData := internal .badData
abbrev badDataSize := internal .badDataSize
abbrev badException := internal .badException

/-- Converting an exception to `std::exception` by value copies its base part
alone. -/
def sliced (_ : Exn) : Exn :=
  stdException

end Exn

/-- `generate_exception`, whose declared return type is `std::exception`. -/
def generateException (code : ExceptionCode) (function : FunctionCode)
    (requestHeader : Header) : Exn :=
  match code with
  | .illegalFunction | .illegalDataAddress | .illegalDataValue | .serverDeviceFailure
  | .acknowledge | .serverDeviceBusy | .negativeAcknowledge | .memoryParityError
  | .gatewayPathUnavailable | .gatewayTargetDeviceFailedToRespond =>
      (Exn.specification code function requestHeader).sliced
  | _ => Exn.badException.sliced

end ModbusCpp
