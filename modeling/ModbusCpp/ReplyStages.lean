import ModbusCpp.ClientRequest
import ModbusCpp.Refinement

/-!
# Stages of a reply

What the checks that all responses share make of a packet.  They compare its
function with the enumerator that `decode_header` has just overwritten from the
packet, so the reply to a request of any other function passes as well; and
what they find to be an exception is thrown as a bare `std::exception`.
-/

namespace ModbusCpp

open Method StructFormat

/-- A packet has the header of an answer to a request, and this function. -/
def Answers (request : Adu) (packet : ByteBuffer) (function : UInt8) : Prop :=
  8 ≤ packet.size ∧ ∃ length : UInt16,
    StructFormat.decode packet.read 0 Adu.headerFuncFormat =
        some (request.transaction, 0, length, request.unit, function, ()) ∧
      length.toNat = packet.size - 6

theorem Answers.function_unique {request : Adu} {packet : ByteBuffer} {first second : UInt8}
    (one : Answers request packet first) (other : Answers request packet second) :
    first = second := by
  rcases one with ⟨-, length, decoded, -⟩
  rcases other with ⟨-, otherLength, again, -⟩
  rw [decoded] at again
  simp only [Option.some.injEq, Prod.mk.injEq] at again
  exact again.2.2.2.2.1

/-- The function of an exception reply is in none of the ranges that the
checks know. -/
theorem FunctionCode.exception_spec :
    ∀ function ∈ FunctionCode.supported,
      checkFunctionByte (function.toUnderlying + 0x80) = false ∧
        function.toUnderlying ≠ function.toUnderlying + 0x80 := by
  decide

theorem FunctionCode.checkFunction_of_known {byte : UInt8}
    (known : checkFunctionByte byte = true) : checkFunction ⟨byte⟩ = true := by
  simp only [checkFunctionByte, Bool.and_eq_true, decide_eq_true_eq] at known
  simp only [checkFunction, Bool.and_eq_true, bne_iff_ne, ne_eq, FunctionCode.mk.injEq]
  constructor
  · rintro rfl
    exact absurd known.1 (by decide)
  · rintro rfl
    exact absurd known.2 (by decide)

/-- The stage of a packet with the right header, by its function byte. -/
def stageOf (function : FunctionCode) (byte : UInt8) : Stage :=
  if checkFunctionByte byte then .passed
  else if byte = function.toUnderlying + 0x80 then .error
  else .bad

theorem stageOf_eq_passed_iff {function : FunctionCode} {byte : UInt8} :
    stageOf function byte = .passed ↔ checkFunctionByte byte = true := by
  unfold stageOf
  cases checkFunctionByte byte with
  | true => simp
  | false =>
      simp only [Bool.false_eq_true, if_false, iff_false]
      split <;> simp

theorem stageOf_eq_error_iff {function : FunctionCode} {byte : UInt8}
    (supported : function ∈ FunctionCode.supported) :
    stageOf function byte = .error ↔ byte = function.toUnderlying + 0x80 := by
  unfold stageOf
  cases known : checkFunctionByte byte with
  | true =>
      simp only [if_true, reduceCtorEq, false_iff]
      rintro rfl
      rw [(FunctionCode.exception_spec function supported).1] at known
      cases known
  | false => simp

/-- The exception that is found is thrown as its base part alone. -/
theorem generateException_eq (code : ExceptionCode) (function : FunctionCode)
    (header : Header) : generateException code function header = .stdException := by
  unfold generateException
  split <;> rfl

section Checking

variable [Struc]

namespace Response

variable {function : FunctionCode} {request : Adu} {packet : ByteBuffer}

/-- The base part of a response as `decode_header` leaves it, for a packet of
this size that has the header of an answer. -/
def answered (self : Response) (request : Adu) (size : Nat) (byte : UInt8) : Response :=
  { self with
    transaction := request.transaction
    length := UInt16.ofNat (size - 6)
    unit := request.unit
    functionCode := byte
    function := if checkFunctionByte byte then ⟨byte⟩ else self.function }

/-- The checks on any object for the request, as long as it holds a function
that they know. -/
theorem run_checkStage_answers {self : Response} {byte : UInt8}
    (asked : self.reqHeader = request.header)
    (held : checkFunctionByte self.function.toUnderlying = true)
    (answers : Answers request packet byte) :
    (checkStage packet).run self =
      some (.ok (stageOf self.function byte), self.answered request packet.size byte) := by
  rcases answers with ⟨long, length, decoded, sized⟩
  have named := FunctionCode.checkFunction_of_known held
  have header := Adu.run_decodeHeader decoded
  have sevenLt : 7 < packet.size := long
  have stored : length = UInt16.ofNat (packet.size - 6) := by
    rw [← sized, UInt16.ofNat_toNat]
  cases taken : checkFunctionByte byte with
  | true =>
      have own := FunctionCode.checkFunction_of_known taken
      simp [checkStage, initialCheck, Adu.headerLength, sevenLt, decoded, sized, header, taken,
        own, stageOf, asked, Adu.header, Adu.protocol, tcpProtocol, answered, ← stored]
  | false =>
      have differs : self.function.toUnderlying ≠ byte := by
        rintro rfl
        rw [held] at taken
        cases taken
      have marked : self.function.toUnderlying = byte - 0x80 ↔
          byte = self.function.toUnderlying + 0x80 := by
        constructor
        · intro same
          rw [same, UInt8.sub_add_cancel]
        · rintro rfl
          rw [UInt8.add_sub_cancel]
      by_cases exception : byte = self.function.toUnderlying + 0x80
      · simp [checkStage, initialCheck, Adu.headerLength, sevenLt, decoded, sized, header,
          taken, named, differs, marked, stageOf, asked, Adu.header, Adu.protocol, tcpProtocol,
          answered, ← stored, if_pos exception]
      · simp [checkStage, initialCheck, Adu.headerLength, sevenLt, decoded, sized, header,
          taken, named, differs, marked, stageOf, asked, Adu.header, Adu.protocol, tcpProtocol,
          answered, ← stored, exception]

/-- A packet that is no answer leaves the object as it was. -/
theorem run_checkStage_foreign {self : Response} (asked : self.reqHeader = request.header)
    (foreign : ∀ byte, ¬ Answers request packet byte) :
    (checkStage packet).run self = some (.ok .bad, self) := by
  by_cases long : 7 < packet.size
  · obtain ⟨header, ⟨byte⟩, received⟩ := exists_received long
    obtain ⟨protocol, decoded⟩ := received.fields
    have mismatch : request.transaction ≠ header.transaction ∨ (0 : UInt16) ≠ protocol ∨
        request.unit ≠ header.unit ∨ header.length.toNat ≠ packet.size - 6 := by
      by_contra agree
      push Not at agree
      rcases agree with ⟨transaction, protocol, unit, sized⟩
      refine foreign byte ⟨long, header.length, ?_, sized⟩
      rw [transaction, unit, protocol]
      exact decoded
    simp [checkStage, initialCheck, Adu.headerLength, long, decoded, asked, Adu.header,
      Adu.protocol, tcpProtocol, mismatch]
  · simp [checkStage, initialCheck, Adu.headerLength, long]

theorem checkStage_of_answers {byte : UInt8} (supported : function ∈ FunctionCode.supported)
    (answers : Answers request packet byte) :
    ∃ left, (checkStage packet).run (forRequest function request) =
      some (.ok (stageOf function byte), left) := by
  obtain ⟨-, known, -⟩ := FunctionCode.supported_spec function supported
  exact ⟨_, run_checkStage_answers rfl known answers⟩

theorem checkStage_of_not_answers (foreign : ∀ byte, ¬ Answers request packet byte) :
    ∃ left, (checkStage packet).run (forRequest function request) =
      some (.ok .bad, left) :=
  ⟨_, run_checkStage_foreign rfl foreign⟩

theorem run_decode_error {σ : Type} {toBase : σ → Response} {replace : Response → σ → σ}
    {decodePassed : ByteBuffer → Member σ Unit} {self : σ} {left : Response} {code : UInt8}
    (staged : (checkStage packet).run (toBase self) = some (.ok .error, left))
    (coded : packet.bytes[8]? = some code) :
    ((Response.decode toBase replace decodePassed packet).run self).map Prod.fst =
      some (.error .stdException) := by
  simp [Response.decode, staged, packetAt, Adu.headerLength, coded, generateException_eq]

end Response

/-- Classifying a packet tells an answer to the request from an exception, and
both from everything else. -/
def ClassifiesStage (request : ClientRequest) (packet : ByteBuffer) : Prop :=
  ∃ stage left, (Response.checkStage packet).run request.response = some (.ok stage, left) ∧
    (stage = .passed ↔ Answers request.adu packet request.function.toUnderlying) ∧
    (stage = .error ↔ Answers request.adu packet (request.function.toUnderlying + 0x80))

/-- Packets are told apart unless one answers some other function. -/
theorem classifiesStage_iff (request : ClientRequest) (packet : ByteBuffer) :
    ClassifiesStage request packet ↔
      ¬ ∃ byte, Answers request.adu packet byte ∧
        byte ≠ request.function.toUnderlying ∧ 0 < byte ∧ byte < 0x2C := by
  have supported := request.function_supported
  have range : ∀ byte : UInt8, checkFunctionByte byte = true ↔ 0 < byte ∧ byte < 0x2C := by
    simp [checkFunctionByte]
  by_cases answered : ∃ byte, Answers request.adu packet byte
  · rcases answered with ⟨byte, answers⟩
    obtain ⟨left, ran⟩ := Response.checkStage_of_answers supported answers
    rw [← request.response_eq] at ran
    have only : ∀ other, Answers request.adu packet other ↔ byte = other := by
      intro other
      constructor
      · exact answers.function_unique
      · rintro rfl
        exact answers
    constructor
    · rintro ⟨stage, after, staged, passed, -⟩ ⟨other, again, foreign, known⟩
      rw [ran] at staged
      obtain ⟨rfl, -⟩ := returned_inj.mp staged
      obtain rfl := (only other).mp again
      rw [stageOf_eq_passed_iff, range, only] at passed
      exact foreign (passed.mp known)
    · intro own
      refine ⟨_, _, ran, ?_, ?_⟩
      · rw [stageOf_eq_passed_iff, only]
        constructor
        · intro known
          by_contra foreign
          exact own ⟨byte, answers, foreign, (range byte).mp known⟩
        · rintro rfl
          exact (FunctionCode.supported_spec _ supported).2.1
      · rw [stageOf_eq_error_iff supported, only]
  · push Not at answered
    obtain ⟨left, ran⟩ := @Response.checkStage_of_not_answers _ request.function _ _ answered
    rw [← request.response_eq] at ran
    constructor
    · rintro - ⟨byte, answers, -⟩
      exact answered byte answers
    · rintro -
      exact ⟨_, _, ran, by simp [answered], by simp [answered]⟩

end Checking

/-- The reply to another read passes for the one that was asked for. -/
theorem not_classifiesStage_foreign :
    ¬ @ClassifiesStage Struc.documented
      ⟨.readCoils ⟨(Adu.new .readCoils).initializeWith ⟨1, 1⟩, 0, 1⟩, rfl⟩
      (ByteBuffer.guarded [0, 1, 0, 0, 0, 4, 1, 0x02, 1, 0]) := by
  rintro ⟨stage, left, staged, passed, -⟩
  have ran : ((@Response.checkStage Struc.documented
      (ByteBuffer.guarded [0, 1, 0, 0, 0, 4, 1, 0x02, 1, 0])).run
        (Response.forRequest .readCoils ((Adu.new .readCoils).initializeWith ⟨1, 1⟩))).map
          Prod.fst = some (.ok .passed) := rfl
  have same := congrArg (Option.map Prod.fst) staged
  obtain rfl := Except.ok.inj (Option.some.inj (ran.symm.trans same))
  obtain ⟨-, length, decoded, -⟩ := passed.mp rfl
  have carried : StructFormat.decode (ByteBuffer.guarded
      [0, 1, 0, 0, 0, 4, 1, 0x02, 1, 0]).read 0 Adu.headerFuncFormat =
        some (1, 0, 4, 1, 0x02, ()) := rfl
  simp only [carried, Option.some.injEq, Prod.mk.injEq] at decoded
  exact absurd decoded.2.2.2.2.1 (by decide)

/-- The codes of the specification, one class of errors each. -/
def ExceptionCode.specification : List ExceptionCode :=
  [illegalFunction, illegalDataAddress, illegalDataValue, serverDeviceFailure, acknowledge,
    serverDeviceBusy, negativeAcknowledge, memoryParityError, gatewayPathUnavailable,
    gatewayTargetDeviceFailedToRespond]

/-- Decoding an exception throws the error it stands for, with the function and
the header of the request. -/
def Rethrows [Struc] (request : ClientRequest) (packet : ByteBuffer) (code : ExceptionCode) :
    Prop :=
  ∃ failure, request.decodeReply packet = some (.error failure) ∧
    (code ∈ ExceptionCode.specification → ∃ length, failure = .specification code
      request.function ⟨request.adu.transaction, length, request.adu.unit⟩) ∧
    (code ∉ ExceptionCode.specification → failure = Exn.badException)

/-- Whatever the class of the request, the client gets a `std::exception`. -/
theorem ClientRequest.decodeReply_exception [Struc] {request : ClientRequest}
    {packet : ByteBuffer} {code : UInt8}
    (answers : Answers request.adu packet (request.function.toUnderlying + 0x80))
    (coded : packet.bytes[8]? = some code) :
    request.decodeReply packet = some (.error .stdException) := by
  obtain ⟨left, staged⟩ :=
    Response.checkStage_of_answers request.function_supported answers
  rw [(stageOf_eq_error_iff request.function_supported).mpr rfl, ← request.response_eq] at staged
  rcases request with ⟨object, own⟩
  cases object <;> exact Response.run_decode_error staged coded

theorem not_rethrows [Struc] {request : ClientRequest} {packet : ByteBuffer}
    {code : ExceptionCode}
    (answers : Answers request.adu packet (request.function.toUnderlying + 0x80))
    (coded : packet.bytes[8]? = some code.toUnderlying) : ¬ Rethrows request packet code := by
  rintro ⟨failure, decoded, specified, unspecified⟩
  rw [ClientRequest.decodeReply_exception answers coded] at decoded
  obtain rfl := Except.error.inj (Option.some.inj decoded)
  by_cases known : code ∈ ExceptionCode.specification
  · obtain ⟨length, wrong⟩ := specified known
    cases wrong
  · cases unspecified known

theorem not_rethrows_busy :
    ¬ @Rethrows Struc.documented
      ⟨.writeSingleRegister ⟨(Adu.new .writeSingleRegister).initializeWith ⟨1, 1⟩, 3, 7⟩, rfl⟩
      (ByteBuffer.guarded [0, 1, 0, 0, 0, 3, 1, 0x86, 0x06]) .serverDeviceBusy :=
  @not_rethrows Struc.documented _ _ _ ⟨by decide, 3, rfl, rfl⟩ rfl

/-- The client of a server that answers with an illegal data address. -/
theorem not_rethrows_illegalDataAddress :
    ¬ @Rethrows Struc.documented
      ⟨.readCoils ⟨(Adu.new .readCoils).initializeWith ⟨1, 1⟩, 0, 1⟩, rfl⟩
      (ByteBuffer.guarded [0, 1, 0, 0, 0, 3, 1, 0x81, 0x02]) .illegalDataAddress := by
  rintro ⟨failure, decoded, specified, -⟩
  have thrown : @ClientRequest.decodeReply Struc.documented
      (ByteBuffer.guarded [0, 1, 0, 0, 0, 3, 1, 0x81, 0x02])
      ⟨.readCoils ⟨(Adu.new .readCoils).initializeWith ⟨1, 1⟩, 0, 1⟩, rfl⟩ =
        some (.error .stdException) := rfl
  rw [thrown] at decoded
  obtain rfl := Except.error.inj (Option.some.inj decoded)
  obtain ⟨length, wrong⟩ := specified (by decide)
  cases wrong

end ModbusCpp
