import ModbusCpp.ReplyBounds

/-!
# Response objects with a history

A response object may be fed one packet after another.  Of what it received
earlier only one thing reaches a later packet: the function that the last
packet with the right header left in the object, with which the function of an
exception is compared.
-/

namespace ModbusCpp

open Method StructFormat

/-- The function of a packet with the header of an answer, if the checks know it. -/
def knownFunction (request : Adu) (bytes : Packet) : Option FunctionCode :=
  match decode (ByteBuffer.guarded bytes).read 0 Adu.headerFuncFormat with
  | some (transaction, protocol, length, unit, byte, ()) =>
      if 8 ≤ bytes.length ∧ transaction = request.transaction ∧ protocol = 0 ∧
          unit = request.unit ∧ length.toNat = bytes.length - 6 ∧ checkFunctionByte byte then
        some ⟨byte⟩
      else none
  | none => none

/-- The function of the last such packet, or that of the request. -/
def lastFunction (request : ClientRequest) (history : List Packet) : FunctionCode :=
  history.foldl (fun held bytes => (knownFunction request.adu bytes).getD held) request.function

theorem knownFunction_of_answers {request : Adu} {bytes : Packet} {byte : UInt8}
    (answers : Answers request (ByteBuffer.guarded bytes) byte) :
    knownFunction request bytes = if checkFunctionByte byte then some ⟨byte⟩ else none := by
  rcases answers with ⟨long, length, decoded, sized⟩
  simp only [ByteBuffer.size_guarded] at long sized
  simp [knownFunction, decoded, long, sized]

theorem knownFunction_of_foreign {request : Adu} {bytes : Packet}
    (foreign : ∀ byte, ¬ Answers request (ByteBuffer.guarded bytes) byte) :
    knownFunction request bytes = none := by
  unfold knownFunction
  split
  · rename_i transaction protocol length unit byte decoded
    refine if_neg ?_
    rintro ⟨long, rfl, rfl, rfl, sized, -⟩
    exact foreign byte ⟨long, length, decoded, sized⟩
  · rfl

theorem checkFunctionByte_marked {byte : UInt8} (known : checkFunctionByte byte = true) :
    checkFunctionByte (byte + 0x80) = false := by
  simp only [checkFunctionByte, Bool.and_eq_true, decide_eq_true_eq, UInt8.lt_iff_toNat_lt]
    at known
  simp only [checkFunctionByte, Bool.and_eq_false_iff, decide_eq_false_iff_not,
    UInt8.lt_iff_toNat_lt, UInt8.toNat_add]
  simp only [UInt8.reduceToNat] at known ⊢
  omega

/-- Two functions that a byte is compared with, to tell an exception from a bad
packet. -/
theorem exception_eq_iff (held own : FunctionCode) (size : Nat) (byte : UInt8) :
    (if 8 < size ∧ byte = held.toUnderlying + 0x80 then Exn.stdException else Exn.badData) =
        (if 8 < size ∧ byte = own.toUnderlying + 0x80 then Exn.stdException
          else Exn.badData) ↔
      ¬ (held ≠ own ∧ 9 ≤ size ∧
        (byte = own.toUnderlying + 0x80 ∨ byte = held.toUnderlying + 0x80)) := by
  by_cases equal : held = own
  · simp [equal]
  · have apart : held.toUnderlying ≠ own.toUnderlying := fun same =>
      equal (congrArg FunctionCode.mk same)
    constructor
    · rintro same ⟨-, long, rfl | rfl⟩
      · simp [show 8 < size from long, apart.symm] at same
      · simp [show 8 < size from long, apart] at same
    · intro sound
      have unmarked {function : FunctionCode} (one : function = own ∨ function = held) :
          ¬ (8 < size ∧ byte = function.toUnderlying + 0x80) := by
        rintro ⟨long, marked⟩
        rcases one with rfl | rfl
        · exact sound ⟨equal, long, .inl marked⟩
        · exact sound ⟨equal, long, .inr marked⟩
      rw [if_neg (unmarked (.inr rfl)), if_neg (unmarked (.inl rfl))]

section History

variable [Struc]

/-- What a client learns from decoding a packet: the exception, or the object with
all that its getters return. -/
def ResponseObject.outcome (bytes : Packet) (object : ResponseObject) :
    Option (Except Exn ResponseObject) :=
  ((ResponseObject.decode (ByteBuffer.guarded bytes)).run object).map
    fun (result, left) => result.map fun () => left

/-- Decoding a packet comes to the same on an object that was fed packets before
as on a newly constructed one. -/
def IgnoresHistory (request : ClientRequest) (history : List Packet) (bytes : Packet) : Prop :=
  (ResponseObject.feed history request.val.newResponse).bind (ResponseObject.outcome bytes) =
    ResponseObject.outcome bytes request.val.newResponse

/-- An exception, with its code, to the function of the request or to that of the
last packet, where these are two functions. -/
def MistakesException (request : ClientRequest) (history : List Packet) (bytes : Packet) :
    Prop :=
  lastFunction request history ≠ request.function ∧ 9 ≤ bytes.length ∧
    ∃ byte, Answers request.adu (ByteBuffer.guarded bytes) byte ∧
      (byte = request.function.toUnderlying + 0x80 ∨
        byte = (lastFunction request history).toUnderlying + 0x80)

omit [Struc] in
theorem mistakesException_iff {request : ClientRequest} {history : List Packet} {bytes : Packet}
    {byte : UInt8} (answers : Answers request.adu (ByteBuffer.guarded bytes) byte) :
    MistakesException request history bytes ↔
      lastFunction request history ≠ request.function ∧ 9 ≤ bytes.length ∧
        (byte = request.function.toUnderlying + 0x80 ∨
          byte = (lastFunction request history).toUnderlying + 0x80) := by
  constructor
  · rintro ⟨differs, long, other, again, marked⟩
    obtain rfl := answers.function_unique again
    exact ⟨differs, long, marked⟩
  · rintro ⟨differs, long, marked⟩
    exact ⟨differs, long, byte, answers, marked⟩

namespace ResponseClass

/-- An object for a request, holding a function that the checks know. -/
structure Holds (responses : ResponseClass) (request : Adu) (asked : responses.Asked)
    (function : FunctionCode) (object : responses.Object) : Prop where
  asked : responses.request object = asked
  header : (responses.base object).reqHeader = request.header
  held : (responses.base object).function = function
  known : checkFunctionByte function.toUnderlying = true

variable {responses : ResponseClass} {request : Adu} {asked : responses.Asked}
  {function : FunctionCode} {self : responses.Object} {bytes : Packet} {byte : UInt8}

theorem Holds.checkStage (holds : responses.Holds request asked function self)
    (answers : Answers request (ByteBuffer.guarded bytes) byte) :
    (Response.checkStage (ByteBuffer.guarded bytes)).run (responses.base self) =
      some (.ok (stageOf function byte),
        (responses.base self).answered request bytes.length byte) := by
  have staged := Response.run_checkStage_answers holds.header
    (by rw [holds.held]; exact holds.known) answers
  rwa [holds.held] at staged

/-- One packet: the function it brings, if it is known, takes the place of the one
the object held. -/
theorem Holds.step (holds : responses.Holds request asked function self) (bytes : Packet) :
    ∃ result last,
      (responses.decode (ByteBuffer.guarded bytes)).run self = some (result, last) ∧
        responses.Holds request asked ((knownFunction request bytes).getD function) last := by
  by_cases answered : ∃ byte, Answers request (ByteBuffer.guarded bytes) byte
  · rcases answered with ⟨byte, answers⟩
    obtain ⟨result, last, ran, base, same⟩ :=
      responses.exists_run_decode_of_stage (holds.checkStage answers) fun _ => answers.1
    refine ⟨result, last, ran, same.trans holds.asked, by rw [base]; exact holds.header, ?_, ?_⟩
    · rw [base, knownFunction_of_answers answers]
      simp only [Response.answered]
      split
      · rfl
      · exact holds.held
    · rw [knownFunction_of_answers answers]
      split
      · assumption
      · exact holds.known
  · push Not at answered
    have staged := Response.run_checkStage_foreign holds.header answered
    refine ⟨_, _, responses.run_decode_bad staged, ?_⟩
    rw [knownFunction_of_foreign answered]
    refine ⟨(responses.request_replace _ _).trans holds.asked, ?_, ?_, holds.known⟩
    · rw [responses.base_replace]
      exact holds.header
    · rw [responses.base_replace]
      exact holds.held

/-- A run: of all packets before, the last known function is left. -/
theorem Holds.feed (holds : responses.Holds request asked function self)
    (history : List Packet) :
    ∃ last, ResponseObject.feed history (responses.wrap self) = some (responses.wrap last) ∧
      responses.Holds request asked
        (history.foldl (fun held bytes => (knownFunction request bytes).getD held) function)
        last := by
  induction history generalizing function self with
  | nil => exact ⟨self, rfl, holds⟩
  | cons bytes history ih =>
      obtain ⟨result, left, ran, step⟩ := holds.step bytes
      obtain ⟨last, fed, run⟩ := ih step
      exact ⟨last, by simp [ResponseObject.feed, responses.run_decode_wrap ran, fed], run⟩

theorem outcome_wrap {result : Except Exn Unit} {last : responses.Object}
    (ran : (responses.decode (ByteBuffer.guarded bytes)).run self = some (result, last)) :
    ResponseObject.outcome bytes (responses.wrap self) =
      some (result.map fun () => responses.wrap last) := by
  simp [ResponseObject.outcome, responses.run_decode_wrap ran]

theorem Holds.outcome_foreign (holds : responses.Holds request asked function self)
    (foreign : ∀ byte, ¬ Answers request (ByteBuffer.guarded bytes) byte) :
    ResponseObject.outcome bytes (responses.wrap self) = some (.error Exn.badData) :=
  outcome_wrap (responses.run_decode_bad
    (Response.run_checkStage_foreign holds.header foreign))

/-- A function that the checks do not know is compared with the one that the
object holds. -/
theorem Holds.outcome_unknown (holds : responses.Holds request asked function self)
    (answers : Answers request (ByteBuffer.guarded bytes) byte)
    (unknown : checkFunctionByte byte = false) :
    ResponseObject.outcome bytes (responses.wrap self) =
      some (.error (if 8 < bytes.length ∧ byte = function.toUnderlying + 0x80 then
        .stdException else Exn.badData)) := by
  have staged := holds.checkStage answers
  by_cases exception : byte = function.toUnderlying + 0x80
  · rw [stageOf, unknown, if_neg Bool.false_ne_true, if_pos exception] at staged
    rw [outcome_wrap (responses.run_decode_error staged)]
    by_cases coded : 8 < bytes.length <;> simp [exception, coded, Except.map]
  · rw [stageOf, unknown, if_neg Bool.false_ne_true, if_neg exception] at staged
    rw [outcome_wrap (responses.run_decode_bad staged)]
    simp [exception, Except.map]

/-- A packet with a known function overwrites all that two objects for one request
may differ in. -/
theorem Holds.outcome_known {other : responses.Object} {otherFunction : FunctionCode}
    (holds : responses.Holds request asked function self)
    (otherHolds : responses.Holds request asked otherFunction other)
    (answers : Answers request (ByteBuffer.guarded bytes) byte)
    (known : checkFunctionByte byte = true) :
    ResponseObject.outcome bytes (responses.wrap self) =
      ResponseObject.outcome bytes (responses.wrap other) := by
  have staged := holds.checkStage answers
  have otherStaged := otherHolds.checkStage answers
  rw [stageOf_eq_passed_iff.mpr known] at staged otherStaged
  have same : (responses.base other).answered request bytes.length byte =
      (responses.base self).answered request bytes.length byte := by
    simp only [Response.answered, known, if_true, holds.header, otherHolds.header]
  rw [same] at otherStaged
  obtain ⟨accepts, decides⟩ := responses.decides answers.1
    ((responses.base self).answered request bytes.length byte) asked
  have kept (object : responses.Object) (own : responses.request object = asked) :
      (responses.base (responses.replace
          ((responses.base self).answered request bytes.length byte) object),
        responses.request (responses.replace
          ((responses.base self).answered request bytes.length byte) object)) =
        ((responses.base self).answered request bytes.length byte, asked) := by
    rw [responses.base_replace, responses.request_replace, own]
  by_cases accepted : accepts
  · obtain ⟨done, -, ran⟩ := decides.returns accepted
    rw [outcome_wrap (responses.run_decode_passed staged (ran _ (kept self holds.asked))
        (.inl rfl)),
      outcome_wrap (responses.run_decode_passed otherStaged
        (ran _ (kept other otherHolds.asked)) (.inl rfl))]
  · obtain ⟨last, ran, -⟩ := decides.throws accepted _ (kept self holds.asked)
    obtain ⟨otherLast, otherRan, -⟩ := decides.throws accepted _ (kept other otherHolds.asked)
    rw [outcome_wrap (responses.run_decode_passed staged ran (.inr rfl)),
      outcome_wrap (responses.run_decode_passed otherStaged otherRan (.inr rfl))]
    rfl

end ResponseClass

theorem ignoresHistory_iff (request : ClientRequest) (history : List Packet) (bytes : Packet) :
    IgnoresHistory request history bytes ↔ ¬ MistakesException request history bytes := by
  obtain ⟨responses, fresh, constructed, base⟩ := request.val.exists_class
  have own := base request.property
  have known := (FunctionCode.supported_spec _ request.function_supported).2.1
  have holds : responses.Holds request.adu (responses.request fresh) request.function fresh :=
    ⟨rfl, by rw [own]; rfl, by rw [own]; rfl, known⟩
  obtain ⟨used, fed, usedHolds⟩ : ∃ used,
      ResponseObject.feed history (responses.wrap fresh) = some (responses.wrap used) ∧
        responses.Holds request.adu (responses.request fresh) (lastFunction request history)
          used := holds.feed history
  rw [IgnoresHistory, constructed, fed, Option.bind_some]
  by_cases answered : ∃ byte, Answers request.adu (ByteBuffer.guarded bytes) byte
  · rcases answered with ⟨byte, answers⟩
    rw [mistakesException_iff answers]
    cases taken : checkFunctionByte byte with
    | true =>
        refine iff_of_true (usedHolds.outcome_known holds answers taken) ?_
        rintro ⟨-, -, rfl | rfl⟩
        · exact absurd taken (by simp [checkFunctionByte_marked known])
        · exact absurd taken (by simp [checkFunctionByte_marked usedHolds.known])
    | false =>
        rw [usedHolds.outcome_unknown answers taken, holds.outcome_unknown answers taken,
          Option.some.injEq, Except.error.injEq]
        exact exception_eq_iff _ _ _ _
  · push Not at answered
    refine iff_of_true ?_ ?_
    · rw [usedHolds.outcome_foreign answered, holds.outcome_foreign answered]
    · rintro ⟨-, -, byte, answers, -⟩
      exact answered byte answers

end History

/-- An exception to a read of coils, after a reply to a read of discrete inputs. -/
theorem not_ignoresHistory_exception :
    ¬ @IgnoresHistory Struc.documented
      ⟨.readCoils ⟨(Adu.new .readCoils).initializeWith ⟨1, 1⟩, 0, 1⟩, rfl⟩
      [[0, 1, 0, 0, 0, 4, 1, 0x02, 1, 0]] [0, 1, 0, 0, 0, 3, 1, 0x81, 0x02] := by
  intro same
  have used : (@ResponseObject.feed Struc.documented [[0, 1, 0, 0, 0, 4, 1, 0x02, 1, 0]]
      (RequestObject.newResponse (.readCoils
        ⟨(Adu.new .readCoils).initializeWith ⟨1, 1⟩, 0, 1⟩))).bind
          (@ResponseObject.outcome Struc.documented [0, 1, 0, 0, 0, 3, 1, 0x81, 0x02]) =
            some (.error Exn.badData) := rfl
  have fresh : @ResponseObject.outcome Struc.documented [0, 1, 0, 0, 0, 3, 1, 0x81, 0x02]
      (RequestObject.newResponse (.readCoils
        ⟨(Adu.new .readCoils).initializeWith ⟨1, 1⟩, 0, 1⟩)) =
          some (.error .stdException) := rfl
  have thrown := used.symm.trans (same.trans fresh)
  cases thrown

end ModbusCpp
