import ModbusCpp.Echoes
import ModbusCpp.ReplyStages

/-!
# Reads of a response object

A client feeds the packets it receives to `decode` of a response object.  The
checks that all classes share let a packet pass only if it has a function byte,
and the classes only read what is there, whatever was asked for and whatever
was received before.
-/

namespace ModbusCpp

open Method StructFormat

theorem exists_run_ite {σ α : Type} {condition : Prop} [Decidable condition]
    {first second : Member σ α} {object : σ}
    (holds : ∃ value left, first.run object = some (.ok value, left))
    (fails : ∃ value left, second.run object = some (.ok value, left)) :
    ∃ value left, (if condition then first else second).run object = some (.ok value, left) := by
  split
  · exact holds
  · exact fails

variable [Struc]

/-- A response class as `response::decode` sees it: objects with a base part and
a request, and a `decode_passed` that is decided by these two. -/
structure ResponseClass where
  Object : Type
  Asked : Type
  wrap : Object → ResponseObject
  base : Object → Response
  request : Object → Asked
  replace : Response → Object → Object
  decodePassed : ByteBuffer → Member Object Unit
  base_replace : ∀ left self, base (replace left self) = left
  request_replace : ∀ left self, request (replace left self) = request self
  decode_wrap : ∀ packet self, ResponseObject.decode packet (wrap self) =
    override wrap (Response.decode base replace decodePassed packet) self
  decides : ∀ {bytes : Packet}, 8 ≤ bytes.length → ∀ left asked, ∃ accepts,
    DecidedBy (decodePassed (ByteBuffer.guarded bytes)) Exn.badData
      (fun self => (base self, request self)) (left, asked) accepts

namespace ResponseClass

def baseReadBits {code : FunctionCode} (wrap : Response.BaseReadBits code → ResponseObject)
    (decode_wrap : ∀ packet self, ResponseObject.decode packet (wrap self) =
      override wrap (Response.BaseReadBits.decode packet) self) : ResponseClass where
  Object := Response.BaseReadBits code
  Asked := Request.BaseReadBits code
  wrap := wrap
  base := (·.toResponse)
  request := (·.request)
  replace base self := { self with toResponse := base }
  decodePassed := Response.BaseReadBits.decodePassed
  base_replace _ _ := rfl
  request_replace _ _ := rfl
  decode_wrap := decode_wrap
  decides _ left asked := ⟨_, Response.BaseReadBits.decodePassed_decides left asked⟩

def baseReadRegisters {code : FunctionCode}
    (wrap : Response.BaseReadRegisters code → ResponseObject)
    (decode_wrap : ∀ packet self, ResponseObject.decode packet (wrap self) =
      override wrap (Response.BaseReadRegisters.decode packet) self) : ResponseClass where
  Object := Response.BaseReadRegisters code
  Asked := Request.BaseReadRegisters code
  wrap := wrap
  base := (·.toResponse)
  request := (·.request)
  replace base self := { self with toResponse := base }
  decodePassed := Response.BaseReadRegisters.decodePassed
  base_replace _ _ := rfl
  request_replace _ _ := rfl
  decode_wrap := decode_wrap
  decides long left asked :=
    ⟨_, Response.BaseReadRegisters.decodePassed_decides left asked long⟩

def writeSingleCoil : ResponseClass where
  Object := Response.WriteSingleCoil
  Asked := Request.WriteSingleCoil
  wrap := .writeSingleCoil
  base := (·.toResponse)
  request := (·.request)
  replace base self := { self with toResponse := base }
  decodePassed := Response.WriteSingleCoil.decodePassed
  base_replace _ _ := rfl
  request_replace _ _ := rfl
  decode_wrap _ _ := rfl
  decides _ left asked := ⟨_, Response.WriteSingleCoil.decodePassed_decides left asked⟩

def writeSingleRegister : ResponseClass where
  Object := Response.WriteSingleRegister
  Asked := Request.WriteSingleRegister
  wrap := .writeSingleRegister
  base := (·.toResponse)
  request := (·.request)
  replace base self := { self with toResponse := base }
  decodePassed := Response.WriteSingleRegister.decodePassed
  base_replace _ _ := rfl
  request_replace _ _ := rfl
  decode_wrap _ _ := rfl
  decides _ left asked := ⟨_, Response.WriteSingleRegister.decodePassed_decides left asked⟩

def writeMultipleCoils : ResponseClass where
  Object := Response.WriteMultipleCoils
  Asked := Request.WriteMultipleCoils
  wrap := .writeMultipleCoils
  base := (·.toResponse)
  request := (·.request)
  replace base self := { self with toResponse := base }
  decodePassed := Response.WriteMultipleCoils.decodePassed
  base_replace _ _ := rfl
  request_replace _ _ := rfl
  decode_wrap _ _ := rfl
  decides _ left asked := ⟨_, Response.WriteMultipleCoils.decodePassed_decides left asked⟩

def writeMultipleRegisters : ResponseClass where
  Object := Response.WriteMultipleRegisters
  Asked := Request.WriteMultipleRegisters
  wrap := .writeMultipleRegisters
  base := (·.toResponse)
  request := (·.request)
  replace base self := { self with toResponse := base }
  decodePassed := Response.WriteMultipleRegisters.decodePassed
  base_replace _ _ := rfl
  request_replace _ _ := rfl
  decode_wrap _ _ := rfl
  decides _ left asked :=
    ⟨_, Response.WriteMultipleRegisters.decodePassed_decides left asked⟩

def maskWriteRegister : ResponseClass where
  Object := Response.MaskWriteRegister
  Asked := Request.MaskWriteRegister
  wrap := .maskWriteRegister
  base := (·.toResponse)
  request := (·.request)
  replace base self := { self with toResponse := base }
  decodePassed := Response.MaskWriteRegister.decodePassed
  base_replace _ _ := rfl
  request_replace _ _ := rfl
  decode_wrap _ _ := rfl
  decides _ left asked := ⟨_, Response.MaskWriteRegister.decodePassed_decides left asked⟩

def readWriteMultipleRegisters : ResponseClass where
  Object := Response.ReadWriteMultipleRegisters
  Asked := Request.ReadWriteMultipleRegisters
  wrap := .readWriteMultipleRegisters
  base := (·.toResponse)
  request := (·.request)
  replace base self := { self with toResponse := base }
  decodePassed := Response.ReadWriteMultipleRegisters.decodePassed
  base_replace _ _ := rfl
  request_replace _ _ := rfl
  decode_wrap _ _ := rfl
  decides _ left asked :=
    ⟨_, Response.ReadWriteMultipleRegisters.decodePassed_decides left asked⟩

end ResponseClass

/-- A response object newly constructed for a request is an object of one of the
classes. -/
theorem RequestObject.exists_class (request : RequestObject) :
    ∃ (responses : ResponseClass) (fresh : responses.Object),
      request.newResponse = responses.wrap fresh ∧
        (request.adu.function = request.classFunction →
          responses.base fresh = Response.forRequest request.classFunction request.adu) := by
  cases request with
  | readCoils request =>
      exact ⟨.baseReadBits .readCoils fun _ _ => rfl, .new request, rfl, fun _ => rfl⟩
  | readDiscreteInputs request =>
      exact ⟨.baseReadBits .readDiscreteInputs fun _ _ => rfl, .new request, rfl, fun _ => rfl⟩
  | readHoldingRegisters request =>
      exact ⟨.baseReadRegisters .readHoldingRegisters fun _ _ => rfl, .new request, rfl,
        fun _ => rfl⟩
  | readInputRegisters request =>
      exact ⟨.baseReadRegisters .readInputRegisters fun _ _ => rfl, .new request, rfl,
        fun _ => rfl⟩
  | writeSingleCoil request =>
      exact ⟨.writeSingleCoil, .new request, rfl, congrArg (Response.forRequest · _)⟩
  | writeSingleRegister request =>
      exact ⟨.writeSingleRegister, .new request, rfl, congrArg (Response.forRequest · _)⟩
  | writeMultipleCoils request =>
      exact ⟨.writeMultipleCoils, .new request, rfl, congrArg (Response.forRequest · _)⟩
  | writeMultipleRegisters request =>
      exact ⟨.writeMultipleRegisters, .new request, rfl, congrArg (Response.forRequest · _)⟩
  | maskWriteRegister request =>
      exact ⟨.maskWriteRegister, .new request, rfl, congrArg (Response.forRequest · _)⟩
  | readWriteMultipleRegisters request =>
      exact ⟨.readWriteMultipleRegisters, .new request, rfl, congrArg (Response.forRequest · _)⟩

/-- The checks that come first have an outcome on every packet, and stop before
a packet without a function byte is read. -/
theorem Response.exists_run_checkStage (self : Response) (packet : ByteBuffer) :
    ∃ stage left, (checkStage packet).run self = some (.ok stage, left) ∧
      (stage ≠ .bad → 8 ≤ packet.size) := by
  by_cases long : 7 < packet.size
  · obtain ⟨header, function, received⟩ := exists_received long
    obtain ⟨protocol, decoded⟩ := received.fields
    have stored := Adu.run_decodeHeader decoded self.toAdu
    suffices total : ∃ stage left, (checkStage packet).run self = some (.ok stage, left) by
      rcases total with ⟨stage, left, ran⟩
      exact ⟨stage, left, ran, fun _ => long⟩
    simp only [checkStage, initialCheck, Adu.headerLength, long, Struc.unpack_bigEndian, decoded,
      decide_true, Bool.not_true, Bool.false_eq_true, if_false, run_bind, run_liftM, run_get,
      Option.bind_eq_bind, Option.pure_def, Option.bind_some]
    refine exists_run_ite ⟨_, _, rfl⟩ ?_
    simp only [run_bind, run_onPart, run_get, stored, Option.bind_eq_bind, Option.pure_def,
      Option.bind_some]
    exact exists_run_ite ⟨_, _, rfl⟩
      (exists_run_ite (exists_run_ite ⟨_, _, rfl⟩ ⟨_, _, rfl⟩) ⟨_, _, rfl⟩)
  · exact ⟨.bad, self, by simp [checkStage, initialCheck, Adu.headerLength, long], by simp⟩

namespace ResponseClass

variable (responses : ResponseClass) {self : responses.Object} {left : Response}
  {packet : ByteBuffer} {bytes : Packet}

/-- `decode` of the class. -/
def decode (packet : ByteBuffer) : Member responses.Object Unit :=
  Response.decode responses.base responses.replace responses.decodePassed packet

theorem run_decode_bad
    (staged : (Response.checkStage packet).run (responses.base self) = some (.ok .bad, left)) :
    (responses.decode packet).run self =
      some (.error Exn.badData, responses.replace left self) := by
  simp [decode, Response.decode, staged]

/-- An exception without a code is a bad packet. -/
theorem run_decode_error
    (staged : (Response.checkStage packet).run (responses.base self) = some (.ok .error, left)) :
    (responses.decode packet).run self =
      some (.error (if 8 < packet.size then .stdException else Exn.badData),
        responses.replace left self) := by
  by_cases coded : 8 < packet.size
  · obtain ⟨code, found⟩ : ∃ code, packet.bytes[8]? = some code :=
      ⟨_, List.getElem?_eq_getElem coded⟩
    simp [decode, Response.decode, staged, packetAt, Adu.headerLength, found,
      generateException_eq, coded]
  · have missing : packet.bytes[8]? = none := List.getElem?_eq_none (Nat.le_of_not_lt coded)
    simp [decode, Response.decode, staged, packetAt, Adu.headerLength, missing, coded]

theorem run_decode_passed
    (staged : (Response.checkStage packet).run (responses.base self) = some (.ok .passed, left))
    {result : Except Exn Unit} {last : responses.Object}
    (ran : (responses.decodePassed packet).run (responses.replace left self) =
      some (result, last))
    (outcome : result = .ok () ∨ result = .error Exn.badData) :
    (responses.decode packet).run self = some (result, last) := by
  rcases outcome with rfl | rfl <;> simp [decode, Response.decode, staged, ran]

/-- `decode_passed` has an outcome, and keeps the base and the request. -/
theorem exists_run_decodePassed (long : 8 ≤ bytes.length) (self : responses.Object) :
    ∃ result last,
      (responses.decodePassed (ByteBuffer.guarded bytes)).run self = some (result, last) ∧
        (result = .ok () ∨ result = .error Exn.badData) ∧
          responses.base last = responses.base self ∧
            responses.request last = responses.request self := by
  obtain ⟨accepts, decides⟩ := responses.decides long (responses.base self)
    (responses.request self)
  obtain ⟨result, last, ran, keeps, outcome⟩ := decides.exists_run
  exact ⟨result, last, ran, outcome.imp And.right And.right, Prod.mk.inj keeps⟩

/-- Whatever becomes of a packet, its checks alone decide what base is left. -/
theorem exists_run_decode_of_stage {stage : Stage}
    (staged : (Response.checkStage (ByteBuffer.guarded bytes)).run (responses.base self) =
      some (.ok stage, left)) (long : stage ≠ .bad → 8 ≤ bytes.length) :
    ∃ result last,
      (responses.decode (ByteBuffer.guarded bytes)).run self = some (result, last) ∧
        responses.base last = left ∧ responses.request last = responses.request self := by
  have base := responses.base_replace left self
  have request := responses.request_replace left self
  cases stage with
  | bad => exact ⟨_, _, responses.run_decode_bad staged, base, request⟩
  | error => exact ⟨_, _, responses.run_decode_error staged, base, request⟩
  | passed =>
      obtain ⟨result, last, ran, outcome, sameBase, sameRequest⟩ :=
        responses.exists_run_decodePassed (long nofun) (responses.replace left self)
      exact ⟨result, last, responses.run_decode_passed staged ran outcome,
        sameBase.trans base, sameRequest.trans request⟩

theorem exists_run_decode (self : responses.Object) (bytes : Packet) :
    ∃ result last,
      (responses.decode (ByteBuffer.guarded bytes)).run self = some (result, last) := by
  obtain ⟨stage, left, staged, long⟩ :=
    Response.exists_run_checkStage (responses.base self) (ByteBuffer.guarded bytes)
  obtain ⟨result, last, ran, -⟩ := responses.exists_run_decode_of_stage staged long
  exact ⟨result, last, ran⟩

theorem run_decode_wrap {result : Except Exn Unit} {last : responses.Object}
    (ran : (responses.decode packet).run self = some (result, last)) :
    (ResponseObject.decode packet).run (responses.wrap self) =
      some (result, responses.wrap last) := by
  have called : (ResponseObject.decode packet).run (responses.wrap self) =
      override responses.wrap (responses.decode packet) self := responses.decode_wrap packet self
  rw [called]
  simp [override, ran]

end ResponseClass

/-- The object after `decode` of a sequence of packets, whatever each of the calls
throws. -/
def ResponseObject.feed : List Packet → ResponseObject → Option ResponseObject
  | [], object => some object
  | bytes :: history, object => do
      let (_, left) ← (ResponseObject.decode (ByteBuffer.guarded bytes)).run object
      feed history left

/-- An object stays in its class. -/
theorem ResponseClass.exists_feed (responses : ResponseClass) (history : List Packet)
    (self : responses.Object) :
    ∃ last, ResponseObject.feed history (responses.wrap self) = some (responses.wrap last) := by
  induction history generalizing self with
  | nil => exact ⟨self, rfl⟩
  | cons bytes history ih =>
      obtain ⟨result, left, ran⟩ := responses.exists_run_decode self bytes
      obtain ⟨last, fed⟩ := ih left
      exact ⟨last, by simp [ResponseObject.feed, responses.run_decode_wrap ran, fed]⟩

/-- With nothing readable behind the packets, every `decode` of a response object
has an outcome. -/
theorem decode_staysInside (request : RequestObject) (history : List Packet) (bytes : Packet) :
    ∃ object result left, ResponseObject.feed history request.newResponse = some object ∧
      (ResponseObject.decode (ByteBuffer.guarded bytes)).run object = some (result, left) := by
  obtain ⟨responses, fresh, constructed, -⟩ := request.exists_class
  obtain ⟨used, fed⟩ := responses.exists_feed history fresh
  obtain ⟨result, last, ran⟩ := responses.exists_run_decode used bytes
  rw [constructed]
  exact ⟨_, result, _, fed, responses.run_decode_wrap ran⟩

end ModbusCpp
