import ModbusCpp.RequestDecoding
import ModbusCpp.RequestEncoding
import ModbusCpp.Sufficiency

/-!
# The request codec

The server decodes a packet into an object of its own.  From an encoded
request it gets back the object that the client was left with, exactly if that
has as many values as its quantity and a value that is on or off.
-/

namespace ModbusCpp

open Method StructFormat

theorem Asks.decode_three {packet : ByteBuffer} {function : FunctionCode}
    {first second third : UInt16}
    (asks : Asks packet function (wordBytes [first, second, third])) :
    StructFormat.decode packet.read 8 [.H, .H, .H] = some (first, second, third, ()) := by
  have front : wordBytes [first, second, third] =
      StructFormat.encode [.H, .H, .H] (first, second, third, ()) ++ [] := by
    simp [StructFormat.encode]
  rw [front] at asks
  exact asks.decode

/-- Words behind a byte count, to the end of the packet. -/
theorem Asks.decodeWords_last {packet : ByteBuffer} {function : FunctionCode}
    {words values : List UInt16} {byteCount : UInt8}
    (asks : Asks packet function (wordBytes words ++ byteCount :: wordBytes values)) :
    StructFormat.decodeWords packet.read (9 + 2 * words.length) values.length =
      some values := by
  rw [← List.append_nil (wordBytes values)] at asks
  exact asks.decodeWords_counted

namespace RequestObject

/-- The same request with another base part. -/
def withAdu (adu : Adu) : RequestObject → RequestObject
  | readCoils request => readCoils { request with toAdu := adu }
  | readDiscreteInputs request => readDiscreteInputs { request with toAdu := adu }
  | readHoldingRegisters request => readHoldingRegisters { request with toAdu := adu }
  | readInputRegisters request => readInputRegisters { request with toAdu := adu }
  | writeSingleCoil request => writeSingleCoil { request with toAdu := adu }
  | writeSingleRegister request => writeSingleRegister { request with toAdu := adu }
  | writeMultipleCoils request => writeMultipleCoils { request with toAdu := adu }
  | writeMultipleRegisters request => writeMultipleRegisters { request with toAdu := adu }
  | maskWriteRegister request => maskWriteRegister { request with toAdu := adu }
  | readWriteMultipleRegisters request =>
      readWriteMultipleRegisters { request with toAdu := adu }

/-- The header that an encoded request has on the wire. -/
def sentHeader (object : RequestObject) : Header :=
  ⟨object.adu.transaction, Adu.calcLength object.dataLength, object.adu.unit⟩

/-- What `encode` leaves: the length of the data is in the header. -/
def measured (object : RequestObject) : RequestObject :=
  object.withAdu { object.adu with length := Adu.calcLength object.dataLength }

/-- As the constructors leave an object: the base part has the function of the
class twice, and the byte count is that of the quantity. -/
structure Constructed (object : RequestObject) : Prop where
  function : object.adu.function = object.classFunction
  functionCode : object.adu.functionCode = object.classFunction.toUnderlying
  byteCount : ∀ request, object = writeMultipleCoils request →
    request.storedByteCount = request.byteCount

/-- The value is on or off, and there are as many values as are to be written. -/
def Exact : RequestObject → Prop
  | writeSingleCoil request => checkBitsValue request.value.toUnderlying = true
  | writeMultipleCoils request => request.values.length = request.count.toNat
  | writeMultipleRegisters request => request.values.length = request.count.toNat
  | readWriteMultipleRegisters request => request.values.length = request.writeCount.toNat
  | _ => True

variable [Struc]

theorem run_encode_measured {object left : RequestObject} {result : Except Exn Packet}
    (encoded : encode.run object = some (result, left)) : left = object.measured := by
  suffices called : ∃ result, encode object = some (result, object.measured) by
    obtain ⟨other, ran⟩ := called
    have same : some (result, left) = some (other, object.measured) :=
      encoded.symm.trans ran
    exact (Prod.mk.inj (Option.some.inj same)).2
  cases object with
  | readCoils request | readDiscreteInputs request =>
      simp [encode, override, Request.BaseReadBits.encode, measured, withAdu, dataLength, adu,
        StructFormat.encode]
  | readHoldingRegisters request | readInputRegisters request =>
      simp [encode, override, Request.BaseReadRegisters.encode, measured, withAdu, dataLength,
        adu, StructFormat.encode]
  | writeSingleCoil request =>
      simp [encode, override, Request.WriteSingleCoil.encode, measured, withAdu, dataLength, adu,
        StructFormat.encode]
  | writeSingleRegister request =>
      simp [encode, override, Request.WriteSingleRegister.encode, measured, withAdu, dataLength,
        adu, StructFormat.encode]
  | maskWriteRegister request =>
      simp [encode, override, Request.MaskWriteRegister.encode, measured, withAdu, dataLength,
        adu, StructFormat.encode]
  | writeMultipleCoils request =>
      by_cases sized : 2 + (2 + ((request.values.length + 7) / 8 + 1)) = request.dataLength.toNat
      all_goals simp [encode, override, Request.WriteMultipleCoils.encode, measured, withAdu,
        dataLength, adu, StructFormat.encode, Adu.headerLength, Code.width, total_iff, sized]
  | writeMultipleRegisters request =>
      by_cases sized : 2 + (2 + (2 * request.values.length + 1)) = request.dataLength.toNat
      all_goals simp [encode, override, Request.WriteMultipleRegisters.encode, measured, withAdu,
        dataLength, adu, StructFormat.encode, Adu.headerLength, Code.width, packRegisters_eq,
        total_iff, sized]
  | readWriteMultipleRegisters request =>
      by_cases sized : 2 + (2 + (2 + (2 + (2 * request.values.length + 1)))) =
        request.dataLength.toNat
      all_goals simp [encode, override, Request.ReadWriteMultipleRegisters.encode, measured,
        withAdu, dataLength, adu, StructFormat.encode, Adu.headerLength, Code.width,
        packRegisters_eq, total_iff, sized]

/-- An encoded request arrives with its header and function, and its body. -/
theorem received_packet {object : RequestObject} (constructed : object.Constructed)
    (behind : Nat → Option UInt8) :
    Received ⟨object.packet, behind⟩ object.sentHeader object.classFunction ∧
      Asks ⟨object.packet, behind⟩ object.classFunction object.body := by
  have front : (ByteBuffer.mk object.packet behind).bytes =
      [] ++ (StructFormat.encode Adu.headerFuncFormat
        (object.adu.transaction, Adu.protocol, Adu.calcLength object.dataLength,
          object.adu.unit, object.adu.functionCode, ()) ++ object.body) := by
    simp only [packet, Adu.headerPacket, Struc.pack_bigEndian, List.nil_append]
  have fields := decode_append front
  rw [constructed.functionCode] at front fields
  have byte : (ByteBuffer.mk object.packet behind).bytes[7]? =
      some object.classFunction.toUnderlying := by
    rw [front]
    rfl
  refine ⟨⟨byte, Adu.protocol, fields⟩, byte, ?_⟩
  rw [front]
  rfl

omit [Struc] in
theorem measured_eq {object : RequestObject} (constructed : object.Constructed) :
    object.measured = object.withAdu (object.sentHeader.adu object.classFunction) := by
  simp only [measured, sentHeader, Header.adu, constructed.function, constructed.functionCode]

section Decoding

omit [Struc]

/-- The member function of a class leaves an object of the class. -/
theorem override_run_iff {σ : Type} {wrap : σ → RequestObject}
    (injective : Function.Injective wrap) {method : Member σ Unit} {object left : σ} :
    override wrap method object = some (.ok (), wrap left) ↔
      method.run object = some (.ok (), left) := by
  constructor
  · intro ran
    obtain ⟨other, inner, same⟩ := exists_run_of_override ran
    rwa [injective same]
  · intro ran
    exact Option.bind_eq_some_iff.mpr ⟨_, ran, rfl⟩

/-- As many values as are asked for, no more and no less. -/
theorem resize_eq_iff {α : Type} {values : List α} {count : Nat} (fill : α) :
    resize values count fill = values ↔ values.length = count := by
  constructor
  · intro same
    rw [← same, length_resize]
  · exact resize_of_length fill

/-- The padding of the last byte is cut off with the right number of bits alone. -/
theorem resize_unpackBits_iff {values : List Bool} {count : Nat} :
    resize (unpackBits (packBits values)) count false = values ↔ values.length = count := by
  constructor
  · intro same
    rw [← same, length_resize]
  · rintro rfl
    exact resize_unpackBits_packBits values

end Decoding

variable {packet : ByteBuffer} {header : Header}

theorem run_decode_readBits {code : FunctionCode} (supported : code ∈ FunctionCode.supported)
    (received : Received packet header code) {request : Request.BaseReadBits code}
    (asks : Asks packet code (wordBytes [request.address, request.count]))
    (fresh : Request.BaseReadBits code) :
    (Request.BaseReadBits.decode packet).run fresh =
      some (.ok (), { request with toAdu := header.adu code }) := by
  rw [Request.BaseReadBits.run_decode received supported, asks.decode_words]
  rfl

theorem run_decode_readRegisters {code : FunctionCode}
    (supported : code ∈ FunctionCode.supported) (received : Received packet header code)
    {request : Request.BaseReadRegisters code}
    (asks : Asks packet code (wordBytes [request.address, request.count]))
    (fresh : Request.BaseReadRegisters code) :
    (Request.BaseReadRegisters.decode packet).run fresh =
      some (.ok (), { request with toAdu := header.adu code }) := by
  rw [Request.BaseReadRegisters.run_decode received supported, asks.decode_words]
  rfl

theorem run_decode_writeSingleCoil_iff {request fresh : Request.WriteSingleCoil}
    (own : fresh.toAdu.function = .writeSingleCoil)
    (received : Received packet header .writeSingleCoil)
    (asks : Asks packet .writeSingleCoil (body (.writeSingleCoil request))) :
    (Request.WriteSingleCoil.decode packet).run fresh =
        some (.ok (), { request with toAdu := header.adu .writeSingleCoil }) ↔
      Exact (.writeSingleCoil request) := by
  rw [Request.WriteSingleCoil.run_decode received fresh own, asks.decode_words, Exact]
  cases checked : checkBitsValue request.value.toUnderlying with
  | true => exact iff_of_true (by simp [checked]) rfl
  | false => simp [checked]

theorem run_decode_writeMultipleCoils_iff {request fresh : Request.WriteMultipleCoils}
    (own : fresh.toAdu.function = .writeMultipleCoils)
    (received : Received packet header .writeMultipleCoils)
    (asks : Asks packet .writeMultipleCoils (body (.writeMultipleCoils request)))
    (stored : request.storedByteCount = request.byteCount) :
    (Request.WriteMultipleCoils.decode packet).run fresh =
        some (.ok (), { request with toAdu := header.adu .writeMultipleCoils }) ↔
      Exact (.writeMultipleCoils request) := by
  have carried : packet.bytes.drop 13 = packBits request.values := asks.drop_counted
  rw [Request.WriteMultipleCoils.run_decode received fresh own, asks.decode_counted, carried]
  simp [Exact, stored, resize_unpackBits_iff]

theorem run_decode_writeMultipleRegisters_iff {request fresh : Request.WriteMultipleRegisters}
    (own : fresh.toAdu.function = .writeMultipleRegisters)
    (received : Received packet header .writeMultipleRegisters)
    (asks : Asks packet .writeMultipleRegisters (body (.writeMultipleRegisters request)))
    (sized : request.values.length = request.count.toNat % 128) :
    (Request.WriteMultipleRegisters.decode packet).run fresh =
        some (.ok (), { request with toAdu := header.adu .writeMultipleRegisters }) ↔
      Exact (.writeMultipleRegisters request) := by
  have words : decodeWords packet.read 13 request.values.length = some request.values :=
    asks.decodeWords_last
  rw [Request.WriteMultipleRegisters.run_decode received fresh own, asks.decode_counted]
  simp [Exact, Request.WriteMultipleRegisters.byteCount, ← sized, words, resize_eq_iff]

theorem run_decode_readWriteMultipleRegisters_iff
    {request fresh : Request.ReadWriteMultipleRegisters}
    (own : fresh.toAdu.function = .readWriteMultipleRegisters)
    (received : Received packet header .readWriteMultipleRegisters)
    (asks : Asks packet .readWriteMultipleRegisters
      (body (.readWriteMultipleRegisters request)))
    (sized : request.values.length = request.writeCount.toNat % 128) :
    (Request.ReadWriteMultipleRegisters.decode packet).run fresh =
        some (.ok (), { request with toAdu := header.adu .readWriteMultipleRegisters }) ↔
      Exact (.readWriteMultipleRegisters request) := by
  have words : decodeWords packet.read 17 request.values.length = some request.values :=
    asks.decodeWords_last
  rw [Request.ReadWriteMultipleRegisters.run_decode received fresh own, asks.decode_counted_four]
  simp [Exact, Request.ReadWriteMultipleRegisters.byteCount, ← sized, words, resize_eq_iff]

/-- Two objects of one class. -/
inductive SameClass : RequestObject → RequestObject → Prop
  | readCoils request fresh : SameClass (readCoils request) (readCoils fresh)
  | readDiscreteInputs request fresh :
      SameClass (readDiscreteInputs request) (readDiscreteInputs fresh)
  | readHoldingRegisters request fresh :
      SameClass (readHoldingRegisters request) (readHoldingRegisters fresh)
  | readInputRegisters request fresh :
      SameClass (readInputRegisters request) (readInputRegisters fresh)
  | writeSingleCoil request fresh : SameClass (writeSingleCoil request) (writeSingleCoil fresh)
  | writeSingleRegister request fresh :
      SameClass (writeSingleRegister request) (writeSingleRegister fresh)
  | writeMultipleCoils request fresh :
      SameClass (writeMultipleCoils request) (writeMultipleCoils fresh)
  | writeMultipleRegisters request fresh :
      SameClass (writeMultipleRegisters request) (writeMultipleRegisters fresh)
  | maskWriteRegister request fresh :
      SameClass (maskWriteRegister request) (maskWriteRegister fresh)
  | readWriteMultipleRegisters request fresh :
      SameClass (readWriteMultipleRegisters request) (readWriteMultipleRegisters fresh)

omit [Struc] in
theorem sameClass_of_classFunction {object fresh : RequestObject}
    (same : fresh.classFunction = object.classFunction) : SameClass object fresh := by
  cases object <;> cases fresh <;>
    first
      | constructor
      | exact absurd same (by simp only [classFunction]; decide)

/-- The server decodes what the client encoded, class by class. -/
theorem decode_iff_exact {object : RequestObject} (constructed : object.Constructed)
    (sized : ¬ object.Missized) (received : Received packet header object.classFunction)
    (asks : Asks packet object.classFunction object.body) {fresh : ClientRequest}
    (same : fresh.function = object.classFunction) :
    (decode packet).run fresh.val =
        some (.ok (), object.withAdu (header.adu object.classFunction)) ↔ object.Exact := by
  rcases fresh with ⟨fresh, own⟩
  have sameClass : SameClass object fresh := sameClass_of_classFunction same
  cases sameClass with
  | readCoils request fresh =>
      refine iff_of_true ((override_run_iff fun _ _ => readCoils.inj).mpr ?_) trivial
      exact run_decode_readBits (classFunction_supported _) received asks fresh
  | readDiscreteInputs request fresh =>
      refine iff_of_true ((override_run_iff fun _ _ => readDiscreteInputs.inj).mpr ?_) trivial
      exact run_decode_readBits (classFunction_supported _) received asks fresh
  | readHoldingRegisters request fresh =>
      refine iff_of_true ((override_run_iff fun _ _ => readHoldingRegisters.inj).mpr ?_) trivial
      exact run_decode_readRegisters (classFunction_supported _) received asks fresh
  | readInputRegisters request fresh =>
      refine iff_of_true ((override_run_iff fun _ _ => readInputRegisters.inj).mpr ?_) trivial
      exact run_decode_readRegisters (classFunction_supported _) received asks fresh
  | writeSingleCoil request fresh =>
      refine (override_run_iff fun _ _ => writeSingleCoil.inj).trans ?_
      exact run_decode_writeSingleCoil_iff own received asks
  | writeSingleRegister request fresh =>
      refine iff_of_true ((override_run_iff fun _ _ => writeSingleRegister.inj).mpr ?_) trivial
      rw [Request.WriteSingleRegister.run_decode received fresh own, asks.decode_words]
      rfl
  | maskWriteRegister request fresh =>
      refine iff_of_true ((override_run_iff fun _ _ => maskWriteRegister.inj).mpr ?_) trivial
      rw [Request.MaskWriteRegister.run_decode received fresh own, asks.decode_three]
      rfl
  | writeMultipleCoils request fresh =>
      refine (override_run_iff fun _ _ => writeMultipleCoils.inj).trans ?_
      exact run_decode_writeMultipleCoils_iff own received asks (constructed.byteCount request rfl)
  | writeMultipleRegisters request fresh =>
      refine (override_run_iff fun _ _ => writeMultipleRegisters.inj).trans ?_
      exact run_decode_writeMultipleRegisters_iff own received asks (not_not.mp sized)
  | readWriteMultipleRegisters request fresh =>
      refine (override_run_iff fun _ _ => readWriteMultipleRegisters.inj).trans ?_
      exact run_decode_readWriteMultipleRegisters_iff own received asks (not_not.mp sized)

/-- A server object of the same class becomes the object that the client was
left with, exactly if that is as its quantity and its value say. -/
theorem decode_encode_iff {object left : RequestObject} (constructed : object.Constructed)
    {sent : Packet} (encoded : encode.run object = some (.ok sent, left))
    {fresh : ClientRequest} (same : fresh.function = object.classFunction)
    (behind : Nat → Option UInt8) :
    (decode ⟨sent, behind⟩).run fresh.val = some (.ok (), left) ↔ object.Exact := by
  obtain ⟨other, ran⟩ := object.run_encode
  have kept := run_encode_measured encoded
  rw [encoded] at ran
  by_cases sized : object.body.length = object.dataLength.toNat
  · rw [if_pos sized] at ran
    obtain rfl := Except.ok.inj (Prod.mk.inj (Option.some.inj ran)).1
    obtain ⟨received, asks⟩ := received_packet constructed behind
    rw [kept, measured_eq constructed]
    exact decode_iff_exact constructed (object.sized_iff.mp sized) received asks same
  · rw [if_neg sized] at ran
    cases (Prod.mk.inj (Option.some.inj ran)).1

/-- Three coils to be written from address 2 on. -/
def threeCoils : RequestObject :=
  .writeMultipleCoils
    { Request.WriteMultipleCoils.new 2 3 [true, false, true] with
      toAdu := (Adu.new .writeMultipleCoils).initializeWith ⟨1, 1⟩ }

omit [Struc] in
theorem decode_encode_iff_threeCoils :
    ((@decode Struc.documented
        ⟨[0, 1, 0, 0, 0, 8, 1, 0x0F, 0, 2, 0, 3, 1, 5], fun _ => none⟩).run
          (.writeMultipleCoils (.new 0 1 [])) = some (.ok (), threeCoils.measured)) ↔
      threeCoils.Exact :=
  @decode_encode_iff Struc.documented threeCoils threeCoils.measured
    ⟨rfl, rfl, by rintro _ ⟨⟩; rfl⟩ _ rfl ⟨.writeMultipleCoils (.new 0 1 []), rfl⟩ rfl
    fun _ => none

end RequestObject

end ModbusCpp
