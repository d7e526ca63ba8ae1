import ModbusCpp.CoilRoundTrips
import ModbusCpp.VirtualMembers

/-!
# Encoded requests

What `encode` makes of a request object.  The checks of the quantities come to
nothing, since the member `validate()` is the one of the base class, so that
only the comparison of sizes at the end can throw.
-/

namespace ModbusCpp

open Method StructFormat

namespace RequestObject

/-- The bytes behind the function byte. -/
def body : RequestObject → Packet
  | readCoils request => wordBytes [request.address, request.count]
  | readDiscreteInputs request => wordBytes [request.address, request.count]
  | readHoldingRegisters request => wordBytes [request.address, request.count]
  | readInputRegisters request => wordBytes [request.address, request.count]
  | writeSingleCoil request => wordBytes [request.address, request.value.toUnderlying]
  | writeSingleRegister request => wordBytes [request.address, request.value]
  | writeMultipleCoils request =>
      wordBytes [request.address, request.count] ++ request.byteCount :: packBits request.values
  | writeMultipleRegisters request =>
      wordBytes [request.address, request.count] ++ request.byteCount :: wordBytes request.values
  | maskWriteRegister request =>
      wordBytes [request.address, request.andMask, request.orMask]
  | readWriteMultipleRegisters request =>
      wordBytes [request.readAddress, request.readCount, request.writeAddress,
        request.writeCount] ++ request.byteCount :: wordBytes request.values

def dataLength : RequestObject → UInt16
  | readCoils _ | readDiscreteInputs _ => Request.BaseReadBits.dataLength
  | readHoldingRegisters _ | readInputRegisters _ => Request.BaseReadRegisters.dataLength
  | writeSingleCoil _ => Request.WriteSingleCoil.dataLength
  | writeSingleRegister _ => Request.WriteSingleRegister.dataLength
  | writeMultipleCoils request => request.dataLength
  | writeMultipleRegisters request => request.dataLength
  | maskWriteRegister _ => Request.MaskWriteRegister.dataLength
  | readWriteMultipleRegisters request => request.dataLength

/-- The packet with these bytes, whose header has the length of the data. -/
def packet [Struc] (object : RequestObject) : Packet :=
  { object.adu with length := Adu.calcLength object.dataLength }.headerPacket ++ object.body

/-- The two sizes that are compared at the end both count the header. -/
theorem total_iff (size expected : Nat) :
    8 + size = expected + 7 + 1 ↔ size = expected := by
  omega

/-- A request is encoded if its bytes have the size that was computed for them. -/
theorem run_encode [Struc] (object : RequestObject) :
    ∃ left, encode.run object = some
      (if object.body.length = object.dataLength.toNat then .ok object.packet
        else .error Exn.badData, left) := by
  suffices called : ∃ left, encode object = some
      (if object.body.length = object.dataLength.toNat then .ok object.packet
        else .error Exn.badData, left) from called
  cases object with
  | readCoils request | readDiscreteInputs request =>
      have sized : 4 = Request.BaseReadBits.dataLength.toNat := rfl
      simp [encode, override, Request.BaseReadBits.encode, packet, body, dataLength, adu,
        StructFormat.encode, Code.width, ← sized]
  | readHoldingRegisters request | readInputRegisters request =>
      have sized : 4 = Request.BaseReadRegisters.dataLength.toNat := rfl
      simp [encode, override, Request.BaseReadRegisters.encode, packet, body, dataLength, adu,
        StructFormat.encode, Code.width, ← sized]
  | writeSingleCoil request =>
      have sized : 4 = Request.WriteSingleCoil.dataLength.toNat := rfl
      simp [encode, override, Request.WriteSingleCoil.encode, packet, body, dataLength, adu,
        StructFormat.encode, Code.width, ← sized]
  | writeSingleRegister request =>
      have sized : 4 = Request.WriteSingleRegister.dataLength.toNat := rfl
      simp [encode, override, Request.WriteSingleRegister.encode, packet, body, dataLength, adu,
        StructFormat.encode, Code.width, ← sized]
  | maskWriteRegister request =>
      have sized : 6 = Request.MaskWriteRegister.dataLength.toNat := rfl
      simp [encode, override, Request.MaskWriteRegister.encode, packet, body, dataLength, adu,
        StructFormat.encode, Code.width, ← sized]
  | writeMultipleCoils request =>
      by_cases sized : 2 + (2 + ((request.values.length + 7) / 8 + 1)) = request.dataLength.toNat
      all_goals simp [encode, override, Request.WriteMultipleCoils.encode, packet, body,
        dataLength, adu, StructFormat.encode, Adu.headerLength, Code.width, total_iff, sized]
  | writeMultipleRegisters request =>
      by_cases sized : 2 + (2 + (2 * request.values.length + 1)) = request.dataLength.toNat
      all_goals simp [encode, override, Request.WriteMultipleRegisters.encode, packet, body,
        dataLength, adu, StructFormat.encode, Adu.headerLength, Code.width, packRegisters_eq,
        total_iff, sized]
  | readWriteMultipleRegisters request =>
      by_cases sized : 2 + (2 + (2 + (2 + (2 * request.values.length + 1)))) =
        request.dataLength.toNat
      all_goals simp [encode, override, Request.ReadWriteMultipleRegisters.encode, packet, body,
        dataLength, adu, StructFormat.encode, Adu.headerLength, Code.width, packRegisters_eq,
        total_iff, sized]

/-- The quantities are within the limits of their types, and there are as many
values as are to be written. -/
def Declared : RequestObject → Prop
  | readCoils request => NumBits.validate false request.count = true
  | readDiscreteInputs request => NumBits.validate false request.count = true
  | readHoldingRegisters request => NumRegs.validate false request.count = true
  | readInputRegisters request => NumRegs.validate false request.count = true
  | writeSingleCoil _ | writeSingleRegister _ | maskWriteRegister _ => True
  | writeMultipleCoils request =>
      NumBits.validate true request.count = true ∧ request.values.length = request.count.toNat
  | writeMultipleRegisters request =>
      NumRegs.validate true request.count = true ∧ request.values.length = request.count.toNat
  | readWriteMultipleRegisters request =>
      NumRegs.validate false request.readCount = true ∧
        NumRegs.validate true request.writeCount = true ∧
          request.values.length = request.writeCount.toNat

/-- The values do not fill the bytes that are counted for them: a byte count has
eight bits. -/
def Missized : RequestObject → Prop
  | writeMultipleCoils request =>
      (request.values.length + 7) / 8 ≠ request.storedByteCount.toNat
  | writeMultipleRegisters request => request.values.length ≠ request.count.toNat % 128
  | readWriteMultipleRegisters request => request.values.length ≠ request.writeCount.toNat % 128
  | _ => False

theorem sized_iff (object : RequestObject) :
    object.body.length = object.dataLength.toNat ↔ ¬ object.Missized := by
  cases object with
  | writeMultipleCoils request =>
      have bounded := request.storedByteCount.toNat_lt
      have counted : request.dataLength.toNat = 5 + request.storedByteCount.toNat := by
        simp [Request.WriteMultipleCoils.dataLength]
        omega
      simp only [body, dataLength, Missized, counted, List.length_append, length_wordBytes,
        List.length_cons, List.length_nil, length_packBits]
      omega
  | writeMultipleRegisters request =>
      have counted : request.dataLength.toNat = 5 + 2 * (request.count.toNat % 128) := by
        simp [Request.WriteMultipleRegisters.dataLength,
          Request.WriteMultipleRegisters.byteCount]
        omega
      simp only [body, dataLength, Missized, counted, List.length_append, length_wordBytes,
        List.length_cons, List.length_nil]
      omega
  | readWriteMultipleRegisters request =>
      have counted : request.dataLength.toNat = 9 + 2 * (request.writeCount.toNat % 128) := by
        simp [Request.ReadWriteMultipleRegisters.dataLength,
          Request.ReadWriteMultipleRegisters.byteCount]
        omega
      simp only [body, dataLength, Missized, counted, List.length_append, length_wordBytes,
        List.length_cons, List.length_nil]
      omega
  | _ => exact iff_of_true (by simp [body, dataLength]; rfl) not_false

/-- A request that is not as its types declare is refused with `bad_data`. -/
def RefusesInvalid [Struc] (object : RequestObject) : Prop :=
  ∃ result left, encode.run object = some (result, left) ∧
    (¬ object.Declared → result = .error Exn.badData)

/-- Only the sizes are checked, so that a request is refused if they differ and for
no other reason. -/
theorem refusesInvalid_iff [Struc] (object : RequestObject) :
    object.RefusesInvalid ↔ object.Declared ∨ object.Missized := by
  obtain ⟨left, encoded⟩ := object.run_encode
  have sized := object.sized_iff
  constructor
  · rintro ⟨result, _, ran, refuses⟩
    by_contra neither
    rw [not_or] at neither
    rw [encoded, if_pos (sized.mpr neither.2)] at ran
    obtain ⟨rfl, -⟩ := Prod.mk.inj (Option.some.inj ran)
    cases refuses neither.1
  · intro either
    refine ⟨_, left, encoded, fun invalid => ?_⟩
    exact if_neg fun fits => sized.mp fits (either.resolve_left invalid)

/-- A read of no coils is encoded. -/
theorem not_refusesInvalid_zero :
    ¬ @RefusesInvalid Struc.documented (.readCoils (.new 0 0)) := by
  rintro ⟨result, left, ran, refuses⟩
  have encoded : ((@encode Struc.documented).run (.readCoils (.new 0 0))).map Prod.fst =
      some (.ok [0, 0, 0, 0, 0, 6, 0, 1, 0, 0, 0, 0]) := rfl
  rw [ran] at encoded
  obtain rfl := Option.some.inj encoded
  cases refuses (show ¬ NumBits.validate false 0 = true by decide)

/-- What is encoded fits an ADU, and its header counts the bytes from the unit on. -/
def FitsAdu [Struc] (object : RequestObject) : Prop :=
  ∀ packet left, encode.run object = some (.ok packet, left) →
    packet.length ≤ maxAduLength ∧
      ∃ length, StructFormat.decode (ByteBuffer.guarded packet).read 4 [.H] = some (length, ()) ∧
        length.toNat = packet.length - 6

theorem length_packet [Struc] (object : RequestObject) :
    object.packet.length = 8 + object.body.length := by
  simp [packet]

/-- The length field is read back from behind the transaction and the protocol. -/
theorem decode_length [Struc] (object : RequestObject) :
    StructFormat.decode (ByteBuffer.guarded object.packet).read 4 [.H] =
      some (Adu.calcLength object.dataLength, ()) := by
  have layout : (ByteBuffer.guarded object.packet).bytes =
      wordBytes [object.adu.transaction, Adu.protocol] ++
        (StructFormat.encode [.H] (Adu.calcLength object.dataLength, ()) ++
          (object.adu.unit :: object.adu.functionCode :: object.body)) := by
    simp [ByteBuffer.guarded, packet, Adu.headerPacket, StructFormat.encode]
  exact decode_append layout

/-- With declared quantities the bytes behind the function are few enough, unless
more than 121 registers are written beside a read. -/
theorem body_le_iff {object : RequestObject} (declared : object.Declared) :
    object.body.length ≤ 252 ↔
      ∀ request, object = .readWriteMultipleRegisters request →
        request.writeCount.toNat ≤ 121 := by
  cases object with
  | writeMultipleCoils request =>
      rcases declared with ⟨valid, counted⟩
      have bound := (NumBits.validate_write_iff request.count).mp valid
      refine iff_of_true ?_ (by rintro _ ⟨⟩)
      simp only [body, List.length_append, length_wordBytes, List.length_cons, List.length_nil,
        length_packBits, counted]
      omega
  | writeMultipleRegisters request =>
      rcases declared with ⟨valid, counted⟩
      have bound := (NumRegs.validate_write_iff request.count).mp valid
      refine iff_of_true ?_ (by rintro _ ⟨⟩)
      simp only [body, List.length_append, length_wordBytes, List.length_cons, List.length_nil,
        counted]
      omega
  | readWriteMultipleRegisters request =>
      rcases declared with ⟨-, -, counted⟩
      simp only [body, List.length_append, length_wordBytes, List.length_cons, List.length_nil,
        counted]
      constructor
      · rintro short _ ⟨⟩
        omega
      · intro few
        have bound := few request rfl
        omega
  | _ => exact iff_of_true (by simp [body, Code.width]) (by rintro _ ⟨⟩)

/-- A declared request for both is always encoded. -/
theorem not_missized_readWriteMultipleRegisters
    {request : Request.ReadWriteMultipleRegisters}
    (declared : (readWriteMultipleRegisters request).Declared) :
    ¬ (readWriteMultipleRegisters request).Missized := by
  rcases declared with ⟨-, valid, counted⟩
  have bound := (NumRegs.validate_write_iff request.writeCount).mp valid
  simp only [Missized, counted]
  omega

theorem FitsAdu.short [Struc] {object : RequestObject} (fits : object.FitsAdu)
    (sized : ¬ object.Missized) : object.body.length ≤ 252 := by
  obtain ⟨left, encoded⟩ := object.run_encode
  rw [if_pos (object.sized_iff.mpr sized)] at encoded
  have short := (fits _ _ encoded).1
  rw [length_packet, maxAduLength] at short
  omega

theorem fitsAdu_iff [Struc] {object : RequestObject} (declared : object.Declared) :
    object.FitsAdu ↔ ∀ request, object = .readWriteMultipleRegisters request →
      request.writeCount.toNat ≤ 121 := by
  constructor
  · rintro fits request rfl
    exact (body_le_iff declared).mp
      (fits.short (not_missized_readWriteMultipleRegisters declared)) request rfl
  · intro few packet last ran
    have short := (body_le_iff declared).mpr few
    obtain ⟨left, encoded⟩ := object.run_encode
    by_cases sized : object.body.length = object.dataLength.toNat
    · rw [encoded, if_pos sized] at ran
      obtain ⟨same, -⟩ := Prod.mk.inj (Option.some.inj ran)
      obtain rfl := Except.ok.inj same
      refine ⟨by rw [length_packet, maxAduLength]; omega, _, object.decode_length, ?_⟩
      have small : object.dataLength.toNat ≤ 252 := by omega
      rw [length_packet, sized]
      simp [Adu.calcLength]
      omega
    · rw [encoded, if_neg sized] at ran
      obtain ⟨wrong, -⟩ := Prod.mk.inj (Option.some.inj ran)
      cases wrong

/-- The largest write beside a read that fits. -/
theorem fitsAdu_largest :
    @FitsAdu Struc.documented
      (.readWriteMultipleRegisters (.new 0 1 0 121 (List.replicate 121 0))) :=
  (@fitsAdu_iff Struc.documented
    (.readWriteMultipleRegisters (.new 0 1 0 121 (List.replicate 121 0)))
    ⟨by decide, by decide, List.length_replicate⟩).mpr (by rintro _ ⟨⟩; decide)

/-- One register more makes 261 bytes. -/
theorem not_fitsAdu_larger :
    ¬ @FitsAdu Struc.documented
      (.readWriteMultipleRegisters (.new 0 1 0 122 (List.replicate 122 0))) := by
  intro fits
  have short := @FitsAdu.short Struc.documented _ fits
    (not_missized_readWriteMultipleRegisters
      ⟨by decide, by decide, List.length_replicate⟩)
  simp [body, Code.width, Request.ReadWriteMultipleRegisters.new] at short

end RequestObject

end ModbusCpp
