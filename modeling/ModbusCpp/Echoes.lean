import ModbusCpp.ReplyPayloads
import ModbusCpp.VirtualMembers

/-!
# Echoed replies

The replies to five of the requests repeat fields of the request.  Four classes
accept a reply exactly if it does so; `write_single_coil` joins two conditions
with the wrong connective and accepts any word that is no coil value.
-/

namespace ModbusCpp

open Method StructFormat

section Words

variable {bytes : Packet}

/-- A packet of this size carries two words, and is read as them. -/
theorem exists_twoWords (sized : bytes.length = 12) :
    ∃ first second,
      (∀ one other, bytes.drop 8 = wordBytes [one, other] ↔ one = first ∧ other = second) ∧
        decode (ByteBuffer.guarded bytes).read 8 [.H, .H] = some (first, second, ()) := by
  obtain ⟨values, counted, layout, dropped⟩ := @exists_payload_words bytes 2 sized
  obtain ⟨first, second, rfl⟩ := List.length_eq_two.mp counted
  refine ⟨first, second, fun one other => ?_, ?_⟩
  · rw [dropped, wordBytes_inj]
    simp [eq_comm]
  · have before : (bytes.take 8).length = 8 := by simp [sized]
    have decoded := @decode_append (ByteBuffer.guarded bytes) (bytes.take 8) [] [.H, .H]
      (first, second, ()) layout
    rwa [before] at decoded

theorem exists_threeWords (sized : bytes.length = 14) :
    ∃ first second third,
      (∀ one other last, bytes.drop 8 = wordBytes [one, other, last] ↔
        one = first ∧ other = second ∧ last = third) ∧
        decode (ByteBuffer.guarded bytes).read 8 [.H, .H, .H] =
          some (first, second, third, ()) := by
  obtain ⟨values, counted, layout, dropped⟩ := @exists_payload_words bytes 3 sized
  obtain ⟨first, second, third, rfl⟩ := List.length_eq_three.mp counted
  refine ⟨first, second, third, fun one other last => ?_, ?_⟩
  · rw [dropped, wordBytes_inj]
    simp [eq_comm]
  · have before : (bytes.take 8).length = 8 := by simp [sized]
    have decoded := @decode_append (ByteBuffer.guarded bytes) (bytes.take 8) [] [.H, .H, .H]
      (first, second, third, ()) layout
    rwa [before] at decoded

end Words

namespace Response

variable [Struc] {bytes : Packet}

/-- The word behind the address is only compared with the request if it is one
of the two values of a coil. -/
theorem WriteSingleCoil.decodePassed_decides (base : Response)
    (request : Request.WriteSingleCoil) :
    DecidedBy (decodePassed (ByteBuffer.guarded bytes)) Exn.badData
      (fun self : WriteSingleCoil => (self.toResponse, self.request)) (base, request)
      (bytes.length = request.responseSize ∧
        ∃ value, bytes.drop 8 = wordBytes [request.address, value] ∧
          ¬ (request.value.toUnderlying ≠ value ∧ checkBitsValue value = true)) := by
  refine .check ?_ fun sized => ?_
  · rintro unsized self ⟨⟩
    simp [decodePassed, decodingPassed, unsized]
  obtain ⟨address, value, carries, decoded⟩ := exists_twoWords sized
  have echoed : (∃ word, bytes.drop 8 = wordBytes [request.address, word] ∧
      ¬ (request.value.toUnderlying ≠ word ∧ checkBitsValue word = true)) ↔
        request.address = address ∧
          ¬ (request.value.toUnderlying ≠ value ∧ checkBitsValue value = true) := by
    simp only [carries]
    constructor
    · rintro ⟨_, ⟨rfl, rfl⟩, passes⟩
      exact ⟨rfl, passes⟩
    · rintro ⟨rfl, passes⟩
      exact ⟨value, ⟨rfl, rfl⟩, passes⟩
  refine .congr (.check ?_ fun sameAddress => ⟨?_, ?_⟩) echoed
  · rintro otherAddress self ⟨⟩
    simp [decodePassed, decodingPassed, ← sized, Adu.headerLength, decoded, otherAddress]
  · rintro refused self ⟨⟩
    have otherCoil := not_not.mp refused
    simp [decodePassed, decodingPassed, ← sized, Adu.headerLength, decoded, sameAddress,
      otherCoil.1, otherCoil.2]
  · intro passes
    refine ⟨⟨base, request, ⟨value⟩⟩, rfl, ?_⟩
    rintro self ⟨⟩
    simp only [ne_eq] at passes
    simp [decodePassed, decodingPassed, ← sized, Adu.headerLength, decoded, sameAddress, passes]

theorem WriteSingleRegister.decodePassed_decides (base : Response)
    (request : Request.WriteSingleRegister) :
    DecidedBy (decodePassed (ByteBuffer.guarded bytes)) Exn.badData
      (fun self : WriteSingleRegister => (self.toResponse, self.request)) (base, request)
      (bytes.length = request.responseSize ∧
        bytes.drop 8 = wordBytes [request.address, request.value]) := by
  refine .check ?_ fun sized => ?_
  · rintro unsized self ⟨⟩
    simp [decodePassed, decodingPassed, unsized]
  obtain ⟨address, value, carries, decoded⟩ := exists_twoWords sized
  refine .congr (.check ?_ fun sameAddress => ⟨?_, ?_⟩) (carries _ _)
  · rintro otherAddress self ⟨⟩
    simp [decodePassed, decodingPassed, ← sized, Adu.headerLength, decoded, otherAddress]
  · rintro otherValue self ⟨⟩
    simp [decodePassed, decodingPassed, ← sized, Adu.headerLength, decoded, sameAddress,
      otherValue]
  · intro sameValue
    refine ⟨⟨base, request, request.address, request.value⟩, rfl, ?_⟩
    rintro self ⟨⟩
    simp [decodePassed, decodingPassed, ← sized, Adu.headerLength, decoded, sameAddress,
      sameValue]

theorem WriteMultipleCoils.decodePassed_decides (base : Response)
    (request : Request.WriteMultipleCoils) :
    DecidedBy (decodePassed (ByteBuffer.guarded bytes)) Exn.badData
      (fun self : WriteMultipleCoils => (self.toResponse, self.request)) (base, request)
      (bytes.length = request.responseSize ∧
        bytes.drop 8 = wordBytes [request.address, request.count]) := by
  refine .check ?_ fun sized => ?_
  · rintro unsized self ⟨⟩
    simp [decodePassed, decodingPassed, unsized]
  obtain ⟨address, count, carries, decoded⟩ := exists_twoWords sized
  refine .congr (.check ?_ fun sameAddress => ⟨?_, ?_⟩) (carries _ _)
  · rintro otherAddress self ⟨⟩
    simp [decodePassed, decodingPassed, ← sized, Adu.headerLength, decoded, otherAddress]
  · rintro otherCount self ⟨⟩
    simp [decodePassed, decodingPassed, ← sized, Adu.headerLength, decoded, sameAddress,
      otherCount]
  · intro sameCount
    refine ⟨⟨base, request, address, count⟩, rfl, ?_⟩
    rintro self ⟨⟩
    simp [decodePassed, decodingPassed, ← sized, Adu.headerLength, decoded, sameAddress,
      sameCount]

theorem WriteMultipleRegisters.decodePassed_decides (base : Response)
    (request : Request.WriteMultipleRegisters) :
    DecidedBy (decodePassed (ByteBuffer.guarded bytes)) Exn.badData
      (fun self : WriteMultipleRegisters => (self.toResponse, self.request)) (base, request)
      (bytes.length = request.responseSize ∧
        bytes.drop 8 = wordBytes [request.address, request.count]) := by
  refine .check ?_ fun sized => ?_
  · rintro unsized self ⟨⟩
    simp [decodePassed, decodingPassed, unsized]
  obtain ⟨address, count, carries, decoded⟩ := exists_twoWords sized
  refine .congr (.check ?_ fun sameAddress => ⟨?_, ?_⟩) (carries _ _)
  · rintro otherAddress self ⟨⟩
    simp [decodePassed, decodingPassed, ← sized, Adu.headerLength, decoded, otherAddress]
  · rintro otherCount self ⟨⟩
    simp [decodePassed, decodingPassed, ← sized, Adu.headerLength, decoded, sameAddress,
      otherCount]
  · intro sameCount
    refine ⟨⟨base, request, address, count⟩, rfl, ?_⟩
    rintro self ⟨⟩
    simp [decodePassed, decodingPassed, ← sized, Adu.headerLength, decoded, sameAddress,
      sameCount]

theorem MaskWriteRegister.decodePassed_decides (base : Response)
    (request : Request.MaskWriteRegister) :
    DecidedBy (decodePassed (ByteBuffer.guarded bytes)) Exn.badData
      (fun self : MaskWriteRegister => (self.toResponse, self.request)) (base, request)
      (bytes.length = request.responseSize ∧
        bytes.drop 8 = wordBytes [request.address, request.andMask, request.orMask]) := by
  refine .check ?_ fun sized => ?_
  · rintro unsized self ⟨⟩
    simp [decodePassed, decodingPassed, unsized]
  obtain ⟨address, andMask, orMask, carries, decoded⟩ := exists_threeWords sized
  refine .congr (.check ?_ fun sameAddress => .check ?_ fun sameAnd => ⟨?_, ?_⟩)
    (carries _ _ _)
  · rintro otherAddress self ⟨⟩
    simp [decodePassed, decodingPassed, ← sized, Adu.headerLength, decoded, otherAddress]
  · rintro otherAnd self ⟨⟩
    simp [decodePassed, decodingPassed, ← sized, Adu.headerLength, decoded, sameAddress,
      otherAnd]
  · rintro otherOr self ⟨⟩
    simp [decodePassed, decodingPassed, ← sized, Adu.headerLength, decoded, sameAddress,
      sameAnd, otherOr]
  · intro sameOr
    refine ⟨⟨base, request, request.address, request.andMask, request.orMask⟩, rfl, ?_⟩
    rintro self ⟨⟩
    simp [decodePassed, decodingPassed, ← sized, Adu.headerLength, decoded, sameAddress,
      sameAnd, sameOr]

end Response

/-- The fields of its request that a reply repeats, for the five classes that
compare them. -/
def ResponseObject.echoed : ResponseObject → Option (List UInt16)
  | writeSingleCoil response =>
      some [response.request.address, response.request.value.toUnderlying]
  | writeSingleRegister response => some [response.request.address, response.request.value]
  | writeMultipleCoils response => some [response.request.address, response.request.count]
  | writeMultipleRegisters response => some [response.request.address, response.request.count]
  | maskWriteRegister response =>
      some [response.request.address, response.request.andMask, response.request.orMask]
  | _ => none

/-- What is accepted of a packet on its own: the expected size, and behind the
function byte these words. -/
def Echoes (request : RequestObject) (bytes : Packet) (fields : List UInt16) : Prop :=
  bytes.length = request.responseSize ∧ bytes.drop 8 = wordBytes fields

theorem checkBitsValue_iff (value : UInt16) :
    checkBitsValue value = true ↔ value = 0x0000 ∨ value = 0xFF00 := by
  simp [checkBitsValue]

theorem run_override_of_decides {σ κ : Type} (wrap : σ → ResponseObject)
    {method : Member σ Unit} {kept : σ → κ} {self : σ} {accepts : Prop}
    (decides : DecidedBy method Exn.badData kept (kept self) accepts) :
    ∃ result left, override wrap method self = some (result, left) ∧
      (accepts ∧ result = .ok () ∨ ¬ accepts ∧ result = .error Exn.badData) := by
  obtain ⟨result, left, ran, -, outcome⟩ := decides.exists_run
  exact ⟨result, wrap left, by simp [override, ran], outcome⟩

section Accepting

variable [Struc]

/-- A packet is accepted exactly if it echoes these fields, and any other throws
`bad_data`. -/
def AcceptsEcho (object : ResponseObject) (bytes : Packet) (fields : List UInt16) : Prop :=
  ∃ result left,
    (ResponseObject.decodePassed (ByteBuffer.guarded bytes)).run object = some (result, left) ∧
      (Echoes object.request bytes fields ∧ result = .ok () ∨
        ¬ Echoes object.request bytes fields ∧ result = .error Exn.badData)

/-- A reply to `write_single_coil` with the address of the request, and a word
that is neither the request's nor any value of a coil. -/
def CarriesNoCoil (object : ResponseObject) (bytes : Packet) : Prop :=
  ∃ response value, object = .writeSingleCoil response ∧
    Echoes object.request bytes [response.request.address, value] ∧
      value ≠ response.request.value.toUnderlying ∧ value ≠ 0x0000 ∧ value ≠ 0xFF00

/-- A class that compares its fields one by one accepts their echo alone. -/
theorem acceptsEcho_of_decides {σ κ : Type} {wrap : σ → ResponseObject}
    {method : ByteBuffer → Member σ Unit} {kept : σ → κ} {self : σ} {bytes : Packet}
    {fields : List UInt16}
    (called : ResponseObject.decodePassed (ByteBuffer.guarded bytes) (wrap self) =
      override wrap (method (ByteBuffer.guarded bytes)) self)
    (decides : DecidedBy (method (ByteBuffer.guarded bytes)) Exn.badData kept (kept self)
      (Echoes (wrap self).request bytes fields))
    (other : ∀ response, wrap self ≠ .writeSingleCoil response) :
    AcceptsEcho (wrap self) bytes fields ↔ ¬ CarriesNoCoil (wrap self) bytes := by
  constructor
  · rintro - ⟨response, value, single, -⟩
    exact other response single
  · rintro -
    obtain ⟨result, left, ran, outcome⟩ := run_override_of_decides wrap decides
    exact ⟨result, left, called.trans ran, outcome⟩

omit [Struc] in
/-- `write_single_coil` accepts the echo, and beside it what carries no coil value. -/
theorem accepts_writeSingleCoil_iff (response : Response.WriteSingleCoil) (bytes : Packet) :
    (bytes.length = response.request.responseSize ∧
        ∃ value, bytes.drop 8 = wordBytes [response.request.address, value] ∧
          ¬ (response.request.value.toUnderlying ≠ value ∧ checkBitsValue value = true)) ↔
      Echoes (.writeSingleCoil response.request) bytes
          [response.request.address, response.request.value.toUnderlying] ∨
        CarriesNoCoil (.writeSingleCoil response) bytes := by
  constructor
  · rintro ⟨sized, value, dropped, passes⟩
    by_cases same : response.request.value.toUnderlying = value
    · left
      rw [same]
      exact ⟨sized, dropped⟩
    · right
      have noCoil : ¬ (value = 0x0000 ∨ value = 0xFF00) := fun coil =>
        passes ⟨same, (checkBitsValue_iff value).mpr coil⟩
      exact ⟨response, value, rfl, ⟨sized, dropped⟩, Ne.symm same, not_or.mp noCoil⟩
  · rintro (⟨sized, dropped⟩ | ⟨_, value, ⟨⟩, ⟨sized, dropped⟩, -, notOff, notOn⟩)
    · exact ⟨sized, _, dropped, fun other => other.1 rfl⟩
    · refine ⟨sized, value, dropped, ?_⟩
      rintro ⟨-, coil⟩
      rcases (checkBitsValue_iff value).mp coil with off | on
      · exact notOff off
      · exact notOn on

omit [Struc] in
theorem CarriesNoCoil.not_echoes {response : Response.WriteSingleCoil} {bytes : Packet}
    (carries : CarriesNoCoil (.writeSingleCoil response) bytes) :
    ¬ Echoes (.writeSingleCoil response.request) bytes
        [response.request.address, response.request.value.toUnderlying] := by
  rcases carries with ⟨_, value, ⟨⟩, ⟨-, dropped⟩, other, -⟩
  rintro ⟨-, same⟩
  rw [dropped, wordBytes_inj] at same
  simp only [List.cons.injEq, and_true, true_and] at same
  exact other same

theorem acceptsEcho_writeSingleCoil (response : Response.WriteSingleCoil) (bytes : Packet) :
    AcceptsEcho (.writeSingleCoil response) bytes
        [response.request.address, response.request.value.toUnderlying] ↔
      ¬ CarriesNoCoil (.writeSingleCoil response) bytes := by
  have decides := @Response.WriteSingleCoil.decodePassed_decides _ bytes response.toResponse
    response.request
  obtain ⟨result, left, ran, outcome⟩ :=
    run_override_of_decides ResponseObject.writeSingleCoil decides
  have called : (ResponseObject.decodePassed (ByteBuffer.guarded bytes)).run
      (.writeSingleCoil response) = some (result, left) := ran
  rw [accepts_writeSingleCoil_iff] at outcome
  constructor
  · rintro ⟨_, _, again, exactly⟩ carries
    obtain ⟨rfl, rfl⟩ := Prod.mk.inj (Option.some.inj (called.symm.trans again))
    obtain ⟨-, rfl⟩ := outcome.resolve_right fun refused => refused.1 (.inr carries)
    rcases exactly with ⟨echoes, -⟩ | ⟨-, wrong⟩
    · exact carries.not_echoes echoes
    · cases wrong
  · intro coils
    refine ⟨result, left, called, ?_⟩
    rcases outcome with ⟨accepted, returned⟩ | ⟨refused, thrown⟩
    · exact .inl ⟨accepted.resolve_right coils, returned⟩
    · exact .inr ⟨fun echoes => refused (.inl echoes), thrown⟩

/-- The five classes accept the echo of their request and nothing else, but for
the word that takes the place of a coil. -/
theorem acceptsEcho_iff (object : ResponseObject) (bytes : Packet) {fields : List UInt16}
    (echoed : object.echoed = some fields) :
    AcceptsEcho object bytes fields ↔ ¬ CarriesNoCoil object bytes := by
  cases object with
  | writeSingleCoil response =>
      obtain rfl := Option.some.inj echoed
      exact acceptsEcho_writeSingleCoil response bytes
  | writeSingleRegister response =>
      obtain rfl := Option.some.inj echoed
      exact acceptsEcho_of_decides rfl
        (Response.WriteSingleRegister.decodePassed_decides _ response.request) nofun
  | writeMultipleCoils response =>
      obtain rfl := Option.some.inj echoed
      exact acceptsEcho_of_decides rfl
        (Response.WriteMultipleCoils.decodePassed_decides _ response.request) nofun
  | writeMultipleRegisters response =>
      obtain rfl := Option.some.inj echoed
      exact acceptsEcho_of_decides rfl
        (Response.WriteMultipleRegisters.decodePassed_decides _ response.request) nofun
  | maskWriteRegister response =>
      obtain rfl := Option.some.inj echoed
      exact acceptsEcho_of_decides rfl
        (Response.MaskWriteRegister.decodePassed_decides _ response.request) nofun
  | _ => cases echoed

end Accepting

theorem acceptsEcho_register :
    @AcceptsEcho Struc.documented
      (.writeSingleRegister (.new (Request.WriteSingleRegister.new 3 7)))
      [0, 0, 0, 0, 0, 6, 0, 0x06, 0, 3, 0, 7] [3, 7] :=
  (@acceptsEcho_iff Struc.documented _ _ _ rfl).mpr (by rintro ⟨_, _, ⟨⟩, _⟩)

/-- The coil was to be switched on, and the reply carries `0x1234`. -/
theorem not_acceptsEcho_word :
    ¬ @AcceptsEcho Struc.documented
      (.writeSingleCoil (.new (Request.WriteSingleCoil.new 0 .on)))
      [0, 0, 0, 0, 0, 6, 0, 0x05, 0, 0, 0x12, 0x34] [0, 0xFF00] := by
  rintro ⟨result, left, ran, exactly⟩
  have returned : ((@ResponseObject.decodePassed Struc.documented (ByteBuffer.guarded
      [0, 0, 0, 0, 0, 6, 0, 0x05, 0, 0, 0x12, 0x34])).run
        (.writeSingleCoil (.new (Request.WriteSingleCoil.new 0 .on)))).map Prod.fst =
          some (.ok ()) := rfl
  rw [ran] at returned
  obtain rfl := Option.some.inj returned
  rcases exactly with ⟨⟨-, same⟩, -⟩ | ⟨-, wrong⟩
  · exact absurd same (by decide)
  · cases wrong

end ModbusCpp
