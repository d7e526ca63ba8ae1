import ModbusCpp.RequestProcessing
import ModbusCpp.ReadRoundTrips

/-!
# Payloads of replies

What `decode_passed` of each class makes of a packet.  It is decided by the
base part of the object and its request: the function returns and leaves one
object, or it throws `bad_data`, and never reads outside the packet.
-/

namespace ModbusCpp

open Method StructFormat

section Reading

variable {bytes : Packet}

theorem exists_read {index : Nat} (inside : index < bytes.length) :
    ∃ byte, (ByteBuffer.guarded bytes).read index = some byte ∧ bytes[index]? = some byte := by
  refine ⟨bytes[index], ?_, List.getElem?_eq_getElem inside⟩
  rw [ByteBuffer.read_of_lt (by simpa using inside)]
  exact List.getElem?_eq_getElem inside

/-- The bytes behind the function byte, as words. -/
theorem exists_payload_words {count : Nat} (sized : bytes.length = 8 + 2 * count) :
    ∃ values, values.length = count ∧ bytes = bytes.take 8 ++ (wordBytes values ++ []) ∧
      bytes.drop 8 = wordBytes values := by
  have long : 2 * count ≤ (bytes.drop 8).length := by
    rw [List.length_drop]
    omega
  obtain ⟨values, rest, counted, split⟩ := exists_wordBytes long
  have nothing : rest = [] := by
    have total := congrArg List.length split
    simp only [List.length_drop, List.length_append, length_wordBytes, counted] at total
    exact List.eq_nil_of_length_eq_zero (by omega)
  rw [nothing, List.append_nil] at split
  refine ⟨values, counted, ?_, split⟩
  rw [List.append_nil, ← split, List.take_append_drop]

/-- The registers behind a byte count that all bytes are counted by. -/
theorem exists_unpackRegisters [Struc] {count size : Nat}
    (whole : bytes.length = 9 + 2 * count) (sized : size = 2 * count) :
    ∃ values, unpackRegisters (ByteBuffer.guarded bytes) 9 size = some values ∧
      values.length = count := by
  obtain ⟨values, read⟩ := Option.isSome_iff_exists.mp
    ((decodeWords_guarded_isSome_iff (by omega) _).mpr (Nat.le_of_eq whole.symm))
  refine ⟨values, ?_, length_of_decodeWords read⟩
  rw [sized, unpackRegisters_eq, read]

end Reading

theorem Request.ReadWriteMultipleRegisters.responseSize_eq
    (request : ReadWriteMultipleRegisters) :
    request.responseSize = 9 + 2 * (request.readCount.toNat % 128) := by
  simp only [responseSize, Adu.calcAduLength, Adu.headerLength]
  simp
  omega

namespace Response

variable {bytes : Packet}

theorem BaseReadBits.decodePassed_decides {code : FunctionCode} (base : Response)
    (request : Request.BaseReadBits code) :
    DecidedBy (decodePassed (ByteBuffer.guarded bytes)) Exn.badData
      (fun self : BaseReadBits code => (self.toResponse, self.request)) (base, request)
      (bytes.length = request.responseSize ∧
        (∃ byte, bytes[8]? = some byte ∧ byte.toInt8.toInt16.toUInt16 = request.count) ∧
          8 * (bytes.length - 9) = request.count.toNat) := by
  have rest : AddressMap.slice (ByteBuffer.guarded bytes).read 9 (bytes.length - 9) =
      some (bytes.drop 9) := ByteBuffer.slice_read_drop (ByteBuffer.guarded bytes) 9
  have unpacked : (unpackBits (bytes.drop 9)).length = 8 * (bytes.length - 9) := by
    rw [unpackBits_eq, BitString.length_bits, List.length_drop]
  refine .check ?_ fun sized => ?_
  · rintro unsized self ⟨⟩
    simp [decodePassed, decodingPassed, unsized]
  have inside : 8 < bytes.length := by
    rw [sized, Request.BaseReadBits.responseSize_eq]
    omega
  obtain ⟨byte, found, held⟩ := exists_read inside
  simp only [held, Option.some.injEq, exists_eq_left']
  refine .check ?_ fun counted => ⟨?_, ?_⟩
  · rintro miscounted self ⟨⟩
    simp [decodePassed, decodingPassed, ← sized, Adu.headerLength, found, miscounted]
  · rintro incomplete self ⟨⟩
    simp [decodePassed, decodingPassed, ← sized, Adu.headerLength, found, counted, rest,
      unpacked, incomplete]
  · intro complete
    refine ⟨⟨base, request, request.count, unpackBits (bytes.drop 9)⟩, rfl, ?_⟩
    rintro self ⟨⟩
    simp [decodePassed, decodingPassed, ← sized, Adu.headerLength, found, counted, rest,
      unpacked, complete]

variable [Struc]

/-- The 16-bit sum that is expected of the packet only falls short of the bytes
that are read when it is below eight. -/
theorem BaseReadRegisters.decodePassed_decides {code : FunctionCode} (base : Response)
    (request : Request.BaseReadRegisters code) (long : 8 ≤ bytes.length) :
    DecidedBy (decodePassed (ByteBuffer.guarded bytes)) Exn.badData
      (fun self : BaseReadRegisters code => (self.toResponse, self.request)) (base, request)
      (bytes.length = request.responseSize ∧
        (∃ byte, bytes[8]? = some byte ∧ byte.toInt8.toInt16.toUInt16 = request.byteCount) ∧
          request.count.toNat < 32768) := by
  have countLt := request.count.toNat_lt
  have counts : request.byteCount.toNat = 2 * (request.count.toNat % 32768) := by
    simp only [Request.BaseReadRegisters.byteCount, UInt16.toNat_mul]
    simp
    omega
  refine .check ?_ fun sized => ?_
  · rintro unsized self ⟨⟩
    simp [decodePassed, decodingPassed, unsized]
  have whole : bytes.length = 9 + 2 * (request.count.toNat % 32768) := by
    have sum : request.responseSize = (9 + request.byteCount.toNat) % 65536 := by
      simp only [Request.BaseReadRegisters.responseSize, Adu.calcAduLength, Adu.headerLength]
      simp
      omega
    omega
  obtain ⟨byte, found, held⟩ := @exists_read bytes 8 (by omega)
  obtain ⟨values, read, length⟩ := exists_unpackRegisters whole counts
  simp only [held, Option.some.injEq, exists_eq_left']
  refine .check ?_ fun counted => ⟨?_, ?_⟩
  · rintro miscounted self ⟨⟩
    simp [decodePassed, decodingPassed, ← sized, Adu.headerLength, found, miscounted]
  · rintro large self ⟨⟩
    have incomplete : values.length ≠ self.request.count.toNat := by omega
    simp [decodePassed, decodingPassed, ← sized, Adu.headerLength, found, counted, read,
      incomplete]
  · intro small
    refine ⟨⟨base, request, request.byteCount, values⟩, rfl, ?_⟩
    rintro self ⟨⟩
    rw [Nat.mod_eq_of_lt small] at length
    simp [decodePassed, decodingPassed, ← sized, Adu.headerLength, found, counted, read, length]

theorem ReadWriteMultipleRegisters.decodePassed_decides (base : Response)
    (request : Request.ReadWriteMultipleRegisters) :
    DecidedBy (decodePassed (ByteBuffer.guarded bytes)) Exn.badData
      (fun self : ReadWriteMultipleRegisters => (self.toResponse, self.request)) (base, request)
      (bytes.length = request.responseSize ∧
        bytes[8]? = some (registerBytes request.readCount) ∧ request.readCount.toNat < 128) := by
  have counts := toNat_registerBytes request.readCount
  refine .check ?_ fun sized => ?_
  · rintro unsized self ⟨⟩
    simp [decodePassed, decodingPassed, unsized]
  have whole : bytes.length = 9 + 2 * (request.readCount.toNat % 128) := by
    rw [sized, Request.ReadWriteMultipleRegisters.responseSize_eq]
  obtain ⟨byte, found, held⟩ := @exists_read bytes 8 (by omega)
  obtain ⟨values, read, length⟩ := exists_unpackRegisters whole counts
  simp only [held, Option.some.injEq]
  refine .check ?_ fun counted => ⟨?_, ?_⟩
  · rintro miscounted self ⟨⟩
    simp [decodePassed, decodingPassed, ← sized, Adu.headerLength, found, miscounted]
  · rintro large self ⟨⟩
    have incomplete : values.length ≠ self.request.readCount.toNat := by omega
    simp [decodePassed, decodingPassed, ← sized, Adu.headerLength, found, counted, read,
      incomplete, -toNat_registerBytes]
  · intro small
    refine ⟨⟨base, request, registerBytes request.readCount, values⟩, rfl, ?_⟩
    rintro self ⟨⟩
    rw [Nat.mod_eq_of_lt small] at length
    simp [decodePassed, decodingPassed, ← sized, Adu.headerLength, found, counted, read, length,
      -toNat_registerBytes]

end Response

end ModbusCpp
