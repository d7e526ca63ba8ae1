import ModbusCpp.Exchange
import ModbusCpp.RequestPackets

/-!
# Read round trips

What a client gets to see of the cells it asks for.  The response class for
bits compares the byte count of a reply with the number of bits that were
asked for, so it takes no reply; the one for registers reads the byte count
as a signed `char`, so it takes the replies with less than 128 bytes.
-/

namespace ModbusCpp

open Method StructFormat

section Responses

variable {code : FunctionCode} {client : Adu.Initializer} {table : Table}
  {behind : Nat → Option UInt8}

/-- No reply to a request for bits is taken: its byte count is the number of
bits for one bit alone, and that one comes in a byte of eight. -/
theorem Response.BaseReadBits.run_decodePassed (request : Request.BaseReadBits code)
    {block : BitBlock} (counted : NumBits.validate false request.count = true)
    (inside : (table.bits block).Contains request.address request.count.toNat)
    (base : Response) :
    ∃ left, (decodePassed ⟨(client.frame code
        ((Command.readBits block request.address request.count).reply table)).bytes, behind⟩).run
        (⟨base, request, 0, []⟩ : BaseReadBits code) =
      some (.error Exn.badData, left) := by
  have bound := (NumBits.validate_read_iff request.count).mp counted
  have reads := Block.Sequential.length_read inside
  generalize replied : (Command.readBits block request.address request.count).reply table =
    payload
  have payloadEq : payload = UInt8.ofNat ((request.count.toNat + 7) / 8) ::
      packBits ((table.bits block).read request.address request.count.toNat) :=
    replied.symm
  have length : payload.length = 1 + (request.count.toNat + 7) / 8 := by
    simp [payloadEq, reads]
    omega
  have sized : ByteBuffer.size ⟨(client.frame code payload).bytes, behind⟩ =
      request.responseSize := by
    simp [ByteBuffer.size, Request.BaseReadBits.responseSize_eq, length]
    omega
  have byte : (ByteBuffer.mk (client.frame code payload).bytes behind).read 8 =
      some (UInt8.ofNat ((request.count.toNat + 7) / 8)) :=
    Frame.read_head payloadEq behind
  have bytes := ByteBuffer.slice_read_drop ⟨(client.frame code payload).bytes, behind⟩ 9
  rw [sized] at bytes
  have unpacked : (unpackBits ((client.frame code payload).bytes.drop 9)).length =
      8 * ((request.count.toNat + 7) / 8) := by
    rw [length_unpackBits]
    simp [length]
    omega
  have widened := toNat_widened (UInt8.ofNat ((request.count.toNat + 7) / 8))
  rw [UInt8.toNat_ofNat', Nat.mod_eq_of_lt (by omega)] at widened
  generalize UInt8.ofNat ((request.count.toNat + 7) / 8) = announced at byte widened
  by_cases agrees : announced.toInt8.toInt16.toUInt16 = request.count
  · have single : request.count.toNat = 1 := by
      rw [agrees] at widened
      split at widened <;> omega
    simp only [single] at unpacked
    simp [decodePassed, decodingPassed, Adu.headerLength, sized, byte, agrees, bytes, unpacked,
      single]
  · simp [decodePassed, decodingPassed, Adu.headerLength, sized, byte, agrees]

theorem Request.BaseReadRegisters.responseSize_eq {request : BaseReadRegisters code}
    (small : request.count.toNat ≤ 125) :
    request.responseSize = 9 + 2 * request.count.toNat := by
  simp [responseSize, byteCount, Adu.calcAduLength, Adu.headerLength]
  omega

/-- The reply to a request for registers is taken if its byte count is no
negative `char`. -/
theorem Response.BaseReadRegisters.run_decodePassed [Struc]
    (request : Request.BaseReadRegisters code) {block : RegisterBlock}
    (counted : NumRegs.validate false request.count = true)
    (inside : (table.registers block).Contains request.address request.count.toNat)
    (base : Response) :
    ∃ left, (decodePassed ⟨(client.frame code ((Command.readRegisters block request.address
        request.count).reply table)).bytes, behind⟩).run
        (⟨base, request, 0, []⟩ : BaseReadRegisters code) =
        some (if request.count.toNat < 64 then .ok () else .error Exn.badData, left) ∧
      (request.count.toNat < 64 →
        left.registers = (table.registers block).read request.address request.count.toNat) := by
  have bound := (NumRegs.validate_read_iff request.count).mp counted
  have reads := Block.Sequential.length_read inside
  generalize replied :
    (Command.readRegisters block request.address request.count).reply table = payload
  have payloadEq : payload = registerBytes request.count ::
      wordBytes ((table.registers block).read request.address request.count.toNat) :=
    replied.symm
  have sized : ByteBuffer.size ⟨(client.frame code payload).bytes, behind⟩ =
      request.responseSize := by
    simp [ByteBuffer.size, Request.BaseReadRegisters.responseSize_eq bound.2, payloadEq, reads]
    omega
  have byte : (ByteBuffer.mk (client.frame code payload).bytes behind).read 8 =
      some (registerBytes request.count) :=
    Frame.read_head payloadEq behind
  have words : decodeWords (ByteBuffer.mk (client.frame code payload).bytes behind).read 9
      request.count.toNat =
        some ((table.registers block).read request.address request.count.toNat) := by
    have layout : (client.frame code payload).payload = [registerBytes request.count] ++
        (wordBytes ((table.registers block).read request.address request.count.toNat) ++ []) := by
      simp [payloadEq]
    simpa [reads] using Frame.decodeWords_payload layout behind
  have bytes : request.byteCount.toNat = 2 * request.count.toNat := by
    simp [Request.BaseReadRegisters.byteCount]
    omega
  have widened := toNat_widened (registerBytes request.count)
  rw [toNat_registerBytes, Nat.mod_eq_of_lt (by omega)] at widened
  by_cases small : request.count.toNat < 64
  · have agrees : (registerBytes request.count).toInt8.toInt16.toUInt16 =
        request.byteCount := by
      apply UInt16.toNat_inj.mp
      rw [widened, bytes, if_pos (by omega)]
    simp [decodePassed, decodingPassed, Adu.headerLength, sized, byte, agrees, bytes,
      unpackRegisters_eq, words, reads, small]
  · have differs : (registerBytes request.count).toInt8.toInt16.toUInt16 ≠
        request.byteCount := by
      intro agrees
      rw [agrees, bytes, if_neg (by omega)] at widened
      omega
    simp [decodePassed, decodingPassed, Adu.headerLength, sized, byte, differs, small]

end Responses

section Requests

variable [Struc] {client : Adu.Initializer} {address count : UInt16} {code : FunctionCode}

namespace Request.BaseReadBits

/-- A request object that a client has initialized. -/
def forClient (client : Adu.Initializer) (address count : UInt16) : BaseReadBits code :=
  { (new address count : BaseReadBits code) with
    toAdu := (Adu.new code).initializeWith client }

theorem run_encode :
    (encode : Member (BaseReadBits code) Packet).run (forClient client address count) =
      some (.ok (client.frame code (wordBytes [address, count])).bytes,
        ⟨(client.header (wordBytes [address, count])).adu code, address, count⟩) := by
  simp [encode, forClient, new, Adu.initializeWith, Adu.new, dataLength, StructFormat.encode,
    client.headerPacket_words]
  rfl

end Request.BaseReadBits

namespace Request.BaseReadRegisters

/-- A request object that a client has initialized. -/
def forClient (client : Adu.Initializer) (address count : UInt16) : BaseReadRegisters code :=
  { (new address count : BaseReadRegisters code) with
    toAdu := (Adu.new code).initializeWith client }

theorem run_encode :
    (encode : Member (BaseReadRegisters code) Packet).run (forClient client address count) =
      some (.ok (client.frame code (wordBytes [address, count])).bytes,
        ⟨(client.header (wordBytes [address, count])).adu code, address, count⟩) := by
  simp [encode, forClient, new, Adu.initializeWith, Adu.new, dataLength, StructFormat.encode,
    client.headerPacket_words]
  rfl

end Request.BaseReadRegisters

end Requests

/-- The client's response object takes the reply to its request for bits, and
holds the bits that were asked for. -/
def BitBlock.ReadsBack [Struc] (block : BitBlock) (client : Adu.Initializer)
    (address count : UInt16) (behindRequest behindReply : Nat → Option UInt8)
    (table : Table) : Prop :=
  ∃ seen, exchange Request.BaseReadBits.encode Response.BaseReadBits.new
      Response.BaseReadBits.decode behindRequest behindReply
      (Request.BaseReadBits.forClient client address count :
        Request.BaseReadBits block.function) table = some (.ok seen) ∧
    seen.decoded = .ok () ∧
    seen.response.bits = (table.bits block).read address count.toNat

/-- The same for registers. -/
def RegisterBlock.ReadsBack [Struc] (block : RegisterBlock) (client : Adu.Initializer)
    (address count : UInt16) (behindRequest behindReply : Nat → Option UInt8)
    (table : Table) : Prop :=
  ∃ seen, exchange Request.BaseReadRegisters.encode Response.BaseReadRegisters.new
      Response.BaseReadRegisters.decode behindRequest behindReply
      (Request.BaseReadRegisters.forClient client address count :
        Request.BaseReadRegisters block.function) table = some (.ok seen) ∧
    seen.decoded = .ok () ∧
    seen.response.registers = (table.registers block).read address count.toNat

variable {address count : UInt16} {behindRequest behindReply : Nat → Option UInt8}
  {table : Table}

/-- The server answers a request for bits, and the client refuses the answer. -/
theorem Request.BaseReadBits.run_exchange [Struc] (block : BitBlock) (client : Adu.Initializer)
    (counted : NumBits.validate false count = true)
    (inside : (table.bits block).Contains address count.toNat) :
    ∃ seen, exchange encode Response.BaseReadBits.new Response.BaseReadBits.decode
        behindRequest behindReply
        (forClient client address count : BaseReadBits block.function) table =
          some (.ok seen) ∧ seen.decoded = .error Exn.badData := by
  have bound := (NumBits.validate_read_iff count).mp counted
  have reads := Block.Sequential.length_read inside
  have fits : ((Command.readBits block address count).reply table).length ≤ 252 := by
    simp [Command.reply, reads]
    omega
  obtain ⟨left, passed⟩ := Response.BaseReadBits.run_decodePassed
    ⟨(client.header (wordBytes [address, count])).adu block.function, address, count⟩
    counted inside _
  exact ⟨_, exchange_run run_encode
    (parse_readBits block (Frame.decode_words rfl behindRequest)) ⟨counted, inside⟩ rfl
    (Response.run_decode block.function_supported fits behindReply rfl passed (by simp)), rfl⟩

/-- The client takes the answer to a request for less than 64 registers. -/
theorem Request.BaseReadRegisters.run_exchange [Struc] (block : RegisterBlock)
    (client : Adu.Initializer) (counted : NumRegs.validate false count = true)
    (inside : (table.registers block).Contains address count.toNat) :
    ∃ seen, exchange encode Response.BaseReadRegisters.new Response.BaseReadRegisters.decode
        behindRequest behindReply
        (forClient client address count : BaseReadRegisters block.function) table =
          some (.ok seen) ∧
      seen.decoded = (if count.toNat < 64 then .ok () else .error Exn.badData) ∧
      (count.toNat < 64 →
        seen.response.registers = (table.registers block).read address count.toNat) := by
  have bound := (NumRegs.validate_read_iff count).mp counted
  have reads := Block.Sequential.length_read inside
  have fits : ((Command.readRegisters block address count).reply table).length ≤ 252 := by
    simp [Command.reply, reads]
    omega
  obtain ⟨left, passed, held⟩ := Response.BaseReadRegisters.run_decodePassed
    ⟨(client.header (wordBytes [address, count])).adu block.function, address, count⟩
    counted inside _
  exact ⟨_, exchange_run run_encode
    (parse_readRegisters block (Frame.decode_words rfl behindRequest)) ⟨counted, inside⟩ rfl
    (Response.run_decode block.function_supported fits behindReply rfl passed
      (by split <;> simp)), rfl, held⟩

/-- Whatever the number of bits, none are read back. -/
theorem not_bitsReadBack [Struc] (block : BitBlock) (client : Adu.Initializer)
    (atLeast : 1 ≤ count.toNat) (atMost : count.toNat ≤ 2000)
    (inside : (table.bits block).Contains address count.toNat) :
    ¬ block.ReadsBack client address count behindRequest behindReply table := by
  obtain ⟨seen, ran, refused⟩ := Request.BaseReadBits.run_exchange block client
    ((NumBits.validate_read_iff count).mpr ⟨atLeast, atMost⟩) inside
  rintro ⟨other, otherRan, taken, -⟩
  obtain rfl := Exchange.unique ran otherRan
  rw [refused] at taken
  cases taken

theorem not_bitsReadBack_inputs :
    ¬ @BitBlock.ReadsBack Struc.documented .discreteInputs ⟨1, 1⟩ 2 3 (fun _ => none)
      (fun _ => none) (Table.cleared 8) :=
  @not_bitsReadBack _ _ _ _ _ Struc.documented _ _ (by decide) (by decide) (by decide)

/-- The reply to a request for eight coils is refused. -/
theorem not_bitsReadBack_coils :
    (Table.cleared 8).coils.Contains 0 8 ∧
      ¬ @BitBlock.ReadsBack Struc.documented .coils ⟨1, 1⟩ 0 8 (fun _ => none)
        (fun _ => none) (Table.cleared 8) := by
  refine ⟨by decide, ?_⟩
  rintro ⟨seen, ran, taken, -⟩
  have decoded : seen.decoded = .error Exn.badData :=
    Exchange.observed Exchange.decoded ran rfl
  rw [decoded] at taken
  cases taken

/-- Registers are read back exactly when there are less than 64 of them. -/
theorem registersReadBack_iff [Struc] (block : RegisterBlock) (client : Adu.Initializer)
    (atLeast : 1 ≤ count.toNat) (atMost : count.toNat ≤ 125)
    (inside : (table.registers block).Contains address count.toNat) :
    block.ReadsBack client address count behindRequest behindReply table ↔
      count.toNat < 64 := by
  obtain ⟨seen, ran, decoded, held⟩ := Request.BaseReadRegisters.run_exchange block client
    ((NumRegs.validate_read_iff count).mpr ⟨atLeast, atMost⟩) inside
  constructor
  · rintro ⟨other, otherRan, taken, -⟩
    obtain rfl := Exchange.unique ran otherRan
    by_contra large
    rw [decoded, if_neg large] at taken
    cases taken
  · intro small
    rw [if_pos small] at decoded
    exact ⟨seen, ran, decoded, held small⟩

theorem registersReadBack_two :
    @RegisterBlock.ReadsBack Struc.documented .inputRegisters ⟨1, 1⟩ 2 2 (fun _ => none)
        (fun _ => none) (Table.cleared 8) ↔ (2 : UInt16).toNat < 64 :=
  @registersReadBack_iff _ _ _ _ _ Struc.documented _ _ (by decide) (by decide) (by decide)

/-- The reply to a request for 64 registers is refused. -/
theorem not_registersReadBack :
    (Table.cleared 64).holdingRegisters.Contains 0 64 ∧
      ¬ @RegisterBlock.ReadsBack Struc.documented .holdingRegisters ⟨1, 1⟩ 0 64
        (fun _ => none) (fun _ => none) (Table.cleared 64) := by
  refine ⟨by decide, ?_⟩
  rintro ⟨seen, ran, taken, -⟩
  have decoded : seen.decoded = .error Exn.badData :=
    Exchange.observed Exchange.decoded ran (by decide +kernel)
  rw [decoded] at taken
  cases taken

end ModbusCpp
