import ModbusCpp.Rearrangement

/-!
# Repeated packets

A packet can be sent again behind others that keep away from its cells.  The
table stays as it is, and the second reply is the first, unless the packet
writes a single coil, whose reply shows the coil as it was before.
-/

namespace ModbusCpp

open Block Method RequestHandler StructFormat Resumption

namespace Memory

theorem writeBits_writeBits (memory : Memory) (block : BitBlock) (address : Nat)
    (values : List Bool) :
    (memory.writeBits block address values).writeBits block address values =
      memory.writeBits block address values := by
  simp only [writeBits, Function.update_self, AddressMap.write_write, Function.update_idem]

theorem writeRegisters_writeRegisters (memory : Memory) (block : RegisterBlock) (address : Nat)
    (values : List UInt16) :
    (memory.writeRegisters block address values).writeRegisters block address values =
      memory.writeRegisters block address values := by
  simp only [writeRegisters, Function.update_self, AddressMap.write_write, Function.update_idem]

theorem bits_writeBits (memory : Memory) (block : BitBlock) (address : Nat)
    (values : List Bool) :
    (memory.writeBits block address values).bits block =
      AddressMap.write (memory.bits block) address values := by
  simp only [writeBits, Function.update_self]

theorem registers_writeRegisters (memory : Memory) (block : RegisterBlock) (address : Nat)
    (values : List UInt16) :
    (memory.writeRegisters block address values).registers block =
      AddressMap.write (memory.registers block) address values := by
  simp only [writeRegisters, Function.update_self]

end Memory

/-- A mask write of what it wrote. -/
theorem mask_mask (value andMask orMask : UInt16) :
    (value &&& andMask ||| orMask) &&& andMask ||| orMask = value &&& andMask ||| orMask := by
  rw [← UInt16.toBitVec_inj]
  ext index
  simp only [UInt16.toBitVec_or, UInt16.toBitVec_and, BitVec.getElem_or, BitVec.getElem_and]
  grind

/-- A command that is answered is answered again, and changes nothing then.
Only the answer to a write of a single coil may differ. -/
theorem Command.answer_settles {command : Command} {memory stored : Memory} {payload : Packet}
    (answered : command.answer memory = some (payload, stored)) :
    ∃ again, command.answer stored = some (again, stored) ∧
      (command.function ≠ .writeSingleCoil → again = payload) := by
  cases command with
  | readBits | readRegisters =>
      have kept : stored = memory :=
        Memory.ext_lookup fun cell => answer_frame answered fun none => none.elim
      subst kept
      exact ⟨payload, answered, fun _ => rfl⟩
  | writeSingleCoil address value =>
      obtain ⟨old, -, same⟩ := Option.map_eq_some_iff.mp answered
      obtain ⟨rfl, rfl⟩ := Prod.mk.inj same
      refine ⟨wordBytes [address, coilWord value], ?_, fun other => absurd rfl other⟩
      rw [answer, Memory.bits_writeBits, AddressMap.write_singleton, Option.map_some,
        Memory.writeBits_writeBits]
  | writeSingleRegister address value =>
      obtain ⟨old, -, same⟩ := Option.map_eq_some_iff.mp answered
      obtain ⟨rfl, rfl⟩ := Prod.mk.inj same
      refine ⟨_, ?_, fun _ => rfl⟩
      rw [answer, Memory.registers_writeRegisters, AddressMap.write_singleton, Option.map_some,
        Memory.writeRegisters_writeRegisters]
  | maskWriteRegister address andMask orMask =>
      obtain ⟨old, -, same⟩ := Option.map_eq_some_iff.mp answered
      obtain ⟨rfl, rfl⟩ := Prod.mk.inj same
      refine ⟨_, ?_, fun _ => rfl⟩
      rw [answer, Memory.registers_writeRegisters, AddressMap.write_singleton, Option.map_some,
        mask_mask, Memory.writeRegisters_writeRegisters]
  | writeMultipleCoils address count values =>
      rw [answer] at answered
      split at answered
      · rename_i checked
        obtain ⟨rfl, rfl⟩ := Prod.mk.inj (Option.some.inj answered)
        have covered := @AddressMap.covers_write _ (memory.bits .coils) address.toNat values.val
        rw [values.property] at covered
        refine ⟨_, ?_, fun _ => rfl⟩
        rw [answer, Memory.bits_writeBits, if_pos ⟨checked.1, covered⟩,
          Memory.writeBits_writeBits]
      · cases answered
  | writeMultipleRegisters address count values =>
      rw [answer] at answered
      split at answered
      · rename_i checked
        obtain ⟨rfl, rfl⟩ := Prod.mk.inj (Option.some.inj answered)
        have covered := @AddressMap.covers_write _ (memory.registers .holdingRegisters)
          address.toNat values.val
        rw [values.property] at covered
        refine ⟨_, ?_, fun _ => rfl⟩
        rw [answer, Memory.registers_writeRegisters, if_pos ⟨checked.1, covered⟩,
          Memory.writeRegisters_writeRegisters]
      · cases answered
  | readWriteMultipleRegisters readAddress readCount writeAddress writeCount values =>
      rw [answer] at answered
      split at answered
      · rename_i checked
        obtain ⟨read, sliced, same⟩ := Option.map_eq_some_iff.mp answered
        obtain ⟨rfl, rfl⟩ := Prod.mk.inj same
        have covered := @AddressMap.covers_write _ (memory.registers .holdingRegisters)
          writeAddress.toNat values.val
        rw [values.property] at covered
        refine ⟨_, ?_, fun _ => rfl⟩
        rw [answer, if_pos ⟨checked.1, checked.2.1, by rwa [Memory.registers_writeRegisters]⟩,
          Memory.writeRegisters_writeRegisters]
        exact Option.map_eq_some_iff.mpr ⟨read, sliced, rfl⟩
      · cases answered

theorem respond_settles {command : Command} (header : Header) (function : FunctionCode)
    (memory : Memory) :
    (Memory.respond header function (.ok command)
        (Memory.respond header function (.ok command) memory).2).2 =
      (Memory.respond header function (.ok command) memory).2 ∧
    (command.function ≠ .writeSingleCoil →
      (Memory.respond header function (.ok command)
          (Memory.respond header function (.ok command) memory).2).1 =
        (Memory.respond header function (.ok command) memory).1) := by
  cases answered : command.answer memory with
  | none => simp only [Memory.respond, answered, implies_true, and_self]
  | some outcome =>
      rcases outcome with ⟨payload, stored⟩
      obtain ⟨again, settled, same⟩ := Command.answer_settles answered
      simp only [Memory.respond, answered, settled, true_and]
      exact fun other => congrArg (header.frame function) (same other)

theorem Memory.handle_settles {packet : ByteBuffer} {memory stored : Memory} {reply : Packet}
    (handled : handle packet memory = some (reply, stored)) :
    ∃ again, handle packet stored = some (again, stored) ∧
      (packet.bytes[7]? ≠ some FunctionCode.writeSingleCoil.toUnderlying → again = reply) := by
  by_cases short : packet.size ≤ Adu.headerLength
  · rw [handle, if_pos short] at handled
    obtain ⟨rfl, rfl⟩ := Prod.mk.inj (Option.some.inj handled)
    exact ⟨[], by rw [handle, if_pos short], fun _ => rfl⟩
  · obtain ⟨header, function, received⟩ := exists_received (Nat.lt_of_not_le short)
    rw [handle_of_received received] at handled
    obtain ⟨request, parsed, same⟩ := Option.map_eq_some_iff.mp handled
    obtain ⟨rfl, rfl⟩ := Prod.mk.inj same
    rw [handle_of_received received, parsed, Option.map_some]
    cases request with
    | error code => exact ⟨_, rfl, fun _ => rfl⟩
    | ok command =>
        obtain ⟨settled, sameReply⟩ := @respond_settles command header function memory
        rw [settled]
        refine ⟨_, rfl, fun other => congrArg Frame.bytes (sameReply ?_)⟩
        rintro written
        apply other
        rw [← written, (parse_command parsed).1]
        exact received.functionByte

variable [Struc]

/-- A packet that is handled again at once leaves the table alone, and is
replied to as before, unless it writes a single coil. -/
theorem react_settles (packet : ByteBuffer) (table : Table) :
    (react packet (react packet table).2).2 = (react packet table).2 ∧
      (packet.bytes[7]? ≠ some FunctionCode.writeSingleCoil.toUnderlying →
        (react packet (react packet table).2).1 = (react packet table).1) := by
  obtain ⟨reply, stored⟩ := react_memory packet table
  obtain ⟨replyAgain, storedAgain⟩ := react_memory packet (react packet table).2
  rw [stored] at replyAgain storedAgain
  cases handled : Memory.handle packet table.memory with
  | none =>
      have unchanged : (react packet table).2 = table := by
        apply (sameShape_react packet table).eq_of_lookup
        intro cell
        rw [stored, handled]
        rfl
      rw [unchanged, unchanged]
      exact ⟨rfl, fun _ => rfl⟩
  | some outcome =>
      rw [handled] at reply stored replyAgain storedAgain
      obtain ⟨again, settled, same⟩ := Memory.handle_settles handled
      have settled : Memory.handle packet
          (((some outcome).map Prod.snd).getD table.memory) = some (again, outcome.2) := settled
      rw [settled] at replyAgain storedAgain
      constructor
      · apply (sameShape_react packet _).eq_of_lookup
        intro cell
        rw [storedAgain, stored]
        rfl
      · intro other
        rw [replyAgain, reply, Option.map_some, Option.map_some, same other]

/-- A packet is sent again behind others that keep away from its cells.  The
table is what it would have been, and the second reply is the first unless the
packet writes a single coil. -/
theorem handleAll_retransmitted {packet : ByteBuffer} {packets : List ByteBuffer}
    (apart : ∀ other ∈ packets, PacketsApart packet other) {table last : Table}
    {replies : List Packet}
    (ran : (handleAll (packet :: packets ++ [packet])).run table = some (.ok replies, last)) :
    ∃ reply middle again, replies = reply :: middle ++ [again] ∧
      (handleAll (packet :: packets)).run table = some (.ok (reply :: middle), last) ∧
      (packet.bytes[7]? ≠ some FunctionCode.writeSingleCoil.toUnderlying → again = reply) := by
  have repeated := answers_repeated independent_react apart
    (fun table => (react_settles packet table).1) table
  rw [answers_react_iff.mpr ran] at repeated
  obtain ⟨sent, left⟩ := Prod.mk.inj repeated
  obtain ⟨front, back, rfl, sentFront, sentBack⟩ := List.map_eq_append_iff.mp sent
  obtain ⟨again, rfl, sentAgain⟩ := List.map_eq_singleton_iff.mp sentBack
  obtain ⟨reply, middle, rfl, sentReply, sentMiddle⟩ := List.map_eq_cons_iff.mp sentFront
  refine ⟨reply, middle, again, rfl, ?_, fun other => ?_⟩
  · exact answers_react_iff.mp (Prod.ext sentFront.symm left.symm)
  · have same := (react_settles packet table).2 other
    rw [← sentAgain, ← sentReply] at same
    exact Option.some.inj same

omit [Struc] in
/-- A mask write is repeated behind writes of another register and a coil. -/
theorem handleAll_retransmitted_mask :
    ∃ reply middle again last,
      (@handleAll Struc.documented
        [maskingRegister, writingRegister, writingCoil, maskingRegister]).run
          (Table.cleared 2) = some (.ok (reply :: middle ++ [again]), last) ∧
      (@handleAll Struc.documented [maskingRegister, writingRegister, writingCoil]).run
        (Table.cleared 2) = some (.ok (reply :: middle), last) ∧
      again = reply := by
  let _ : Struc := Struc.documented
  obtain ⟨_, _, first⟩ := exists_handle_of_commandOf commandOf_maskingRegister (Table.cleared 2)
  obtain ⟨_, _, second⟩ := exists_handle_of_commandOf commandOf_writingRegister _
  obtain ⟨_, _, third⟩ := exists_handle_of_commandOf commandOf_writingCoil _
  obtain ⟨_, _, fourth⟩ := exists_handle_of_commandOf commandOf_maskingRegister _
  have ended (table : Table) : (handleAll []).run table = some (.ok [], table) := rfl
  have ran := handleAll_cons_run first (handleAll_cons_run second (handleAll_cons_run third
    (handleAll_cons_run fourth (ended _))))
  have apart : ∀ other ∈ [writingRegister, writingCoil], PacketsApart maskingRegister other := by
    simp only [List.forall_mem_cons, List.not_mem_nil, false_implies, implies_true, and_true]
    exact ⟨maskingRegister_apart_writingRegister, writingCoil_apart_maskingRegister.symm⟩
  obtain ⟨reply, middle, again, same, once, sent⟩ := handleAll_retransmitted apart ran
  rw [same] at ran
  exact ⟨reply, middle, again, _, ran, once, sent (by decide)⟩

end ModbusCpp
