import Mathlib.Logic.Function.Basic
import ModbusCpp.BlockRefinement
import ModbusCpp.Serving

/-!
# The memory of a server

What a server is for, without its table: four partial maps from addresses to
values, and for each packet a reply made from them and an update of them.  The
handler refines this server over every run, on the maps that the four blocks
of its table stand for.
-/

namespace ModbusCpp

open Block Method RequestHandler StructFormat

/-- The maps of the two blocks of bits and the two blocks of registers. -/
structure Memory where
  bits : BitBlock → Nat → Option Bool
  registers : RegisterBlock → Nat → Option UInt16

namespace Memory

/-- Write a run of bits. -/
def writeBits (memory : Memory) (which : BitBlock) (address : Nat) (values : List Bool) :
    Memory :=
  { memory with
    bits := Function.update memory.bits which
      (AddressMap.write (memory.bits which) address values) }

/-- Write a run of registers. -/
def writeRegisters (memory : Memory) (which : RegisterBlock) (address : Nat)
    (values : List UInt16) : Memory :=
  { memory with
    registers := Function.update memory.registers which
      (AddressMap.write (memory.registers which) address values) }

end Memory

/-- The payload of the reply to a command, and the memory afterwards, if all
addresses that the command names are there and as many as it may name. -/
def Command.answer (memory : Memory) : Command → Option (Packet × Memory)
  | readBits block address count =>
      if NumBits.validate false count then
        (AddressMap.slice (memory.bits block) address.toNat count.toNat).map fun values =>
          (UInt8.ofNat ((count.toNat + 7) / 8) :: packBits values, memory)
      else none
  | readRegisters block address count =>
      if NumRegs.validate false count then
        (AddressMap.slice (memory.registers block) address.toNat count.toNat).map fun values =>
          (registerBytes count :: wordBytes values, memory)
      else none
  | writeSingleCoil address value =>
      (memory.bits .coils address.toNat).map fun old =>
        (wordBytes [address, coilWord old], memory.writeBits .coils address.toNat [value])
  | writeSingleRegister address value =>
      (memory.registers .holdingRegisters address.toNat).map fun _ =>
        (wordBytes [address, value],
          memory.writeRegisters .holdingRegisters address.toNat [value])
  | writeMultipleCoils address count values =>
      if NumBits.validate true count ∧
          AddressMap.Covers (memory.bits .coils) address.toNat count.toNat then
        some (wordBytes [address, count], memory.writeBits .coils address.toNat values)
      else none
  | writeMultipleRegisters address count values =>
      if NumRegs.validate true count ∧
          AddressMap.Covers (memory.registers .holdingRegisters) address.toNat count.toNat then
        some (wordBytes [address, count],
          memory.writeRegisters .holdingRegisters address.toNat values)
      else none
  | maskWriteRegister address andMask orMask =>
      (memory.registers .holdingRegisters address.toNat).map fun old =>
        (wordBytes [address, andMask, orMask],
          memory.writeRegisters .holdingRegisters address.toNat [old &&& andMask ||| orMask])
  | readWriteMultipleRegisters readAddress readCount writeAddress writeCount values =>
      if NumRegs.validate false readCount ∧ NumRegs.validate true writeCount ∧
          AddressMap.Covers (memory.registers .holdingRegisters) writeAddress.toNat
            writeCount.toNat then
        let stored := memory.writeRegisters .holdingRegisters writeAddress.toNat values
        (AddressMap.slice (stored.registers .holdingRegisters) readAddress.toNat
          readCount.toNat).map fun read => (registerBytes readCount :: wordBytes read, stored)
      else none

namespace Memory

/-- The frame that answers a request, and the memory afterwards. -/
def respond (header : Header) (function : FunctionCode)
    (parsed : Except ExceptionCode Command) (memory : Memory) : Frame × Memory :=
  let refuse (code : ExceptionCode) : Frame × Memory :=
    (Frame.exception header.transaction header.unit function.known.toUnderlying code, memory)
  match parsed with
  | .error code => refuse code
  | .ok command =>
      match command.answer memory with
      | some (payload, stored) => (header.frame function payload, stored)
      | none => refuse .illegalDataAddress

/-- The reply to a packet, unless a read that parsing needs does not find its
byte. -/
def handle (packet : ByteBuffer) (memory : Memory) : Option (Packet × Memory) :=
  if packet.size ≤ Adu.headerLength then some ([], memory)
  else do
    let (transaction, _, length, unit, function, ()) ←
      decode packet.read 0 Adu.headerFuncFormat
    let parsed ← parse packet ⟨function⟩
    let (frame, stored) := respond ⟨transaction, length, unit⟩ ⟨function⟩ parsed memory
    some (frame.bytes, stored)

/-- Handle packets one after the other. -/
def handleAll : List ByteBuffer → Memory → Option (List Packet × Memory)
  | [], memory => some ([], memory)
  | packet :: packets, memory =>
      (handle packet memory).bind fun first =>
        (handleAll packets first.2).map fun rest => (first.1 :: rest.1, rest.2)

end Memory

/-- The maps that the blocks of a table stand for. -/
def Table.memory (table : Table) : Memory where
  bits which := (table.bits which).cell
  registers which := (table.registers which).cell

namespace Block.Sequential

variable {data : Type} {readCount writeCount : UInt16 → Bool}
  (block : Sequential data readCount writeCount) (address : UInt16)

/-- A slice of the map is what is read from the block, where it contains it. -/
theorem slice_cell_eq {count : Nat} (positive : 0 < count) :
    AddressMap.slice block.cell address.toNat count =
      if block.Contains address count then some (block.read address count) else none := by
  by_cases inside : block.Contains address count
  · rw [if_pos inside, slice_cell inside]
  · rw [if_neg inside, Option.eq_none_iff_forall_ne_some]
    intro values sliced
    exact inside ((covers_cell_iff positive).mp (AddressMap.covers_iff_slice.mpr ⟨values, sliced⟩))

theorem cell_eq_none (outside : ¬ block.Contains address 1) : block.cell address.toNat = none := by
  rw [← cell_isSome_iff_contains] at outside
  simpa using outside

theorem exists_cell (inside : block.Contains address 1) :
    ∃ value, block.cell address.toNat = some value ∧ block.read address 1 = [value] := by
  obtain ⟨value, held⟩ :=
    Option.isSome_iff_exists.mp ((cell_isSome_iff_contains block address).mpr inside)
  exact ⟨value, held, read_of_cell held⟩

end Block.Sequential

namespace Table

variable (table : Table) {address : UInt16}

theorem memory_setBits {which : BitBlock} {values : List Bool}
    (inside : (table.bits which).Contains address values.length) :
    (table.setBits which ((table.bits which).write address values)).memory =
      table.memory.writeBits which address.toNat values := by
  have registers (other : RegisterBlock) :
      ((table.setBits which ((table.bits which).write address values)).registers other).cell =
        (table.registers other).cell := by
    rw [registers_setBits]
  have bits (other : BitBlock) :
      ((table.setBits which ((table.bits which).write address values)).bits other).cell =
        Function.update table.memory.bits which
          (AddressMap.write (table.memory.bits which) address.toNat values) other := by
    by_cases same : other = which
    · subst same
      rw [bits_setBits, Function.update_self, Sequential.cell_write inside]
      rfl
    · rw [bits_setBits_of_ne _ _ (Ne.symm same), Function.update_of_ne same]
      rfl
  simp only [memory, Memory.writeBits, Memory.mk.injEq]
  exact ⟨funext bits, funext registers⟩

theorem memory_setRegisters {which : RegisterBlock} {values : List UInt16}
    (inside : (table.registers which).Contains address values.length) :
    (table.setRegisters which ((table.registers which).write address values)).memory =
      table.memory.writeRegisters which address.toNat values := by
  have bits (other : BitBlock) :
      ((table.setRegisters which ((table.registers which).write address values)).bits
        other).cell = (table.bits other).cell := by
    rw [bits_setRegisters]
  have registers (other : RegisterBlock) :
      ((table.setRegisters which ((table.registers which).write address values)).registers
        other).cell =
        Function.update table.memory.registers which
          (AddressMap.write (table.memory.registers which) address.toNat values) other := by
    by_cases same : other = which
    · subst same
      rw [registers_setRegisters, Function.update_self, Sequential.cell_write inside]
      rfl
    · rw [registers_setRegisters_of_ne _ _ (Ne.symm same), Function.update_of_ne same]
      rfl
  simp only [memory, Memory.writeRegisters, Memory.mk.injEq]
  exact ⟨funext bits, funext registers⟩

end Table

namespace Command

variable {table : Table}

/-- An admissible command is answered with its reply and its effect. -/
theorem answer_of_admissible {command : Command} (admissible : command.Admissible table) :
    command.answer table.memory =
      some (command.reply table, (command.effect table).memory) := by
  cases command with
  | readBits block address count =>
      rcases admissible with ⟨counted, inside⟩
      have sliced := Sequential.slice_cell inside
      simp only [answer, if_pos counted, Table.memory, sliced, Option.map_some, reply, effect]
  | readRegisters block address count =>
      rcases admissible with ⟨counted, inside⟩
      have sliced := Sequential.slice_cell inside
      simp only [answer, if_pos counted, Table.memory, sliced, Option.map_some, reply, effect]
  | writeSingleCoil address value =>
      obtain ⟨old, held, reads⟩ := Sequential.exists_cell _ _ admissible
      have looked : table.memory.bits .coils address.toNat = some old := held
      have written := @Table.memory_setBits table address .coils [value] admissible
      rw [answer, looked, Option.map_some, ← written, reply, reads]
      rfl
  | writeSingleRegister address value =>
      obtain ⟨old, held, -⟩ := Sequential.exists_cell _ _ admissible
      have looked : table.memory.registers .holdingRegisters address.toNat = some old := held
      have written := @Table.memory_setRegisters table address .holdingRegisters [value] admissible
      rw [answer, looked, Option.map_some, ← written]
      rfl
  | maskWriteRegister address andMask orMask =>
      obtain ⟨old, held, reads⟩ := Sequential.exists_cell _ _ admissible
      have looked : table.memory.registers .holdingRegisters address.toNat = some old := held
      have written := @Table.memory_setRegisters table address .holdingRegisters
        [old &&& andMask ||| orMask] admissible
      rw [answer, looked, Option.map_some, ← written, effect, reads]
      rfl
  | writeMultipleCoils address count values =>
      rcases admissible with ⟨counted, inside⟩
      have covered := (Sequential.covers_cell_iff (NumBits.pos_of_validate counted)).mpr inside
      rw [← values.property] at inside
      have written := @Table.memory_setBits table address .coils values.val inside
      rw [answer, if_pos ⟨counted, covered⟩, ← written]
      rfl
  | writeMultipleRegisters address count values =>
      rcases admissible with ⟨counted, inside⟩
      have covered := (Sequential.covers_cell_iff (NumRegs.pos_of_validate counted)).mpr inside
      rw [← values.property] at inside
      have written := @Table.memory_setRegisters table address .holdingRegisters values.val inside
      rw [answer, if_pos ⟨counted, covered⟩, ← written]
      rfl
  | readWriteMultipleRegisters readAddress readCount writeAddress writeCount values =>
      rcases admissible with ⟨⟨readable, readInside⟩, writable, inside⟩
      have covered := (Sequential.covers_cell_iff (NumRegs.pos_of_validate writable)).mpr inside
      rw [← values.property] at inside
      have written := @Table.memory_setRegisters table writeAddress .holdingRegisters values.val
        inside
      have readInside : ((table.setRegisters .holdingRegisters
          (table.holdingRegisters.write writeAddress values.val)).registers
            .holdingRegisters).Contains readAddress readCount.toNat := readInside
      have sliced := Sequential.slice_cell readInside
      rw [answer, if_pos ⟨readable, writable, covered⟩, ← written]
      exact congrArg (Option.map _) sliced

/-- Every other command is not answered. -/
theorem answer_of_not_admissible {command : Command} (outside : ¬ command.Admissible table) :
    command.answer table.memory = none := by
  cases command with
  | readBits block address count =>
      by_cases counted : NumBits.validate false count = true
      · have missed : ¬ (table.bits block).Contains address count.toNat :=
          fun inside => outside ⟨counted, inside⟩
        simp only [answer, Table.memory, if_pos counted,
          Sequential.slice_cell_eq _ _ (NumBits.pos_of_validate counted), if_neg missed,
          Option.map_none]
      · rw [answer, if_neg counted]
  | readRegisters block address count =>
      by_cases counted : NumRegs.validate false count = true
      · have missed : ¬ (table.registers block).Contains address count.toNat :=
          fun inside => outside ⟨counted, inside⟩
        simp only [answer, Table.memory, if_pos counted,
          Sequential.slice_cell_eq _ _ (NumRegs.pos_of_validate counted), if_neg missed,
          Option.map_none]
      · rw [answer, if_neg counted]
  | writeSingleCoil address value =>
      have looked : table.memory.bits .coils address.toNat = none :=
        Sequential.cell_eq_none _ _ outside
      rw [answer, looked, Option.map_none]
  | writeSingleRegister address value =>
      have looked : table.memory.registers .holdingRegisters address.toNat = none :=
        Sequential.cell_eq_none _ _ outside
      rw [answer, looked, Option.map_none]
  | maskWriteRegister address andMask orMask =>
      have looked : table.memory.registers .holdingRegisters address.toNat = none :=
        Sequential.cell_eq_none _ _ outside
      rw [answer, looked, Option.map_none]
  | writeMultipleCoils address count values =>
      rw [answer, if_neg]
      rintro ⟨counted, covered⟩
      exact outside
        ⟨counted, (Sequential.covers_cell_iff (NumBits.pos_of_validate counted)).mp covered⟩
  | writeMultipleRegisters address count values =>
      rw [answer, if_neg]
      rintro ⟨counted, covered⟩
      exact outside
        ⟨counted, (Sequential.covers_cell_iff (NumRegs.pos_of_validate counted)).mp covered⟩
  | readWriteMultipleRegisters readAddress readCount writeAddress writeCount values =>
      rw [answer]
      split
      · rename_i checked
        rcases checked with ⟨readable, writable, covered⟩
        have inside := (Sequential.covers_cell_iff (NumRegs.pos_of_validate writable)).mp covered
        have missed : ¬ (table.holdingRegisters.write writeAddress values.val).Contains readAddress
            readCount.toNat := fun readInside => outside ⟨⟨readable, readInside⟩, writable, inside⟩
        rw [← values.property] at inside
        have written := @Table.memory_setRegisters table writeAddress .holdingRegisters values.val
          inside
        have sliced := Sequential.slice_cell_eq
          (table.holdingRegisters.write writeAddress values.val) readAddress
          (NumRegs.pos_of_validate readable)
        rw [if_neg missed] at sliced
        rw [← written]
        exact congrArg (Option.map _) sliced
      · rfl

end Command

namespace Memory

theorem respond_memory (header : Header) (function : FunctionCode)
    (parsed : Except ExceptionCode Command) (table : Table) :
    respond header function parsed table.memory =
      ((ModbusCpp.respond header function parsed table).1,
        (ModbusCpp.respond header function parsed table).2.memory) := by
  cases parsed with
  | error code => rfl
  | ok command =>
      by_cases admissible : command.Admissible table
      · simp [respond, ModbusCpp.respond, Command.answer_of_admissible admissible, admissible,
          Header.frame]
      · simp [respond, ModbusCpp.respond, Command.answer_of_not_admissible admissible,
          admissible]

/-- The header of a received packet is not read again. -/
theorem handle_of_received {packet : ByteBuffer} {header : Header} {function : FunctionCode}
    (received : Received packet header function) (memory : Memory) :
    handle packet memory =
      (parse packet function).map fun parsed =>
        ((respond header function parsed memory).1.bytes,
          (respond header function parsed memory).2) := by
  obtain ⟨protocol, fields⟩ := received.fields
  have long : ¬ packet.size ≤ Adu.headerLength :=
    Nat.not_le_of_lt (List.getElem?_eq_some_iff.mp received.functionByte).1
  rw [handle, if_neg long, fields]
  cases parsed : parse packet function <;> simp [parsed]

variable [Struc]

/-- The step lemma: a packet is answered from the memory of the table, and the
memory is updated. -/
theorem handle_memory (packet : ByteBuffer) (table : Table) :
    ((RequestHandler.handle packet).run table).map (Prod.map id Table.memory) =
      (handle packet table.memory).map (Prod.map Except.ok id) := by
  by_cases short : packet.size ≤ Adu.headerLength
  · rw [handle_run_short short, handle, if_pos short]
    rfl
  · obtain ⟨header, function, received⟩ := exists_received (Nat.lt_of_not_le short)
    rw [handle_run received, handle_of_received received]
    cases parse packet function with
    | none => rfl
    | some parsed =>
        rw [Option.map_some, Option.map_some, Option.map_some, Option.map_some,
          respond_memory]
        rfl

theorem handleAll_cons_eq {packet : ByteBuffer} {packets : List ByteBuffer}
    {table stored : Table} {reply : Packet}
    (handled : (RequestHandler.handle packet).run table = some (.ok reply, stored)) :
    (ModbusCpp.handleAll (packet :: packets)).run table =
      ((ModbusCpp.handleAll packets).run stored).map
        (Prod.map (Except.map (reply :: ·)) id) := by
  simp only [ModbusCpp.handleAll, run_bind, handled, Option.bind_eq_bind, Option.bind_some]
  cases (ModbusCpp.handleAll packets).run stored with
  | none => rfl
  | some outcome =>
      rcases outcome with ⟨failure | replies, last⟩ <;> rfl

/-- The run lemma: over every run of packets, the handler on a table gives the
replies that are made from its memory, and leaves a table with the memory that
is left. -/
theorem handleAll_memory (packets : List ByteBuffer) (table : Table) :
    ((ModbusCpp.handleAll packets).run table).map (Prod.map id Table.memory) =
      (handleAll packets table.memory).map (Prod.map Except.ok id) := by
  induction packets generalizing table with
  | nil => rfl
  | cons packet packets ih =>
      have first := handle_memory packet table
      cases handled : (RequestHandler.handle packet).run table with
      | none =>
          rw [handled, Option.map_none, eq_comm, Option.map_eq_none_iff] at first
          simp [ModbusCpp.handleAll, handleAll, handled, first]
      | some outcome =>
          rcases outcome with ⟨result, stored⟩
          obtain ⟨reply, rfl, -⟩ := handle_effect handled
          rw [handled, Option.map_some, eq_comm, Option.map_eq_some_iff] at first
          obtain ⟨⟨sent, memory⟩, answered, same⟩ := first
          obtain ⟨sentEq, rfl⟩ := Prod.mk.inj same
          obtain rfl := Except.ok.inj sentEq
          have after : handleAll (packet :: packets) table.memory =
              (handleAll packets stored.memory).map (Prod.map (sent :: ·) id) := by
            rw [handleAll, answered]
            rfl
          calc
            ((ModbusCpp.handleAll (packet :: packets)).run table).map (Prod.map id Table.memory) =
                (((ModbusCpp.handleAll packets).run stored).map (Prod.map id Table.memory)).map
                  (Prod.map (Except.map (sent :: ·)) id) := by
              rw [handleAll_cons_eq handled, Option.map_map, Option.map_map]
              rfl
            _ = ((handleAll packets stored.memory).map (Prod.map Except.ok id)).map
                  (Prod.map (Except.map (sent :: ·)) id) := by
              rw [ih stored]
            _ = (handleAll (packet :: packets) table.memory).map (Prod.map Except.ok id) := by
              rw [after, Option.map_map, Option.map_map]
              rfl

/-- The server on four maps sends some replies and ends in some maps exactly
if the handler sends them on every table with the maps it starts from, and
leaves one with the maps it ends in. -/
theorem handleAll_eq_some_iff (packets : List ByteBuffer) (table : Table)
    (replies : List Packet) (memory : Memory) :
    handleAll packets table.memory = some (replies, memory) ↔
      ∃ last : Table, (ModbusCpp.handleAll packets).run table = some (.ok replies, last) ∧
        last.memory = memory := by
  have refined := handleAll_memory packets table
  constructor
  · intro answered
    rw [answered, Option.map_some, Option.map_eq_some_iff] at refined
    obtain ⟨⟨result, last⟩, ran, same⟩ := refined
    obtain ⟨rfl, rfl⟩ := Prod.mk.inj same
    exact ⟨last, ran, rfl⟩
  · rintro ⟨last, ran, rfl⟩
    rw [ran, Option.map_some, eq_comm, Option.map_eq_some_iff] at refined
    obtain ⟨⟨sent, memory⟩, answered, same⟩ := refined
    obtain ⟨sentEq, rfl⟩ := Prod.mk.inj same
    obtain rfl := Except.ok.inj sentEq
    exact answered

end Memory

end ModbusCpp
