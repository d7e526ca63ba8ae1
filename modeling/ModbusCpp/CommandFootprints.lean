import Mathlib.Data.Set.Image
import Mathlib.Order.Interval.Set.Basic
import ModbusCpp.Footprints
import ModbusCpp.Memory

/-!
# The footprints of packets

The cells that a packet asks to read and those that it asks to write.  The
reply to a packet is made from the cells that it reads, and only the cells
that it writes are changed.
-/

namespace ModbusCpp

open Block Method RequestHandler StructFormat Resumption

/-- A cell of one of the four blocks. -/
inductive Cell
  | bit (block : BitBlock) (place : Nat)
  | register (block : RegisterBlock) (place : Nat)

namespace Cell

/-- What a cell holds. -/
abbrev Data : Cell → Type
  | bit _ _ => Bool
  | register _ _ => UInt16

/-- A run of bits. -/
def bits (block : BitBlock) (address : UInt16) (count : Nat) : Set Cell :=
  bit block '' Set.Ico address.toNat (address.toNat + count)

/-- A run of registers. -/
def registers (block : RegisterBlock) (address : UInt16) (count : Nat) : Set Cell :=
  register block '' Set.Ico address.toNat (address.toNat + count)

theorem bit_mem_bits (block : BitBlock) (address : UInt16) :
    bit block address.toNat ∈ bits block address 1 :=
  ⟨_, ⟨Nat.le_refl _, Nat.lt_succ_self _⟩, rfl⟩

theorem register_mem_registers (block : RegisterBlock) (address : UInt16) :
    register block address.toNat ∈ registers block address 1 :=
  ⟨_, ⟨Nat.le_refl _, Nat.lt_succ_self _⟩, rfl⟩

/-- The cells in the runs that can be written. -/
def Writable : Cell → Prop
  | bit .coils place => place < 65535 + 1968
  | register .holdingRegisters place => place < 65535 + 123
  | bit .discreteInputs _ | register .inputRegisters _ => False

theorem writable_of_mem_bits {address : UInt16} {count : Nat} (small : count ≤ 1968) :
    ∀ cell ∈ bits .coils address count, cell.Writable := by
  have addressLt := address.toNat_lt
  rintro _ ⟨place, ⟨above, below⟩, rfl⟩
  unfold Writable
  omega

theorem writable_of_mem_registers {address : UInt16} {count : Nat} (small : count ≤ 123) :
    ∀ cell ∈ registers .holdingRegisters address count, cell.Writable := by
  have addressLt := address.toNat_lt
  rintro _ ⟨place, ⟨above, below⟩, rfl⟩
  unfold Writable
  omega

theorem disjoint_bits_registers (block : BitBlock) (other : RegisterBlock)
    (address otherAddress : UInt16) (count otherCount : Nat) :
    Disjoint (bits block address count) (registers other otherAddress otherCount) := by
  rw [Set.disjoint_left]
  rintro _ ⟨place, -, rfl⟩ ⟨_, -, same⟩
  cases same

theorem disjoint_registers (block : RegisterBlock) {address otherAddress : UInt16} {count : Nat}
    (behind : address.toNat + count ≤ otherAddress.toNat) (otherCount : Nat) :
    Disjoint (registers block address count) (registers block otherAddress otherCount) := by
  rw [Set.disjoint_left]
  rintro _ ⟨place, ⟨above, below⟩, rfl⟩ ⟨otherPlace, ⟨otherAbove, otherBelow⟩, same⟩
  obtain rfl := (Cell.register.inj same).2
  omega

end Cell

namespace Memory

def lookup (memory : Memory) : (cell : Cell) → Option cell.Data
  | .bit block place => memory.bits block place
  | .register block place => memory.registers block place

/-- Memories with the same cells are the same. -/
theorem ext_lookup {first second : Memory}
    (same : ∀ cell, first.lookup cell = second.lookup cell) : first = second := by
  rcases first with ⟨bits, registers⟩
  rcases second with ⟨otherBits, otherRegisters⟩
  simp only [Memory.mk.injEq]
  exact ⟨funext₂ fun block place => same (.bit block place),
    funext₂ fun block place => same (.register block place)⟩

section Agreement

variable {first second : Memory}

theorem slice_bits_congr {block : BitBlock} {address : UInt16} {count : Nat}
    (same : ∀ cell ∈ Cell.bits block address count, first.lookup cell = second.lookup cell) :
    AddressMap.slice (first.bits block) address.toNat count =
      AddressMap.slice (second.bits block) address.toNat count :=
  AddressMap.slice_congr fun place above below =>
    same (.bit block place) ⟨place, ⟨above, below⟩, rfl⟩

theorem slice_registers_congr {block : RegisterBlock} {address : UInt16} {count : Nat}
    (same : ∀ cell ∈ Cell.registers block address count,
      first.lookup cell = second.lookup cell) :
    AddressMap.slice (first.registers block) address.toNat count =
      AddressMap.slice (second.registers block) address.toNat count :=
  AddressMap.slice_congr fun place above below =>
    same (.register block place) ⟨place, ⟨above, below⟩, rfl⟩

theorem covers_bits_congr {block : BitBlock} {address : UInt16} {count : Nat}
    (same : ∀ cell ∈ Cell.bits block address count,
      (first.lookup cell).isSome = (second.lookup cell).isSome) :
    AddressMap.Covers (first.bits block) address.toNat count ↔
      AddressMap.Covers (second.bits block) address.toNat count :=
  forall₂_congr fun offset offsetLt => by
    have held := same (.bit block (address.toNat + offset))
      ⟨_, ⟨Nat.le_add_right _ _, Nat.add_lt_add_left offsetLt _⟩, rfl⟩
    exact Eq.congr_left held

theorem covers_registers_congr {block : RegisterBlock} {address : UInt16} {count : Nat}
    (same : ∀ cell ∈ Cell.registers block address count,
      (first.lookup cell).isSome = (second.lookup cell).isSome) :
    AddressMap.Covers (first.registers block) address.toNat count ↔
      AddressMap.Covers (second.registers block) address.toNat count :=
  forall₂_congr fun offset offsetLt => by
    have held := same (.register block (address.toNat + offset))
      ⟨_, ⟨Nat.le_add_right _ _, Nat.add_lt_add_left offsetLt _⟩, rfl⟩
    exact Eq.congr_left held

theorem lookup_writeBits_congr {cell : Cell} (same : first.lookup cell = second.lookup cell)
    (block : BitBlock) (address : Nat) (values : List Bool) :
    (first.writeBits block address values).lookup cell =
      (second.writeBits block address values).lookup cell := by
  cases cell with
  | register other place => exact same
  | bit other place =>
      by_cases own : other = block
      · subst own
        simpa only [lookup, writeBits, Function.update_self] using
          AddressMap.write_congr same address values
      · simpa only [lookup, writeBits, Function.update_of_ne own] using same

theorem lookup_writeRegisters_congr {cell : Cell}
    (same : first.lookup cell = second.lookup cell) (block : RegisterBlock) (address : Nat)
    (values : List UInt16) :
    (first.writeRegisters block address values).lookup cell =
      (second.writeRegisters block address values).lookup cell := by
  cases cell with
  | bit other place => exact same
  | register other place =>
      by_cases own : other = block
      · subst own
        simpa only [lookup, writeRegisters, Function.update_self] using
          AddressMap.write_congr same address values
      · simpa only [lookup, writeRegisters, Function.update_of_ne own] using same

end Agreement

section Elsewhere

variable (memory : Memory) {cell : Cell} {address : UInt16}

theorem lookup_writeBits {block : BitBlock} {values : List Bool}
    (elsewhere : cell ∉ Cell.bits block address values.length) :
    (memory.writeBits block address.toNat values).lookup cell = memory.lookup cell := by
  cases cell with
  | register other place => rfl
  | bit other place =>
      by_cases own : other = block
      · subst own
        simp only [lookup, writeBits, Function.update_self]
        exact AddressMap.write_outside fun inside => elsewhere ⟨place, inside, rfl⟩
      · simp only [lookup, writeBits, Function.update_of_ne own]

theorem lookup_writeRegisters {block : RegisterBlock} {values : List UInt16}
    (elsewhere : cell ∉ Cell.registers block address values.length) :
    (memory.writeRegisters block address.toNat values).lookup cell = memory.lookup cell := by
  cases cell with
  | bit other place => rfl
  | register other place =>
      by_cases own : other = block
      · subst own
        simp only [lookup, writeRegisters, Function.update_self]
        exact AddressMap.write_outside fun inside => elsewhere ⟨place, inside, rfl⟩
      · simp only [lookup, writeRegisters, Function.update_of_ne own]

end Elsewhere

end Memory

/-- The same reply, and what two memories hold alike is held alike afterwards. -/
def SameOutcome {α : Type} (first second : Memory) :
    Option (α × Memory) → Option (α × Memory) → Prop :=
  Option.Rel fun outcome other => outcome.1 = other.1 ∧
    ∀ cell, first.lookup cell = second.lookup cell →
      outcome.2.lookup cell = other.2.lookup cell

theorem sameOutcome_map {α β : Type} {first second : Memory} {found : Option α}
    {outcome other : α → β × Memory}
    (same : ∀ value, (outcome value).1 = (other value).1 ∧
      ∀ cell, first.lookup cell = second.lookup cell →
        (outcome value).2.lookup cell = (other value).2.lookup cell) :
    SameOutcome first second (found.map outcome) (found.map other) := by
  cases found with
  | none => exact .none
  | some value => exact .some (same value)

namespace Command

/-- The cells whose values a command depends on. -/
def reads : Command → Set Cell
  | readBits block address count =>
      {cell | NumBits.validate false count = true ∧ cell ∈ Cell.bits block address count.toNat}
  | readRegisters block address count =>
      {cell | NumRegs.validate false count = true ∧
        cell ∈ Cell.registers block address count.toNat}
  | writeSingleCoil address _ => Cell.bits .coils address 1
  | maskWriteRegister address _ _ => Cell.registers .holdingRegisters address 1
  | readWriteMultipleRegisters readAddress readCount _ _ _ =>
      {cell | NumRegs.validate false readCount = true ∧
        cell ∈ Cell.registers .holdingRegisters readAddress readCount.toNat}
  | writeSingleRegister _ _ | writeMultipleCoils _ _ _ | writeMultipleRegisters _ _ _ => ∅

/-- The cells that a command may change. -/
def writes : Command → Set Cell
  | readBits _ _ _ | readRegisters _ _ _ => ∅
  | writeSingleCoil address _ => Cell.bits .coils address 1
  | writeSingleRegister address _ | maskWriteRegister address _ _ =>
      Cell.registers .holdingRegisters address 1
  | writeMultipleCoils address count _ =>
      {cell | NumBits.validate true count = true ∧ cell ∈ Cell.bits .coils address count.toNat}
  | writeMultipleRegisters address count _ =>
      {cell | NumRegs.validate true count = true ∧
        cell ∈ Cell.registers .holdingRegisters address count.toNat}
  | readWriteMultipleRegisters _ _ writeAddress writeCount _ =>
      {cell | NumRegs.validate true writeCount = true ∧
        cell ∈ Cell.registers .holdingRegisters writeAddress writeCount.toNat}

theorem writes_writable (command : Command) : ∀ cell ∈ command.writes, cell.Writable := by
  cases command with
  | readBits | readRegisters => exact fun cell none => none.elim
  | writeSingleCoil address value => exact Cell.writable_of_mem_bits (by decide)
  | writeSingleRegister | maskWriteRegister => exact Cell.writable_of_mem_registers (by decide)
  | writeMultipleCoils address count values =>
      rintro cell ⟨counted, inside⟩
      exact Cell.writable_of_mem_bits ((NumBits.validate_write_iff count).mp counted).2 cell inside
  | writeMultipleRegisters address count values =>
      rintro cell ⟨counted, inside⟩
      exact Cell.writable_of_mem_registers ((NumRegs.validate_write_iff count).mp counted).2 cell
        inside
  | readWriteMultipleRegisters readAddress readCount writeAddress writeCount values =>
      rintro cell ⟨counted, inside⟩
      exact Cell.writable_of_mem_registers ((NumRegs.validate_write_iff writeCount).mp counted).2
        cell inside

section Congruence

/- Each answer, from memories that agree on what it depends on. -/

variable {first second : Memory} {address count : UInt16}

theorem answer_congr_readBits {block : BitBlock}
    (same : ∀ cell ∈ (readBits block address count).reads,
      first.lookup cell = second.lookup cell) :
    SameOutcome first second ((readBits block address count).answer first)
      ((readBits block address count).answer second) := by
  rw [answer, answer]
  split
  · rename_i counted
    rw [Memory.slice_bits_congr fun cell inside => same cell ⟨counted, inside⟩]
    exact sameOutcome_map fun values => ⟨rfl, fun cell held => held⟩
  · exact .none

theorem answer_congr_readRegisters {block : RegisterBlock}
    (same : ∀ cell ∈ (readRegisters block address count).reads,
      first.lookup cell = second.lookup cell) :
    SameOutcome first second ((readRegisters block address count).answer first)
      ((readRegisters block address count).answer second) := by
  rw [answer, answer]
  split
  · rename_i counted
    rw [Memory.slice_registers_congr fun cell inside => same cell ⟨counted, inside⟩]
    exact sameOutcome_map fun values => ⟨rfl, fun cell held => held⟩
  · exact .none

theorem answer_congr_writeSingleRegister {value : UInt16}
    (present : (first.registers .holdingRegisters address.toNat).isSome =
      (second.registers .holdingRegisters address.toNat).isSome) :
    SameOutcome first second ((writeSingleRegister address value).answer first)
      ((writeSingleRegister address value).answer second) := by
  rw [answer, answer]
  generalize first.registers .holdingRegisters address.toNat = old at present
  generalize second.registers .holdingRegisters address.toNat = otherOld at present
  cases old with
  | none =>
      rw [Option.isSome_none, eq_comm, Option.isSome_eq_false_iff,
        Option.isNone_iff_eq_none] at present
      rw [present]
      exact .none
  | some value =>
      rw [Option.isSome_some, eq_comm, Option.isSome_iff_exists] at present
      obtain ⟨otherValue, rfl⟩ := present
      exact .some ⟨rfl, fun cell held => Memory.lookup_writeRegisters_congr held _ _ _⟩

theorem answer_congr_writeMultipleCoils {values : Values Bool count}
    (present : ∀ cell ∈ (writeMultipleCoils address count values).writes,
      (first.lookup cell).isSome = (second.lookup cell).isSome) :
    SameOutcome first second ((writeMultipleCoils address count values).answer first)
      ((writeMultipleCoils address count values).answer second) := by
  have both : (NumBits.validate true count = true ∧
      AddressMap.Covers (first.bits .coils) address.toNat count.toNat) ↔
      NumBits.validate true count = true ∧
        AddressMap.Covers (second.bits .coils) address.toNat count.toNat :=
    and_congr_right fun counted => Memory.covers_bits_congr
      fun cell inside => present cell ⟨counted, inside⟩
  rw [answer, answer]
  simp only [both]
  split
  · exact .some ⟨rfl, fun cell held => Memory.lookup_writeBits_congr held _ _ _⟩
  · exact .none

/-- Whether registers are written does not depend on their values. -/
theorem writes_registers_congr
    (present : ∀ cell ∈ Cell.registers .holdingRegisters address count.toNat,
      NumRegs.validate true count = true →
        (first.lookup cell).isSome = (second.lookup cell).isSome) :
    (NumRegs.validate true count = true ∧
        AddressMap.Covers (first.registers .holdingRegisters) address.toNat count.toNat) ↔
      NumRegs.validate true count = true ∧
        AddressMap.Covers (second.registers .holdingRegisters) address.toNat count.toNat :=
  and_congr_right fun counted => Memory.covers_registers_congr
    fun cell inside => present cell inside counted

theorem answer_congr_writeMultipleRegisters {values : Values UInt16 count}
    (present : ∀ cell ∈ (writeMultipleRegisters address count values).writes,
      (first.lookup cell).isSome = (second.lookup cell).isSome) :
    SameOutcome first second ((writeMultipleRegisters address count values).answer first)
      ((writeMultipleRegisters address count values).answer second) := by
  have both := writes_registers_congr fun cell inside counted => present cell ⟨counted, inside⟩
  rw [answer, answer]
  simp only [both]
  split
  · exact .some ⟨rfl, fun cell held => Memory.lookup_writeRegisters_congr held _ _ _⟩
  · exact .none

theorem answer_congr_readWriteMultipleRegisters {readAddress readCount : UInt16}
    {values : Values UInt16 count}
    (same : ∀ cell ∈
      (readWriteMultipleRegisters readAddress readCount address count values).reads,
        first.lookup cell = second.lookup cell)
    (present : ∀ cell ∈
      (readWriteMultipleRegisters readAddress readCount address count values).writes,
        (first.lookup cell).isSome = (second.lookup cell).isSome) :
    SameOutcome first second
      ((readWriteMultipleRegisters readAddress readCount address count values).answer first)
      ((readWriteMultipleRegisters readAddress readCount address count values).answer second) := by
  have both := writes_registers_congr fun cell inside counted => present cell ⟨counted, inside⟩
  rw [answer, answer]
  simp only [both]
  split
  · rename_i checked
    have stored (cell : Cell) (held : first.lookup cell = second.lookup cell) :=
      Memory.lookup_writeRegisters_congr held .holdingRegisters address.toNat values.val
    rw [Memory.slice_registers_congr fun cell inside =>
      stored cell (same cell ⟨checked.1, inside⟩)]
    exact sameOutcome_map fun read => ⟨rfl, stored⟩
  · exact .none

end Congruence

/-- An answer depends on the values of the cells that are read, and on the
presence of those that are written. -/
theorem answer_congr {command : Command} {first second : Memory}
    (same : ∀ cell ∈ command.reads, first.lookup cell = second.lookup cell)
    (present : ∀ cell ∈ command.writes,
      (first.lookup cell).isSome = (second.lookup cell).isSome) :
    SameOutcome first second (command.answer first) (command.answer second) := by
  cases command with
  | readBits block address count => exact answer_congr_readBits same
  | readRegisters block address count => exact answer_congr_readRegisters same
  | writeSingleCoil address value =>
      have old : first.bits .coils address.toNat = second.bits .coils address.toNat :=
        same _ (Cell.bit_mem_bits .coils address)
      rw [answer, answer, old]
      exact sameOutcome_map fun old =>
        ⟨rfl, fun cell held => Memory.lookup_writeBits_congr held _ _ _⟩
  | writeSingleRegister address value =>
      exact answer_congr_writeSingleRegister
        (present _ (Cell.register_mem_registers .holdingRegisters address))
  | maskWriteRegister address andMask orMask =>
      have old : first.registers .holdingRegisters address.toNat =
          second.registers .holdingRegisters address.toNat :=
        same _ (Cell.register_mem_registers .holdingRegisters address)
      rw [answer, answer, old]
      exact sameOutcome_map fun old =>
        ⟨rfl, fun cell held => Memory.lookup_writeRegisters_congr held _ _ _⟩
  | writeMultipleCoils address count values => exact answer_congr_writeMultipleCoils present
  | writeMultipleRegisters address count values =>
      exact answer_congr_writeMultipleRegisters present
  | readWriteMultipleRegisters readAddress readCount writeAddress writeCount values =>
      exact answer_congr_readWriteMultipleRegisters same present

/-- An answer changes only cells that are written. -/
theorem answer_frame {command : Command} {memory stored : Memory} {payload : Packet}
    (answered : command.answer memory = some (payload, stored)) {cell : Cell}
    (elsewhere : cell ∉ command.writes) : stored.lookup cell = memory.lookup cell := by
  cases command with
  | readBits block address count =>
      rw [answer] at answered
      split at answered
      · obtain ⟨values, -, same⟩ := Option.map_eq_some_iff.mp answered
        rw [← (Prod.mk.inj same).2]
      · cases answered
  | readRegisters block address count =>
      rw [answer] at answered
      split at answered
      · obtain ⟨values, -, same⟩ := Option.map_eq_some_iff.mp answered
        rw [← (Prod.mk.inj same).2]
      · cases answered
  | writeSingleCoil address value =>
      obtain ⟨old, -, same⟩ := Option.map_eq_some_iff.mp answered
      rw [← (Prod.mk.inj same).2]
      exact memory.lookup_writeBits elsewhere
  | writeSingleRegister address value =>
      obtain ⟨old, -, same⟩ := Option.map_eq_some_iff.mp answered
      rw [← (Prod.mk.inj same).2]
      exact memory.lookup_writeRegisters elsewhere
  | maskWriteRegister address andMask orMask =>
      obtain ⟨old, -, same⟩ := Option.map_eq_some_iff.mp answered
      rw [← (Prod.mk.inj same).2]
      exact memory.lookup_writeRegisters elsewhere
  | writeMultipleCoils address count values =>
      rw [answer] at answered
      split at answered
      · rename_i checked
        rw [← (Prod.mk.inj (Option.some.inj answered)).2]
        apply memory.lookup_writeBits
        rw [values.property]
        exact fun inside => elsewhere ⟨checked.1, inside⟩
      · cases answered
  | writeMultipleRegisters address count values =>
      rw [answer] at answered
      split at answered
      · rename_i checked
        rw [← (Prod.mk.inj (Option.some.inj answered)).2]
        apply memory.lookup_writeRegisters
        rw [values.property]
        exact fun inside => elsewhere ⟨checked.1, inside⟩
      · cases answered
  | readWriteMultipleRegisters readAddress readCount writeAddress writeCount values =>
      rw [answer] at answered
      split at answered
      · rename_i checked
        obtain ⟨read, -, same⟩ := Option.map_eq_some_iff.mp answered
        rw [← (Prod.mk.inj same).2]
        apply memory.lookup_writeRegisters
        rw [values.property]
        exact fun inside => elsewhere ⟨checked.2.1, inside⟩
      · cases answered

end Command

/-- The command that a packet asks for. -/
def commandOf (packet : ByteBuffer) : Option Command :=
  if packet.size ≤ Adu.headerLength then none
  else do
    let (_, _, _, _, function, ()) ← decode packet.read 0 Adu.headerFuncFormat
    (← parse packet ⟨function⟩).toOption

/-- The cells whose values the reply to a packet depends on. -/
def readCells (packet : ByteBuffer) : Set Cell :=
  {cell | ∃ command ∈ commandOf packet, cell ∈ command.reads}

/-- The cells that a packet may change. -/
def writtenCells (packet : ByteBuffer) : Set Cell :=
  {cell | ∃ command ∈ commandOf packet, cell ∈ command.writes}

theorem commandOf_of_received {packet : ByteBuffer} {header : Header} {function : FunctionCode}
    (received : Received packet header function) :
    commandOf packet = (parse packet function).bind Except.toOption := by
  obtain ⟨protocol, fields⟩ := received.fields
  have long : ¬ packet.size ≤ Adu.headerLength :=
    Nat.not_le_of_lt (List.getElem?_eq_some_iff.mp received.functionByte).1
  rw [commandOf, if_neg long, fields]
  rfl

/-- A packet that asks for a command is replied to. -/
theorem exists_handle_of_commandOf [Struc] {packet : ByteBuffer} {command : Command}
    (asked : commandOf packet = some command) (table : Table) :
    ∃ reply stored, (handle packet).run table = some (.ok reply, stored) := by
  have long : ¬ packet.size ≤ Adu.headerLength := by
    intro short
    rw [commandOf, if_pos short] at asked
    cases asked
  obtain ⟨header, function, received⟩ := exists_received (Nat.lt_of_not_le long)
  rw [commandOf_of_received received] at asked
  obtain ⟨request, parsed, -⟩ := Option.bind_eq_some_iff.mp asked
  exact ⟨_, _, handle_run_of_parse received parsed⟩

namespace Memory

variable {first second : Memory}

theorem respond_congr {command : Command} (header : Header) (function : FunctionCode)
    (same : ∀ cell ∈ command.reads, first.lookup cell = second.lookup cell)
    (present : ∀ cell ∈ command.writes,
      (first.lookup cell).isSome = (second.lookup cell).isSome) :
    (respond header function (.ok command) first).1 =
        (respond header function (.ok command) second).1 ∧
      ∀ cell, first.lookup cell = second.lookup cell →
        (respond header function (.ok command) first).2.lookup cell =
          (respond header function (.ok command) second).2.lookup cell := by
  have outcome := Command.answer_congr same present
  simp only [respond]
  generalize command.answer first = answer at outcome
  generalize command.answer second = other at outcome
  cases outcome with
  | none => exact ⟨rfl, fun cell held => held⟩
  | some both => exact ⟨congrArg (header.frame function) both.1, both.2⟩

/-- A reply depends on the values of the cells that are read, and on the
presence of those that are written. -/
theorem handle_congr {packet : ByteBuffer}
    (same : ∀ cell ∈ readCells packet, first.lookup cell = second.lookup cell)
    (present : ∀ cell ∈ writtenCells packet,
      (first.lookup cell).isSome = (second.lookup cell).isSome) :
    SameOutcome first second (handle packet first) (handle packet second) := by
  by_cases short : packet.size ≤ Adu.headerLength
  · rw [handle, handle, if_pos short, if_pos short]
    exact .some ⟨rfl, fun cell held => held⟩
  · obtain ⟨header, function, received⟩ := exists_received (Nat.lt_of_not_le short)
    have asked := commandOf_of_received received
    rw [handle_of_received received, handle_of_received received]
    cases parsed : parse packet function with
    | none => exact .none
    | some result =>
        cases result with
        | error code => exact .some ⟨rfl, fun cell held => held⟩
        | ok command =>
            rw [parsed] at asked
            obtain ⟨reply, stored⟩ := @respond_congr first second command header function
              (fun cell read => same cell ⟨command, asked, read⟩)
              (fun cell written => present cell ⟨command, asked, written⟩)
            exact .some ⟨congrArg Frame.bytes reply, stored⟩

theorem respond_frame {command : Command} (header : Header) (function : FunctionCode)
    (memory : Memory) {cell : Cell} (elsewhere : cell ∉ command.writes) :
    (respond header function (.ok command) memory).2.lookup cell = memory.lookup cell := by
  rw [respond]
  split
  · rename_i answered
    exact Command.answer_frame answered elsewhere
  · rfl

/-- A packet changes only cells that it writes. -/
theorem handle_frame {packet : ByteBuffer} {memory stored : Memory} {reply : Packet}
    (handled : handle packet memory = some (reply, stored)) {cell : Cell}
    (elsewhere : cell ∉ writtenCells packet) : stored.lookup cell = memory.lookup cell := by
  by_cases short : packet.size ≤ Adu.headerLength
  · rw [handle, if_pos short] at handled
    rw [← (Prod.mk.inj (Option.some.inj handled)).2]
  · obtain ⟨header, function, received⟩ := exists_received (Nat.lt_of_not_le short)
    have asked := commandOf_of_received received
    rw [handle_of_received received] at handled
    obtain ⟨result, parsed, same⟩ := Option.map_eq_some_iff.mp handled
    rw [← (Prod.mk.inj same).2]
    cases result with
    | error code => rfl
    | ok command =>
        rw [parsed] at asked
        exact respond_frame header function memory
          fun written => elsewhere ⟨command, asked, written⟩

end Memory

end ModbusCpp
