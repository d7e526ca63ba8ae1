import ModbusCpp.Indistinguishable
import ModbusCpp.MultipleWrites
import ModbusCpp.Verdicts

/-!
# Reachable tables

Requests change coils and holding registers, below the bounds that addresses
and quantities set, and nothing else.  Within these bounds everything is
possible: from any table, some run of packets leads to every other table that
differs from it in such cells alone.
-/

namespace ModbusCpp

open Block Method RequestHandler StructFormat

namespace Memory

variable {memory target : Memory} {cell : Cell} {address : UInt16} {count : Nat}

theorem lookup_writeBits_slice {block : BitBlock} {values : List Bool}
    (sliced : AddressMap.slice (target.bits block) address.toNat count = some values)
    (inside : cell ∈ Cell.bits block address count) :
    (memory.writeBits block address.toNat values).lookup cell = target.lookup cell := by
  obtain ⟨place, covered, rfl⟩ := inside
  simp only [lookup, writeBits, Function.update_self]
  exact AddressMap.write_slice sliced covered

theorem lookup_writeRegisters_slice {block : RegisterBlock} {values : List UInt16}
    (sliced : AddressMap.slice (target.registers block) address.toNat count = some values)
    (inside : cell ∈ Cell.registers block address count) :
    (memory.writeRegisters block address.toNat values).lookup cell = target.lookup cell := by
  obtain ⟨place, covered, rfl⟩ := inside
  simp only [lookup, writeRegisters, Function.update_self]
  exact AddressMap.write_slice sliced covered

end Memory

/-- Every cell holds what it held, or what the target holds. -/
def Approaches (target table stored : Table) : Prop :=
  ∀ cell, stored.memory.lookup cell = target.memory.lookup cell ∨
    stored.memory.lookup cell = table.memory.lookup cell

theorem Approaches.trans {target table middle stored : Table}
    (first : Approaches target table middle) (second : Approaches target middle stored) :
    Approaches target table stored := by
  intro cell
  rcases second cell with reached | kept
  · exact .inl reached
  · rw [kept]
    exact first cell

theorem Approaches.lookup_eq {target table stored : Table} {cell : Cell}
    (approaches : Approaches target table stored)
    (reached : table.memory.lookup cell = target.memory.lookup cell) :
    stored.memory.lookup cell = target.memory.lookup cell := by
  rcases approaches cell with same | kept
  · exact same
  · exact kept.trans reached

section Requests

variable [Struc]

/-- A request that gives a cell the target's value, and no cell a third one. -/
def Sets (target : Table) (cell : Cell) (packet : ByteBuffer) : Prop :=
  ∀ table : Table, table.SameShape target → ∃ reply stored,
    (handle packet).run table = some (.ok reply, stored) ∧ Approaches target table stored ∧
      stored.memory.lookup cell = target.memory.lookup cell

/-- A request for a command that copies all that it writes from the target. -/
theorem sets_of_copies {target : Table} {packet : ByteBuffer} {function : FunctionCode}
    {command : Command} (requested : packet.bytes[7]? = some function.toUnderlying)
    (parsed : parse packet function = some (.ok command))
    (admissible : command.Admissible target)
    (copies : ∀ table : Table, table.SameShape target → ∀ cell ∈ command.writes,
      (command.effect table).memory.lookup cell = target.memory.lookup cell)
    {cell : Cell} (written : cell ∈ command.writes) : Sets target cell packet := by
  intro table shape
  obtain ⟨header, received⟩ := exists_received_function requested
  have here := (command.admissible_iff_of_sameShape shape).mpr admissible
  refine ⟨_, _, (received.served parsed here).ran, fun other => ?_, copies table shape cell written⟩
  by_cases own : other ∈ command.writes
  · exact .inl (copies table shape other own)
  · exact .inr (Command.answer_frame (Command.answer_of_admissible here) own)

/-- A request to write a run of coils. -/
def writingCoils (address count : UInt16) (values : List Bool) : ByteBuffer :=
  ByteBuffer.guarded (Frame.bytes ⟨0, 1, FunctionCode.writeMultipleCoils.toUnderlying,
    wordBytes [address, count] ++ UInt8.ofNat ((count.toNat + 7) / 8) :: packBits values⟩)

/-- A request to write a run of holding registers. -/
def writingRegisters (address count : UInt16) (values : List UInt16) : ByteBuffer :=
  ByteBuffer.guarded (Frame.bytes ⟨0, 1, FunctionCode.writeMultipleRegisters.toUnderlying,
    wordBytes [address, count] ++ registerBytes count :: wordBytes values⟩)

variable {target : Table} {address count : UInt16}

theorem writingCoils_sets (counted : 1 ≤ count.toNat ∧ count.toNat ≤ 1968)
    (inside : target.coils.Contains address count.toNat) {cell : Cell}
    (covered : cell ∈ Cell.bits .coils address count.toNat) :
    Sets target cell (writingCoils address count (target.coils.read address count.toNat)) := by
  have lengthEq := Sequential.length_read inside
  have valid := (NumBits.validate_write_iff count).mpr counted
  have asks : Asks (writingCoils address count (target.coils.read address count.toNat))
      .writeMultipleCoils (wordBytes [address, count] ++ UInt8.ofNat ((count.toNat + 7) / 8) ::
        packBits (target.coils.read address count.toNat)) :=
    ⟨Frame.getElem?_bytes_function _, Frame.drop_bytes _⟩
  have parsed := parse_writeMultipleCoils ⟨_, lengthEq⟩ asks.decode_counted asks.drop_counted
  refine sets_of_copies asks.functionByte parsed ⟨valid, inside⟩ ?_ ⟨valid, covered⟩
  rintro table shape other ⟨-, own⟩
  have here : table.coils.Contains address count.toNat :=
    ((shape.bits .coils).contains_iff address _).mpr inside
  rw [← lengthEq] at here
  have written := @Table.memory_setBits table address .coils _ here
  exact (congrFun (congrArg Memory.lookup written) other).trans
    (Memory.lookup_writeBits_slice (Sequential.slice_cell inside) own)

theorem writingRegisters_sets (counted : 1 ≤ count.toNat ∧ count.toNat ≤ 123)
    (inside : target.holdingRegisters.Contains address count.toNat) {cell : Cell}
    (covered : cell ∈ Cell.registers .holdingRegisters address count.toNat) :
    Sets target cell
      (writingRegisters address count (target.holdingRegisters.read address count.toNat)) := by
  have lengthEq := Sequential.length_read inside
  have valid := (NumRegs.validate_write_iff count).mpr counted
  have asks : Asks
      (writingRegisters address count (target.holdingRegisters.read address count.toNat))
      .writeMultipleRegisters (wordBytes [address, count] ++ registerBytes count ::
        (wordBytes (target.holdingRegisters.read address count.toNat) ++ [])) :=
    ⟨Frame.getElem?_bytes_function _, by rw [List.append_nil]; exact Frame.drop_bytes _⟩
  have parsed := parse_writeMultipleRegisters ⟨_, lengthEq⟩ (by omega) asks.decode_counted
    asks.decodeWords_counted
  refine sets_of_copies asks.functionByte parsed ⟨valid, inside⟩ ?_ ⟨valid, covered⟩
  rintro table shape other ⟨-, own⟩
  have here : table.holdingRegisters.Contains address count.toNat :=
    ((shape.registers .holdingRegisters).contains_iff address _).mpr inside
  rw [← lengthEq] at here
  have written := @Table.memory_setRegisters table address .holdingRegisters _ here
  exact (congrFun (congrArg Memory.lookup written) other).trans
    (Memory.lookup_writeRegisters_slice (Sequential.slice_cell inside) own)

/-- Every cell within the bounds can be set. -/
theorem exists_sets {cell : Cell} (writable : cell.Writable)
    (present : (target.memory.lookup cell).isSome = true) : ∃ packet, Sets target cell packet := by
  rcases cell with ⟨⟨⟩, place⟩ | ⟨⟨⟩, place⟩
  · obtain ⟨address, count, counted, covered, contains⟩ :=
      Sequential.exists_run (by decide) (by decide) writable
    exact ⟨_, writingCoils_sets counted ((contains target.coils).mpr present)
      ⟨place, covered, rfl⟩⟩
  · exact writable.elim
  · obtain ⟨address, count, counted, covered, contains⟩ :=
      Sequential.exists_run (by decide) (by decide) writable
    exact ⟨_, writingRegisters_sets counted ((contains target.holdingRegisters).mpr present)
      ⟨place, covered, rfl⟩⟩
  · exact writable.elim

/-- The cells can be set one after the other. -/
theorem exists_approach {cells : List Cell}
    (settable : ∀ cell ∈ cells, ∃ packet, Sets target cell packet) {table : Table}
    (shape : table.SameShape target) :
    ∃ packets replies stored, (handleAll packets).run table = some (.ok replies, stored) ∧
      Approaches target table stored ∧
      ∀ cell ∈ cells, stored.memory.lookup cell = target.memory.lookup cell := by
  induction cells generalizing table with
  | nil => exact ⟨[], [], table, rfl, fun cell => .inr rfl, by simp⟩
  | cons cell cells ih =>
      obtain ⟨packet, sets⟩ := settable cell List.mem_cons_self
      obtain ⟨reply, middle, handled, first, reached⟩ := sets table shape
      obtain ⟨packets, replies, stored, ran, second, others⟩ :=
        ih (fun other member => settable other (List.mem_cons_of_mem cell member))
          ((sameShape_handle handled).trans shape)
      refine ⟨packet :: packets, reply :: replies, stored, handleAll_cons_run handled ran,
        first.trans second, ?_⟩
      rintro other member
      rcases List.mem_cons.mp member with rfl | later
      · exact second.lookup_eq reached
      · exact others other later

end Requests

/-- The cells of a table that can be written. -/
def Table.writableCells (table : Table) : List Cell :=
  ((List.range (65535 + 1968)).map (Cell.bit .coils) ++
    (List.range (65535 + 123)).map (Cell.register .holdingRegisters)).filter fun cell =>
      (table.memory.lookup cell).isSome

theorem Table.mem_writableCells_iff {table : Table} {cell : Cell} :
    cell ∈ table.writableCells ↔
      cell.Writable ∧ (table.memory.lookup cell).isSome = true := by
  rw [writableCells, List.mem_filter]
  refine and_congr_left fun _ => ?_
  rcases cell with ⟨⟨⟩, place⟩ | ⟨⟨⟩, place⟩ <;>
    simp only [List.mem_append, List.mem_map, List.mem_range, Cell.Writable, Cell.bit.injEq,
      Cell.register.injEq, reduceCtorEq, true_and, false_and, and_false, exists_eq_right,
      exists_false, or_false, false_or]

section Runs

variable [Struc]

/-- No packet changes a cell that cannot be written. -/
theorem lookup_handleAll {packets : List ByteBuffer} {table stored : Table}
    {replies : List Packet} (ran : (handleAll packets).run table = some (.ok replies, stored))
    {cell : Cell} (unwritable : ¬ cell.Writable) :
    stored.memory.lookup cell = table.memory.lookup cell := by
  induction packets generalizing table replies with
  | nil =>
      obtain ⟨-, rfl⟩ := returned_inj.mp ran
      rfl
  | cons packet packets ih =>
      obtain ⟨reply, middle, rest, handled, followed, -⟩ := exists_of_handleAll_cons ran
      have elsewhere : cell ∉ writtenCells packet := by
        rintro ⟨command, -, written⟩
        exact unwritable (command.writes_writable cell written)
      have kept := footprint_react.frame table elsewhere
      rw [react_eq_some_iff.mpr handled] at kept
      exact (ih followed).trans kept

/-- Requests make a table of every other one that holds the same in all cells
that cannot be written. -/
theorem exists_handleAll {first last : Table} (shape : last.SameShape first)
    (kept : ∀ cell : Cell, ¬ cell.Writable →
      last.memory.lookup cell = first.memory.lookup cell) :
    ∃ packets replies, (handleAll packets).run first = some (.ok replies, last) := by
  have settable : ∀ cell ∈ last.writableCells, ∃ packet, Sets last cell packet := by
    intro cell member
    obtain ⟨writable, present⟩ := Table.mem_writableCells_iff.mp member
    exact exists_sets writable present
  obtain ⟨packets, replies, stored, ran, approaches, set⟩ := exists_approach settable shape.symm
  have alike := (sameShape_handleAll ran).trans shape.symm
  have same : ∀ cell, stored.memory.lookup cell = last.memory.lookup cell := by
    intro cell
    by_cases writable : cell.Writable
    · by_cases present : (last.memory.lookup cell).isSome = true
      · exact set cell (Table.mem_writableCells_iff.mpr ⟨writable, present⟩)
      · have absent := present
        rw [← alike.isSome_lookup cell] at absent
        rw [Option.not_isSome_iff_eq_none.mp present, Option.not_isSome_iff_eq_none.mp absent]
    · exact approaches.lookup_eq (kept cell writable).symm
  obtain rfl := alike.eq_of_lookup same
  exact ⟨packets, replies, ran⟩

/-- The tables that requests can make of a table are exactly those of its shape
that hold the same in all cells that cannot be written. -/
theorem reachable_iff (first last : Table) :
    (∃ packets replies, (handleAll packets).run first = some (.ok replies, last)) ↔
      last.SameShape first ∧ ∀ cell : Cell, ¬ cell.Writable →
        last.memory.lookup cell = first.memory.lookup cell := by
  constructor
  · rintro ⟨packets, replies, ran⟩
    exact ⟨sameShape_handleAll ran, fun cell => lookup_handleAll ran⟩
  · rintro ⟨shape, kept⟩
    exact exists_handleAll shape kept

end Runs

end ModbusCpp
