import Mathlib.Data.List.Perm.Basic
import Mathlib.Data.Set.List
import ModbusCpp.CommandFootprints
import ModbusCpp.Serialisation

/-!
# Rearranged packets

Packets whose footprints do not meet can be handled in any order: every packet
has the same reply and the table is the same.
-/

namespace ModbusCpp

open Block Method RequestHandler StructFormat Resumption

/-- Tables of one shape with the same maps are one table. -/
theorem Table.SameShape.eq_of_lookup {first second : Table} (shape : first.SameShape second)
    (same : ∀ cell, first.memory.lookup cell = second.memory.lookup cell) : first = second := by
  have bits (block : BitBlock) : first.bits block = second.bits block :=
    (shape.bits block).eq_of_cell (funext fun place => same (.bit block place))
  have registers (block : RegisterBlock) : first.registers block = second.registers block :=
    (shape.registers block).eq_of_cell (funext fun place => same (.register block place))
  rcases first with ⟨coils, discreteInputs, holdingRegisters, inputRegisters⟩
  rcases second with ⟨otherCoils, otherDiscrete, otherHolding, otherInput⟩
  obtain rfl : coils = otherCoils := bits .coils
  obtain rfl : discreteInputs = otherDiscrete := bits .discreteInputs
  obtain rfl : holdingRegisters = otherHolding := registers .holdingRegisters
  obtain rfl : inputRegisters = otherInput := registers .inputRegisters
  rfl

/-- Tables of one shape have the same cells, whatever they hold. -/
theorem Table.SameShape.isSome_lookup {first second : Table} (shape : first.SameShape second)
    (cell : Cell) :
    (first.memory.lookup cell).isSome = (second.memory.lookup cell).isSome := by
  rw [Bool.eq_iff_iff]
  cases cell with
  | bit block place =>
      have same := shape.bits block
      change ((first.bits block).cell place).isSome = true ↔
        ((second.bits block).cell place).isSome = true
      rw [Sequential.cell_isSome_iff, Sequential.cell_isSome_iff, same.startingAddress,
        same.capacity]
  | register block place =>
      have same := shape.registers block
      change ((first.registers block).cell place).isSome = true ↔
        ((second.registers block).cell place).isSome = true
      rw [Sequential.cell_isSome_iff, Sequential.cell_isSome_iff, same.startingAddress,
        same.capacity]

theorem Table.SameShape.symm {first second : Table} (shape : first.SameShape second) :
    second.SameShape first :=
  ⟨fun block => (shape.bits block).symm, fun block => (shape.registers block).symm⟩

variable [Struc]

theorem sameShape_handle {packet : ByteBuffer} {table stored : Table}
    {result : Except Exn Packet} (handled : (handle packet).run table = some (result, stored)) :
    stored.SameShape table := by
  rw [Session.handle_run_start] at handled
  obtain ⟨program, -, finished⟩ := Option.bind_eq_some_iff.mp handled
  obtain ⟨reply, -, same⟩ := Option.map_eq_some_iff.mp finished
  rw [← (Prod.mk.inj same).2]
  exact sameShape_run program table

/-- What becomes of a table, and the reply if a packet comes to one. -/
def react (packet : ByteBuffer) (table : Table) : Option Packet × Table :=
  match (handle packet).run table with
  | some (.ok reply, stored) => (some reply, stored)
  | _ => (none, table)

theorem react_eq_some_iff {packet : ByteBuffer} {table stored : Table} {reply : Packet} :
    react packet table = (some reply, stored) ↔
      (handle packet).run table = some (.ok reply, stored) := by
  unfold react
  constructor
  · intro reacted
    split at reacted
    · rename_i handled
      obtain ⟨sameReply, rfl⟩ := Prod.mk.inj reacted
      rw [handled, Option.some.inj sameReply]
    · cases (Prod.mk.inj reacted).1
  · intro handled
    rw [handled]

/-- A packet is answered from the maps of the table. -/
theorem react_memory (packet : ByteBuffer) (table : Table) :
    (react packet table).1 = (Memory.handle packet table.memory).map Prod.fst ∧
      (react packet table).2.memory =
        ((Memory.handle packet table.memory).map Prod.snd).getD table.memory := by
  have refined := Memory.handle_memory packet table
  unfold react
  cases handled : (handle packet).run table with
  | none =>
      rw [handled, Option.map_none, eq_comm, Option.map_eq_none_iff] at refined
      rw [refined]
      exact ⟨rfl, rfl⟩
  | some outcome =>
      rcases outcome with ⟨result, stored⟩
      obtain ⟨reply, rfl, -⟩ := handle_effect handled
      rw [handled, Option.map_some, eq_comm, Option.map_eq_some_iff] at refined
      obtain ⟨⟨sent, memory⟩, answered, same⟩ := refined
      obtain ⟨sentEq, rfl⟩ := Prod.mk.inj same
      obtain rfl := Except.ok.inj sentEq
      rw [answered]
      exact ⟨rfl, rfl⟩

theorem sameShape_react (packet : ByteBuffer) (table : Table) :
    (react packet table).2.SameShape table := by
  unfold react
  split
  · rename_i handled
    exact sameShape_handle handled
  · exact .refl table

/-- Packets on tables of one shape that hold the same where the packet reads. -/
theorem react_congr {packet : ByteBuffer} {first second : Table}
    (shape : first.SameShape second)
    (same : ∀ cell ∈ readCells packet, first.memory.lookup cell = second.memory.lookup cell) :
    (react packet first).1 = (react packet second).1 ∧
      ∀ cell, first.memory.lookup cell = second.memory.lookup cell →
        (react packet first).2.memory.lookup cell =
          (react packet second).2.memory.lookup cell := by
  have outcome := Memory.handle_congr same fun cell _ => shape.isSome_lookup cell
  obtain ⟨reply, stored⟩ := react_memory packet first
  obtain ⟨otherReply, otherStored⟩ := react_memory packet second
  rw [reply, stored, otherReply, otherStored]
  generalize Memory.handle packet first.memory = answer at outcome
  generalize Memory.handle packet second.memory = other at outcome
  cases outcome with
  | none => exact ⟨rfl, fun cell held => held⟩
  | some both => exact ⟨congrArg some both.1, both.2⟩

theorem footprint_react :
    Footprint react (fun table cell => table.memory.lookup cell) Table.SameShape readCells
      writtenCells where
  equivalence := ⟨.refl, Table.SameShape.symm, Table.SameShape.trans⟩
  alike := sameShape_react
  eq_of_view := Table.SameShape.eq_of_lookup
  frame := by
    intro packet cell table elsewhere
    obtain ⟨-, stored⟩ := react_memory packet table
    rw [stored]
    cases handled : Memory.handle packet table.memory with
    | none => rfl
    | some outcome => exact Memory.handle_frame handled elsewhere
  reply shape same := (react_congr shape same).1
  stored shape same held := (react_congr shape same).2 _ held

/-- Packets whose footprints do not meet. -/
abbrev PacketsApart : ByteBuffer → ByteBuffer → Prop :=
  Apart readCells writtenCells

theorem independent_react {packet other : ByteBuffer} (apart : PacketsApart packet other) :
    Independent react packet other :=
  footprint_react.independent apart

/-- A run that comes to replies is a run of reactions that are all replies. -/
theorem answers_react_iff {packets : List ByteBuffer} {table last : Table}
    {replies : List Packet} :
    answers react packets table = (replies.map some, last) ↔
      (handleAll packets).run table = some (.ok replies, last) := by
  induction packets generalizing table replies with
  | nil =>
      cases replies with
      | nil =>
          constructor
          · rintro ⟨⟩
            rfl
          · rintro ⟨⟩
            rfl
      | cons reply replies =>
          constructor
          · rintro ⟨⟩
          · rintro ⟨⟩
  | cons packet packets ih =>
      constructor
      · intro answered
        cases replies with
        | nil => cases (Prod.mk.inj answered).1
        | cons reply replies =>
            obtain ⟨sent, left⟩ := Prod.mk.inj answered
            obtain ⟨first, rest⟩ := List.cons.inj sent
            exact handleAll_cons_run (react_eq_some_iff.mp (Prod.ext first rfl))
              (ih.mp (Prod.ext rest left))
      · intro ran
        obtain ⟨reply, stored, rest, handled, later, rfl⟩ := exists_of_handleAll_cons ran
        have first := react_eq_some_iff.mpr handled
        have others := ih.mpr later
        simp only [answers, first, others, List.map_cons]

/-- Any order that keeps conflicting packets in order gives every packet the
same reply, and the same table. -/
theorem handleAll_rearranged {packets others : List ByteBuffer}
    (rearranged : Rearranged PacketsApart packets others) {table last : Table}
    {replies : List Packet} (ran : (handleAll packets).run table = some (.ok replies, last)) :
    ∃ otherReplies, (handleAll others).run table = some (.ok otherReplies, last) ∧
      (packets.zip replies).Perm (others.zip otherReplies) := by
  obtain ⟨same, permuted⟩ := rearranged.answers independent_react table
  rw [answers_react_iff.mpr ran] at same permuted
  have replied := rearranged.answers_perm independent_react table
  rw [answers_react_iff.mpr ran] at replied
  have allSent : (answers react others table).1 ∈ Set.range (List.map some) := by
    rw [Set.range_list_map]
    intro reply member
    obtain ⟨sent, -, same⟩ := List.mem_map.mp (replied.mem_iff.mpr member)
    exact ⟨sent, same⟩
  obtain ⟨otherReplies, sent⟩ := allSent
  rw [← sent, List.zip_map_right, List.zip_map_right] at permuted
  have injective : Function.Injective (Prod.map id some : ByteBuffer × Packet → _) :=
    Function.injective_id.prodMap (Option.some_injective Packet)
  exact ⟨otherReplies, answers_react_iff.mp (Prod.ext sent.symm same.symm),
    (List.map_perm_map_iff injective).mp permuted⟩

omit [Struc] in
theorem apart_of_commandOf {packet other : ByteBuffer} {command otherCommand : Command}
    (asked : commandOf packet = some command) (otherAsked : commandOf other = some otherCommand)
    (apart : Apart Command.reads Command.writes command otherCommand) :
    PacketsApart packet other := by
  have cells {packet : ByteBuffer} {command : Command} (asked : commandOf packet = some command) :
      readCells packet = command.reads ∧ writtenCells packet = command.writes := by
    simp [readCells, writtenCells, asked]
  obtain ⟨reads, writes⟩ := cells asked
  obtain ⟨otherReads, otherWrites⟩ := cells otherAsked
  constructor
  · rw [writes, otherWrites]
    exact apart.writes_writes
  · rw [reads, otherWrites]
    exact apart.reads_writes
  · rw [writes, otherReads]
    exact apart.writes_reads

/-- Set bit 0 of register 0, and clear the others. -/
def maskingRegister : ByteBuffer :=
  ByteBuffer.guarded [0, 1, 0, 0, 0, 8, 1, 0x16, 0, 0, 0, 0, 0, 1]

/-- Write register 1. -/
def writingRegister : ByteBuffer :=
  ByteBuffer.guarded [0, 2, 0, 0, 0, 6, 1, 0x06, 0, 1, 0, 7]

/-- Write coil 0. -/
def writingCoil : ByteBuffer :=
  ByteBuffer.guarded [0, 3, 0, 0, 0, 6, 1, 0x05, 0, 0, 0xFF, 0]

omit [Struc] in
theorem commandOf_maskingRegister :
    commandOf maskingRegister = some (.maskWriteRegister 0 0 1) :=
  rfl

omit [Struc] in
theorem commandOf_writingRegister : commandOf writingRegister = some (.writeSingleRegister 1 7) :=
  rfl

omit [Struc] in
theorem commandOf_writingCoil : commandOf writingCoil = some (.writeSingleCoil 0 true) :=
  rfl

omit [Struc] in
theorem maskingRegister_apart_writingRegister : PacketsApart maskingRegister writingRegister := by
  apply apart_of_commandOf commandOf_maskingRegister commandOf_writingRegister
  have runs := Cell.disjoint_registers .holdingRegisters (show (0 : UInt16).toNat + 1 ≤
    (1 : UInt16).toNat by decide) 1
  exact ⟨runs, runs, Set.disjoint_empty _⟩

omit [Struc] in
theorem writingCoil_apart_maskingRegister : PacketsApart writingCoil maskingRegister := by
  apply apart_of_commandOf commandOf_writingCoil commandOf_maskingRegister
  have kinds := Cell.disjoint_bits_registers .coils .holdingRegisters 0 0 1 1
  exact ⟨kinds, kinds, kinds⟩

omit [Struc] in
theorem writingCoil_apart_writingRegister : PacketsApart writingCoil writingRegister := by
  apply apart_of_commandOf commandOf_writingCoil commandOf_writingRegister
  have kinds := Cell.disjoint_bits_registers .coils .holdingRegisters 0 1 1 1
  exact ⟨kinds, kinds, Set.disjoint_empty _⟩

omit [Struc] in
/-- Three requests in the opposite order. -/
theorem handleAll_rearranged_reverse :
    ∃ replies otherReplies last,
      (@handleAll Struc.documented [maskingRegister, writingRegister, writingCoil]).run
        (Table.cleared 2) = some (.ok replies, last) ∧
      (@handleAll Struc.documented [writingCoil, writingRegister, maskingRegister]).run
        (Table.cleared 2) = some (.ok otherReplies, last) ∧
      (([maskingRegister, writingRegister, writingCoil] : List ByteBuffer).zip replies).Perm
        ([writingCoil, writingRegister, maskingRegister].zip otherReplies) := by
  let _ : Struc := Struc.documented
  obtain ⟨_, _, first⟩ := exists_handle_of_commandOf commandOf_maskingRegister (Table.cleared 2)
  obtain ⟨_, _, second⟩ := exists_handle_of_commandOf commandOf_writingRegister _
  obtain ⟨_, _, third⟩ := exists_handle_of_commandOf commandOf_writingCoil _
  have ended (table : Table) : (handleAll []).run table = some (.ok [], table) := rfl
  have ran := handleAll_cons_run first (handleAll_cons_run second (handleAll_cons_run third
    (ended _)))
  have rearranged : Rearranged PacketsApart [maskingRegister, writingRegister, writingCoil]
      [writingCoil, writingRegister, maskingRegister] :=
    .trans (.swap maskingRegister_apart_writingRegister _)
      (.trans (.cons _ (.swap writingCoil_apart_maskingRegister.symm _))
        (.swap writingCoil_apart_writingRegister.symm _))
  obtain ⟨otherReplies, otherRan, permuted⟩ := handleAll_rearranged rearranged ran
  exact ⟨_, otherReplies, _, ran, otherRan, permuted⟩

end ModbusCpp
