import ModbusCpp.BlockRefinement
import ModbusCpp.Serving

/-!
# Many cells at once and one by one

A request for several cells does what requests for the single ones do, in
whatever order these arrive.
-/

namespace ModbusCpp

open Block Method RequestHandler StructFormat

/-- A complete request to write one register. -/
def AsksRegister (packet : ByteBuffer) (address value : UInt16) : Prop :=
  Asks packet .writeSingleRegister (wordBytes [address, value])

/-- A complete request to write one coil. -/
def AsksCoil (packet : ByteBuffer) (address : UInt16) (value : Bool) : Prop :=
  Asks packet .writeSingleCoil (wordBytes [address, Command.coilWord value])

/-- A complete request to write several registers. -/
def AsksRegisters (packet : ByteBuffer) (address count : UInt16) (values : Values UInt16 count) :
    Prop :=
  ∃ byteCount : UInt8, byteCount.toNat = 2 * count.toNat ∧
    Asks packet .writeMultipleRegisters
      (wordBytes [address, count] ++ byteCount :: wordBytes values)

/-- A complete request to write several coils, whatever the unused bits of its
last byte are. -/
def AsksCoils (packet : ByteBuffer) (address count : UInt16) (values : Values Bool count) :
    Prop :=
  ∃ (byteCount : UInt8) (payload : Packet), byteCount.toNat = (count.toNat + 7) / 8 ∧
    payload.length = (count.toNat + 7) / 8 ∧
    values.val = (BitString.bits payload).take count.toNat ∧
    Asks packet .writeMultipleCoils (wordBytes [address, count] ++ byteCount :: payload)

/-- Requests for single cells, each a value and its address. -/
def AskSingly {data : Type} (asks : ByteBuffer → UInt16 → data → Prop) :
    List ByteBuffer → List (data × Nat) → Prop :=
  List.Forall₂ fun packet cell =>
    ∃ address : UInt16, address.toNat = cell.2 ∧ asks packet address cell.1

section Multiple

variable {packet : ByteBuffer} {address count : UInt16}

theorem AsksRegisters.parse {values : Values UInt16 count} (small : count.toNat < 128)
    (asks : AsksRegisters packet address count values) :
    parse packet .writeMultipleRegisters =
      some (.ok (.writeMultipleRegisters address count values)) := by
  rcases asks with ⟨byteCount, counted, asks⟩
  have doubled : byteCount = registerBytes count := by
    apply UInt8.toNat_inj.mp
    rw [counted, toNat_registerBytes, Nat.mod_eq_of_lt small]
  subst doubled
  rw [← List.append_nil (wordBytes values)] at asks
  exact parse_writeMultipleRegisters values small asks.decode_counted asks.decodeWords_counted

theorem AsksCoils.parse {values : Values Bool count}
    (asks : AsksCoils packet address count values) :
    parse packet .writeMultipleCoils =
      some (.ok (.writeMultipleCoils address count values)) := by
  rcases asks with ⟨byteCount, payload, -, sized, carried, asks⟩
  apply parse_writeMultipleCoils_of_resize values asks.decode_counted
  have behind : packet.bytes.drop 13 = payload := asks.drop_counted
  have long : count.toNat ≤ (BitString.bits payload).length := by
    rw [BitString.length_bits, sized]
    omega
  rw [behind, unpackBits_eq, resize_of_le false long, carried]

end Multiple

section Singly

variable [Struc] {data : Type} {readCount writeCount : UInt16 → Bool}
  {asks : ByteBuffer → UInt16 → data → Prop}
  {put : Sequential data readCount writeCount → Table}

/-- The run lemma: requests for single cells leave a block with these cells
written, if each of them does. -/
theorem handleAll_singly
    (single : ∀ {packet address value block}, asks packet address value →
      block.Contains address 1 →
      ∃ reply, (handle packet).run (put block) =
        some (.ok reply, put (block.write address [value])))
    {packets : List ByteBuffer} {cells : List (data × Nat)}
    {block : Sequential data readCount writeCount} (singly : AskSingly asks packets cells)
    (inside : ∀ cell ∈ cells, block.startingAddress.toNat ≤ cell.2 ∧
      cell.2 < block.startingAddress.toNat + block.capacity) :
    ∃ replies stored, (handleAll packets).run (put block) = some (.ok replies, put stored) ∧
      stored.SameShape block ∧
      stored.cell = AddressMap.writeCells block.cell cells := by
  induction singly generalizing block with
  | nil => exact ⟨[], block, rfl, ⟨rfl, rfl, rfl⟩, rfl⟩
  | @cons packet cell packets cells asked rest ih =>
      rcases cell with ⟨value, place⟩
      rcases asked with ⟨address, rfl, asked⟩
      have held : block.Contains address 1 := inside _ List.mem_cons_self
      obtain ⟨reply, ran⟩ := single asked held
      obtain ⟨replies, stored, restRan, shape, written⟩ :=
        @ih (block.write address [value]) fun cell cellMem =>
          inside cell (List.mem_cons_of_mem _ cellMem)
      refine ⟨_, stored, handleAll_cons_run ran restRan, shape.trans ⟨rfl, rfl, rfl⟩, ?_⟩
      rw [written, Sequential.cell_write held]
      rfl

/-- Requests for the cells of a run leave what one write of the run does. -/
theorem handleAll_permuted (put : Sequential data readCount writeCount → Table)
    (single : ∀ {packet address value block}, asks packet address value →
      block.Contains address 1 →
      ∃ reply, (handle packet).run (put block) =
        some (.ok reply, put (block.write address [value])))
    {packets : List ByteBuffer} {cells : List (data × Nat)} {values : List data}
    {address : UInt16} {block : Sequential data readCount writeCount}
    (inside : block.Contains address values.length)
    (singly : AskSingly asks packets cells)
    (order : cells.Perm (values.zipIdx address.toNat)) :
    ∃ replies, (handleAll packets).run (put block) =
      some (.ok replies, put (block.write address values)) := by
  have covered : ∀ cell ∈ cells, block.startingAddress.toNat ≤ cell.2 ∧
      cell.2 < block.startingAddress.toNat + block.capacity := by
    rintro ⟨value, place⟩ cellMem
    obtain ⟨above, below, -⟩ := List.mem_zipIdx (order.mem_iff.mp cellMem)
    rcases inside with ⟨start, last⟩
    exact ⟨Nat.le_trans start above, by omega⟩
  obtain ⟨replies, stored, ran, shape, written⟩ := handleAll_singly single singly covered
  have kept : stored.SameShape (block.write address values) := shape.trans ⟨rfl, rfl, rfl⟩
  have same : stored = block.write address values := by
    apply kept.eq_of_cell
    rw [written, Sequential.cell_write inside, AddressMap.writeCells_perm _ order]
  exact ⟨replies, by rw [ran, same]⟩

end Singly

section Served

variable [Struc] {packet : ByteBuffer} {address count : UInt16} {table : Table}

theorem AsksRegisters.exists_served {values : Values UInt16 count}
    (asks : AsksRegisters packet address count values)
    (admissible : (Command.writeMultipleRegisters address count values).Admissible table) :
    ∃ reply, Served packet .writeMultipleRegisters table reply
      ((Command.writeMultipleRegisters address count values).effect table) := by
  have limits := (NumRegs.validate_write_iff count).mp admissible.1
  obtain ⟨byteCount, -, asked⟩ := id asks
  obtain ⟨header, received⟩ := exists_received_function asked.functionByte
  exact ⟨_, received.served (asks.parse (by omega)) admissible⟩

theorem AsksCoils.exists_served {values : Values Bool count}
    (asks : AsksCoils packet address count values)
    (admissible : (Command.writeMultipleCoils address count values).Admissible table) :
    ∃ reply, Served packet .writeMultipleCoils table reply
      ((Command.writeMultipleCoils address count values).effect table) := by
  obtain ⟨byteCount, payload, -, -, -, asked⟩ := id asks
  obtain ⟨header, received⟩ := exists_received_function asked.functionByte
  exact ⟨_, received.served asks.parse admissible⟩

theorem AsksRegister.handle_run {value : UInt16}
    (asks : AsksRegister packet address value)
    (inside : table.holdingRegisters.Contains address 1) :
    ∃ reply, (handle packet).run table = some (.ok reply,
      { table with holdingRegisters := table.holdingRegisters.write address [value] }) := by
  obtain ⟨header, received⟩ := exists_received_function asks.functionByte
  have served := received.served (parse_writeSingleRegister asks.decode_words)
    (show (Command.writeSingleRegister address value).Admissible table from inside)
  exact ⟨_, served.ran⟩

theorem AsksCoil.handle_run {value : Bool}
    (asks : AsksCoil packet address value) (inside : table.coils.Contains address 1) :
    ∃ reply, (handle packet).run table = some (.ok reply,
      { table with coils := table.coils.write address [value] }) := by
  obtain ⟨header, received⟩ := exists_received_function asks.functionByte
  have served := received.served (parse_writeSingleCoil asks.decode_words)
    (show (Command.writeSingleCoil address value).Admissible table from inside)
  exact ⟨_, served.ran⟩

end Served

/-- One request for several cells leaves the table that requests for the single
cells leave, in any order. -/
theorem multiple_eq_singles [Struc] (table : Table) (address count : UInt16)
    (packet : ByteBuffer) (singles : List ByteBuffer) :
    (∀ (values : Values UInt16 count) (cells : List (UInt16 × Nat)),
      AsksRegisters packet address count values →
      1 ≤ count.toNat → count.toNat ≤ 123 →
      table.holdingRegisters.Contains address count.toNat →
      cells.Perm (values.val.zipIdx address.toNat) →
      AskSingly AsksRegister singles cells →
      ∃ reply replies stored, (handle packet).run table = some (.ok reply, stored) ∧
        (handleAll singles).run table = some (.ok replies, stored)) ∧
    (∀ (values : Values Bool count) (cells : List (Bool × Nat)),
      AsksCoils packet address count values →
      1 ≤ count.toNat → count.toNat ≤ 1968 →
      table.coils.Contains address count.toNat →
      cells.Perm (values.val.zipIdx address.toNat) →
      AskSingly AsksCoil singles cells →
      ∃ reply replies stored, (handle packet).run table = some (.ok reply, stored) ∧
        (handleAll singles).run table = some (.ok replies, stored)) := by
  constructor
  · intro values cells asks positive limited inside order singly
    obtain ⟨reply, served⟩ := asks.exists_served
      ⟨(NumRegs.validate_write_iff count).mpr ⟨positive, limited⟩, inside⟩
    rw [← values.property] at inside
    obtain ⟨replies, ran⟩ := handleAll_permuted
      (fun block => { table with holdingRegisters := block })
      (fun asks inside => asks.handle_run inside) inside singly order
    exact ⟨reply, replies, _, served.ran, ran⟩
  · intro values cells asks positive limited inside order singly
    obtain ⟨reply, served⟩ := asks.exists_served
      ⟨(NumBits.validate_write_iff count).mpr ⟨positive, limited⟩, inside⟩
    rw [← values.property] at inside
    obtain ⟨replies, ran⟩ := handleAll_permuted
      (fun block => { table with coils := block })
      (fun asks inside => asks.handle_run inside) inside singly order
    exact ⟨reply, replies, _, served.ran, ran⟩

/-- Two registers of a block that starts at 3, the upper one first, and three
coils in a byte whose other bits are set. -/
theorem multiple_eq_singles_swapped :
    (∃ reply replies stored,
      (@handle Struc.documented (ByteBuffer.guarded
          [0, 1, 0, 0, 0, 11, 1, 0x10, 0, 4, 0, 2, 4, 0x12, 0x34, 0xAB, 0xCD])).run
        ((Table.cleared 3).setRegisters .holdingRegisters (.new 3 4 7)) =
          some (.ok reply, stored) ∧
      (@handleAll Struc.documented [
          ByteBuffer.guarded [0, 1, 0, 0, 0, 6, 1, 0x06, 0, 5, 0xAB, 0xCD],
          ByteBuffer.guarded [0, 2, 0, 0, 0, 6, 1, 0x06, 0, 4, 0x12, 0x34]]).run
        ((Table.cleared 3).setRegisters .holdingRegisters (.new 3 4 7)) =
          some (.ok replies, stored)) ∧
    ∃ reply replies stored,
      (@handle Struc.documented (ByteBuffer.guarded
          [0, 1, 0, 0, 0, 8, 1, 0x0F, 0, 0, 0, 3, 1, 0xFD])).run (Table.cleared 3) =
        some (.ok reply, stored) ∧
      (@handleAll Struc.documented [
          ByteBuffer.guarded [0, 1, 0, 0, 0, 6, 1, 0x05, 0, 2, 0xFF, 0],
          ByteBuffer.guarded [0, 2, 0, 0, 0, 6, 1, 0x05, 0, 1, 0, 0],
          ByteBuffer.guarded [0, 3, 0, 0, 0, 6, 1, 0x05, 0, 0, 0xFF, 0]]).run
        (Table.cleared 3) = some (.ok replies, stored) :=
  ⟨(@multiple_eq_singles Struc.documented _ 4 2 _ _).1 ⟨[0x1234, 0xABCD], rfl⟩
      [(0xABCD, 5), (0x1234, 4)] ⟨4, rfl, rfl, rfl⟩ (by decide) (by decide) (by decide)
      (List.Perm.swap _ _ _) (.cons ⟨5, rfl, rfl, rfl⟩ (.cons ⟨4, rfl, rfl, rfl⟩ .nil)),
    (@multiple_eq_singles Struc.documented _ 0 3 _ _).2 ⟨[true, false, true], rfl⟩
      [(true, 2), (false, 1), (true, 0)] ⟨1, [0xFD], rfl, rfl, rfl, rfl, rfl⟩
      (by decide) (by decide) (by decide) (by decide)
      (.cons ⟨2, rfl, rfl, rfl⟩ (.cons ⟨1, rfl, rfl, rfl⟩ (.cons ⟨0, rfl, rfl, rfl⟩ .nil)))⟩

end ModbusCpp
